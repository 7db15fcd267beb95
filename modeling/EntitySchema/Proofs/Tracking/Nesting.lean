/-
Lookups always come back.

The pointers of a document may form any cycle: a method may be its own inverse, or the inverse of
its inverse may be a third method, and joins are read through such pointers as well. A lookup that
came back to itself would go round forever, which is why running lookups are marked and why a mark
that is met again is an error of its own, `Error.inverseCycle`.

That error is never raised, and this file says why. Lookups are of three ranks, and a lookup only
asks for lookups of lower ranks: `Tracked.Unwinds` carries this bound through the text of a rule,
where `Tracked.Agrees` carries it for the plain reading. The difference is in what is assumed. Here
nothing is assumed about the schema or about what is remembered, since even false answers of a
memory cannot make a lookup start another one of its own rank.

The bound is also one on the work. `Limited` reads the same rules with room for only so many lookups
inside each other, and with room for three the answers are those of the unlimited reading. That is
what makes the depth a statement about the rules and not about one way of counting: the rules are
polymorphic in the monad, and a third instance of it counts for us.

The file is built in four layers:

1. `FailsInRelations` lists the errors that the rules raise themselves. A cycle is not one of them,
   so whatever fails with a listed error has met no mark.
2. `Tracked.Unwinds` and its lemmas, one for each operation of `LookupMonad`. A lookup that is
   started raises the bound by its rank (`during`); everything else keeps it.
3. One lemma a rule. Its proof follows the text of the rule, and the number in its statement is the
   rank below which the rule asks for lookups.
4. `comeBack_of_any_schema` puts these together for every question that can be asked about
   relations: it is answered within three nested lookups, with a value or an error that is no cycle,
   and nothing is left running. The circle at the end shows that two would not do.
-/
import EntitySchema.Proofs.Tracking.Agreement
import EntitySchema.Relation.Pivot

set_option autoImplicit false

namespace EntitySchema

open Outcome

/-! ## What lookups fail with -/

/-- Whether an error is one that the rules about relations raise themselves. -/
def Error.isOfRelations : Error → Bool
  | inverseFormat .. | entityNotFound .. | ambiguousShortName .. | methodNotFound ..
  | inverseNotFound .. | missingForeignKey .. | ambiguousOneToOne .. | pivotJoinWithoutOwner ..
  | noThroughMethod .. | severalThroughMethods .. => true
  | _ => false

/-- None of them is a cycle. The list is one of constructors, so this is seen by going through
them. -/
theorem Error.category?_ne_inverseCycle {error : Error} (h : error.isOfRelations = true) :
    error.category? ≠ some .inverseCycle := by
  cases error <;> simp [isOfRelations, category?] at h ⊢

/-- An outcome fails, if at all, with an error of the rules about relations. -/
def FailsInRelations {α : Type} (outcome : Except Error α) : Prop :=
  ∀ error, outcome = .error error → error.isOfRelations = true

namespace FailsInRelations

variable {α β : Type}

theorem ok (value : α) : FailsInRelations (.ok value) := by
  intro error herror
  cases herror

/-- The second half of the list is used through this lemma: an error that the rules raise is named
by its constructor, and that it is listed is then decided by evaluation. -/
theorem error {error : Error} (h : error.isOfRelations = true) :
    FailsInRelations (.error error : Except Error α) := by
  intro other hother
  rw [← Except.error.inj hother]
  exact h

/-- A chain of two steps fails with the errors of either step. The second one is asked of every
value, also of those that the first step does not give, which is all that the lookups need. -/
theorem bind {outcome : Except Error α} {next : α → Except Error β}
    (h : FailsInRelations outcome) (hnext : ∀ value, FailsInRelations (next value)) :
    FailsInRelations (outcome >>= next) := by
  cases outcome with
  | ok value => exact hnext value
  | error cause => exact error (h cause rfl)

end FailsInRelations

namespace Schema

variable (schema : Schema)

/-- A name that finds more than one entity is ambiguous; that is the only error here, since a name
that finds none is answered with nothing. -/
theorem failsInRelations_findEntity (name : String) :
    FailsInRelations (schema.findEntity name) := by
  unfold findEntity
  split
  · exact .ok _
  · exact .ok _
  · exact .error rfl

/-- Where the entity has to be there, its absence is an error of the rules as well. -/
theorem failsInRelations_getEntity (name : String) :
    FailsInRelations (schema.getEntity name) := by
  unfold getEntity
  refine (schema.failsInRelations_findEntity name).bind fun found => ?_
  split
  · exact .ok _
  · exact .error rfl

/-- What a method goes `via` is looked for like any other name. -/
theorem failsInRelations_entityBetween (method : Method) :
    FailsInRelations (schema.entityBetween method) := by
  unfold entityBetween
  split
  · exact .ok _
  · exact schema.failsInRelations_findEntity _

theorem failsInRelations_goesViaColumn (method : Method) :
    FailsInRelations (schema.goesViaColumn method) := by
  unfold goesViaColumn
  split
  · exact .ok _
  · refine (schema.failsInRelations_entityBetween method).bind fun found => ?_
    split
    · exact .ok _
    · exact .ok _

/-- Guessing the other side raises no error of its own: what finds no entity is tried by another
name. -/
theorem failsInRelations_otherSideName (method : Method) :
    FailsInRelations (schema.otherSideName method) := by
  unfold otherSideName
  refine (schema.failsInRelations_entityBetween method).bind fun found => ?_
  split
  · exact .ok _
  · refine (schema.failsInRelations_findEntity _).bind fun returned => ?_
    split
    · exact .ok _
    · exact .ok _

/-- The inverse is looked up without any other lookup. Its errors are those of the pointer (its
form, the entity and the method that it names) and the one that no inverse can be guessed. -/
theorem failsInRelations_lookUpInverse (method : Method) :
    FailsInRelations (schema.lookUpInverse method) := by
  unfold lookUpInverse
  split
  · refine FailsInRelations.bind ?_ fun names => ?_
    · unfold splitPointer
      split
      · split
        · exact .error rfl
        · exact .ok _
      · exact .error rfl
    · refine (schema.failsInRelations_getEntity _).bind fun entity => ?_
      unfold Entity.getMethod
      split
      · exact .ok _
      · exact .error rfl
  · refine (schema.failsInRelations_otherSideName method).bind fun otherName => ?_
    refine (schema.failsInRelations_findEntity _).bind fun found => ?_
    split
    · exact .error rfl
    · split
      · exact .ok _
      · exact .error rfl

end Schema

/-! ## Limited nesting -/

/-- Actions with tracked lookups, which are told how many lookups may run inside each other. -/
abbrev Limited := ReaderT Nat Tracked

namespace Limited

variable {α : Type}

/-- The action with room for so many lookups inside each other. -/
def within (action : Limited α) (room : Nat) : Tracked α := action room

/-- There is no room for another lookup. -/
def noRoom : Error := .other .general "" []

/-- Runs an action while a lookup is marked, if there is room for the lookup. -/
def mark (lookup : Lookup) (key : MethodKey) (label : String) (action : Limited α) : Limited α
  | 0 => throw noRoom
  | room + 1 => Tracked.mark lookup key label (action.within room)

end Limited

/-- Memory is as without a limit, and so is all that is not a lookup. -/
instance : LookupMonad Limited where
  during := Limited.mark
  recallKind key compute := fun room => Tracked.rememberKind key (compute.within room)
  recallInverse schema key compute := fun room =>
    Tracked.rememberInverse schema key (compute.within room)

/-! ## Unwinding -/

/-- **Unwinding.** While nothing below a bound is running, and whatever is remembered, an action
leaves the marks as they were and fails only with an error of the rules. Room for as many lookups
as the bound says is as good as no limit. -/
def Tracked.Unwinds {α : Type} (bound : Nat) (limited : Limited α) (action : Tracked α) : Prop :=
  ∀ (remembering : Bool) (lookups : Lookups), lookups.IsIdleBelow bound →
    ∃ outcome after, action.answer remembering lookups = (outcome, after) ∧
      (∀ room, bound ≤ room →
        (limited.within room).answer remembering lookups = (outcome, after)) ∧
      after.running = lookups.running ∧ FailsInRelations outcome

namespace Tracked.Unwinds

variable {bound : Nat} {α β : Type}

theorem pure (value : α) : Unwinds bound (Pure.pure value) (Pure.pure value) :=
  fun _ lookups _ => ⟨.ok value, lookups, rfl, fun _ _ => rfl, rfl, .ok value⟩

/-- An error that a rule raises itself leaves the marks alone. It has to be on the list. -/
theorem throw {error : Error} (h : error.isOfRelations = true) :
    Unwinds bound (MonadExcept.throw error : Limited α) (MonadExcept.throw error) :=
  fun _ lookups _ => ⟨.error error, lookups, rfl, fun _ _ => rfl, rfl, .error h⟩

/-- What only reads the schema starts no lookup, so any bound will do for it. -/
theorem lift {outcome : Except Error α} (h : FailsInRelations outcome) :
    Unwinds bound (LookupMonad.lift outcome) (LookupMonad.lift outcome) := by
  cases outcome with
  | ok value => exact pure value
  | error error => exact throw (h error rfl)

/-- A bound may be raised: what needs room for few lookups does with more, and fewer marks are in
its way. It is used where a rule of rank one is asked from within a rule of rank two. -/
theorem mono {limited : Limited α} {action : Tracked α} {larger : Nat}
    (h : Unwinds bound limited action) (hle : bound ≤ larger) :
    Unwinds larger limited action := by
  intro remembering lookups hidle
  obtain ⟨outcome, after, hanswer, hroom, hrest⟩ := h remembering lookups (hidle.mono hle)
  exact ⟨outcome, after, hanswer, fun room hlarger => hroom room (Nat.le_trans hle hlarger), hrest⟩

/-- The second action starts with the marks that the first one was started with. If the first one
fails there is no second, and the marks are as they were all the same. -/
theorem bind {limited : Limited α} {action : Tracked α} {limitedNext : α → Limited β}
    {next : α → Tracked β} (h : Unwinds bound limited action)
    (hnext : ∀ value, Unwinds bound (limitedNext value) (next value)) :
    Unwinds bound (limited >>= limitedNext) (action >>= next) := by
  intro remembering lookups hidle
  obtain ⟨outcome, after, hanswer, hroom, hrunning, hfails⟩ := h remembering lookups hidle
  have hwithin : ∀ room, (limited >>= limitedNext).within room =
      limited.within room >>= fun value => (limitedNext value).within room := fun _ => rfl
  rw [answer_bind, hanswer]
  cases outcome with
  | error error =>
    refine ⟨_, _, rfl, fun room hle => ?_, hrunning, .error (hfails error rfl)⟩
    rw [hwithin, answer_bind, hroom room hle]
  | ok value =>
    have hidle' : after.IsIdleBelow bound := by
      rw [Lookups.IsIdleBelow, hrunning]
      exact hidle
    obtain ⟨last, final, hlast, hroom', hrunning', hfails'⟩ :=
      hnext value remembering after hidle'
    refine ⟨last, final, hlast, fun room hle => ?_, hrunning'.trans hrunning, hfails'⟩
    rw [hwithin, answer_bind, hroom room hle]
    exact hroom' room hle

/-- An attempt fails only with an error of the action. The marks are where the action has left them,
which is where they were. -/
theorem attempt {limited : Limited α} {action : Tracked α} (isExpected : Error → Bool)
    (h : Unwinds bound limited action) :
    Unwinds bound (LookupMonad.attempt isExpected limited)
      (LookupMonad.attempt isExpected action) := by
  intro remembering lookups hidle
  obtain ⟨outcome, after, hanswer, hroom, hrunning, hfails⟩ := h remembering lookups hidle
  -- the limit is handed on to the action, and the handler of the attempt has no use for it
  have hwithin : ∀ room, (LookupMonad.attempt isExpected limited).within room =
      LookupMonad.attempt isExpected (limited.within room) := by
    intro room
    change tryCatch (some <$> limited.within room)
      (fun error => (if isExpected error then Pure.pure none
        else MonadExcept.throw error : Limited (Option α)).within room) = _
    refine congrArg (tryCatch (some <$> limited.within room)) (funext fun error => ?_)
    cases isExpected error <;> rfl
  refine ⟨_, after, by rw [answer_attempt, hanswer], fun room hle => ?_, hrunning, ?_⟩
  · rw [hwithin, answer_attempt, hroom room hle]
  · cases outcome with
    | ok value => exact .ok _
    | error error =>
      change FailsInRelations (if isExpected error then Except.ok none else Except.error error)
      split
      · exact .ok _
      · exact .error (hfails error rfl)

/-! ### Lookups -/

/-- A lookup of a rank below all that is running does not meet its own mark, takes it off again, and
needs room for one lookup more than what runs inside it. This is the only place where a mark is
looked at, and the only one where the limit is spent. -/
theorem during {lookup : Lookup} {limited : Limited α} {action : Tracked α}
    (hrank : lookup.rank < bound) (key : MethodKey) (label : String)
    (h : Unwinds lookup.rank limited action) :
    Unwinds bound (LookupMonad.during lookup key label limited)
      (LookupMonad.during lookup key label action) := by
  intro remembering lookups hidle
  have hidle' : lookups.IsIdleBelow (lookup.rank + 1) := hidle.mono hrank
  obtain ⟨outcome, after, hanswer, hroom, hrunning, hfails⟩ :=
    h remembering { lookups with running := lookups.running ++ [⟨lookup, key, label⟩] }
      (hidle'.marked key label)
  -- stated of any action inside, because it is used of the unlimited one and of the limited one
  have hmark : ∀ other : Tracked α,
      other.answer remembering
        { lookups with running := lookups.running ++ [⟨lookup, key, label⟩] } = (outcome, after) →
      (mark lookup key label other).answer remembering lookups = (outcome, after.leave) := by
    intro other hother
    rw [answer, mark, hidle'.enter_eq key label]
    simp only [hother]
  refine ⟨outcome, after.leave, hmark action hanswer, fun room hle => ?_, ?_, hfails⟩
  · cases room with
    -- no room at all would contradict that the rank is below the bound
    | zero => omega
    | succ room => exact hmark _ (hroom room (by omega))
  · rw [Lookups.leave, hrunning]
    exact List.dropLast_concat

/-- What is known is given without a lookup, be it true or not. What is computed is kept only
after the computation has come back, so keeping it touches no marks. -/
theorem remember {known : Lookups → Option α} {keep : α → Lookups → Lookups}
    {limited : Limited α} {compute : Tracked α}
    (hkeep : ∀ value lookups, (keep value lookups).running = lookups.running)
    (h : Unwinds bound limited compute) :
    Unwinds bound (fun room => Tracked.remember known keep (limited.within room))
      (Tracked.remember known keep compute) := by
  intro remembering lookups hidle
  obtain ⟨outcome, after, hanswer, hroom, hrunning, hfails⟩ := h remembering lookups hidle
  cases remembering with
  | false => exact ⟨outcome, after, hanswer, hroom, hrunning, hfails⟩
  | true =>
    cases hfound : known lookups with
    | some value =>
      exact ⟨.ok value, lookups, answer_remember_known hfound,
        fun _ _ => answer_remember_known hfound, rfl, .ok value⟩
    | none =>
      -- the limited and the unlimited computation are kept alike, whatever comes of them
      have hnew : ∀ other : Tracked α, other.answer true lookups = (outcome, after) →
          (Tracked.remember known keep other).answer true lookups =
            (outcome, match outcome with
              | .ok value => keep value after
              | .error _ => after) := by
        intro other hother
        rw [answer_remember_new hfound, hother]
        cases outcome <;> rfl
      refine ⟨_, _, hnew _ hanswer, fun room hle => hnew _ (hroom room hle), ?_, hfails⟩
      cases outcome with
      | ok value => exact (hkeep value after).trans hrunning
      | error error => exact hrunning

end Tracked.Unwinds

/-! ## The rules

The number in each statement is the rank below which the rule asks for lookups. -/

namespace Relation

open Tracked (Unwinds)

variable (schema : Schema) (method : Method)

/-- An inverse asks for no other lookup, so while it runs nothing else does. -/
theorem unwinds_inverse : Unwinds 1 (inverse schema method) (inverse schema method) := by
  refine Unwinds.remember (fun _ _ => rfl) ?_
  exact Unwinds.during Nat.zero_lt_one _ _
    (Unwinds.lift (schema.failsInRelations_lookUpInverse method))

/-- A join is looked for on both sides, and the other side is found by the inverse. -/
theorem unwinds_joinOfEitherSide :
    Unwinds 1 (joinOfEitherSide schema method) (joinOfEitherSide schema method) := by
  unfold joinOfEitherSide
  split
  · exact Unwinds.pure _
  · exact ((unwinds_inverse schema method).attempt _).bind fun _ => Unwinds.pure _

/-- Everything that is read off a join needs what the join needs. -/
theorem unwinds_ownJoinKey :
    Unwinds 1 (ownJoinKey schema method) (ownJoinKey schema method) := by
  unfold ownJoinKey ownJoinColumn
  refine Unwinds.bind ?_ fun _ => Unwinds.pure _
  exact (unwinds_joinOfEitherSide schema method).bind fun _ => Unwinds.pure _

theorem unwinds_joinKeyIn (shortName : String) :
    Unwinds 1 (joinKeyIn schema method shortName) (joinKeyIn schema method shortName) :=
  (unwinds_joinOfEitherSide schema method).bind fun _ => Unwinds.pure _

/-- The join of the inverse may have to be found through the inverse of the inverse. The two
inverses are asked for one after the other and never inside each other, so one room is enough. -/
theorem unwinds_keyFromInverse :
    Unwinds 1 (keyFromInverse schema method) (keyFromInverse schema method) :=
  (unwinds_inverse schema method).bind fun inverse => unwinds_joinKeyIn schema inverse _

/-- A foreign key asks for inverses only, also for the inverse of the inverse. Its own mark is of
rank one, hence the two. -/
theorem unwinds_foreignKeyName :
    Unwinds 2 (foreignKeyName schema method) (foreignKeyName schema method) := by
  unfold foreignKeyName
  refine Unwinds.during Nat.one_lt_two _ _ ?_
  refine (Unwinds.lift (schema.failsInRelations_goesViaColumn method)).bind fun goes => ?_
  split
  · exact Unwinds.pure _
  · refine ((unwinds_keyFromInverse schema method).attempt _).bind fun key => ?_
    split
    · exact Unwinds.pure _
    · exact Unwinds.pure _

/-- Whether a method claims the key is told by its `via` and its join, without the name of the
key. -/
theorem unwinds_claimsForeignKey :
    Unwinds 1 (claimsForeignKey schema method) (claimsForeignKey schema method) := by
  unfold claimsForeignKey
  refine (Unwinds.lift (schema.failsInRelations_goesViaColumn method)).bind fun goes => ?_
  split
  · exact Unwinds.pure _
  · exact (unwinds_ownJoinKey schema method).bind fun _ => Unwinds.pure _

/-- Seen from the inverse a kind needs the foreign key of the inverse, but not the kind of the
inverse: that would be a lookup of its own rank, and two methods that point at each other would
never end. -/
theorem unwinds_singleKindFromInverse (inverse : Method) :
    Unwinds 2 (singleKindFromInverse schema method inverse)
      (singleKindFromInverse schema method inverse) := by
  unfold singleKindFromInverse
  refine ((unwinds_joinKeyIn schema inverse _).mono (Nat.le_succ 1)).bind fun key => ?_
  split
  · exact Unwinds.pure _
  · refine ((unwinds_claimsForeignKey schema inverse).mono (Nat.le_succ 1)).bind fun claims => ?_
    split
    · exact Unwinds.pure _
    · unfold foreignKeyExists
      refine Unwinds.bind ?_ fun found => ?_
      · exact (unwinds_foreignKeyName schema inverse).bind fun _ => Unwinds.pure _
      · split
        · exact Unwinds.pure _
        · split
          · exact Unwinds.pure _
          · exact Unwinds.throw rfl

/-- A relation with one entity asks for the foreign keys of both sides. -/
theorem unwinds_singleKind :
    Unwinds 2 (singleKind schema method) (singleKind schema method) := by
  unfold singleKind
  refine (unwinds_foreignKeyName schema method).bind fun column => ?_
  split
  · exact Unwinds.pure _
  · refine ((unwinds_claimsForeignKey schema method).mono (Nat.le_succ 1)).bind fun claims => ?_
    split
    · exact Unwinds.pure _
    · refine (((unwinds_inverse schema method).mono (Nat.le_succ 1)).attempt _).bind fun found => ?_
      split
      · exact unwinds_singleKindFromInverse schema method _
      · exact (unwinds_foreignKeyName schema method).bind fun _ => Unwinds.throw rfl

/-- A relation with many entities asks for the inverse and for nothing else. -/
theorem unwinds_manyKind :
    Unwinds 1 (manyKind schema method) (manyKind schema method) := by
  unfold manyKind
  split
  · exact Unwinds.pure _
  · refine (unwinds_inverse schema method).bind fun inverse => ?_
    split
    · exact Unwinds.pure _
    · refine (Unwinds.lift (schema.failsInRelations_entityBetween method)).bind fun between => ?_
      split
      · split
        · exact Unwinds.pure _
        · split
          · exact Unwinds.pure _
          · exact Unwinds.pure _
      · exact Unwinds.pure _

theorem unwinds_isJoinedByPivot :
    Unwinds 1 (isJoinedByPivot schema method) (isJoinedByPivot schema method) :=
  (unwinds_joinOfEitherSide schema method).bind fun _ => Unwinds.pure _

/-- **A kind unwinds.** It asks for foreign keys and inverses, of the method and of the methods that
these lead to, but never for a kind. -/
theorem unwinds_kind : Unwinds 3 (kind schema method) (kind schema method) := by
  refine Unwinds.remember (fun _ _ => rfl) (Unwinds.during (Nat.lt_succ_self 2) _ _ ?_)
  unfold computeKind
  split
  · exact Unwinds.pure _
  · refine ((unwinds_isJoinedByPivot schema method).mono (Nat.le_succ 1)).bind fun joined => ?_
    split
    · exact Unwinds.pure _
    · split
      · exact unwinds_singleKind schema method
      · exact (unwinds_manyKind schema method).mono (Nat.le_succ 1)

/-- Which relations are many-to-many is a question about kinds, and so is all that follows from
it. -/
theorem unwinds_isManyToMany :
    Unwinds 3 (isManyToMany schema method) (isManyToMany schema method) :=
  (unwinds_kind schema method).bind fun _ => Unwinds.pure _

/-- The related entity may have to be found by the inverse, if the return type names none. -/
theorem unwinds_returnedEntity :
    Unwinds 1 (returnedEntity schema method) (returnedEntity schema method) := by
  unfold returnedEntity
  split
  · exact Unwinds.pure _
  · refine (Unwinds.lift (schema.failsInRelations_findEntity _)).bind fun found => ?_
    split
    · exact Unwinds.pure _
    · exact ((unwinds_inverse schema method).attempt _).bind fun _ => Unwinds.pure _

/-- The method onwards is read off the schema. No lookup is started, hence the zero. -/
theorem unwinds_onwardMethod :
    Unwinds 0 (onwardMethod schema method) (onwardMethod schema method) := by
  unfold onwardMethod
  refine (Unwinds.lift (schema.failsInRelations_entityBetween method)).bind fun between => ?_
  split
  · exact Unwinds.pure _
  · split
    · exact Unwinds.pure _
    · exact Unwinds.throw rfl
    · exact Unwinds.throw rfl

theorem unwinds_isFirstSide :
    Unwinds 1 (isFirstSide schema method) (isFirstSide schema method) :=
  (unwinds_inverse schema method).bind fun _ => Unwinds.pure _

theorem unwinds_pivotTableOfJoin (join : Join) :
    Unwinds 1 (pivotTableOfJoin schema join) (pivotTableOfJoin schema join) := by
  unfold pivotTableOfJoin
  refine (Unwinds.lift (schema.failsInRelations_findEntity _)).bind fun found => ?_
  split
  · exact Unwinds.pure _
  · exact Unwinds.pure _

/-- The pivot table may be named by a join of either method, each of which may stand on either
side. -/
theorem unwinds_pivotTableOf :
    Unwinds 1 (pivotTableOf schema method) (pivotTableOf schema method) := by
  unfold pivotTableOf
  refine (unwinds_joinOfEitherSide schema method).bind fun join => ?_
  split
  · exact unwinds_pivotTableOfJoin schema _
  · refine (unwinds_inverse schema method).bind fun inverse => ?_
    refine (unwinds_joinOfEitherSide schema inverse).bind fun other => ?_
    split
    · exact unwinds_pivotTableOfJoin schema _
    · exact Unwinds.pure _

theorem unwinds_pivotEntityOf :
    Unwinds 1 (pivotEntityOf schema method) (pivotEntityOf schema method) :=
  (unwinds_pivotTableOf schema method).bind fun _ => Unwinds.pure _

/-- The column of one side is read off the join. A join without the entity is an error of the
rules. -/
theorem unwinds_pivotKey :
    Unwinds 1 (pivotKey schema method) (pivotKey schema method) := by
  unfold pivotKey
  refine (unwinds_joinOfEitherSide schema method).bind fun join => ?_
  split
  · exact Unwinds.pure _
  · dsimp only
    split
    · exact Unwinds.pure _
    · exact Unwinds.throw rfl

/-- The columns of both sides, one after the other. -/
theorem unwinds_pivotColumns :
    Unwinds 1 (pivotColumns schema method) (pivotColumns schema method) := by
  unfold pivotColumns
  refine (unwinds_inverse schema method).bind fun inverse => ?_
  refine (unwinds_pivotKey schema method).bind fun own => ?_
  exact (unwinds_pivotKey schema inverse).bind fun _ => Unwinds.pure _

/-- The methods are asked one after the other, each with nothing running, by induction on the list.
An error of one method is passed over; its marks are gone by then. -/
theorem unwinds_anyPivotsThrough (table : String) (methods : List Method) :
    Unwinds 3 (anyPivotsThrough schema table methods) (anyPivotsThrough schema table methods) := by
  induction methods with
  | nil => exact Unwinds.pure _
  | cons method methods ih =>
    unfold anyPivotsThrough
    refine Unwinds.bind (Unwinds.attempt _ ?_) fun found => ?_
    · unfold pivotsThrough
      refine (unwinds_isManyToMany schema method).bind fun joins => ?_
      split
      · exact ((unwinds_pivotTableOf schema method).mono (by decide)).bind fun _ => Unwinds.pure _
      · exact Unwinds.pure _
    · split
      · exact Unwinds.pure _
      · exact ih

theorem unwinds_isStoredAsPivot (entity : Entity) :
    Unwinds 3 (isStoredAsPivot schema entity) (isStoredAsPivot schema entity) :=
  unwinds_anyPivotsThrough schema entity.table schema.methods

end Relation

/-! ## Coming back -/

/-- A question comes back: asked while nothing is running, and whatever is remembered, it gives a
value or an error that is no cycle, and nothing is running afterwards. It would have given the same
with room for only three lookups inside each other. -/
def ComesBack {α : Type} (question : ∀ {m : Type → Type} [LookupMonad m], m α) : Prop :=
  ∀ (remembering : Bool) (lookups : Lookups), lookups.running = [] →
    ∃ outcome after, (question (m := Tracked)).answer remembering lookups = (outcome, after) ∧
      ((question (m := Limited)).within 3).answer remembering lookups = (outcome, after) ∧
      after.running = [] ∧
      ∀ error, outcome = .error error → error.category? ≠ some .inverseCycle

/-- What unwinds with a bound of at most three comes back: with nothing running at the start the
bound holds, and an error of the rules is no cycle. -/
theorem Tracked.Unwinds.comesBack {α : Type} {bound : Nat}
    {question : ∀ {m : Type → Type} [LookupMonad m], m α}
    (h : Unwinds bound (question (m := Limited)) (question (m := Tracked))) (hle : bound ≤ 3) :
    ComesBack question := by
  intro remembering lookups hnone
  have hidle : lookups.IsIdleBelow bound := by
    rw [Lookups.IsIdleBelow, hnone]
    intro running hrunning
    cases hrunning
  obtain ⟨outcome, after, hanswer, hroom, hrunning, hfails⟩ := h remembering lookups hidle
  exact ⟨outcome, after, hanswer, hroom 3 hle, hrunning.trans hnone,
    fun error herror => Error.category?_ne_inverseCycle (hfails error herror)⟩

/-- All questions about a method come back. -/
structure Relation.AllComeBack (schema : Schema) (method : Method) : Prop where
  kind : ComesBack (Relation.kind schema method)
  inverse : ComesBack (Relation.inverse schema method)
  foreignKeyName : ComesBack (Relation.foreignKeyName schema method)
  joinOfEitherSide : ComesBack (Relation.joinOfEitherSide schema method)
  returnedEntity : ComesBack (Relation.returnedEntity schema method)
  onwardMethod : ComesBack (Relation.onwardMethod schema method)
  isManyToMany : ComesBack (Relation.isManyToMany schema method)
  isFirstSide : ComesBack (Relation.isFirstSide schema method)
  pivotTableOf : ComesBack (Relation.pivotTableOf schema method)
  pivotEntityOf : ComesBack (Relation.pivotEntityOf schema method)
  pivotKey : ComesBack (Relation.pivotKey schema method)
  pivotColumns : ComesBack (Relation.pivotColumns schema method)

/-- **Lookups always come back.** Nothing is asked of the schema: its pointers and joins may form
any cycle, and its methods may stand anywhere, also in no entity. Nothing is asked of the memory
either, which may hold answers to another schema. -/
theorem Relation.comeBack_of_any_schema (schema : Schema) :
    (∀ method, AllComeBack schema method) ∧
      ∀ entity, ComesBack (isStoredAsPivot schema entity) := by
  constructor
  · intro method
    exact {
      kind := (unwinds_kind schema method).comesBack (Nat.le_refl 3)
      inverse := (unwinds_inverse schema method).comesBack (by decide)
      foreignKeyName := (unwinds_foreignKeyName schema method).comesBack (by decide)
      joinOfEitherSide := (unwinds_joinOfEitherSide schema method).comesBack (by decide)
      returnedEntity := (unwinds_returnedEntity schema method).comesBack (by decide)
      onwardMethod := (unwinds_onwardMethod schema method).comesBack (by decide)
      isManyToMany := (unwinds_isManyToMany schema method).comesBack (Nat.le_refl 3)
      isFirstSide := (unwinds_isFirstSide schema method).comesBack (by decide)
      pivotTableOf := (unwinds_pivotTableOf schema method).comesBack (by decide)
      pivotEntityOf := (unwinds_pivotEntityOf schema method).comesBack (by decide)
      pivotKey := (unwinds_pivotKey schema method).comesBack (by decide)
      pivotColumns := (unwinds_pivotColumns schema method).comesBack (by decide) }
  · intro entity
    exact (unwinds_isStoredAsPivot schema entity).comesBack (Nat.le_refl 3)

/-! ## A circle of pointers -/

namespace Schema

/-- One method of the circle. -/
def next1 : Method where
  name := "next1"
  owner? := some 0
  position := 0
  declaredType := some "Node2"
  inverseOf := some "Node2.next2()"

/-- An entity of the circle, with the column that it declares and its implied primary key. -/
def circleEntity (place : Nat) (shortName table column : String) (methods : List Method) :
    Entity where
  shortName := shortName
  namespaceName := "\\App\\"
  table := table
  index? := some place
  fields := [
    { name := "id", type := "increments", owner? := some place, nullable := some false,
      primaryKey := true, implied := true },
    { name := column, type := "integer", owner? := some place }]
  methods := methods

/-- The inverse of the inverse of the inverse of a method is the method, and another method is its
own inverse. -/
def circle : Schema where
  entities := [
    circleEntity 0 "Node1" "nodes1" "next1_id" [next1],
    circleEntity 1 "Node2" "nodes2" "next2_id" [
      { name := "next2", owner? := some 1, position := 0, declaredType := some "Node3"
        inverseOf := some "Node3.next3()" }],
    circleEntity 2 "Node3" "nodes3" "next3_id" [
      { name := "next3", owner? := some 2, position := 0, declaredType := some "Node1"
        inverseOf := some "Node1.next1()" },
      { name := "twins3", owner? := some 2, position := 1, declaredType := some "Node3[]"
        inverseOf := some "Node3.twins3()" }]]
  namespaces := OrderedMap.insert ∅ "\\App\\" "app/"

/-- The method holds a foreign key. To find this out takes three lookups inside each other, and room
for two would not do: the kind asks for the foreign key, and that for the inverse. -/
theorem comeBack_circle :
    Relation.AllComeBack circle next1 ∧
      Tracked.evaluate (Relation.kind circle next1) = .ok .belongsTo ∧
        ((Limited.within (Relation.kind circle next1) 2).answer true {}).1 =
          .error Limited.noRoom :=
  ⟨(Relation.comeBack_of_any_schema circle).1 next1, by decide +kernel, by decide +kernel⟩

end Schema

end EntitySchema
