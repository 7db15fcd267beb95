/-
Tracked lookups agree with plain ones.

The rules about relations are written once and read twice: in `Except Error`, where nothing is
marked or remembered, and in `Tracked`, where lookups are marked while they run and their answers
are kept. The two readings may only differ in how much work they do. `Agrees` says that they do not
differ in anything else: started from a true memory, the tracked action gives the plain outcome, a
value or an error, and leaves a true memory and the same marks behind.

Two things could break this. A remembered answer could be wrong, and that is what `Lookups.IsTrue`
excludes. A mark could be met again, and then the tracked action would report a cycle where the
plain one goes on. Lookups are therefore ranked: an inverse asks for no other lookup, a foreign key
asks for inverses, and a kind asks for foreign keys and inverses. A lookup is only ever started
while all that is running is of a higher rank, so it never meets its own mark.

Both are invariants of a run and not of a single lookup. A true memory is one of the hypotheses of
`Agrees` and one of its conclusions, and so is what is running; `Agrees.bind` hands both on to the
next action. An error does not end their use: an attempt takes an error for an answer and goes on
with the memory that the failed action has left, so that memory has to be true as well.

The lemmas of this file follow the operations of `LookupMonad`: one for each of `pure`, `throw`,
`bind`, `attempt`, `during` and the two that remember. With them agreement is shown of a rule by
going through its text, which is done in `Tracking.Relations` and `Tracking.Changes`.

A reader may want to know that `Agrees` is not vacuous. Its hypotheses hold of the empty memory with
nothing running, and `Agrees.evaluate_eq` is what follows there: an equation, with no hypothesis
left, between what is computed with tracking and what is computed without.
-/
import EntitySchema.Proofs.Outcome
import EntitySchema.Proofs.Placement
import EntitySchema.Relation.Classification

set_option autoImplicit false

namespace EntitySchema

/-! ## Marks -/

/-- A lookup only asks for lookups of lower rank. -/
def Lookup.rank : Lookup → Nat
  | .inverse => 0
  | .foreignKey => 1
  | .kind => 2

/-- Only lookups of a rank that is not below a bound are running. -/
def Lookups.IsIdleBelow (lookups : Lookups) (bound : Nat) : Prop :=
  ∀ running ∈ lookups.running, bound ≤ running.lookup.rank

namespace Lookups

variable {lookups : Lookups} {bound : Nat}

/-- What holds below a bound holds below a lower one. -/
theorem IsIdleBelow.mono {lower : Nat} (h : lookups.IsIdleBelow bound) (hle : lower ≤ bound) :
    lookups.IsIdleBelow lower :=
  fun running hrunning => Nat.le_trans hle (h running hrunning)

/-- Nothing runs at the start. -/
theorem isIdleBelow_empty : ({} : Lookups).IsIdleBelow bound := by
  intro running hrunning
  cases hrunning

/-- A lookup of a rank below all that is running is not running. The key does not matter: two
lookups of one rank never run at once, whichever methods they are for. -/
theorem IsIdleBelow.isRunning_eq_false {lookup : Lookup} (h : lookups.IsIdleBelow bound)
    (hrank : lookup.rank < bound) (key : MethodKey) : lookups.isRunning lookup key = false := by
  rw [isRunning, List.any_eq_false]
  intro running hrunning hsame
  have hle : bound ≤ running.lookup.rank := h running hrunning
  have heq : running.lookup = lookup := by
    simpa using (Bool.and_eq_true_iff.1 hsame).1
  rw [heq] at hle
  omega

/-- A lookup that is not running yet can be marked, so `enter` does not answer with a cycle. -/
theorem IsIdleBelow.enter_eq {lookup : Lookup} (h : lookups.IsIdleBelow (lookup.rank + 1))
    (key : MethodKey) (label : String) :
    lookups.enter lookup key label =
      .ok { lookups with running := lookups.running ++ [⟨lookup, key, label⟩] } := by
  rw [enter, h.isRunning_eq_false (Nat.lt_succ_self _), if_neg (by simp)]

/-- While a lookup runs, all that is running is of its rank or a higher one. This is the bound that
the action inside is started with. -/
theorem IsIdleBelow.marked {lookup : Lookup} (h : lookups.IsIdleBelow (lookup.rank + 1))
    (key : MethodKey) (label : String) :
    IsIdleBelow { lookups with running := lookups.running ++ [⟨lookup, key, label⟩] }
      lookup.rank := by
  intro running hrunning
  rcases List.mem_append.1 hrunning with hold | hnew
  · exact Nat.le_of_succ_le (h running hold)
  · obtain rfl := List.mem_singleton.1 hnew
    exact Nat.le_refl _

end Lookups

/-! ## Memory -/

/-- All that is remembered of the methods of a schema is what the plain rules say. -/
structure Lookups.IsTrue (schema : Schema) (lookups : Lookups) : Prop where
  kind_eq : ∀ method ∈ schema.methods, ∀ kind,
    lookups.kinds.lookup method.key = some kind →
      Relation.kind (m := Except Error) schema method = .ok kind
  inverse_eq : ∀ method ∈ schema.methods, ∀ inverse,
    (lookups.inverses.lookup method.key).bind schema.methodAt? = some inverse →
      Relation.inverse (m := Except Error) schema method = .ok inverse

namespace Lookups.IsTrue

variable {schema : Schema} {lookups : Lookups}

/-- Nothing is remembered at the start. -/
theorem empty : IsTrue schema {} := by
  constructor
  · intro method _ kind hlookup
    cases hlookup
  · intro method _ inverse hlookup
    cases hlookup

/-- Marks are no part of the memory. Setting one and taking it off again leaves the memory true. -/
theorem of_memory_eq {other : Lookups} (h : lookups.IsTrue schema)
    (hkinds : other.kinds = lookups.kinds) (hinverses : other.inverses = lookups.inverses) :
    other.IsTrue schema := by
  constructor
  · rw [hkinds]
    exact h.kind_eq
  · rw [hinverses]
    exact h.inverse_eq

/-- A kind may be remembered once it is known. Two methods with the same key are one, so nothing is
said of any other method; this is where the schema has to be placed. -/
theorem rememberKind (h : lookups.IsTrue schema) (hplaced : schema.IsPlaced) {method : Method}
    (hmethod : method ∈ schema.methods) {kind : RelationKind}
    (hkind : Relation.kind (m := Except Error) schema method = .ok kind) :
    IsTrue schema { lookups with kinds := (method.key, kind) :: lookups.kinds } := by
  refine ⟨?_, h.inverse_eq⟩
  intro other hother found hfound
  rw [List.lookup_cons] at hfound
  split at hfound
  · next hkey =>
    obtain rfl := hplaced.eq_of_key_eq hother hmethod (by simpa using hkey)
    rw [hkind, Option.some.inj hfound]
  · exact h.kind_eq other hother found hfound

/-- An inverse may be remembered once it is known, since it is found again by its key. An inverse
that stood in no entity would be remembered under a key that leads elsewhere, so that it is a method
of the schema is a hypothesis. -/
theorem rememberInverse (h : lookups.IsTrue schema) (hplaced : schema.IsPlaced)
    {method inverse : Method} (hmethod : method ∈ schema.methods)
    (hmem : inverse ∈ schema.methods)
    (hinverse : Relation.inverse (m := Except Error) schema method = .ok inverse) :
    IsTrue schema { lookups with inverses := (method.key, inverse.key) :: lookups.inverses } := by
  refine ⟨h.kind_eq, ?_⟩
  intro other hother found hfound
  rw [List.lookup_cons] at hfound
  split at hfound
  · next hkey =>
    obtain rfl := hplaced.eq_of_key_eq hother hmethod (by simpa using hkey)
    rw [Option.bind_some, hplaced.methodAt?_key hmem] at hfound
    rw [hinverse, Option.some.inj hfound]
  · exact h.inverse_eq other hother found hfound

end Lookups.IsTrue

/-! ## Agreement

What a tracked action does is its `answer`, a function of whether to remember and of what is known.
The equations below unfold one operation each, so that no later proof opens the monad
transformers. -/

section Answers

namespace Tracked

variable {α β : Type} (remembering : Bool) (lookups : Lookups)

theorem answer_pure (value : α) :
    (pure value : Tracked α).answer remembering lookups = (.ok value, lookups) := rfl

theorem answer_read :
    (read : Tracked Bool).answer remembering lookups = (.ok remembering, lookups) := rfl

theorem answer_get :
    (get : Tracked Lookups).answer remembering lookups = (.ok lookups, lookups) := rfl

theorem answer_modify (change : Lookups → Lookups) :
    (modify change : Tracked Unit).answer remembering lookups = (.ok (), change lookups) := rfl

/-- A chain of two actions hands on what is known about lookups. If the first one fails the second
is not run, but what the first one has found out stays known. -/
theorem answer_bind (action : Tracked α) (next : α → Tracked β) :
    (action >>= next).answer remembering lookups =
      match action.answer remembering lookups with
      | (.ok value, after) => (next value).answer remembering after
      | (.error error, after) => (.error error, after) := by
  simp only [answer, Bind.bind, ReaderT.bind, ExceptT.bind, ExceptT.mk, StateT.bind]
  rcases action remembering lookups with ⟨outcome, after⟩
  cases outcome <;> rfl

/-- An attempt keeps what is known about lookups when it fails. The state is below the error in the
stack of transformers, which is why an error cannot undo it. -/
theorem answer_attempt (isExpected : Error → Bool) (action : Tracked α) :
    (LookupMonad.attempt isExpected action).answer remembering lookups =
      (LookupMonad.attempt isExpected (action.answer remembering lookups).1,
        (action.answer remembering lookups).2) := by
  simp only [LookupMonad.attempt, answer, tryCatch, tryCatchThe, MonadExceptOf.tryCatch,
    ExceptT.tryCatch, ExceptT.mk, Functor.map, ExceptT.map, StateT.bind, Bind.bind]
  rcases action remembering lookups with ⟨outcome, after⟩
  cases outcome with
  | ok value => rfl
  | error error =>
    change (if isExpected error then pure none else throw error : Tracked (Option α)).answer
        remembering after = (if isExpected error then .ok none else .error error, after)
    cases isExpected error <;> rfl

variable {lookups} {known : Lookups → Option α} {keep : α → Lookups → Lookups}
  {compute : Tracked α}

/-- What is known is not computed, and nothing is kept. -/
theorem answer_remember_known {value : α} (hknown : known lookups = some value) :
    (remember known keep compute).answer true lookups = (.ok value, lookups) := by
  simp only [remember, answer_bind, answer_read, if_true, answer_get, hknown, answer_pure]

/-- What is not known is computed, and it is kept if that succeeds. An error is passed on unkept, so
it would be found again by computing again. -/
theorem answer_remember_new (hknown : known lookups = none) :
    (remember known keep compute).answer true lookups =
      match compute.answer true lookups with
      | (.ok value, after) => (.ok value, keep value after)
      | (.error error, after) => (.error error, after) := by
  simp only [remember, answer_bind, answer_read, if_true, answer_get, hknown, answer_modify,
    answer_pure]

end Tracked

end Answers

/-- **Agreement.** From a true memory, and while nothing below a bound is running, the tracked
action has the plain outcome, and it leaves a true memory and the same marks. Remembering may be
switched on or off. -/
def Tracked.Agrees {α : Type} (schema : Schema) (bound : Nat) (action : Tracked α)
    (outcome : Except Error α) : Prop :=
  ∀ (remembering : Bool) (lookups : Lookups),
    lookups.IsTrue schema → lookups.IsIdleBelow bound →
      ∃ after, action.answer remembering lookups = (outcome, after) ∧
        after.IsTrue schema ∧ after.running = lookups.running

namespace Tracked.Agrees

open LookupMonad (lift attempt)
open Outcome

variable {schema : Schema} {bound : Nat} {α β : Type}

theorem pure (value : α) : Agrees schema bound (Pure.pure value) (.ok value) :=
  fun _ lookups htrue _ => ⟨lookups, rfl, htrue, rfl⟩

/-- An error is the same in both readings, and raising it leaves the memory alone. -/
theorem throw (error : Error) :
    Agrees schema bound (MonadExcept.throw error : Tracked α) (.error error) :=
  fun _ lookups htrue _ => ⟨lookups, rfl, htrue, rfl⟩

/-- What only reads the schema has one outcome, which both readings take over. -/
theorem lift (outcome : Except Error α) :
    Agrees schema bound (LookupMonad.lift outcome) (LookupMonad.lift outcome) := by
  cases outcome with
  | ok value => exact pure value
  | error error => exact throw error

/-- The second action starts from what the first one has left: the memory is still true and the
marks are the same. The second step is only asked of the value that the plain reading gives, so what
is known of that value (that it is a method of the schema, say) may be used. -/
theorem bind {action : Tracked α} {outcome : Except Error α} {next : α → Tracked β}
    {plain : α → Except Error β} (h : Agrees schema bound action outcome)
    (hnext : ∀ value, outcome = .ok value → Agrees schema bound (next value) (plain value)) :
    Agrees schema bound (action >>= next) (outcome >>= plain) := by
  intro remembering lookups htrue hidle
  obtain ⟨after, hanswer, htrue', hrunning⟩ := h remembering lookups htrue hidle
  rw [answer_bind, hanswer]
  cases outcome with
  | error error => exact ⟨after, rfl, htrue', hrunning⟩
  | ok value =>
    -- the marks are the same, so nothing below the bound is running now either
    have hidle' : after.IsIdleBelow bound := by
      rw [Lookups.IsIdleBelow, hrunning]
      exact hidle
    obtain ⟨last, hlast, htrue'', hrunning'⟩ :=
      hnext value rfl remembering after htrue' hidle'
    exact ⟨last, hlast, htrue'', hrunning'.trans hrunning⟩

/-- What is done to a value afterwards needs no lookup. -/
theorem map {action : Tracked α} {outcome : Except Error α} (h : Agrees schema bound action outcome)
    (f : α → β) : Agrees schema bound (f <$> action) (f <$> outcome) := by
  rw [map_eq_pure_bind, map_eq_pure_bind]
  exact h.bind fun value _ => pure (f value)

/-- An attempt takes an error for an answer; what was remembered before the error stays true. Since
both readings fail with the same error, they agree on whether it is an expected one. -/
theorem attempt {action : Tracked α} {outcome : Except Error α} (isExpected : Error → Bool)
    (h : Agrees schema bound action outcome) :
    Agrees schema bound (LookupMonad.attempt isExpected action)
      (LookupMonad.attempt isExpected outcome) := by
  intro remembering lookups htrue hidle
  obtain ⟨after, hanswer, hafter⟩ := h remembering lookups htrue hidle
  exact ⟨after, by rw [answer_attempt, hanswer], hafter⟩

/-- An action that agrees gives the plain outcome when it is evaluated by itself: nothing is
remembered and nothing is running then. It is how agreement leaves this theory. -/
theorem evaluate_eq {action : Tracked α} {outcome : Except Error α}
    (h : Agrees schema bound action outcome) : action.evaluate = outcome := by
  obtain ⟨after, hanswer, -⟩ := h true {} Lookups.IsTrue.empty Lookups.isIdleBelow_empty
  rw [evaluate, hanswer]

/-! ### Lookups -/

/-- A mark is taken off again, and no mark of the same lookup was there before. The action inside
runs with the rank of the lookup for its bound, so what it may start is of a lower rank. -/
theorem during {lookup : Lookup} {action : Tracked α} {outcome : Except Error α}
    (hrank : lookup.rank < bound) (key : MethodKey) (label : String)
    (h : Agrees schema lookup.rank action outcome) :
    Agrees schema bound (LookupMonad.during lookup key label action)
      (LookupMonad.during lookup key label outcome) := by
  intro remembering lookups htrue hidle
  have hidle' : lookups.IsIdleBelow (lookup.rank + 1) := hidle.mono hrank
  obtain ⟨after, hanswer, htrue', hrunning⟩ :=
    h remembering { lookups with running := lookups.running ++ [⟨lookup, key, label⟩] }
      (htrue.of_memory_eq rfl rfl) (hidle'.marked key label)
  refine ⟨after.leave, ?_, htrue'.of_memory_eq rfl rfl, ?_⟩
  · change (mark lookup key label action).answer remembering lookups = (outcome, after.leave)
    rw [answer, mark, hidle'.enter_eq key label]
    simp only [hanswer]
  · rw [Lookups.leave, hrunning]
    exact List.dropLast_concat

/-- **Memory agrees.** If what is known of a true memory is the plain outcome, and a plain value may
be kept, then it makes no difference whether an action recalls or computes. It is stated of any
table of answers, and the tables of kinds and of inverses are two cases of it. -/
theorem remember {known : Lookups → Option α} {keep : α → Lookups → Lookups}
    {compute : Tracked α} {outcome : Except Error α}
    (hknown : ∀ lookups value, lookups.IsTrue schema → known lookups = some value →
      outcome = .ok value)
    (hkeep : ∀ lookups value, lookups.IsTrue schema → outcome = .ok value →
      (keep value lookups).IsTrue schema ∧ (keep value lookups).running = lookups.running)
    (h : Agrees schema bound compute outcome) :
    Agrees schema bound (Tracked.remember known keep compute) outcome := by
  intro remembering lookups htrue hidle
  obtain ⟨after, hanswer, htrue', hrunning⟩ := h remembering lookups htrue hidle
  cases remembering with
  | false => exact ⟨after, hanswer, htrue', hrunning⟩
  | true =>
    cases hfound : known lookups with
    | some value =>
      -- nothing is computed, and the memory is true
      refine ⟨lookups, ?_, htrue, rfl⟩
      rw [hknown lookups value htrue hfound]
      exact answer_remember_known hfound
    | none =>
      -- the computation agrees, and only a value is kept, never an error
      rw [answer_remember_new hfound, hanswer]
      cases outcome with
      | error error => exact ⟨after, rfl, htrue', hrunning⟩
      | ok value =>
        obtain ⟨hkept, hsame⟩ := hkeep after value htrue' rfl
        exact ⟨_, rfl, hkept, hsame.trans hrunning⟩

variable {method : Method}

/-- A remembered kind is the plain one, and the plain one may be remembered. -/
theorem rememberKind (hplaced : schema.IsPlaced) (hmethod : method ∈ schema.methods)
    {compute : Tracked RelationKind}
    (h : Agrees schema bound compute (Relation.kind (m := Except Error) schema method)) :
    Agrees schema bound (Tracked.rememberKind method.key compute)
      (Relation.kind (m := Except Error) schema method) :=
  h.remember (fun _ kind htrue => htrue.kind_eq method hmethod kind)
    fun _ _ htrue hkind => ⟨htrue.rememberKind hplaced hmethod hkind, rfl⟩

/-- A remembered inverse is the plain one. The plain one may be remembered if it stands in the
schema, since it is kept by its key and has to be found by it. -/
theorem rememberInverse (hplaced : schema.IsPlaced) (hmethod : method ∈ schema.methods)
    {compute : Tracked Method}
    (hmem : ∀ inverse, Relation.inverse (m := Except Error) schema method = .ok inverse →
      inverse ∈ schema.methods)
    (h : Agrees schema bound compute (Relation.inverse (m := Except Error) schema method)) :
    Agrees schema bound (Tracked.rememberInverse schema method.key compute)
      (Relation.inverse (m := Except Error) schema method) :=
  h.remember (fun _ inverse htrue => htrue.inverse_eq method hmethod inverse)
    fun _ inverse htrue hinverse =>
      ⟨htrue.rememberInverse hplaced hmethod (hmem inverse hinverse) hinverse, rfl⟩

end Tracked.Agrees

end EntitySchema
