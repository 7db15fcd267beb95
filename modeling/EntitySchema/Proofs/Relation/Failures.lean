/-
How a description fails.

Lookups fail with errors of their own, and all of these belong to a family under which a program can
catch them. A description adds a few of its own, which do as well, but it also takes two things for
granted: that a has-many-through has a method to go through, and that a polymorphic many-to-many has
one that says which types are stored. If either were missing it would fail with an error of no
family.

Both are promises of the kind. `exists_between_of_kind` says what a kind that leads through an
entity has seen: the entity in between, and for the polymorphic kind the one method of it that
returns the related type. That settles the first case. In the second the description does not look
at the entity in between but at the owner of the inverse, and only a lookup without a pointer makes
these two the same (`owner_lookUpInverse_of_between`). With a pointer they may differ, which is
`PointsAside`, and the document at the end of the file shows that the gap is real.

`FailsOnlyWith` is the statement that is carried along: an outcome fails with an allowed error if it
fails. It composes along chains (`FailsOnlyWith.bind`), and in a chain the next step may use that
the one before it has succeeded, which is how the promise of a kind reaches the description. There
is one lemma for each kind, and `describe_failsOnlyWith` puts them together.

For the lookups nothing has to be done by hand. It is known of each of them that it agrees with its
plain reading and that it unwinds, and the latter says with which errors a tracked action can fail;
`Tracked.Agrees.failsOnlyWith` takes this back to the plain reading.
-/
import EntitySchema.Proofs.Relation.Opposite
import EntitySchema.Proofs.Tracking.Nesting
import EntitySchema.Proofs.Tracking.Relations

set_option autoImplicit false

namespace EntitySchema

open Outcome

/-! ## Allowed errors -/

/-- An error belongs to a family under which it can be caught. -/
def Error.HasFamily (error : Error) : Prop := error.category?.isSome = true

/-- The errors of lookups have families. Every kind of error is gone through here. -/
theorem Error.hasFamily_of_isOfRelations {error : Error} (h : error.isOfRelations = true) :
    error.HasFamily := by
  cases error <;> simp [isOfRelations, HasFamily, category?] at h ⊢

/-- An outcome fails, if at all, with an error that is allowed. Of a success nothing is said. -/
def FailsOnlyWith {α : Type} (allowed : Error → Prop) (outcome : Except Error α) : Prop :=
  ∀ error, outcome = .error error → allowed error

namespace FailsOnlyWith

variable {α β : Type} {allowed : Error → Prop} {outcome : Except Error α}

/-- A success does not fail. -/
theorem ok (value : α) : FailsOnlyWith allowed (.ok value) := by
  intro error herror
  cases herror

/-- A failure with an error that is allowed. -/
theorem error {error : Error} (h : allowed error) :
    FailsOnlyWith allowed (.error error : Except Error α) := by
  intro other hother
  rw [← Except.error.inj hother]
  exact h

/-- A chain of two steps fails as one of them does. The second is only asked about values that the
first can have. -/
theorem bind {next : α → Except Error β} (h : FailsOnlyWith allowed outcome)
    (hnext : ∀ value, outcome = .ok value → FailsOnlyWith allowed (next value)) :
    FailsOnlyWith allowed (outcome >>= next) := by
  cases outcome with
  | ok value => exact hnext value rfl
  | error cause => exact error (h cause rfl)

/-- More errors may be allowed. -/
theorem mono {larger : Error → Prop} (h : FailsOnlyWith allowed outcome)
    (hle : ∀ error, allowed error → larger error) : FailsOnlyWith larger outcome :=
  fun error herror => hle error (h error herror)

/-- Other errors may be allowed besides. -/
theorem or_left {others : Error → Prop} (h : FailsOnlyWith allowed outcome) :
    FailsOnlyWith (fun error => allowed error ∨ others error) outcome :=
  h.mono fun _ => .inl

/-- There is a value, or an error that is allowed. -/
theorem ok_or_error (h : FailsOnlyWith allowed outcome) :
    (∃ value, outcome = .ok value) ∨ ∃ error, outcome = .error error ∧ allowed error := by
  cases outcome with
  | ok value => exact .inl ⟨value, rfl⟩
  | error cause => exact .inr ⟨cause, rfl, h cause rfl⟩

end FailsOnlyWith

/-- A lookup that agrees with its plain reading and unwinds fails with an error of a family. Both
are asked of the empty memory, with nothing running. -/
theorem Tracked.Agrees.failsOnlyWith {α : Type} {schema : Schema} {bound : Nat}
    {limited : Limited α} {action : Tracked α} {outcome : Except Error α}
    (h : Agrees schema bound action outcome) (hunwinds : Unwinds bound limited action) :
    FailsOnlyWith Error.HasFamily outcome := by
  obtain ⟨after, hanswer, -⟩ := h true {} Lookups.IsTrue.empty Lookups.isIdleBelow_empty
  obtain ⟨found, last, hfound, -, -, hfails⟩ := hunwinds true {} Lookups.isIdleBelow_empty
  rw [hanswer] at hfound
  obtain ⟨rfl, rfl⟩ := Prod.mk.inj hfound
  exact fun error herror => Error.hasFamily_of_isOfRelations (hfails error herror)

namespace Relation

variable {schema : Schema} {method : Method}

/-! ## Lookups

Each rule is covered by what is known of it in both readings. -/

section Lookups

variable (hplaced : schema.IsPlaced) (hmethod : method ∈ schema.methods)
include hplaced hmethod

/-- The kind may be unknown for several reasons, and all of them are errors of relations. -/
theorem kind_failsOnlyWith :
    FailsOnlyWith Error.HasFamily (kind (m := Except Error) schema method) :=
  (agrees_kind hplaced hmethod (Nat.le_refl 3)).failsOnlyWith (unwinds_kind schema method)

/-- There may be no inverse, or the pointer to it may be wrong. -/
theorem inverse_failsOnlyWith :
    FailsOnlyWith Error.HasFamily (inverse (m := Except Error) schema method) :=
  (agrees_inverse hplaced hmethod (Nat.le_refl 1)).failsOnlyWith (unwinds_inverse schema method)

/-- The name of a foreign key asks for an inverse. If there is none it is formed from the method. -/
theorem foreignKeyName_failsOnlyWith :
    FailsOnlyWith Error.HasFamily (foreignKeyName (m := Except Error) schema method) :=
  (agrees_foreignKeyName hplaced hmethod (Nat.le_refl 2)).failsOnlyWith
    (unwinds_foreignKeyName schema method)

/-- The name of a pivot table asks for a join, or for both tables. -/
theorem pivotTableOf_failsOnlyWith :
    FailsOnlyWith Error.HasFamily (pivotTableOf (m := Except Error) schema method) :=
  (agrees_pivotTableOf hplaced hmethod (Nat.le_refl 1)).failsOnlyWith
    (unwinds_pivotTableOf schema method)

/-- So does the entity that is stored in it. -/
theorem pivotEntityOf_failsOnlyWith :
    FailsOnlyWith Error.HasFamily (pivotEntityOf (m := Except Error) schema method) :=
  (agrees_pivotEntityOf hplaced hmethod (Nat.le_refl 1)).failsOnlyWith
    (unwinds_pivotEntityOf schema method)

/-- The column that a side contributes to the pivot table. -/
theorem pivotKey_failsOnlyWith :
    FailsOnlyWith Error.HasFamily (pivotKey (m := Except Error) schema method) :=
  (agrees_pivotKey hplaced hmethod (Nat.le_refl 1)).failsOnlyWith (unwinds_pivotKey schema method)

/-- The entity that a method returns has to be known, and there is an error for that. -/
theorem knownEntity_failsOnlyWith :
    FailsOnlyWith Error.HasFamily (knownEntity (m := Except Error) schema method) := by
  unfold knownEntity
  have hreturned : FailsOnlyWith Error.HasFamily
      (returnedEntity (m := Except Error) schema method) :=
    (agrees_returnedEntity hplaced hmethod (Nat.le_refl 1)).failsOnlyWith
      (unwinds_returnedEntity schema method)
  refine hreturned.bind fun found _ => ?_
  split
  · exact .ok _
  · exact .error rfl

end Lookups

/-- The method onwards is looked for in the entity in between. Nothing is remembered, and no lookup
is running, so the bound is zero. -/
theorem onwardMethod_failsOnlyWith :
    FailsOnlyWith Error.HasFamily (onwardMethod (m := Except Error) schema method) := by
  have hagrees : Tracked.Agrees schema 0 (onwardMethod schema method)
      (onwardMethod schema method) := agrees_onwardMethod method
  exact hagrees.failsOnlyWith (unwinds_onwardMethod schema method)

/-- A relation needs a primary key of one column. There are errors for none and for several. -/
theorem requireKey_failsOnlyWith (relation : String) (entity : Entity) :
    FailsOnlyWith Error.HasFamily
      (requireKey (m := Except Error) schema relation method entity) := by
  unfold requireKey
  rw [LookupMonad.lift_plain]
  unfold Entity.onlyPrimaryKey
  split
  · exact .ok _
  · exact .error rfl
  · exact .error rfl

/-! ## What a kind has seen -/

/-- A kind that leads through an entity has seen the entity in between; a polymorphic one has also
seen the one method of it that returns the related type. The proof goes through the ways in which a
kind is decided, and only two of them lead there. -/
theorem exists_between_of_kind {kind : RelationKind}
    (h : Relation.kind (m := Except Error) schema method = .ok kind)
    (hthrough : kind = .hasManyThrough ∨ kind = .morphedByMany) :
    ∃ between, schema.entityBetween method = .ok (some between) ∧
      (kind = .morphedByMany →
        ∃ candidate, between.methodsReturning method.singleType = [candidate]) := by
  cases hmany : method.returnsMany with
  | false =>
    -- a method that returns one leads through nothing
    rcases kind_cases (Method.returnsOne_iff.2 hmany) h with ⟨-, rfl⟩ | ⟨-, ⟨-, rfl⟩ | ⟨-, hsingle⟩⟩
    · simp at hthrough
    · simp at hthrough
    · rcases singleKind_cases hsingle with rfl | ⟨rfl, -⟩
      · simp at hthrough
      · simp at hthrough
  | true =>
    rcases kind_cases_of_returnsMany hmany h with rfl | rfl | hdecides
    · simp at hthrough
    · simp at hthrough
    · cases hdecides with
      | typeOnwards hbetween honly _ => exact ⟨_, hbetween, fun _ => ⟨_, honly⟩⟩
      | onwards hbetween => exact ⟨_, hbetween, fun hmorphed => nomatch hmorphed⟩
      | _ => simp at hthrough

/-- With an entity in between there is a method onwards, or there is an error. So the error of no
family that a has-many-through might raise is never raised. -/
theorem onwardMethod_ne_none {between : Entity}
    (h : schema.entityBetween method = .ok (some between)) :
    onwardMethod (m := Except Error) schema method ≠ .ok none := by
  unfold onwardMethod
  rw [LookupMonad.lift_plain, h, ok_bind]
  dsimp only
  split
  · intro heq
    cases Except.ok.inj heq
  · intro heq
    cases heq
  · intro heq
    cases heq

/-- Without a pointer the inverse is looked for in the entity in between, and as the schema is
placed, the entity that lists it is its owner. -/
theorem owner_lookUpInverse_of_between (hplaced : schema.IsPlaced) {between : Entity}
    {other : Method} (hpointer : method.inverseOf.filter (· ≠ "") = none)
    (hbetween : schema.entityBetween method = .ok (some between))
    (h : schema.lookUpInverse method = .ok other) : schema.owner other = between := by
  have hmem : between ∈ schema.entities := Schema.mem_of_entityBetween hbetween
  obtain ⟨name, hvia, hfound⟩ :
      ∃ name, method.viaName? = some name ∧ schema.findEntity name = .ok (some between) := by
    rw [Schema.entityBetween] at hbetween
    split at hbetween
    · cases hbetween
    · next name hvia => exact ⟨name, hvia, hbetween⟩
  have hname : schema.otherSideName method = .ok name := by
    rw [Schema.otherSideName, hbetween, ok_bind, hvia]
    rfl
  rw [Schema.lookUpInverse, hpointer] at h
  dsimp only at h
  rw [hname, ok_bind, hfound, ok_bind] at h
  dsimp only at h
  split at h
  · next back hback =>
    obtain rfl := Except.ok.inj h
    obtain ⟨place, hat⟩ := Schema.exists_entityAt?_of_mem hmem
    exact hplaced.owner_eq hat (Schema.mem_of_backMethod? hback)
  · cases h

/-! ## Descriptions -/

section Descriptions

variable (hplaced : schema.IsPlaced) (hmethod : method ∈ schema.methods)
  (base : RelationDescription)
include hplaced hmethod

/-- A belongs-to: the related entity, the foreign key, and the primary key of the related entity. -/
theorem describeBelongsTo_failsOnlyWith :
    FailsOnlyWith Error.HasFamily
      (describeBelongsTo (m := Except Error) schema base method) := by
  unfold describeBelongsTo
  refine (knownEntity_failsOnlyWith hplaced hmethod).bind fun related _ => ?_
  refine (foreignKeyName_failsOnlyWith hplaced hmethod).bind fun foreignKey _ => ?_
  exact (requireKey_failsOnlyWith _ _).bind fun _ _ => .ok _

/-- A has-one or has-many: the inverse, its foreign key, and the primary key of the owner. -/
theorem describeHas_failsOnlyWith :
    FailsOnlyWith Error.HasFamily (describeHas (m := Except Error) schema base method) := by
  unfold describeHas
  refine (inverse_failsOnlyWith hplaced hmethod).bind fun inverse hinverse => ?_
  have hmem : inverse ∈ schema.methods := mem_of_inverse hinverse
  refine (foreignKeyName_failsOnlyWith hplaced hmem).bind fun foreignKey _ => ?_
  exact (requireKey_failsOnlyWith _ _).bind fun _ _ => .ok _

/-- A many-to-many: the pivot table with its columns, and the primary keys of both entities. -/
theorem describeBelongsToMany_failsOnlyWith :
    FailsOnlyWith Error.HasFamily
      (describeBelongsToMany (m := Except Error) schema base method) := by
  unfold describeBelongsToMany
  refine (inverse_failsOnlyWith hplaced hmethod).bind fun inverse hinverse => ?_
  have hmem : inverse ∈ schema.methods := mem_of_inverse hinverse
  refine (pivotEntityOf_failsOnlyWith hplaced hmethod).bind fun pivotEntity _ => ?_
  refine (pivotTableOf_failsOnlyWith hplaced hmethod).bind fun pivotTable _ => ?_
  refine (pivotKey_failsOnlyWith hplaced hmem).bind fun foreignPivotKey _ => ?_
  refine (pivotKey_failsOnlyWith hplaced hmethod).bind fun relatedPivotKey _ => ?_
  refine (requireKey_failsOnlyWith _ _).bind fun localKey _ => ?_
  exact (requireKey_failsOnlyWith _ _).bind fun _ _ => .ok _

/-- A has-many-through. There is always something to go through, and this is all that the kind is
needed for. -/
theorem describeHasManyThrough_failsOnlyWith
    (hkind : Relation.kind (m := Except Error) schema method = .ok .hasManyThrough) :
    FailsOnlyWith Error.HasFamily
      (describeHasManyThrough (m := Except Error) schema base method) := by
  obtain ⟨between, hbetween, -⟩ := exists_between_of_kind hkind (.inl rfl)
  unfold describeHasManyThrough
  refine (inverse_failsOnlyWith hplaced hmethod).bind fun inverseMethod hinverse => ?_
  have hmem : inverseMethod ∈ schema.methods := mem_of_inverse hinverse
  refine onwardMethod_failsOnlyWith.bind fun onward honward => ?_
  split
  · exact absurd honward (onwardMethod_ne_none hbetween)
  · next through =>
    have hthrough : through ∈ schema.methods := mem_of_onwardMethod honward
    refine (inverse_failsOnlyWith hplaced hthrough).bind fun endMethod hend => ?_
    have hendMem : endMethod ∈ schema.methods := mem_of_inverse hend
    refine (foreignKeyName_failsOnlyWith hplaced hmem).bind fun firstKey _ => ?_
    refine (foreignKeyName_failsOnlyWith hplaced hendMem).bind fun secondKey _ => ?_
    refine (requireKey_failsOnlyWith _ _).bind fun localKey _ => ?_
    exact (requireKey_failsOnlyWith _ _).bind fun _ _ => .ok _

/-- A polymorphic has-many: the inverse, whose name the columns have, and the primary key of the
owner. -/
theorem describeMorphMany_failsOnlyWith :
    FailsOnlyWith Error.HasFamily
      (describeMorphMany (m := Except Error) schema base method) := by
  unfold describeMorphMany
  refine (inverse_failsOnlyWith hplaced hmethod).bind fun inverse _ => ?_
  exact (requireKey_failsOnlyWith _ _).bind fun _ _ => .ok _

/-- A polymorphic many-to-many from the side whose type is stored: the related entity and the
inverse. -/
theorem describeMorphToMany_failsOnlyWith :
    FailsOnlyWith Error.HasFamily
      (describeMorphToMany (m := Except Error) schema base method) := by
  unfold describeMorphToMany
  refine (knownEntity_failsOnlyWith hplaced hmethod).bind fun related _ => ?_
  exact (inverse_failsOnlyWith hplaced hmethod).bind fun _ _ => .ok _

/-- The one description that may find less than it takes for granted: the owner of the inverse may
have no method that returns the related type. -/
theorem describeMorphedByMany_failsOnlyWith :
    FailsOnlyWith (fun error => error.HasFamily ∨ error = .noMorphMethod ∧
        ∃ other, schema.lookUpInverse method = .ok other ∧
          (schema.owner other).methodsReturning method.singleType = [])
      (describeMorphedByMany (m := Except Error) schema base method) := by
  unfold describeMorphedByMany
  refine (knownEntity_failsOnlyWith hplaced hmethod).or_left.bind fun related _ => ?_
  refine (inverse_failsOnlyWith hplaced hmethod).or_left.bind fun other hother => ?_
  rw [inverse_plain] at hother
  dsimp only
  split
  · exact .error (.inl rfl)
  · split
    · exact .ok _
    · next hnone => exact .error (.inr ⟨rfl, other, hother, hnone⟩)

end Descriptions

/-! ## The one gap -/

/-- A polymorphic many-to-many points to an inverse that is not in the entity that it goes via. -/
structure PointsAside (schema : Schema) (method : Method) : Prop where
  kind_eq : Tracked.evaluate (kind schema method) = .ok .morphedByMany
  pointer : ∃ pointer, method.inverseOf.filter (· ≠ "") = some pointer
  aside : ∃ other between, Tracked.evaluate (inverse schema method) = .ok other ∧
    schema.entityBetween method = .ok (some between) ∧ schema.owner other ≠ between

/-- A morphed-by-many that finds no method in the owner of its inverse points aside: the entity in
between has one, since the kind has seen it. -/
theorem pointsAside_of_methodsReturning_eq_nil (hplaced : schema.IsPlaced)
    (hmethod : method ∈ schema.methods)
    (hkind : Relation.kind (m := Except Error) schema method = .ok .morphedByMany)
    {other : Method} (hother : schema.lookUpInverse method = .ok other)
    (hnone : (schema.owner other).methodsReturning method.singleType = []) :
    PointsAside schema method := by
  obtain ⟨between, hbetween, hseen⟩ := exists_between_of_kind hkind (.inr rfl)
  obtain ⟨candidate, hcandidate⟩ := hseen rfl
  have haside : schema.owner other ≠ between := by
    rintro rfl
    rw [hnone] at hcandidate
    cases hcandidate
  refine ⟨by rw [evaluate_kind hplaced hmethod, hkind], ?_, other, between, ?_, hbetween, haside⟩
  · cases hpointer : method.inverseOf.filter (· ≠ "") with
    | some pointer => exact ⟨pointer, rfl⟩
    | none => exact absurd (owner_lookUpInverse_of_between hplaced hpointer hbetween hother) haside
  · rw [evaluate_inverse hplaced hmethod, inverse_plain, hother]

/-- Read plainly, a description fails with an error of a family, or the method points aside. One
case a kind. -/
theorem describe_failsOnlyWith (hplaced : schema.IsPlaced) (hmethod : method ∈ schema.methods) :
    FailsOnlyWith
      (fun error => error.HasFamily ∨ error = .noMorphMethod ∧ PointsAside schema method)
      (describe (m := Except Error) schema method) := by
  unfold describe
  refine (kind_failsOnlyWith hplaced hmethod).or_left.bind fun kind hkind => ?_
  cases kind with
  | belongsTo => exact (describeBelongsTo_failsOnlyWith hplaced hmethod _).or_left
  | hasOne => exact (describeHas_failsOnlyWith hplaced hmethod _).or_left
  | hasMany => exact (describeHas_failsOnlyWith hplaced hmethod _).or_left
  | belongsToMany => exact (describeBelongsToMany_failsOnlyWith hplaced hmethod _).or_left
  | hasManyThrough =>
    exact (describeHasManyThrough_failsOnlyWith hplaced hmethod _ hkind).or_left
  | morphTo => exact .ok _
  | morphMany => exact (describeMorphMany_failsOnlyWith hplaced hmethod _).or_left
  | morphToMany => exact (describeMorphToMany_failsOnlyWith hplaced hmethod _).or_left
  | morphedByMany =>
    refine (describeMorphedByMany_failsOnlyWith hplaced hmethod _).mono fun error herror => ?_
    rcases herror with hfamily | ⟨heq, other, hother, hnone⟩
    · exact .inl hfamily
    · exact .inr ⟨heq, pointsAside_of_methodsReturning_eq_nil hplaced hmethod hkind hother hnone⟩

/-- **How a description fails.** A method of a document is described, or the description fails with
an error of a family, or it is a polymorphic many-to-many that points aside. A has-many-through
never lacks a method to go through. It does not matter whether lookups are remembered. -/
theorem describe_or_hasFamily {config : Config} {text : String}
    (hparse : Schema.parse config text = .ok schema) (hmethod : method ∈ schema.methods)
    (remembering : Bool) :
    ((∃ description,
        ((describe (m := Tracked) schema method).answer remembering {}).1 = .ok description) ∨
      ∃ error, ((describe (m := Tracked) schema method).answer remembering {}).1 = .error error ∧
        (error.HasFamily ∨ error = .noMorphMethod ∧ PointsAside schema method)) ∧
      (Tracked.evaluate (kind schema method) = .ok .hasManyThrough →
        ((onwardMethod (m := Tracked) schema method).answer remembering {}).1 ≠ .ok none) := by
  have hplaced : schema.IsPlaced := Schema.isPlaced_of_parse hparse
  constructor
  · obtain ⟨after, hanswer, -⟩ := agrees_describe hplaced hmethod (Nat.le_refl 3) remembering {}
      Lookups.IsTrue.empty Lookups.isIdleBelow_empty
    rw [hanswer]
    exact (describe_failsOnlyWith hplaced hmethod).ok_or_error
  · intro hkind
    rw [evaluate_kind hplaced hmethod] at hkind
    obtain ⟨between, hbetween, -⟩ := exists_between_of_kind hkind (.inl rfl)
    have hagrees : Tracked.Agrees schema 0 (onwardMethod schema method)
        (onwardMethod schema method) := agrees_onwardMethod method
    obtain ⟨after, hanswer, -⟩ :=
      hagrees remembering {} Lookups.IsTrue.empty Lookups.isIdleBelow_empty
    rw [hanswer]
    exact onwardMethod_ne_none hbetween

end Relation

/-! ## A pointer aside -/

namespace Schema

/-- A document in which the posts of a tag are to be found via one entity while their inverse is in
another one, where no method returns a post. -/
def labelsText : String :=
  "Tag1 (tags)\n  posts1() via Mark1: Post1[] <- Label1.tag1()\n" ++
    "Mark1 (marks)\n  marked1(): Post1|Tag1\n" ++
    "Label1 (labels)\n  tag1() via tag1_id: Tag1 <- Tag1.posts1()\n"

/-- The method that points aside. -/
def posts1 : Method where
  name := "posts1"
  owner? := some 0
  position := 0
  declaredType := some "Post1[]"
  via := some "Mark1"
  inverseOf := some "Label1.tag1()"

/-- An entity of the document with its implied fields and its method. -/
def labelsEntity (place : Nat) (shortName table : String) (columns : List (String × String))
    (method : Method) : Entity where
  shortName := shortName
  namespaceName := "\\App\\"
  table := table
  index? := some place
  fields :=
    { name := "id", type := "increments", owner? := some place, nullable := some false,
      primaryKey := true, implied := true } ::
      columns.map fun (name, type) => { name, type, owner? := some place, implied := true }
  methods := [method]

/-- What the document says. -/
def labels : Schema where
  entities := [
    labelsEntity 0 "Tag1" "tags" [] posts1,
    labelsEntity 1 "Mark1" "marks" [("marked1_id", "integer"), ("marked1_type", "string")]
      { name := "marked1", owner? := some 1, position := 0, declaredType := some "Post1|Tag1" },
    labelsEntity 2 "Label1" "labels" [("tag1_id", "integer")]
      { name := "tag1", owner? := some 2, position := 0, declaredType := some "Tag1"
        via := some "tag1_id", inverseOf := some "Tag1.posts1()" }]
  namespaces := OrderedMap.insert ∅ "\\App\\" "app/"

/-- The posts go via the marks, and point to the labels. -/
theorem parse_labelsText : Schema.parse {} labelsText = .ok labels :=
  eq_ok_of_toOption (by decide +kernel)

/-- The posts of the tag are described with an error of no family, and so their method points
aside. -/
theorem describe_or_hasFamily_labels :
    Schema.parse {} labelsText = .ok labels ∧ posts1 ∈ labels.methods ∧
      Tracked.evaluate (Relation.describe labels posts1) = .error .noMorphMethod ∧
        Relation.PointsAside labels posts1 := by
  have hmethod : posts1 ∈ labels.methods := List.mem_cons_self
  have hfails : Tracked.evaluate (Relation.describe labels posts1) = .error .noMorphMethod := by
    decide +kernel
  refine ⟨parse_labelsText, hmethod, hfails, ?_⟩
  obtain ⟨hposts, -⟩ := Relation.describe_or_hasFamily parse_labelsText hmethod true
  rcases hposts with ⟨description, hdescribed⟩ | ⟨error, herror, hallowed⟩
  · cases hfails.symm.trans hdescribed
  · obtain rfl : Error.noMorphMethod = error := Except.error.inj (hfails.symm.trans herror)
    rcases hallowed with hfamily | ⟨-, haside⟩
    · cases hfamily
    · exact haside

end Schema

end EntitySchema
