/-
Kinds of methods that return one.

The kind of a method that returns one is asked for while fields are still being added, since a
belongs-to implies a column. This file takes such an answer apart, and compares the answers of an
earlier schema with those of a later one.

A method `LeavesKeyTo` its inverse when nothing about itself, and nothing that the inverse says,
puts the foreign key into its own table. Then the answer hangs on whether the inverse claims the
key, and that is the one answer that growth can take back: a join of the inverse that names `id`
claims the key as long as `id` is no primary key of the other entity, and no longer afterwards.
`LosesKey` is the situation in which this happens and nothing else holds the key.

The comparison goes answer by answer. A column that is there stays there. A claim on the key stays
if the entity does not lack a primary key, and a claim that is not made is not made later; a claim
that is made by an entity which still lacks a key may be withdrawn, and `claimsForeignKey_true` says
in which single way. Put together they give `isResolved_of_ne_belongsTo` and
`isResolved_of_belongsTo`: whatever kind was found at the turn of a method, the method `IsResolved`
in every later schema or it `LosesKey`.

The two outcomes exclude each other (`LosesKey.not_isResolved`), which is why the condition that
comes out of this in `Implied.Idempotence` is an exact one.
-/
import EntitySchema.Proofs.Implied.Growth

set_option autoImplicit false

namespace EntitySchema

open Outcome

/-! ## The kind of a method that returns one -/

namespace Relation

variable {schema : Schema} {method inverseMethod : Method}

/-- Neither a method nor its inverse puts the foreign key into the table of the method. The column
is not there, the method does not claim it, and the join of the inverse does not name it. -/
structure LeavesKeyTo (schema : Schema) (method inverseMethod : Method) : Prop where
  isAbsent : foreignKeyExists (m := Except Error) schema method = .ok false
  notClaimed : claimsForeignKey (m := Except Error) schema method = .ok false
  inverse_eq : inverse (m := Except Error) schema method = .ok inverseMethod
  notGiven :
    joinKeyIn (m := Except Error) schema inverseMethod (schema.owner method).shortName = .ok none

/-- A key that exists is a name and a field. The name is found without the fields, so only the
second half depends on the moment. -/
theorem foreignKeyExists_eq_ok {exists_ : Bool} :
    foreignKeyExists (m := Except Error) schema method = .ok exists_ ↔
      ∃ column, foreignKeyName (m := Except Error) schema method = .ok column ∧
        (schema.owner method).hasField column = exists_ := by
  unfold foreignKeyExists
  exact bind_pure_eq_ok

/-- An entity that has the column holds the key. This is asked first, so nothing else matters
then. -/
theorem singleKind_of_foreignKeyExists
    (h : foreignKeyExists (m := Except Error) schema method = .ok true) :
    singleKind (m := Except Error) schema method = .ok .belongsTo := by
  obtain ⟨column, hcolumn, hfield⟩ := foreignKeyExists_eq_ok.1 h
  unfold singleKind
  rw [hcolumn, ok_bind, hfield]
  rfl

/-- What the kind of a method that leaves the key to its inverse hangs on. Three questions about the
inverse are left, in this order, and the last of them decides between a belongs-to and an error. -/
theorem singleKind_of_leavesKeyTo (h : LeavesKeyTo schema method inverseMethod) :
    singleKind (m := Except Error) schema method = (do
      if ← claimsForeignKey schema inverseMethod then return .hasOne
      if ← foreignKeyExists schema inverseMethod then return .hasOne
      if inverseMethod.returnsMany then return .belongsTo
      throw (.ambiguousOneToOne (schema.owner method).shortName
        (schema.owner inverseMethod).shortName)) := by
  obtain ⟨column, hcolumn, hfield⟩ := foreignKeyExists_eq_ok.1 h.isAbsent
  have hattempt : LookupMonad.attempt Error.isMissingInverse
      (inverse (m := Except Error) schema method) = .ok (some inverseMethod) :=
    LookupMonad.attempt_eq_some.2 h.inverse_eq
  unfold singleKind singleKindFromInverse
  rw [hcolumn, ok_bind, hfield, h.notClaimed, hattempt]
  simp only [ok_bind, Bool.false_eq_true, if_false, h.notGiven, Option.isSome_none]

/-- The kind of a method that returns one is a belongs-to, or the key is left to the inverse and
held there. The proof goes down the rule question by question; on the way down it collects what
`LeavesKeyTo` asks for. -/
theorem singleKind_cases {kind : RelationKind}
    (h : singleKind (m := Except Error) schema method = .ok kind) :
    kind = .belongsTo ∨
      kind = .hasOne ∧ ∃ inverseMethod, LeavesKeyTo schema method inverseMethod ∧
        (claimsForeignKey (m := Except Error) schema inverseMethod = .ok true ∨
          claimsForeignKey (m := Except Error) schema inverseMethod = .ok false ∧
            foreignKeyExists (m := Except Error) schema inverseMethod = .ok true) := by
  unfold singleKind at h
  obtain ⟨column, hcolumn, h⟩ := bind_eq_ok.1 h
  split at h
  · -- the column is there already
    exact .inl (Except.ok.inj h).symm
  · next hfield =>
    obtain ⟨claims, hclaims, h⟩ := bind_eq_ok.1 h
    split at h
    · -- the method claims the key itself
      exact .inl (Except.ok.inj h).symm
    · next hclaimed =>
      obtain ⟨found, hfound, h⟩ := bind_eq_ok.1 h
      cases found with
      | none =>
        -- without an inverse there is only an error
        obtain ⟨name, -, h⟩ := bind_eq_ok.1 h
        cases h
      | some inverseMethod =>
        simp only [singleKindFromInverse] at h
        obtain ⟨key, hkey, h⟩ := bind_eq_ok.1 h
        cases key with
        | some column => exact .inl (Except.ok.inj h).symm
        | none =>
          -- from here on the key is left to the inverse, and all hangs on what it holds
          have hleaves : LeavesKeyTo schema method inverseMethod := by
            refine ⟨?_, ?_, LookupMonad.attempt_eq_some.1 hfound, hkey⟩
            · exact foreignKeyExists_eq_ok.2 ⟨column, hcolumn, Bool.eq_false_iff.2 hfield⟩
            · rw [hclaims, Bool.eq_false_iff.2 hclaimed]
          obtain ⟨claimsBack, hback, h⟩ := bind_eq_ok.1 h
          cases claimsBack with
          | true => exact .inr ⟨(Except.ok.inj h).symm, inverseMethod, hleaves, .inl hback⟩
          | false =>
            obtain ⟨existsBack, hexists, h⟩ := bind_eq_ok.1 h
            cases existsBack with
            | true =>
              exact .inr ⟨(Except.ok.inj h).symm, inverseMethod, hleaves, .inr ⟨hback, hexists⟩⟩
            | false =>
              rw [if_neg Bool.false_ne_true] at h
              split at h
              · exact .inl (Except.ok.inj h).symm
              · cases h

/-- A method with several types may return any of them, and no other question is asked. -/
theorem kind_of_isPolymorphic (hpoly : method.isPolymorphic = true) :
    Relation.kind (m := Except Error) schema method = .ok .morphTo := by
  change computeKind (m := Except Error) schema method = .ok .morphTo
  unfold computeKind
  rw [if_pos hpoly]
  rfl

/-- A join through a pivot table decides next, also for a method that returns one. -/
theorem kind_of_isJoinedByPivot (hpoly : method.isPolymorphic = false)
    (hjoined : isJoinedByPivot (m := Except Error) schema method = .ok true) :
    Relation.kind (m := Except Error) schema method = .ok .belongsToMany := by
  change computeKind (m := Except Error) schema method = .ok .belongsToMany
  unfold computeKind
  rw [hpoly, hjoined]
  rfl

/-- All other methods that return one go by where the foreign key is. -/
theorem kind_eq_singleKind (hone : method.returnsOne = true)
    (hpoly : method.isPolymorphic = false)
    (hjoined : isJoinedByPivot (m := Except Error) schema method = .ok false) :
    Relation.kind (m := Except Error) schema method = singleKind schema method := by
  change computeKind (m := Except Error) schema method = singleKind schema method
  unfold computeKind
  rw [hpoly, hjoined, hone]
  rfl

/-- What decides the kind of a method that returns one. The three ways exclude each other, and in
the first two the kind does not depend on any field. -/
theorem kind_cases {kind : RelationKind} (hone : method.returnsOne = true)
    (h : Relation.kind (m := Except Error) schema method = .ok kind) :
    method.isPolymorphic = true ∧ kind = .morphTo ∨
      method.isPolymorphic = false ∧
        (isJoinedByPivot (m := Except Error) schema method = .ok true ∧ kind = .belongsToMany ∨
          isJoinedByPivot (m := Except Error) schema method = .ok false ∧
            singleKind (m := Except Error) schema method = .ok kind) := by
  cases hpoly : method.isPolymorphic with
  | true =>
    rw [kind_of_isPolymorphic hpoly] at h
    exact .inl ⟨rfl, (Except.ok.inj h).symm⟩
  | false =>
    have hkind : computeKind (m := Except Error) schema method = .ok kind := h
    unfold computeKind at hkind
    rw [hpoly] at hkind
    obtain ⟨joined, hjoined, -⟩ := bind_eq_ok.1 hkind
    refine .inr ⟨rfl, ?_⟩
    cases joined with
    | true =>
      rw [kind_of_isJoinedByPivot hpoly hjoined] at h
      exact .inl ⟨hjoined, (Except.ok.inj h).symm⟩
    | false =>
      rw [kind_eq_singleKind hone hpoly hjoined] at h
      exact .inr ⟨hjoined, h⟩

/-! ## Claims on the key -/

/-- The key of a join is its column, unless that is a primary key. -/
theorem ownJoinKey_eq_ok {key : Option String} :
    ownJoinKey (m := Except Error) schema method = .ok key ↔
      ∃ column, ownJoinColumn (m := Except Error) schema method = .ok column ∧
        column.filter (!(schema.owner method).primaryKeys.contains ·) = key := by
  unfold ownJoinKey
  exact bind_pure_eq_ok

/-- The key is claimed by `via` or by a join. Only the second claim depends on the fields, through
the primary keys of the owner. -/
theorem claimsForeignKey_eq_ok {claims : Bool} :
    claimsForeignKey (m := Except Error) schema method = .ok claims ↔
      schema.goesViaColumn method = .ok true ∧ claims = true ∨
        schema.goesViaColumn method = .ok false ∧
          ∃ key, ownJoinKey (m := Except Error) schema method = .ok key ∧
            key.isSome = claims := by
  unfold claimsForeignKey
  rw [bind_eq_ok, LookupMonad.lift_plain]
  constructor
  · rintro ⟨goes, hgoes, h⟩
    cases goes with
    | true => exact .inl ⟨hgoes, (Except.ok.inj h).symm⟩
    | false =>
      obtain ⟨key, hkey, h⟩ := bind_eq_ok.1 h
      exact .inr ⟨hgoes, key, hkey, Except.ok.inj h⟩
  · rintro (⟨hgoes, rfl⟩ | ⟨hgoes, key, hkey, rfl⟩)
    · exact ⟨true, hgoes, rfl⟩
    · exact ⟨false, hgoes, bind_eq_ok.2 ⟨key, hkey, rfl⟩⟩

/-- A join that names a primary key claims nothing. After `id` has been implied, this is what
becomes of a join that names it. -/
theorem claimsForeignKey_of_mem_primaryKeys {column : String}
    (hvia : schema.goesViaColumn method = .ok false)
    (hcolumn : ownJoinColumn (m := Except Error) schema method = .ok (some column))
    (hkey : column ∈ (schema.owner method).primaryKeys) :
    claimsForeignKey (m := Except Error) schema method = .ok false := by
  refine claimsForeignKey_eq_ok.2 (.inr ⟨hvia, none, ?_, rfl⟩)
  refine ownJoinKey_eq_ok.2 ⟨some column, hcolumn, ?_⟩
  simp [hkey]

end Relation

/-! ## Earlier and later answers -/

/-- The primary key `id` of an entity is implied: no line declares a primary key or a field of
that name. -/
structure Entity.ImpliesId (entity : Entity) : Prop where
  isKey : "id" ∈ entity.primaryKeys
  notDeclared : ∀ field ∈ entity.declaredFields, field.primaryKey = false ∧ field.name ≠ "id"

/-- While an entity lacks a key, no field that its lines declare is a primary key or is called `id`.
Growth does not change the declared fields, so this remains true of them. -/
theorem Entity.LacksKey.notDeclared {entity : Entity} (h : entity.LacksKey) :
    ∀ field ∈ entity.declaredFields, field.primaryKey = false ∧ field.name ≠ "id" := by
  intro field hfield
  have hmem : field ∈ entity.fields := (List.mem_filter.1 hfield).1
  constructor
  · cases hkey : field.primaryKey with
    | false => rfl
    | true =>
      have hname : field.name ∈ entity.primaryKeys :=
        List.mem_map_of_mem (List.mem_filter.2 ⟨hmem, hkey⟩)
      rw [h.1] at hname
      cases hname
  · intro hname
    have hid : entity.hasField "id" = true := Entity.hasField_iff.2 ⟨field, hmem, hname⟩
    rw [h.2] at hid
    cases hid

open EntitySchema.Relation

namespace Schema.Grows

variable {before after : Schema} {method : Method}

/-- A column that exists still exists later. Its name is the same, and no field is lost. -/
theorem foreignKeyExists (h : before.Grows after)
    (hexists : Relation.foreignKeyExists (m := Except Error) before method = .ok true) :
    Relation.foreignKeyExists (m := Except Error) after method = .ok true := by
  obtain ⟨column, hcolumn, hfield⟩ := foreignKeyExists_eq_ok.1 hexists
  refine foreignKeyExists_eq_ok.2 ⟨column, ?_, (h.owner method).hasField hfield⟩
  rw [h.foreignKeyName_eq, hcolumn]

/-- The key of a join stays the same, once the entity does not lack a primary key. -/
theorem ownJoinKey_eq (h : before.Grows after) (hkey : ¬ (before.owner method).LacksKey) :
    ownJoinKey (m := Except Error) after method = ownJoinKey before method := by
  unfold ownJoinKey
  rw [h.ownJoinColumn_eq, (h.owner method).primaryKeys_eq hkey]

/-- Whether the key is claimed stays the same, once the entity does not lack a primary key. -/
theorem claimsForeignKey_eq (h : before.Grows after) (hkey : ¬ (before.owner method).LacksKey) :
    claimsForeignKey (m := Except Error) after method = claimsForeignKey before method := by
  unfold claimsForeignKey
  rw [h.goesViaColumn_eq, h.ownJoinKey_eq hkey]

/-- A key that is not claimed is not claimed later either: a join that names a primary key still
does. -/
theorem claimsForeignKey_false (h : before.Grows after)
    (hclaims : claimsForeignKey (m := Except Error) before method = .ok false) :
    claimsForeignKey (m := Except Error) after method = .ok false := by
  rcases claimsForeignKey_eq_ok.1 hclaims with ⟨-, ⟨⟩⟩ | ⟨hgoes, key, hkey, hnone⟩
  by_cases hlacks : (before.owner method).LacksKey
  · -- with no primary keys at all the join can only name nothing
    obtain ⟨column, hcolumn, rfl⟩ := ownJoinKey_eq_ok.1 hkey
    refine claimsForeignKey_eq_ok.2 (.inr ⟨?_, none, ownJoinKey_eq_ok.2 ⟨column, ?_, ?_⟩, rfl⟩)
    · rw [h.goesViaColumn_eq, hgoes]
    · rw [h.ownJoinColumn_eq, hcolumn]
    · cases column with
      | none => rfl
      | some name =>
        rw [hlacks.1] at hnone
        cases hnone
  · rw [h.claimsForeignKey_eq hlacks, hclaims]

/-- **The claim that growth takes back.** A key that is claimed is still claimed later, unless the
claim came from a join that names `id` and `id` has become the implied primary key. -/
theorem claimsForeignKey_true (h : before.Grows after)
    (hclaims : claimsForeignKey (m := Except Error) before method = .ok true) :
    claimsForeignKey (m := Except Error) after method = .ok true ∨
      after.goesViaColumn method = .ok false ∧
        ownJoinColumn (m := Except Error) after method = .ok (some "id") ∧
          (after.owner method).ImpliesId := by
  by_cases hlacks : (before.owner method).LacksKey
  · -- only here can the primary keys have changed, and then to the implied one
    have hgrows := h.owner method
    rcases claimsForeignKey_eq_ok.1 hclaims with ⟨hgoes, -⟩ | ⟨hgoes, key, hkey, hsome⟩
    · refine .inl (claimsForeignKey_eq_ok.2 (.inl ⟨?_, rfl⟩))
      rw [h.goesViaColumn_eq, hgoes]
    · rcases hgrows.primaryKeys with heq | ⟨-, hid⟩
      · refine .inl (claimsForeignKey_eq_ok.2 (.inr ⟨?_, key, ?_, hsome⟩))
        · rw [h.goesViaColumn_eq, hgoes]
        · rw [← hkey]
          unfold ownJoinKey
          rw [h.ownJoinColumn_eq, heq]
      · obtain ⟨column, hcolumn, rfl⟩ := ownJoinKey_eq_ok.1 hkey
        rw [← h.goesViaColumn_eq] at hgoes
        rw [← h.ownJoinColumn_eq] at hcolumn
        cases column with
        | none => cases hsome
        | some name =>
          by_cases hname : name = "id"
          · refine .inr ⟨hgoes, hname ▸ hcolumn, ?_, ?_⟩
            · rw [hid]
              exact List.mem_singleton_self _
            · rw [hgrows.declared_eq]
              exact hlacks.notDeclared
          · refine .inl (claimsForeignKey_eq_ok.2 (.inr ⟨hgoes, some name, ?_, rfl⟩))
            refine ownJoinKey_eq_ok.2 ⟨some name, hcolumn, ?_⟩
            simp [hid, hname]
  · rw [h.claimsForeignKey_eq hlacks]
    exact .inl hclaims

end Schema.Grows

/-! ## Resolved methods -/

/-- The kind of a method is known, and a belongs-to has its column. This is what the work is to
achieve for a method that returns one. -/
def Schema.IsResolved (schema : Schema) (method : Method) : Prop :=
  ∃ kind, Relation.kind (m := Except Error) schema method = .ok kind ∧
    (kind = .belongsTo → foreignKeyExists (m := Except Error) schema method = .ok true)

/-- A method whose column is there is resolved: it is a belongs-to, unless it is polymorphic or
joined through a pivot table. -/
theorem Schema.isResolved_of_foreignKeyExists {schema : Schema} {method : Method}
    (hone : method.returnsOne = true) (hpoly : method.isPolymorphic = false)
    (hjoined : isJoinedByPivot (m := Except Error) schema method = .ok false)
    (hexists : foreignKeyExists (m := Except Error) schema method = .ok true) :
    schema.IsResolved method := by
  refine ⟨.belongsTo, ?_, fun _ => hexists⟩
  rw [kind_eq_singleKind hone hpoly hjoined, singleKind_of_foreignKeyExists hexists]

/-! ## Losing the key -/

/-- A method that returns one leaves the key to its inverse. The inverse claims it by nothing but a
join that names `id`, and `id` has become the implied primary key since, so that in the end neither
side holds the key. -/
structure Schema.LosesKey (schema : Schema) (method inverseMethod : Method) : Prop where
  returnsOne : method.returnsOne = true
  notPolymorphic : method.isPolymorphic = false
  notPivot : isJoinedByPivot (m := Except Error) schema method = .ok false
  leavesKeyTo : LeavesKeyTo schema method inverseMethod
  notVia : schema.goesViaColumn inverseMethod = .ok false
  joinsById : ownJoinColumn (m := Except Error) schema inverseMethod = .ok (some "id")
  impliesId : (schema.owner inverseMethod).ImpliesId
  isAbsent : foreignKeyExists (m := Except Error) schema inverseMethod ≠ .ok true

namespace Schema.LosesKey

variable {schema : Schema} {method inverseMethod : Method}

/-- The primary key `id` is no foreign key. -/
theorem notClaimed (h : schema.LosesKey method inverseMethod) :
    claimsForeignKey (m := Except Error) schema inverseMethod = .ok false :=
  claimsForeignKey_of_mem_primaryKeys h.notVia h.joinsById h.impliesId.isKey

/-- A method that loses its key is not resolved: its kind is not known, or it is a belongs-to
without a column. -/
theorem not_isResolved (h : schema.LosesKey method inverseMethod) : ¬ schema.IsResolved method := by
  rintro ⟨kind, hkind, hbelongs⟩
  have hkey : kind ≠ .belongsTo := by
    intro heq
    have hexists := hbelongs heq
    rw [h.leavesKeyTo.isAbsent] at hexists
    cases hexists
  -- the kind was found in one of three ways, and none of them is open to the method
  rcases kind_cases h.returnsOne hkind with ⟨hpoly, -⟩ | ⟨-, ⟨hjoined, -⟩ | ⟨-, hsingle⟩⟩
  · rw [h.notPolymorphic] at hpoly
    cases hpoly
  · rw [h.notPivot] at hjoined
    cases hjoined
  · rcases singleKind_cases hsingle with heq | ⟨-, other, hleaves, hheld⟩
    · exact hkey heq
    · have hsame : inverseMethod = other :=
        Except.ok.inj (h.leavesKeyTo.inverse_eq.symm.trans hleaves.inverse_eq)
      subst hsame
      rcases hheld with hclaims | ⟨-, hexists⟩
      · rw [h.notClaimed] at hclaims
        cases hclaims
      · exact h.isAbsent hexists

end Schema.LosesKey

namespace Schema.Grows

variable {before after : Schema} {method inverseMethod : Method}

/-- A key that is left to the inverse is still left to it later, unless the entity has got the
column in the meantime. -/
theorem leavesKeyTo (h : before.Grows after) (hkey : ¬ (before.owner method).LacksKey)
    (hleaves : LeavesKeyTo before method inverseMethod) :
    Relation.foreignKeyExists (m := Except Error) after method = .ok true ∨
      LeavesKeyTo after method inverseMethod := by
  obtain ⟨column, hcolumn, -⟩ := foreignKeyExists_eq_ok.1 hleaves.isAbsent
  rw [← h.foreignKeyName_eq] at hcolumn
  cases hfield : (after.owner method).hasField column with
  | true => exact .inl (foreignKeyExists_eq_ok.2 ⟨column, hcolumn, hfield⟩)
  | false =>
    refine .inr ⟨foreignKeyExists_eq_ok.2 ⟨column, hcolumn, hfield⟩, ?_, ?_, ?_⟩
    · rw [h.claimsForeignKey_eq hkey, hleaves.notClaimed]
    · rw [h.inverse_eq, hleaves.inverse_eq]
    · rw [h.joinKeyIn_eq, h.shortName_eq, hleaves.notGiven]

/-- **A kind that was found, later.** Once the entity of the method does not lack a primary key, a
kind other than a belongs-to is found again, or the entity has got the column, or the key is
lost. -/
theorem isResolved_of_ne_belongsTo (h : before.Grows after)
    (hkey : ¬ (before.owner method).LacksKey) (hone : method.returnsOne = true)
    {kind : RelationKind} (hkind : Relation.kind (m := Except Error) before method = .ok kind)
    (hbelongs : kind ≠ .belongsTo) :
    after.IsResolved method ∨ ∃ inverseMethod, after.LosesKey method inverseMethod := by
  have hsame : Relation.kind (m := Except Error) after method = .ok kind →
      after.IsResolved method := fun hagain => ⟨kind, hagain, fun heq => absurd heq hbelongs⟩
  rcases kind_cases hone hkind with ⟨hpoly, rfl⟩ | ⟨hpoly, ⟨hjoined, rfl⟩ | ⟨hjoined, hsingle⟩⟩
  · exact .inl (hsame (kind_of_isPolymorphic hpoly))
  · rw [← h.isJoinedByPivot_eq] at hjoined
    exact .inl (hsame (kind_of_isJoinedByPivot hpoly hjoined))
  · rw [← h.isJoinedByPivot_eq] at hjoined
    rcases singleKind_cases hsingle with heq | ⟨rfl, inverseMethod, hbefore, hheld⟩
    · exact absurd heq hbelongs
    -- the method was a has-one because its inverse held the key: does it still?
    rcases h.leavesKeyTo hkey hbefore with hexists | hleaves
    · exact .inl (isResolved_of_foreignKeyExists hone hpoly hjoined hexists)
    rw [kind_eq_singleKind hone hpoly hjoined, singleKind_of_leavesKeyTo hleaves] at hsame
    rcases hheld with hclaims | ⟨hclaims, hexists⟩
    · rcases h.claimsForeignKey_true hclaims with hstill | ⟨hvia, hcolumn, hid⟩
      · rw [hstill] at hsame
        exact .inl (hsame rfl)
      · -- the claim is gone, and only the column itself can still hold the key
        by_cases hexists :
          Relation.foreignKeyExists (m := Except Error) after inverseMethod = .ok true
        · rw [claimsForeignKey_of_mem_primaryKeys hvia hcolumn hid.isKey, hexists] at hsame
          exact .inl (hsame rfl)
        · exact .inr ⟨inverseMethod, hone, hpoly, hjoined, hleaves, hvia, hcolumn, hid, hexists⟩
    · rw [h.claimsForeignKey_false hclaims, h.foreignKeyExists hexists] at hsame
      exact .inl (hsame rfl)

/-- A belongs-to that has got its column is one later. The column was added because of the kind, and
from then on the kind is found because of the column. -/
theorem kind_eq_belongsTo (h : before.Grows after) (hone : method.returnsOne = true)
    (hkind : Relation.kind (m := Except Error) before method = .ok .belongsTo)
    (hexists : Relation.foreignKeyExists (m := Except Error) after method = .ok true) :
    Relation.kind (m := Except Error) after method = .ok .belongsTo := by
  rcases kind_cases hone hkind with ⟨-, ⟨⟩⟩ | ⟨hpoly, ⟨-, ⟨⟩⟩ | ⟨hjoined, -⟩⟩
  rw [← h.isJoinedByPivot_eq] at hjoined
  rw [kind_eq_singleKind hone hpoly hjoined, singleKind_of_foreignKeyExists hexists]

/-- So a belongs-to that has got its column is resolved, whatever is added after it. -/
theorem isResolved_of_belongsTo (h : before.Grows after) (hone : method.returnsOne = true)
    (hkind : Relation.kind (m := Except Error) before method = .ok .belongsTo)
    (hexists : Relation.foreignKeyExists (m := Except Error) after method = .ok true) :
    after.IsResolved method :=
  ⟨.belongsTo, h.kind_eq_belongsTo hone hkind hexists, fun _ => hexists⟩

end Schema.Grows

end EntitySchema
