/-
Two methods, each the other side of the other.

An inverse is found from the line of one method, and nothing in the rules asks whether it leads
back. Where it does, the two methods are `Opposite`, and they are two lines of one relation: they
look at the same two joins, one written on each side, and each asks the other about its fields. If
at most one of the joins is written, both sides see the same one, and this is what `SharesJoin`
says.

The facts here are used for relations of all kinds: what the join of either side is, when a relation
is a many-to-many, and which description a relation through a pivot table has. A relation and its
opposite are treated alike, so each fact is stated for one side and read off for the other.

The kinds of methods that return many are taken apart here, as those of methods that return one are
in `Implied.Kinds`. `DecidesMany` has one constructor for each way through the rule, with what was
seen on the way as its arguments. So a proof that is told a kind, by `kind_cases_of_returnsMany`,
learns the reason for it and need not follow the rule itself.

A method and its opposite may be one method, and two entities that are related to themselves are not
excluded either. Where the difference matters it is a hypothesis, on the methods or on the names of
their owners.
-/
import EntitySchema.Proofs.Implied.Kinds
import EntitySchema.Proofs.Tracking.Relations

set_option autoImplicit false

namespace EntitySchema

open Outcome

/-- A method returns one or many. -/
theorem Method.returnsOne_iff {method : Method} :
    method.returnsOne = true ↔ method.returnsMany = false := by
  rw [Method.returnsOne, Bool.not_eq_true']

namespace Relation

/-! ## Opposite methods -/

/-- Two methods are each other's inverse. Both directions are needed, since an inverse need not lead
back. -/
structure Opposite (schema : Schema) (method other : Method) : Prop where
  inverse_eq : inverse (m := Except Error) schema method = .ok other
  inverse_other : inverse (m := Except Error) schema other = .ok method

/-- Two methods are each other's inverse, and each of them sees the same join. Each prefers its own,
so two written joins that differ are not shared. -/
structure SharesJoin (schema : Schema) (method other : Method) (join : Option Join) : Prop
    extends Opposite schema method other where
  join_eq : method.join.or other.join = join
  join_other : other.join.or method.join = join

variable {schema : Schema} {method other : Method} {join : Option Join}

namespace Opposite

/-- The relation is symmetric. -/
theorem symm (h : Opposite schema method other) : Opposite schema other method :=
  ⟨h.inverse_other, h.inverse_eq⟩

/-- The first method is one of the schema, because it is an inverse. -/
theorem mem (h : Opposite schema method other) : method ∈ schema.methods :=
  mem_of_inverse h.inverse_other

/-- So is the second. -/
theorem mem_other (h : Opposite schema method other) : other ∈ schema.methods :=
  mem_of_inverse h.inverse_eq

/-- The lookups of a resolver that remembers find the same methods. The statements about documents
are made of these lookups, and their proofs begin here. -/
theorem of_evaluate (hplaced : schema.IsPlaced) (hmethod : method ∈ schema.methods)
    (hother : other ∈ schema.methods)
    (hinverse : Tracked.evaluate (inverse schema method) = .ok other)
    (hback : Tracked.evaluate (inverse schema other) = .ok method) :
    Opposite schema method other := by
  rw [evaluate_inverse hplaced hmethod] at hinverse
  rw [evaluate_inverse hplaced hother] at hback
  exact ⟨hinverse, hback⟩

/-- A join that is written on one side only is shared. -/
theorem sharesJoin (h : Opposite schema method other)
    (hsingle : method.join = none ∨ other.join = none) :
    SharesJoin schema method other (method.join.or other.join) := by
  refine ⟨h, rfl, ?_⟩
  rcases hsingle with hnone | hnone
  · rw [hnone, Option.or_none, Option.none_or]
  · rw [hnone, Option.or_none, Option.none_or]

end Opposite

/-- Whoever is put first, the join is the same. -/
theorem SharesJoin.symm (h : SharesJoin schema method other join) :
    SharesJoin schema other method join :=
  ⟨h.toOpposite.symm, h.join_other, h.join_eq⟩

/-! ## Joins -/

/-- The join of either side is the method's own one, or else that of its inverse. -/
theorem joinOfEitherSide_eq (h : inverse (m := Except Error) schema method = .ok other) :
    joinOfEitherSide (m := Except Error) schema method = .ok (method.join.or other.join) := by
  unfold joinOfEitherSide
  cases method.join with
  | some join => rfl
  | none =>
    have hfound : LookupMonad.attempt Error.isFailedLookup
        (inverse (m := Except Error) schema method) = .ok (some other) :=
      LookupMonad.attempt_eq_some.2 h
    rw [hfound]
    rfl

/-- If it is shared, it is found from either method. -/
theorem SharesJoin.joinOfEitherSide (h : SharesJoin schema method other join) :
    joinOfEitherSide (m := Except Error) schema method = .ok join := by
  rw [joinOfEitherSide_eq h.inverse_eq, h.join_eq]

/-- Whether it goes through a pivot table is read off the two lines. -/
theorem isJoinedByPivot_eq (h : inverse (m := Except Error) schema method = .ok other) :
    isJoinedByPivot (m := Except Error) schema method =
      .ok ((method.join.or other.join).any (·.isPivot)) := by
  unfold isJoinedByPivot
  rw [joinOfEitherSide_eq h]
  rfl

/-! ## Many-to-many relations -/

/-- Without a pivot table in a join, a method that returns one is no many-to-many. It is a
belongs-to or a has-one. -/
theorem singleKind_ne_belongsToMany :
    singleKind (m := Except Error) schema method ≠ .ok .belongsToMany := by
  intro h
  rcases singleKind_cases h with hbelongs | ⟨hhas, -⟩
  · cases hbelongs
  · cases hhas

/-- Without a pivot table in a join, a method that returns many is a many-to-many if it does not
return its own entity and the other side returns many as well. -/
theorem manyKind_eq_belongsToMany_iff
    (h : inverse (m := Except Error) schema method = .ok other) :
    manyKind (m := Except Error) schema method = .ok .belongsToMany ↔
      returnsOwnEntity schema method = false ∧ other.returnsMany = true := by
  unfold manyKind
  cases hown : returnsOwnEntity schema method with
  | true => simp [pure, Except.pure]
  | false =>
    rw [if_neg Bool.false_ne_true, h, ok_bind]
    cases hmany : other.returnsMany with
    | true => simp [pure, Except.pure]
    | false =>
      -- what is left leads to other kinds only, with an entity in between or without
      simp only [Bool.false_eq_true, if_false, and_false, iff_false]
      intro hkind
      obtain ⟨between, -, hkind⟩ := bind_eq_ok.1 hkind
      cases between with
      | none =>
        have hmorph := Except.ok.inj hkind
        split at hmorph <;> cases hmorph
      | some through =>
        dsimp only at hkind
        split at hkind
        · cases hkind
        · split at hkind
          · have hmorph := Except.ok.inj hkind
            split at hmorph <;> cases hmorph
          · cases hkind

/-- If a method that returns many is not polymorphic, and no pivot table decides, its kind goes by
the rule for many. -/
theorem kind_eq_manyKind (hmany : method.returnsMany = true) (hpoly : method.isPolymorphic = false)
    (hjoined : isJoinedByPivot (m := Except Error) schema method = .ok false) :
    Relation.kind (m := Except Error) schema method = manyKind schema method := by
  change computeKind (m := Except Error) schema method = manyKind schema method
  unfold computeKind Method.returnsOne
  rw [hpoly, hjoined, hmany]
  rfl

/-- What decides the kind of a method that returns many, when no pivot table does. -/
inductive DecidesMany (schema : Schema) (method : Method) : RelationKind → Prop where
  | ownEntity (hown : returnsOwnEntity schema method = true) : DecidesMany schema method .hasMany
  | manyBack {other : Method} (hinverse : inverse (m := Except Error) schema method = .ok other)
      (hmany : other.returnsMany = true) : DecidesMany schema method .belongsToMany
  | typeBack {other : Method} {between : Entity}
      (hinverse : inverse (m := Except Error) schema method = .ok other)
      (hbetween : schema.entityBetween method = .ok (some between))
      (hpoly : other.isPolymorphic = true) : DecidesMany schema method .morphToMany
  | typeOnwards {between : Entity} {candidate : Method}
      (hbetween : schema.entityBetween method = .ok (some between))
      (honly : between.methodsReturning method.singleType = [candidate])
      (hpoly : candidate.isPolymorphic = true) : DecidesMany schema method .morphedByMany
  | onwards {between : Entity} (hbetween : schema.entityBetween method = .ok (some between)) :
      DecidesMany schema method .hasManyThrough
  | type {other : Method} (hinverse : inverse (m := Except Error) schema method = .ok other)
      (hpoly : other.isPolymorphic = true) : DecidesMany schema method .morphMany
  | direct {other : Method} (hinverse : inverse (m := Except Error) schema method = .ok other)
      (hpoly : other.isPolymorphic = false) : DecidesMany schema method .hasMany

/-- Whatever kind the rule for many finds has one of these reasons. -/
theorem decidesMany_of_manyKind {kind : RelationKind}
    (h : manyKind (m := Except Error) schema method = .ok kind) :
    DecidesMany schema method kind := by
  unfold manyKind at h
  split at h
  · next hown =>
    obtain rfl := Except.ok.inj h
    exact .ownEntity hown
  · obtain ⟨other, hinverse, h⟩ := bind_eq_ok.1 h
    split at h
    · next hmany =>
      obtain rfl := Except.ok.inj h
      exact .manyBack hinverse hmany
    · obtain ⟨found, hfound, h⟩ := bind_eq_ok.1 h
      rw [LookupMonad.lift_plain] at hfound
      cases found with
      | some between =>
        dsimp only at h
        split at h
        · next hpoly =>
          obtain rfl := Except.ok.inj h
          exact .typeBack hinverse hfound hpoly
        · split at h
          · next candidate honly =>
            obtain rfl := Except.ok.inj h
            split
            · next hpoly => exact .typeOnwards hfound honly hpoly
            · exact .onwards hfound
          · obtain rfl := Except.ok.inj h
            exact .onwards hfound
      | none =>
        obtain rfl := Except.ok.inj h
        split
        · next hpoly => exact .type hinverse hpoly
        · next hpoly => exact .direct hinverse (Bool.eq_false_iff.2 hpoly)

/-- What decides the kind of a method that returns many, in the order in which it is asked: its
types, a pivot table in a join, and then what is behind it. -/
theorem kind_cases_of_returnsMany {kind : RelationKind} (hmany : method.returnsMany = true)
    (h : Relation.kind (m := Except Error) schema method = .ok kind) :
    kind = .morphTo ∨ kind = .belongsToMany ∨ DecidesMany schema method kind := by
  cases hpoly : method.isPolymorphic with
  | true =>
    rw [kind_of_isPolymorphic hpoly] at h
    exact .inl (Except.ok.inj h).symm
  | false =>
    have hcompute : computeKind (m := Except Error) schema method = .ok kind := h
    unfold computeKind at hcompute
    rw [hpoly] at hcompute
    obtain ⟨joined, hjoined, -⟩ := bind_eq_ok.1 hcompute
    cases joined with
    | true =>
      rw [kind_of_isJoinedByPivot hpoly hjoined] at h
      exact .inr (.inl (Except.ok.inj h).symm)
    | false =>
      rw [kind_eq_manyKind hmany hpoly hjoined] at h
      exact .inr (.inr (decidesMany_of_manyKind h))

/-- A belongs-to returns one. No way through the rule for many ends in it. -/
theorem returnsOne_of_belongsTo
    (h : Relation.kind (m := Except Error) schema method = .ok .belongsTo) :
    method.returnsOne = true := by
  rw [Method.returnsOne_iff]
  cases hmany : method.returnsMany with
  | false => rfl
  | true => rcases kind_cases_of_returnsMany hmany h with ⟨⟨⟩⟩ | ⟨⟨⟩⟩ | ⟨⟨⟩⟩

/-- A many-to-many returns no union of types. -/
theorem isPolymorphic_of_belongsToMany
    (h : Relation.kind (m := Except Error) schema method = .ok .belongsToMany) :
    method.isPolymorphic = false := by
  cases hpoly : method.isPolymorphic with
  | false => rfl
  | true =>
    rw [kind_of_isPolymorphic hpoly] at h
    cases h

/-- **When a relation is a many-to-many.** It is joined through a pivot table, or both sides return
many and the method does not return its own entity. -/
theorem kind_eq_belongsToMany_iff (hpoly : method.isPolymorphic = false)
    (h : inverse (m := Except Error) schema method = .ok other) :
    Relation.kind (m := Except Error) schema method = .ok .belongsToMany ↔
      (method.join.or other.join).any (·.isPivot) = true ∨
        method.returnsMany = true ∧ returnsOwnEntity schema method = false ∧
          other.returnsMany = true := by
  have hjoined := isJoinedByPivot_eq h
  cases hpivot : (method.join.or other.join).any (·.isPivot) with
  | true =>
    rw [hpivot] at hjoined
    simp [kind_of_isJoinedByPivot hpoly hjoined]
  | false =>
    rw [hpivot] at hjoined
    cases hmany : method.returnsMany with
    | true =>
      rw [kind_eq_manyKind hmany hpoly hjoined, manyKind_eq_belongsToMany_iff h]
      simp
    | false =>
      rw [kind_eq_singleKind (Method.returnsOne_iff.2 hmany) hpoly hjoined]
      simp [singleKind_ne_belongsToMany]

/-- If two sides share a join and one is a many-to-many, the other one is, unless it is polymorphic
or returns its own entity. These two are asked of each side by itself, and so they can differ. -/
theorem SharesJoin.kind_other (h : SharesJoin schema method other join)
    (hkind : Relation.kind (m := Except Error) schema method = .ok .belongsToMany)
    (hpolyOther : other.isPolymorphic = false)
    (hownOther : returnsOwnEntity schema other = false) :
    Relation.kind (m := Except Error) schema other = .ok .belongsToMany := by
  have hpoly := isPolymorphic_of_belongsToMany hkind
  rw [kind_eq_belongsToMany_iff hpoly h.inverse_eq, h.join_eq] at hkind
  rw [kind_eq_belongsToMany_iff hpolyOther h.inverse_other, h.join_other]
  rcases hkind with hpivot | ⟨hmany, -, hmanyOther⟩
  · exact .inl hpivot
  · exact .inr ⟨hmanyOther, hownOther, hmany⟩

end Relation

end EntitySchema
