/-
What bare relations bring about.

Two opposite methods that say nothing about how the relation is held still have an effect on the
tables. If one side returns one and the other many, the side that returns one gets a foreign key
(`addMethodFields_of_belongsTo`), which is all that is added for bare methods. If both return many,
the first of the two by name asks for a pivot table (`impliedPivotTable_of_lt`). In both cases the
columns are those that convention names.

In `Relation.HasSides` such methods are looked at in a finished schema, where a belongs-to has its
column. Here they are looked at before, when the columns are about to be added, so the kinds are
computed from whether a column is there, given or not (`kind_of_hasConventionalColumn`,
`kind_of_lacksConventionalColumn`). This makes it possible to compute what adding the implied fields
does to such a pair, and not only to say what holds afterwards.

That one table is asked for, and not two or none, needs the names of the two owners to differ: the
comparison that makes one side the first is strict. A relation between an entity and itself is
therefore outside of `asksOnce`, and what happens there is told in `Migration.PivotCoverage`.
-/
import EntitySchema.Proofs.Relation.HasSides
import EntitySchema.Proofs.Relation.ManyToMany

set_option autoImplicit false

namespace EntitySchema

open Outcome

namespace Relation

variable {schema : Schema} {method other : Method}

/-- The pivot table that convention names has the singular names of both tables, the smaller one
first. In this form it is plain that the order of the sides does not matter. -/
theorem conventionalPivotTable_eq (table other : String) :
    conventionalPivotTable table other =
      min (singularize table) (singularize other) ++ "_" ++
        max (singularize table) (singularize other) := by
  simp only [conventionalPivotTable]
  rcases lt_or_ge (singularize other) (singularize table) with hlt | hle
  · rw [if_pos hlt, min_eq_right hlt.le, max_eq_left hlt.le]
  · rw [if_neg (not_lt_of_ge hle), min_eq_left hle, max_eq_right hle]

/-- Of two methods one asks for a pivot table and the other for none. Which of them it is depends on
the names of their owners. -/
def AsksOnce (schema : Schema) (method other : Method) (pivot : Table) : Prop :=
  impliedPivotTable (m := Except Error) schema method = .ok (some pivot) ∧
      impliedPivotTable (m := Except Error) schema other = .ok none ∨
    impliedPivotTable (m := Except Error) schema method = .ok none ∧
      impliedPivotTable (m := Except Error) schema other = .ok (some pivot)

namespace Bare

/-! ## Fields -/

/-- A side that returns one and has its column is a belongs-to. -/
theorem kind_of_hasConventionalColumn (h : Bare schema method other)
    (hone : method.returnsOne = true) (hcolumn : hasConventionalColumn schema method = true) :
    Relation.kind (m := Except Error) schema method = .ok .belongsTo := by
  rw [kind_eq_singleKind hone h.plain.notPolymorphic h.isJoinedByPivot,
    singleKind_of_foreignKeyExists (by rw [h.foreignKeyExists, hcolumn])]

/-- Before there is a column on either side, the side that returns one is a belongs-to if the other
returns many. This is the answer on which the column is added. -/
theorem kind_of_lacksConventionalColumn (h : Bare schema method other)
    (hone : method.returnsOne = true) (hmany : other.returnsMany = true)
    (habsent : hasConventionalColumn schema method = false)
    (habsentOther : hasConventionalColumn schema other = false) :
    Relation.kind (m := Except Error) schema method = .ok .belongsTo := by
  rw [kind_eq_singleKind hone h.plain.notPolymorphic h.isJoinedByPivot,
    singleKind_of_leavesKeyTo (h.leavesKeyTo habsent), h.symm.claimsForeignKey, ok_bind,
    h.symm.foreignKeyExists, habsentOther, ok_bind, hmany]
  rfl

/-- Nothing but a foreign key is added for a bare method. The three steps before it leave the schema
as it is, and an error would carry that schema along. -/
theorem addMethodFields_eq (h : Bare schema method other) :
    schema.addMethodFields method = (schema.addForeignKey method).mapError (⟨schema, ·⟩) := by
  have hvia : schema.addViaColumn method = .ok schema := by
    rw [Schema.addViaColumn, h.plain.goesViaColumn, ok_bind, h.plain.notVia]
    rfl
  have hjoin : schema.addJoinKey method = .ok schema := by
    rw [Schema.addJoinKey, ownJoinKey_eq_ok.2 ⟨none, h.ownJoinColumn, rfl⟩]
    rfl
  have hmorph : schema.addMorphFields method = schema := by
    rw [Schema.addMorphFields, h.plain.notPolymorphic, if_neg Bool.false_ne_true]
  rw [Schema.addMethodFields, hvia]
  change ((schema.addJoinKey method).mapError _ >>= _) = _
  rw [hjoin]
  change ((schema.addMorphFields method).addForeignKey method).mapError _ = _
  rw [hmorph]

/-- For a side that returns many nothing is added. -/
theorem addMethodFields_of_returnsMany (h : Bare schema method other)
    (hmany : method.returnsMany = true) : schema.addMethodFields method = .ok schema := by
  have hnot : isBelongsTo (m := Except Error) schema method = .ok false := by
    unfold isBelongsTo Method.returnsOne
    rw [hmany]
    rfl
  rw [h.addMethodFields_eq, Schema.addForeignKey, hnot]
  rfl

/-- For a belongs-to the column is added that convention names. -/
theorem addMethodFields_of_belongsTo (h : Bare schema method other)
    (hone : method.returnsOne = true)
    (hkind : Relation.kind (m := Except Error) schema method = .ok .belongsTo) :
    schema.addMethodFields method = .ok
      (schema.addImpliedOf method (conventionalKey method) schema.config.foreignKeyType) := by
  have hbelongs : isBelongsTo (m := Except Error) schema method = .ok true := by
    unfold isBelongsTo
    rw [hone, if_pos rfl, hkind]
    rfl
  rw [h.addMethodFields_eq, Schema.addForeignKey, hbelongs, ok_bind, if_pos rfl, h.foreignKeyName]
  rfl

/-! ## Pivot tables -/

/-- Two sides that return many are a many-to-many, seen from a side that does not return its own
entity. -/
theorem kind_of_bothMany (h : Bare schema method other) (hmany : method.returnsMany = true)
    (hmanyOther : other.returnsMany = true) (hown : returnsOwnEntity schema method = false) :
    Relation.kind (m := Except Error) schema method = .ok .belongsToMany := by
  rw [h.kind_of_returnsMany hmany, if_pos ⟨hmanyOther, hown⟩]

/-- The two sides share their join, which is none. -/
theorem sharesJoin (h : Bare schema method other) : SharesJoin schema method other none := by
  have hshares := h.toOpposite.sharesJoin (.inl h.plain.notJoined)
  rwa [h.plain.notJoined, h.plainOther.notJoined] at hshares

/-- Each side contributes the key that convention names. Without a join there is no column that
could be given instead. -/
theorem pivotKey (h : Bare schema method other) :
    pivotKey (m := Except Error) schema method = .ok (conventionalKey method) := by
  unfold Relation.pivotKey
  rw [h.joinOfEitherSide]
  rfl

/-- The pivot table has a column for each side, the own one first, and a column may be null if the
method of its side says so. -/
theorem pivotColumns (h : Bare schema method other) :
    pivotColumns (m := Except Error) schema method =
      .ok [(conventionalKey method, method.nullable.getD false),
        (conventionalKey other, other.nullable.getD false)] :=
  (pivotColumns_eq_ok_iff h.inverse_eq).2
    ⟨conventionalKey method, conventionalKey other, h.pivotKey, h.symm.pivotKey, rfl⟩

/-- The first side asks for the table that convention names, and the second side for none. The table
must not be that of an entity, since an entity in its place would serve as the pivot. -/
theorem impliedPivotTable_of_lt (h : Bare schema method other)
    (hkind : Relation.kind (m := Except Error) schema method = .ok .belongsToMany)
    (hkindOther : Relation.kind (m := Except Error) schema other = .ok .belongsToMany)
    (hlt : (schema.owner method).shortName < (schema.owner other).shortName) {name : String}
    (hname : conventionalPivotTable (schema.owner method).table (schema.owner other).table = name)
    (hfree : schema.entityStoredIn? name = none) :
    ∃ pivot : Table, pivot.name = name ∧
      pivot.columnNames = [conventionalKey method, conventionalKey other] ∧
      impliedPivotTable (m := Except Error) schema method = .ok (some pivot) ∧
      impliedPivotTable (m := Except Error) schema other = .ok none := by
  have hfirst := isFirstSide_eq h.inverse_eq
  have hsecond := isFirstSide_eq h.inverse_other
  rw [decide_eq_true hlt] at hfirst
  rw [decide_eq_false (lt_asymm hlt)] at hsecond
  have htable : pivotTableOf (m := Except Error) schema method = .ok name := by
    rw [h.sharesJoin.pivotTableOf_eq, ← hname]
    rfl
  exact ⟨_, rfl, rfl, impliedPivotTable_of_first hkind hfirst htable hfree h.pivotColumns,
    impliedPivotTable_of_second hkindOther hsecond⟩

/-- Of two sides of differently named entities one asks for the table. The columns are given up to
order, as the side that asks puts its own column first. -/
theorem asksOnce (h : Bare schema method other)
    (hkind : Relation.kind (m := Except Error) schema method = .ok .belongsToMany)
    (hkindOther : Relation.kind (m := Except Error) schema other = .ok .belongsToMany)
    (howners : (schema.owner method).shortName ≠ (schema.owner other).shortName) {name : String}
    (hname : conventionalPivotTable (schema.owner method).table (schema.owner other).table = name)
    (hfree : schema.entityStoredIn? name = none) :
    ∃ pivot : Table, pivot.name = name ∧
      pivot.columnNames.Perm [conventionalKey method, conventionalKey other] ∧
      AsksOnce schema method other pivot := by
  rcases lt_or_gt_of_ne howners with hlt | hgt
  · obtain ⟨pivot, hpivot, hcolumns, hasks, hnot⟩ :=
      h.impliedPivotTable_of_lt hkind hkindOther hlt hname hfree
    exact ⟨pivot, hpivot, hcolumns ▸ .refl _, .inl ⟨hasks, hnot⟩⟩
  · -- the other side is the first one, and the table has the columns the other way round
    rw [conventionalPivotTable_comm] at hname
    obtain ⟨pivot, hpivot, hcolumns, hasks, hnot⟩ :=
      h.symm.impliedPivotTable_of_lt hkindOther hkind hgt hname hfree
    exact ⟨pivot, hpivot, hcolumns ▸ .swap _ _ _, .inr ⟨hnot, hasks⟩⟩

end Bare

end Relation

/-- The only method of an entity asks for all of its pivot tables. -/
theorem impliedPivotTables_of_single {schema : Schema} {method : Method} {entity : Entity}
    (honly : entity.methods = [method]) {asked : Option Table}
    (hasked : impliedPivotTable (m := Except Error) schema method = .ok asked) :
    impliedPivotTables (m := Except Error) schema entity = .ok asked.toList := by
  unfold impliedPivotTables
  rw [honly, List.mapM_cons, hasked, ok_bind]
  cases asked <;> rfl

end EntitySchema
