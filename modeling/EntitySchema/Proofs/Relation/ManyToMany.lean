/-
The two sides of a many-to-many.

Both sides of a many-to-many go through one pivot table, and each side works out for itself which
one that is, which of its columns are whose, and whether it is its own business to ask for the
table. `manyToMany_agree` says that the two sides come to the same: if two methods of differently
named entities are each other's inverse and at most one of them has a join, then one is a
many-to-many exactly when the other is, both go through the same table, exactly one of them asks for
it, and the descriptions of the two sides mirror each other.

The argument is made once for a join that both sides share, whatever its shape. Joins and kinds are
settled in `Opposite`; what is added here is the name of the table, which does not depend on the
order of the sides, and the descriptions, which are put together from two `PivotSide`s, one for each
method. Exchanging the methods exchanges the sides, and that is all that mirroring is.

The hypotheses are where the sides could drift apart. With two joins each side would use its own. A
method that returns its own entity is a has-many from its own point of view and may be a
many-to-many from the other. And if the owners have one name neither of them comes first, so that
nobody asks for the table. That a description exists is not assumed: it may fail for want of a
primary key, and then it fails on both sides.

What is proved about `impliedPivotTable` here, for a side that comes first and for one that does
not, is used again for bare relations and for joins that are spelled out.
-/
import EntitySchema.Proofs.Relation.Opposite
import EntitySchema.Proofs.Tracking.Changes
import Mathlib.Data.String.Basic

set_option autoImplicit false

namespace EntitySchema

open Outcome

namespace Relation

variable {schema : Schema} {method other : Method} {join : Option Join}

/-! ## The pivot table -/

/-- The two tables come in alphabetical order, so it does not matter which is given first. -/
theorem conventionalPivotTable_comm (table other : String) :
    conventionalPivotTable table other = conventionalPivotTable other table := by
  simp only [conventionalPivotTable]
  rcases lt_trichotomy (singularize table) (singularize other) with hlt | heq | hgt
  · rw [if_neg (lt_asymm hlt), if_pos hlt]
  · rw [heq]
  · rw [if_pos hgt, if_neg (lt_asymm hgt)]

/-- The pivot table is that of the shared join, or else the one of convention. A side asks for its
own join first and then for that of the inverse, and finds the same both times. -/
theorem SharesJoin.pivotTableOf_eq (h : SharesJoin schema method other join) :
    pivotTableOf (m := Except Error) schema method =
      match join.filter (·.isPivot) with
      | some pivotJoin => pivotTableOfJoin schema pivotJoin
      | none =>
        .ok (conventionalPivotTable (schema.owner method).table (schema.owner other).table) := by
  unfold pivotTableOf
  rw [h.joinOfEitherSide, ok_bind]
  cases hpivot : join.filter (·.isPivot) with
  | some pivotJoin => rfl
  | none =>
    rw [h.inverse_eq, ok_bind, h.symm.joinOfEitherSide, ok_bind, hpivot]
    rfl

/-- Both sides go through the same pivot table. -/
theorem SharesJoin.pivotTableOf_other (h : SharesJoin schema method other join) :
    pivotTableOf (m := Except Error) schema other = pivotTableOf schema method := by
  rw [h.pivotTableOf_eq, h.symm.pivotTableOf_eq, conventionalPivotTable_comm]

/-- Both sides know the same entity behind the pivot table. -/
theorem SharesJoin.pivotEntityOf_other (h : SharesJoin schema method other join) :
    pivotEntityOf (m := Except Error) schema other = pivotEntityOf schema method := by
  unfold pivotEntityOf
  rw [h.pivotTableOf_other]

/-- The entity behind the pivot table is looked up by its table. -/
theorem pivotEntityOf_eq {table : String}
    (h : pivotTableOf (m := Except Error) schema method = .ok table) :
    pivotEntityOf (m := Except Error) schema method = .ok (schema.entityStoredIn? table) := by
  unfold pivotEntityOf
  rw [h]
  rfl

/-- A pivot table has the column of the method and that of its inverse. -/
theorem pivotColumns_eq_ok_iff (h : inverse (m := Except Error) schema method = .ok other)
    {columns : List (String × Bool)} :
    pivotColumns (m := Except Error) schema method = .ok columns ↔
      ∃ own others, pivotKey (m := Except Error) schema method = .ok own ∧
        pivotKey (m := Except Error) schema other = .ok others ∧
        [(own, method.nullable.getD false), (others, other.nullable.getD false)] = columns := by
  unfold pivotColumns
  rw [h, ok_bind, bind_eq_ok]
  simp only [bind_pure_eq_ok]
  constructor
  · rintro ⟨own, hown, others, hothers, hcolumns⟩
    exact ⟨own, others, hown, hothers, hcolumns⟩
  · rintro ⟨own, others, hown, hothers, hcolumns⟩
    exact ⟨own, hown, others, hothers, hcolumns⟩

/-! ## Descriptions -/

/-- What one side brings to a relation through a pivot table. Two of these make the description of a
many-to-many and the columns of its table. -/
structure PivotSide where
  /-- Its column of the pivot table. -/
  column : String
  /-- The only primary key of its entity. -/
  key : String
  deriving DecidableEq, Repr, Inhabited

/-- The side of a method: what the rules answer about it. -/
structure IsSideOf (schema : Schema) (method : Method) (side : PivotSide) : Prop where
  column_eq : pivotKey (m := Except Error) schema method = .ok side.column
  key_eq : (schema.owner method).primaryKeys = [side.key]

/-- The description of a many-to-many, put together from the sides of the method and its
inverse. -/
def describeSides (schema : Schema) (method other : Method) (table : String)
    (own others : PivotSide) : RelationDescription where
  entity := (schema.owner method).fullName
  method := method.name
  kind := .belongsToMany
  related := some (schema.owner other).fullName
  pivotTable := some table
  foreignPivotKey := some others.column
  relatedPivotKey := some own.column
  localKey := some own.key
  ownerKey := some others.key
  pivotEntity := (schema.entityStoredIn? table).map (·.fullName)
  pivotFields := ((schema.entityStoredIn? table).map (·.fieldNames)).getD []
  pivotAlias := method.pivotAlias
  withTimestamps := method.pivotWithTimestamps

end Relation

/-- An entity has an only primary key if its list of primary keys has one element. -/
theorem Entity.onlyPrimaryKey_eq_ok_iff {entity : Entity} {reason key : String} :
    entity.onlyPrimaryKey reason = .ok key ↔ entity.primaryKeys = [key] := by
  unfold Entity.onlyPrimaryKey
  rcases entity.primaryKeys with _ | ⟨first, _ | ⟨second, rest⟩⟩
  · simp
  · simp
  · simp

/-- Two descriptions of one relation, seen from its two sides. What is own on one side is related on
the other, and what belongs to the table is the same. -/
structure RelationDescription.Mirrors (description other : RelationDescription) : Prop where
  related_eq : description.related = some other.entity
  related_other : other.related = some description.entity
  foreignPivotKey_eq : description.foreignPivotKey = other.relatedPivotKey
  relatedPivotKey_eq : description.relatedPivotKey = other.foreignPivotKey
  localKey_eq : description.localKey = other.ownerKey
  ownerKey_eq : description.ownerKey = other.localKey
  pivotTable_eq : description.pivotTable = other.pivotTable
  pivotEntity_eq : description.pivotEntity = other.pivotEntity
  pivotFields_eq : description.pivotFields = other.pivotFields

namespace Relation

variable {schema : Schema} {method other : Method} {join : Option Join}

/-- A relation gets the key that it needs if the entity has no other. -/
theorem requireKey_eq_ok_iff {relation key : String} {entity : Entity} :
    requireKey (m := Except Error) schema relation method entity = .ok key ↔
      entity.primaryKeys = [key] := by
  unfold requireKey
  rw [LookupMonad.lift_plain, Entity.onlyPrimaryKey_eq_ok_iff]

/-- **The description of a many-to-many.** It is there when the table and both sides are, and it is
put together from these. -/
theorem describe_eq_ok_iff
    (hkind : Relation.kind (m := Except Error) schema method = .ok .belongsToMany)
    (hinverse : inverse (m := Except Error) schema method = .ok other)
    {description : RelationDescription} :
    describe (m := Except Error) schema method = .ok description ↔
      ∃ table own others, pivotTableOf (m := Except Error) schema method = .ok table ∧
        IsSideOf schema method own ∧ IsSideOf schema other others ∧
          describeSides schema method other table own others = description := by
  unfold describe describeBelongsToMany
  rw [hkind, ok_bind]
  dsimp only
  rw [hinverse, ok_bind]
  constructor
  · intro h
    obtain ⟨entity, hentity, h⟩ := bind_eq_ok.1 h
    obtain ⟨table, htable, h⟩ := bind_eq_ok.1 h
    obtain ⟨foreignColumn, hforeign, h⟩ := bind_eq_ok.1 h
    obtain ⟨relatedColumn, hrelated, h⟩ := bind_eq_ok.1 h
    obtain ⟨localKey, hlocal, h⟩ := bind_eq_ok.1 h
    obtain ⟨ownerKey, howner, h⟩ := bind_eq_ok.1 h
    rw [pivotEntityOf_eq htable] at hentity
    obtain rfl := Except.ok.inj hentity
    exact ⟨table, ⟨relatedColumn, localKey⟩, ⟨foreignColumn, ownerKey⟩, htable,
      ⟨hrelated, requireKey_eq_ok_iff.1 hlocal⟩, ⟨hforeign, requireKey_eq_ok_iff.1 howner⟩,
      Except.ok.inj h⟩
  · rintro ⟨table, own, others, htable, hown, hothers, rfl⟩
    rw [pivotEntityOf_eq htable, ok_bind, htable, ok_bind, hothers.column_eq, ok_bind,
      hown.column_eq, ok_bind, requireKey_eq_ok_iff.2 hown.key_eq, ok_bind,
      requireKey_eq_ok_iff.2 hothers.key_eq, ok_bind]
    rfl

/-- A method has one side, so two descriptions of it are put together from the same. -/
theorem IsSideOf.unique {side another : PivotSide} (h : IsSideOf schema method side)
    (hanother : IsSideOf schema method another) : side = another := by
  obtain ⟨column, key⟩ := side
  obtain ⟨otherColumn, otherKey⟩ := another
  obtain rfl := Except.ok.inj (h.column_eq.symm.trans hanother.column_eq)
  obtain rfl := List.singleton_inj.1 (h.key_eq.symm.trans hanother.key_eq)
  rfl

/-- Exchanging the methods exchanges the sides. -/
theorem mirrors_describeSides (schema : Schema) (method other : Method) (table : String)
    (own others : PivotSide) :
    (describeSides schema method other table own others).Mirrors
      (describeSides schema other method table others own) :=
  ⟨rfl, rfl, rfl, rfl, rfl, rfl, rfl, rfl, rfl⟩

section Descriptions

variable (h : SharesJoin schema method other join)
  (hkind : Relation.kind (m := Except Error) schema method = .ok .belongsToMany)
  (hkindOther : Relation.kind (m := Except Error) schema other = .ok .belongsToMany)
include h hkind hkindOther

/-- If one side has a description the other side has one. Both need the table, both columns and both
primary keys. -/
theorem SharesJoin.exists_describe {description : RelationDescription}
    (hdescribe : describe (m := Except Error) schema method = .ok description) :
    ∃ otherDescription, describe (m := Except Error) schema other = .ok otherDescription := by
  obtain ⟨table, own, others, htable, hown, hothers, -⟩ :=
    (describe_eq_ok_iff hkind h.inverse_eq).1 hdescribe
  rw [← h.pivotTableOf_other] at htable
  exact ⟨_, (describe_eq_ok_iff hkindOther h.inverse_other).2
    ⟨table, others, own, htable, hothers, hown, rfl⟩⟩

/-- The descriptions of the two sides mirror each other. -/
theorem SharesJoin.mirrors {description otherDescription : RelationDescription}
    (hdescribe : describe (m := Except Error) schema method = .ok description)
    (hdescribeOther : describe (m := Except Error) schema other = .ok otherDescription) :
    description.Mirrors otherDescription := by
  obtain ⟨table, own, others, htable, hown, hothers, rfl⟩ :=
    (describe_eq_ok_iff hkind h.inverse_eq).1 hdescribe
  obtain ⟨sameTable, sameOthers, sameOwn, hsameTable, hsameOthers, hsameOwn, rfl⟩ :=
    (describe_eq_ok_iff hkindOther h.inverse_other).1 hdescribeOther
  -- the second description is put together from the same table and sides
  rw [h.pivotTableOf_other, htable] at hsameTable
  obtain rfl := Except.ok.inj hsameTable
  obtain rfl := hown.unique hsameOwn
  obtain rfl := hothers.unique hsameOthers
  exact mirrors_describeSides schema method other table own others

end Descriptions

/-- The entity that a description names as related is the owner of the inverse. -/
theorem related_of_describe
    (hkind : Relation.kind (m := Except Error) schema method = .ok .belongsToMany)
    (hinverse : inverse (m := Except Error) schema method = .ok other)
    {description : RelationDescription}
    (hdescribe : describe (m := Except Error) schema method = .ok description) :
    description.related = some (schema.owner other).fullName := by
  obtain ⟨table, own, others, -, -, -, rfl⟩ := (describe_eq_ok_iff hkind hinverse).1 hdescribe
  rfl

/-! ## The implied table -/

/-- The side of the entity that comes first by name is the one that asks for the table. Names are
compared strictly. -/
theorem isFirstSide_eq (h : inverse (m := Except Error) schema method = .ok other) :
    isFirstSide (m := Except Error) schema method =
      .ok (decide ((schema.owner method).shortName < (schema.owner other).shortName)) := by
  unfold isFirstSide
  rw [h]
  rfl

/-- The question whether a method is a many-to-many is a question about its kind. -/
theorem isManyToMany_eq
    (hkind : Relation.kind (m := Except Error) schema method = .ok .belongsToMany) :
    isManyToMany (m := Except Error) schema method = .ok true := by
  unfold isManyToMany
  rw [hkind]
  rfl

end Relation

/-- The pivot table with a name and columns, of which it is known whether they may be null. -/
def Table.ofPivot (schema : Schema) (name : String) (columns : List (String × Bool)) : Table where
  name := name
  columns := columns.map fun column =>
    { name := column.1, type := schema.config.pivotKeyType, nullable := column.2 }
  impliedPivot := true

variable {schema : Schema} {method other : Method} {join : Option Join}

/-- The second side asks for no table. -/
theorem impliedPivotTable_of_second
    (hkind : Relation.kind (m := Except Error) schema method = .ok .belongsToMany)
    (hsecond : Relation.isFirstSide (m := Except Error) schema method = .ok false) :
    impliedPivotTable (m := Except Error) schema method = .ok none := by
  unfold impliedPivotTable
  rw [Relation.isManyToMany_eq hkind, ok_bind, hsecond]
  rfl

/-- The first side asks for the table, unless an entity is stored in it. -/
theorem impliedPivotTable_of_first
    (hkind : Relation.kind (m := Except Error) schema method = .ok .belongsToMany)
    (hfirst : Relation.isFirstSide (m := Except Error) schema method = .ok true)
    {name : String} (hname : Relation.pivotTableOf (m := Except Error) schema method = .ok name)
    (hentity : schema.entityStoredIn? name = none) {columns : List (String × Bool)}
    (hcolumns : Relation.pivotColumns (m := Except Error) schema method = .ok columns) :
    impliedPivotTable (m := Except Error) schema method =
      .ok (some (Table.ofPivot schema name columns)) := by
  unfold impliedPivotTable
  rw [Relation.isManyToMany_eq hkind, ok_bind, hfirst, ok_bind, Relation.pivotEntityOf_eq hname,
    hentity, ok_bind, hname, ok_bind, hcolumns]
  rfl

/-- The owner of a method lists it. So the pivot tables of the owner include the one that the method
asks for. -/
theorem Schema.IsPlaced.mem_methods_owner (hplaced : schema.IsPlaced)
    (hmethod : method ∈ schema.methods) :
    schema.owner method ∈ schema.entities ∧ method ∈ (schema.owner method).methods := by
  obtain ⟨place, entity, -, hat, hmem⟩ := hplaced.exists_owner hmethod
  rw [hplaced.owner_eq hat hmem]
  exact ⟨Schema.mem_entities_of_entityAt? hat, hmem⟩

/-! ## Agreement -/

/-- Of two methods the first one asks for a pivot table, so that the table is listed for its entity,
and the second one does not. -/
structure AsksAlone (schema : Schema) (method other : Method) (pivot : Table) : Prop where
  asks : Tracked.evaluate (impliedPivotTable schema method) = .ok (some pivot)
  asksNot : Tracked.evaluate (impliedPivotTable schema other) = .ok none
  isListed : ∀ pivots,
    Tracked.evaluate (impliedPivotTables schema (schema.owner method)) = .ok pivots → pivot ∈ pivots

/-- A table that a method asks for is listed for its entity. The methods of an entity are asked one
by one. -/
theorem mem_of_impliedPivotTables (hmethod : method ∈ (schema.owner method).methods)
    {pivot : Table} {pivots : List Table}
    (hpivot : impliedPivotTable (m := Except Error) schema method = .ok (some pivot))
    (hpivots : impliedPivotTables (m := Except Error) schema (schema.owner method) = .ok pivots) :
    pivot ∈ pivots := by
  unfold impliedPivotTables at hpivots
  obtain ⟨asked, hasked, rfl⟩ := bind_pure_eq_ok.1 hpivots
  refine List.mem_filterMap.2 ⟨some pivot, ?_, rfl⟩
  exact (mem_of_mapM hasked).2 ⟨method, hmethod, hpivot⟩

/-- Of two sides that share a join, the first one by name asks for the table and the other one does
not. -/
theorem Relation.SharesJoin.asksAlone (h : SharesJoin schema method other join)
    (hplaced : schema.IsPlaced)
    (hkind : Relation.kind (m := Except Error) schema method = .ok .belongsToMany)
    (hkindOther : Relation.kind (m := Except Error) schema other = .ok .belongsToMany)
    (hlt : (schema.owner method).shortName < (schema.owner other).shortName)
    (hentity : Relation.pivotEntityOf (m := Except Error) schema method = .ok none)
    {columns : List (String × Bool)}
    (hcolumns : Relation.pivotColumns (m := Except Error) schema method = .ok columns) :
    ∃ pivot, AsksAlone schema method other pivot := by
  have hfirst := Relation.isFirstSide_eq h.inverse_eq
  have hsecond := Relation.isFirstSide_eq h.inverse_other
  rw [decide_eq_true hlt] at hfirst
  rw [decide_eq_false (lt_asymm hlt)] at hsecond
  obtain ⟨name, hname, hnone⟩ := bind_pure_eq_ok.1 hentity
  have hasks := impliedPivotTable_of_first hkind hfirst hname hnone hcolumns
  obtain ⟨howner, hlists⟩ := hplaced.mem_methods_owner h.mem
  refine ⟨Table.ofPivot schema name columns, ?_, ?_, fun pivots hpivots => ?_⟩
  · rw [evaluate_impliedPivotTable hplaced h.mem, hasks]
  · rw [evaluate_impliedPivotTable hplaced h.mem_other,
      impliedPivotTable_of_second hkindOther hsecond]
  · rw [evaluate_impliedPivotTables hplaced howner] at hpivots
    exact mem_of_impliedPivotTables hlists hasks hpivots

/-- If the entities have different names, exactly one of two sides that share a join asks for the
table. -/
theorem Relation.SharesJoin.exists_asksAlone (h : SharesJoin schema method other join)
    (hplaced : schema.IsPlaced)
    (hkind : Relation.kind (m := Except Error) schema method = .ok .belongsToMany)
    (hkindOther : Relation.kind (m := Except Error) schema other = .ok .belongsToMany)
    (howners : (schema.owner method).shortName ≠ (schema.owner other).shortName)
    (hentity : Relation.pivotEntityOf (m := Except Error) schema method = .ok none)
    {columns : List (String × Bool)}
    (hcolumns : Relation.pivotColumns (m := Except Error) schema method = .ok columns) :
    ∃ pivot, AsksAlone schema method other pivot ∨ AsksAlone schema other method pivot := by
  rcases lt_or_gt_of_ne howners with hlt | hgt
  · obtain ⟨pivot, hasks⟩ := h.asksAlone hplaced hkind hkindOther hlt hentity hcolumns
    exact ⟨pivot, .inl hasks⟩
  · -- the other side is the first one, and it has the same columns the other way round
    obtain ⟨own, others, hown, hothers, -⟩ :=
      (Relation.pivotColumns_eq_ok_iff h.inverse_eq).1 hcolumns
    have hreversed := (Relation.pivotColumns_eq_ok_iff h.inverse_other).2
      ⟨others, own, hothers, hown, rfl⟩
    rw [← h.pivotEntityOf_other] at hentity
    obtain ⟨pivot, hasks⟩ := h.symm.asksAlone hplaced hkindOther hkind hgt hentity hreversed
    exact ⟨pivot, .inr hasks⟩

/-- The two sides of a many-to-many come to the same. -/
structure SidesAgree (schema : Schema) (method other : Method) : Prop where
  pivotTable_eq : Tracked.evaluate (Relation.pivotTableOf schema method) =
    Tracked.evaluate (Relation.pivotTableOf schema other)
  pivotEntity_eq : Tracked.evaluate (Relation.pivotEntityOf schema method) =
    Tracked.evaluate (Relation.pivotEntityOf schema other)
  oneAsks : Tracked.evaluate (Relation.pivotEntityOf schema method) = .ok none →
    ∀ columns, Tracked.evaluate (Relation.pivotColumns schema method) = .ok columns →
      ∃ pivot, AsksAlone schema method other pivot ∨ AsksAlone schema other method pivot
  described :
    (∃ description, Tracked.evaluate (Relation.describe schema method) = .ok description) ↔
      ∃ description, Tracked.evaluate (Relation.describe schema other) = .ok description
  mirrors : ∀ description otherDescription,
    Tracked.evaluate (Relation.describe schema method) = .ok description →
      Tracked.evaluate (Relation.describe schema other) = .ok otherDescription →
        description.Mirrors otherDescription ∧
          description.related = some (schema.owner other).fullName ∧
            otherDescription.related = some (schema.owner method).fullName

/-- **The two sides of a many-to-many agree.** Let two methods of entities with different short
names be each other's inverse, neither of them polymorphic or returning its own entity, and at most
one of them with a join. Then one is a many-to-many exactly when the other is, and if so they agree
about the pivot table, about who asks for it and about the description of the relation. -/
theorem manyToMany_agree {config : Config} {text : String}
    (hparse : Schema.parse config text = .ok schema)
    (hmethod : method ∈ schema.methods) (hother : other ∈ schema.methods)
    (hinverse : Tracked.evaluate (Relation.inverse schema method) = .ok other)
    (hback : Tracked.evaluate (Relation.inverse schema other) = .ok method)
    (howners : (schema.owner method).shortName ≠ (schema.owner other).shortName)
    (hpoly : method.isPolymorphic = false) (hpolyOther : other.isPolymorphic = false)
    (hown : Relation.returnsOwnEntity schema method = false)
    (hownOther : Relation.returnsOwnEntity schema other = false)
    (hsingle : method.join = none ∨ other.join = none) :
    (Tracked.evaluate (Relation.kind schema method) = .ok .belongsToMany ↔
      Tracked.evaluate (Relation.kind schema other) = .ok .belongsToMany) ∧
    (Tracked.evaluate (Relation.kind schema method) = .ok .belongsToMany →
      SidesAgree schema method other) := by
  have hplaced : schema.IsPlaced := Schema.isPlaced_of_parse hparse
  have hshares : Relation.SharesJoin schema method other (method.join.or other.join) :=
    (Relation.Opposite.of_evaluate hplaced hmethod hother hinverse hback).sharesJoin hsingle
  have hkinds : Relation.kind (m := Except Error) schema method = .ok .belongsToMany ↔
      Relation.kind (m := Except Error) schema other = .ok .belongsToMany :=
    ⟨fun hkind => hshares.kind_other hkind hpolyOther hownOther,
      fun hkindOther => hshares.symm.kind_other hkindOther hpoly hown⟩
  rw [Relation.evaluate_kind hplaced hmethod, Relation.evaluate_kind hplaced hother]
  refine ⟨hkinds, fun hkind => ?_⟩
  have hkindOther := hkinds.1 hkind
  constructor
  case pivotTable_eq =>
    rw [Relation.evaluate_pivotTableOf hplaced hmethod,
      Relation.evaluate_pivotTableOf hplaced hother, hshares.pivotTableOf_other]
  case pivotEntity_eq =>
    rw [Relation.evaluate_pivotEntityOf hplaced hmethod,
      Relation.evaluate_pivotEntityOf hplaced hother, hshares.pivotEntityOf_other]
  case oneAsks =>
    intro hnone columns hcolumns
    rw [Relation.evaluate_pivotEntityOf hplaced hmethod] at hnone
    rw [Relation.evaluate_pivotColumns hplaced hmethod] at hcolumns
    exact hshares.exists_asksAlone hplaced hkind hkindOther howners hnone hcolumns
  case described =>
    rw [Relation.evaluate_describe hplaced hmethod, Relation.evaluate_describe hplaced hother]
    constructor
    · rintro ⟨description, h⟩
      exact hshares.exists_describe hkind hkindOther h
    · rintro ⟨description, h⟩
      exact hshares.symm.exists_describe hkindOther hkind h
  case mirrors =>
    intro description otherDescription h hOther
    rw [Relation.evaluate_describe hplaced hmethod] at h
    rw [Relation.evaluate_describe hplaced hother] at hOther
    exact ⟨hshares.mirrors hkind hkindOther h hOther,
      Relation.related_of_describe hkind hshares.inverse_eq h,
      Relation.related_of_describe hkindOther hshares.inverse_other hOther⟩

/-! ## An example -/

namespace Schema

/-- A document with a many-to-many whose pivot table is spelled out by one side. -/
def joinedRolesText : String :=
  "User1 (user1)\n  roles1(): Role1[] <- Role1.users1(), " ++
    "Join(User1.id = role1_user1.users1_id AND role1_user1.roles1_id = Role1.id)\n" ++
    "Role1 (role1)\n  users1(): User1[] <- User1.roles1()\n"

/-- The join of the first side. -/
def rolesJoin : Join where
  raw := "User1.id = role1_user1.users1_id AND role1_user1.roles1_id = Role1.id"
  first := ⟨"User1", "id", "role1_user1", "users1_id"⟩
  second := some ⟨"role1_user1", "roles1_id", "Role1", "id"⟩

/-- The first side, as it is without its join. -/
def roles1 : Method where
  name := "roles1"
  owner? := some 0
  position := 0
  declaredType := some "Role1[]"
  inverseOf := some "Role1.users1()"

/-- The first side with its join. -/
def joinedRoles1 : Method := { roles1 with join := some rolesJoin }

/-- The second side. -/
def users1 : Method where
  name := "users1"
  owner? := some 1
  position := 0
  declaredType := some "User1[]"
  inverseOf := some "User1.roles1()"

/-- Users and roles, with a method on the side of the users. Their primary keys are implied. -/
def rolesWith (method : Method) : Schema where
  entities := [
    { shortName := "User1", namespaceName := "\\App\\", table := "user1", index? := some 0
      fields := [
        { name := "id", type := "increments", owner? := some 0, nullable := some false,
          primaryKey := true, implied := true }]
      methods := [method] },
    { shortName := "Role1", namespaceName := "\\App\\", table := "role1", index? := some 1
      fields := [
        { name := "id", type := "increments", owner? := some 1, nullable := some false,
          primaryKey := true, implied := true }]
      methods := [users1] }]
  namespaces := OrderedMap.insert ∅ "\\App\\" "app/"

/-- The join is kept as it was written, and nothing is implied but the primary keys. -/
theorem parse_joinedRolesText : Schema.parse {} joinedRolesText = .ok (rolesWith joinedRoles1) :=
  eq_ok_of_toOption (by decide +kernel)

end Schema

open Schema in
/-- In the example only the users have a join. The two sides agree about the pivot table, and one of
them asks for it. -/
theorem manyToMany_agree_roles :
    Schema.parse {} joinedRolesText = .ok (rolesWith joinedRoles1) ∧
      Tracked.evaluate (Relation.kind (rolesWith joinedRoles1) users1) = .ok .belongsToMany ∧
      SidesAgree (rolesWith joinedRoles1) joinedRoles1 users1 ∧
      ∃ pivot, AsksAlone (rolesWith joinedRoles1) joinedRoles1 users1 pivot ∨
        AsksAlone (rolesWith joinedRoles1) users1 joinedRoles1 pivot := by
  have hroles : joinedRoles1 ∈ (rolesWith joinedRoles1).methods := by decide
  have husers : users1 ∈ (rolesWith joinedRoles1).methods := by decide
  obtain ⟨hkinds, hagree⟩ := manyToMany_agree parse_joinedRolesText hroles husers
    (eq_ok_of_toOption (by decide +kernel)) (eq_ok_of_toOption (by decide +kernel)) (by decide)
    (by decide +kernel) (by decide +kernel) (by decide +kernel) (by decide +kernel) (.inr rfl)
  have hkind : Tracked.evaluate (Relation.kind (rolesWith joinedRoles1) joinedRoles1) =
      .ok .belongsToMany := eq_ok_of_toOption (by decide +kernel)
  have hsides := hagree hkind
  refine ⟨parse_joinedRolesText, hkinds.1 hkind, hsides, ?_⟩
  exact hsides.oneAsks (eq_ok_of_toOption (by decide +kernel))
    [("users1_id", false), ("roles1_id", false)] (eq_ok_of_toOption (by decide +kernel))

end EntitySchema
