/-
Spelling out the pivot table of convention.

A many-to-many without a join goes through a pivot table that convention names, with one column for
each side. The same table and columns can be written down as a join: the key of the first entity is
joined to the column that holds it, and the other column to the key of the second entity. One would
expect this to change nothing. It does not change the table, but it exchanges the two columns: by
convention a side contributes the column that is named after the method, which holds the key of the
*other* entity, and with a join it contributes the column that is joined to its *own* entity.

`spelledOut_iff` gives the exact condition under which nothing changes, which is that both columns
have the same name, and says what changes otherwise. The join is given to a method of a finished
schema, and `Rejoined` finds the two sides again. What they bring to the relation is told by
`GoesThrough`, and both the descriptions and the table that is asked for follow from it.

The proof is a comparison of two instances of `GoesThrough`, one without the join and one with it.
It is the columns of the sides that differ, and nothing else: `GoesThrough.joined` computes them
from the join, and `GoesThrough.saysTheSame` turns the difference into one between descriptions. For
the table only the set of its columns counts, and this is the same, so the side conditions are about
the descriptions alone.

Two of these conditions come from how a join is read. The name of the pivot table is looked up as
the name of an entity before it is taken for a table. And an entity may be meant in a join by its
short name or by its table, so that a join which names the first entity may seem to name the second;
then the second side finds the wrong column (`columnFound`).
-/
import EntitySchema.Proofs.Relation.ManyToMany
import EntitySchema.Proofs.Relation.Rejoined
import Mathlib.Data.Finset.Insert

set_option autoImplicit false

namespace EntitySchema

open Outcome
open EntitySchema.Relation

/-! ## All about a many-to-many -/

namespace Relation

/-- Two opposite methods go through a pivot table that is no entity's, and what each side brings to
it. From this everything can be computed that the two sides say about the relation. -/
structure GoesThrough (schema : Schema) (method other : Method) (table : String)
    (own others : PivotSide) : Prop extends Opposite schema method other where
  kind_eq : Relation.kind (m := Except Error) schema method = .ok .belongsToMany
  kind_other : Relation.kind (m := Except Error) schema other = .ok .belongsToMany
  table_eq : pivotTableOf (m := Except Error) schema method = .ok table
  table_other : pivotTableOf (m := Except Error) schema other = .ok table
  noEntity : schema.entityStoredIn? table = none
  isSide : IsSideOf schema method own
  isSideOther : IsSideOf schema other others

variable {schema : Schema} {method other : Method} {table : String} {own others : PivotSide}

namespace GoesThrough

/-- The other side may be put first. -/
theorem symm (h : GoesThrough schema method other table own others) :
    GoesThrough schema other method table others own :=
  ⟨h.toOpposite.symm, h.kind_other, h.kind_eq, h.table_other, h.table_eq, h.noEntity,
    h.isSideOther, h.isSide⟩

/-- The description of such a method is put together from the two sides. -/
theorem describe_eq (h : GoesThrough schema method other table own others) :
    describe (m := Except Error) schema method =
      .ok (describeSides schema method other table own others) :=
  (describe_eq_ok_iff h.kind_eq h.inverse_eq).2
    ⟨table, own, others, h.table_eq, h.isSide, h.isSideOther, rfl⟩

/-- The first side by name asks for the table with the columns of both sides. If neither is first
the table is not asked for at all. -/
theorem impliedPivotTable_eq (h : GoesThrough schema method other table own others) :
    impliedPivotTable (m := Except Error) schema method =
      .ok (if (schema.owner method).shortName < (schema.owner other).shortName then
        some (Table.ofPivot schema table [(own.column, method.nullable.getD false),
          (others.column, other.nullable.getD false)])
      else none) := by
  have hfirst := isFirstSide_eq h.inverse_eq
  split
  · next hlt =>
    rw [decide_eq_true hlt] at hfirst
    refine impliedPivotTable_of_first h.kind_eq hfirst h.table_eq h.noEntity ?_
    exact (pivotColumns_eq_ok_iff h.inverse_eq).2
      ⟨own.column, others.column, h.isSide.column_eq, h.isSideOther.column_eq, rfl⟩
  · next hnot =>
    rw [decide_eq_false hnot] at hfirst
    exact impliedPivotTable_of_second h.kind_eq hfirst

end GoesThrough

/-! ## What a join says about columns -/

/-- The condition that joins the key of an entity to a column of a table. -/
def keyCondition (schema : Schema) (method : Method) (key table column : String) : JoinCondition :=
  ⟨(schema.owner method).shortName, key, table, column⟩

/-- A join spells out a pivot table with the columns that both sides bring to it: the key of the
first entity is held by the column of the other side, and the key of the second entity by the column
of the first side. This is how a reader of the description would write it down. -/
structure SpellsOut (schema : Schema) (method other : Method) (table : String)
    (own others : PivotSide) (join : Join) : Prop where
  first_eq : join.first = keyCondition schema method own.key table others.column
  second_eq : join.second = some (keyCondition schema other others.key table own.column).flip

/-- The column of a side is found in the first condition that mentions its entity on the left.
Conditions are read in both directions, so what is written on the right may be found as well. -/
theorem pivotKey_of_join {join : Join} (condition : JoinCondition)
    (hjoin : joinOfEitherSide (m := Except Error) schema method = .ok (some join))
    (hpivot : join.isPivot = true)
    (hfind : join.directed.find?
      ((namesInJoin schema (schema.owner method)).contains ·.leftTable) = some condition) :
    pivotKey (m := Except Error) schema method = .ok condition.rightField := by
  unfold pivotKey
  rw [hjoin, ok_bind, Option.filter_some, if_pos hpivot]
  dsimp only
  rw [hfind]
  rfl

/-- An entity can be meant by its short name. -/
theorem shortName_mem_namesInJoin (schema : Schema) (entity : Entity) :
    entity.shortName ∈ namesInJoin schema entity :=
  List.mem_cons_self

/-- No entity is found under a name that is the short name of none. -/
theorem shortName_ne_of_findEntity {name : String} (h : schema.findEntity name = .ok none)
    {entity : Entity} (hentity : entity ∈ schema.entities) : entity.shortName ≠ name := by
  rintro rfl
  have hmem : entity ∈ schema.entities.filter (·.isNamed entity.shortName) :=
    List.mem_filter.2 ⟨hentity, by simp [Entity.isNamed]⟩
  rw [Schema.findEntity] at h
  split at h
  · next hnone =>
    rw [hnone] at hmem
    cases hmem
  · cases h
  · cases h

/-- A join cannot mean an entity by a name that is neither a table nor the name of an entity. The
pivot table has such a name, and so it is not taken for one of the two entities. -/
theorem not_mem_namesInJoin {name : String} (hnamed : schema.findEntity name = .ok none)
    (hfree : schema.entityStoredIn? name = none) {entity : Entity}
    (hentity : entity ∈ schema.entities) : name ∉ namesInJoin schema entity := by
  intro hmem
  rw [namesInJoin, List.mem_append, List.mem_cons, List.mem_singleton, Option.mem_toList,
    Option.map_eq_some_iff] at hmem
  rcases hmem with (hshort | htable) | ⟨stored, hstored, hshort⟩
  · exact shortName_ne_of_findEntity hnamed hentity hshort.symm
  · exact Schema.entityStoredIn?_eq_none_iff.1 hfree entity hentity htable.symm
  · exact shortName_ne_of_findEntity hnamed (List.mem_of_find?_eq_some hstored) hshort

end Relation

/-! ## Giving a join to a method -/

/-- The join of a method, where one method has been given another. Methods are told apart by their
keys. -/
def joinsWith (method : Method) (join : Join) (asked : Method) : Option Join :=
  if asked.key = method.key then some join else asked.join

/-- A method that has been given a join. -/
def Method.joined (method : Method) (join : Join) : Method := { method with join := some join }

/-- A schema in which a method has been given a join. -/
def Schema.joined (schema : Schema) (method : Method) (join : Join) : Schema :=
  schema.rejoin (joinsWith method join)

variable {schema : Schema} {method other : Method} {join : Join}

/-- Giving a join to a method leaves the schema placed. -/
theorem Schema.isPlaced_joined (h : schema.IsPlaced) (method : Method) (join : Join) :
    (schema.joined method join).IsPlaced :=
  isPlaced_rejoin _ h

/-- The method itself gets the join. -/
theorem Method.rejoin_self : method.rejoin (joinsWith method join) = method.joined join := by
  rw [rejoin, joinsWith, if_pos rfl]
  rfl

/-- Any other one keeps what it has. -/
theorem Method.rejoin_other (h : other.key ≠ method.key) :
    other.rejoin (joinsWith method join) = other := by
  rw [rejoin, joinsWith, if_neg h]

namespace Relation

/-- If the two sides had no join, both see the one that is given to the method. -/
theorem Opposite.joined (h : Opposite schema method other) (hkey : other.key ≠ method.key)
    (hnone : other.join = none) (join : Join) :
    SharesJoin (schema.joined method join) (method.joined join) other (some join) := by
  have hopposite := h.rejoin (joinsWith method join)
  rw [Method.rejoin_self, Method.rejoin_other hkey] at hopposite
  exact ⟨hopposite, rfl, by rw [hnone]; rfl⟩

/-- Methods have the same owners, up to the join. -/
theorem owner_joined (schema : Schema) (method : Method) (join : Join) (asked : Method) :
    (schema.joined method join).owner asked =
      (schema.owner asked).rejoin (joinsWith method join) :=
  Schema.owner_rejoin _ schema asked

/-- The names under which an entity is mentioned do not depend on the joins. -/
theorem namesInJoin_joined (asked : Method) :
    namesInJoin (schema.joined method join) ((schema.joined method join).owner asked) =
      namesInJoin schema (schema.owner asked) := by
  rw [owner_joined, Schema.joined, namesInJoin, namesInJoin, Schema.entityStoredIn?_rejoin,
    Option.map_map]
  rfl

/-- A relation is described alike from the same sides, whatever its joins. -/
theorem describeSides_rejoin (joins : Method → Option Join) (schema : Schema)
    (first second : Method) (table : String) (own others : PivotSide) :
    describeSides (schema.rejoin joins) (first.rejoin joins) (second.rejoin joins) table own
      others = describeSides schema first second table own others := by
  have howner : ∀ asked : Method, (schema.rejoin joins).owner (asked.rejoin joins) =
      (schema.owner asked).rejoin joins := Schema.owner_rejoin joins schema
  rw [describeSides, describeSides, howner, howner, Schema.entityStoredIn?_rejoin, Option.map_map,
    Option.map_map]
  rfl

/-! ## What each side contributes with the join -/

namespace SpellsOut

variable {table : String} {own others : PivotSide}

/-- The join has two conditions, and so it goes through a pivot table. -/
theorem isPivot (h : SpellsOut schema method other table own others join) :
    join.isPivot = true := by
  rw [Join.isPivot, h.second_eq]
  rfl

/-- It names the table, on the right of its first condition. -/
theorem pivotTable_eq (h : SpellsOut schema method other table own others join) :
    join.pivotTable = table := by
  rw [Join.pivotTable, h.first_eq]
  rfl

/-- The conditions from left to right and from right to left. -/
theorem directed_eq (h : SpellsOut schema method other table own others join) :
    join.directed = [
      keyCondition schema method own.key table others.column,
      (keyCondition schema method own.key table others.column).flip,
      (keyCondition schema other others.key table own.column).flip,
      keyCondition schema other others.key table own.column] := by
  rw [Join.directed, Join.conditions, h.first_eq, h.second_eq]
  rfl

/-- The method contributes the column that is joined to its own entity. The first condition, as it
is written, mentions the entity on the left. -/
theorem pivotKey_method (h : SpellsOut schema method other table own others join)
    (hshares : SharesJoin (schema.joined method join) (method.joined join) other (some join)) :
    pivotKey (m := Except Error) (schema.joined method join) (method.joined join) =
      .ok others.column := by
  refine pivotKey_of_join (keyCondition schema method own.key table others.column)
    hshares.joinOfEitherSide h.isPivot ?_
  have hnames : namesInJoin (schema.joined method join)
      ((schema.joined method join).owner (method.joined join)) =
        namesInJoin schema (schema.owner method) := namesInJoin_joined method
  have hmem := shortName_mem_namesInJoin schema (schema.owner method)
  rw [hnames, h.directed_eq]
  simp [keyCondition, hmem]

/-- The column that the other side finds in the join: the one that is joined to its entity, unless
the name of the first entity might mean its own. In that case the first condition is taken for its
own. -/
def columnFound (schema : Schema) (method other : Method) (own others : PivotSide) : String :=
  if (schema.owner method).shortName ∈ namesInJoin schema (schema.owner other) then others.column
  else own.column

/-- The other side contributes the column that it finds. -/
theorem pivotKey_other (h : SpellsOut schema method other table own others join)
    (hshares : SharesJoin (schema.joined method join) (method.joined join) other (some join))
    (htable : table ∉ namesInJoin schema (schema.owner other)) :
    pivotKey (m := Except Error) (schema.joined method join) other =
      .ok (columnFound schema method other own others) := by
  have hown := shortName_mem_namesInJoin schema (schema.owner other)
  unfold columnFound
  split
  · next hmem =>
    refine pivotKey_of_join (keyCondition schema method own.key table others.column)
      hshares.symm.joinOfEitherSide h.isPivot ?_
    rw [namesInJoin_joined, h.directed_eq]
    simp [keyCondition, hmem]
  · next hnot =>
    -- the first condition is passed over in both directions, and the second one from left to right
    refine pivotKey_of_join (keyCondition schema other others.key table own.column)
      hshares.symm.joinOfEitherSide h.isPivot ?_
    rw [namesInJoin_joined, h.directed_eq]
    simp [keyCondition, JoinCondition.flip, hnot, htable, hown]

end SpellsOut

/-! ## The relation with the join -/

section Joined

variable {table : String} {own others : PivotSide}
  (h : GoesThrough schema method other table own others) (hkey : other.key ≠ method.key)
  (hnone : other.join = none) (hjoin : SpellsOut schema method other table own others join)
include h hkey hnone hjoin

/-- With the join both sides are a many-to-many, because the join has two conditions. -/
theorem GoesThrough.kind_joined :
    Relation.kind (m := Except Error) (schema.joined method join) (method.joined join) =
        .ok .belongsToMany ∧
      Relation.kind (m := Except Error) (schema.joined method join) other = .ok .belongsToMany := by
  have hshares := h.toOpposite.joined hkey hnone join
  have hpivot : (some join).any (·.isPivot) = true := hjoin.isPivot
  have hplain : method.isPolymorphic = false := isPolymorphic_of_belongsToMany h.kind_eq
  have hpoly : (method.joined join).isPolymorphic = false := hplain
  constructor
  · rw [kind_eq_belongsToMany_iff hpoly hshares.inverse_eq, hshares.join_eq]
    exact .inl hpivot
  · rw [kind_eq_belongsToMany_iff (isPolymorphic_of_belongsToMany h.kind_other)
      hshares.inverse_other, hshares.join_other]
    exact .inl hpivot

/-- The table of the join is looked up as an entity first, and is a table if there is none of this
name. -/
theorem GoesThrough.pivotTableOf_joined :
    pivotTableOf (m := Except Error) (schema.joined method join) (method.joined join) =
      (schema.findEntity table).map fun found => (found.map (·.table)).getD table := by
  have hshares := h.toOpposite.joined hkey hnone join
  rw [hshares.pivotTableOf_eq, Option.filter_some, if_pos hjoin.isPivot]
  dsimp only
  unfold pivotTableOfJoin
  rw [hjoin.pivotTable_eq, LookupMonad.lift_plain, Schema.joined, Schema.findEntity_rejoin]
  rcases schema.findEntity table with error | _ | entity <;> rfl

/-- What each side brings to the relation when the join is spelled out: the method has the column of
the other side, and the other side the one that it finds. -/
theorem GoesThrough.joined (hplaced : schema.IsPlaced)
    (hnamed : schema.findEntity table = .ok none) :
    GoesThrough (schema.joined method join) (method.joined join) other table
      ⟨others.column, own.key⟩
      ⟨SpellsOut.columnFound schema method other own others, others.key⟩ := by
  have hshares := h.toOpposite.joined hkey hnone join
  obtain ⟨hkind, hkindOther⟩ := h.kind_joined hkey hnone hjoin
  have htable : pivotTableOf (m := Except Error) (schema.joined method join) (method.joined join) =
      .ok table := by
    rw [h.pivotTableOf_joined hkey hnone hjoin, hnamed]
    rfl
  -- the table stands on the left of two conditions, where it must not be taken for the other entity
  have hfree : table ∉ namesInJoin schema (schema.owner other) :=
    not_mem_namesInJoin hnamed h.noEntity (hplaced.mem_methods_owner h.mem_other).1
  refine ⟨hshares.toOpposite, hkind, hkindOther, htable, ?_, ?_, ⟨?_, ?_⟩, ⟨?_, ?_⟩⟩
  · rw [hshares.pivotTableOf_other, htable]
  · rw [Schema.joined, Schema.entityStoredIn?_rejoin, h.noEntity]
    rfl
  · exact hjoin.pivotKey_method hshares
  · have hprimary : ((schema.joined method join).owner (method.joined join)).primaryKeys =
        (schema.owner method).primaryKeys := by
      change ((schema.joined method join).owner method).primaryKeys = _
      rw [owner_joined]
      rfl
    rw [hprimary, h.isSide.key_eq]
  · exact hjoin.pivotKey_other hshares hfree
  · rw [owner_joined]
    exact h.isSideOther.key_eq

end Joined

end Relation

/-! ## The comparison -/

/-- What is compared of a table: its name, and the names of its columns in whatever order. -/
def Table.shape (table : Table) : String × Finset String :=
  (table.name, table.columnNames.toFinset)

/-- Exchanges the two columns of the pivot table in a description. -/
def RelationDescription.swapPivotKeys (description : RelationDescription) : RelationDescription :=
  { description with
    foreignPivotKey := description.relatedPivotKey
    relatedPivotKey := description.foreignPivotKey }

/-- When a method has been given a join, both sides are described as before, up to a change of the
descriptions, and ask for a table of the same shape. -/
structure SaysTheSame (change : RelationDescription → RelationDescription) (schema : Schema)
    (method other : Method) (join : Join) : Prop where
  describe_eq :
    Tracked.evaluate (describe (schema.joined method join) (method.joined join)) =
      (Tracked.evaluate (describe schema method)).map change
  describe_other :
    Tracked.evaluate (describe (schema.joined method join) other) =
      (Tracked.evaluate (describe schema other)).map change
  pivot_eq :
    (Tracked.evaluate (impliedPivotTable (schema.joined method join) (method.joined join))).map
        (Option.map Table.shape) =
      (Tracked.evaluate (impliedPivotTable schema method)).map (Option.map Table.shape)
  pivot_other :
    (Tracked.evaluate (impliedPivotTable (schema.joined method join) other)).map
        (Option.map Table.shape) =
      (Tracked.evaluate (impliedPivotTable schema other)).map (Option.map Table.shape)

namespace Relation

variable {table : String} {own others : PivotSide}

/-- The shape of the table that a method asks for depends on the set of the two columns only. The
order of the columns is that of the sides, which is not compared. -/
theorem GoesThrough.shape_eq (h : GoesThrough schema method other table own others) :
    (impliedPivotTable (m := Except Error) schema method).map (Option.map Table.shape) =
      .ok (if (schema.owner method).shortName < (schema.owner other).shortName then
        some (table, {own.column, others.column}) else none) := by
  rw [h.impliedPivotTable_eq]
  change Except.ok _ = _
  congr 1
  split
  · rw [Option.map_some, Table.shape, Table.columnNames, Table.ofPivot]
    simp
  · rfl

/-- If convention and join name the same set of columns, the same is said up to the change that
takes the old descriptions to the new ones. -/
theorem GoesThrough.saysTheSame {newOwn newOthers : PivotSide}
    (h : GoesThrough schema method other table own others) (hplaced : schema.IsPlaced)
    (hkey : other.key ≠ method.key)
    (hjoined : GoesThrough (schema.joined method join) (method.joined join) other table newOwn
      newOthers)
    (hcolumns : ({newOwn.column, newOthers.column} : Finset String) =
      {own.column, others.column})
    {change : RelationDescription → RelationDescription}
    (hchange : describeSides schema method other table newOwn newOthers =
      change (describeSides schema method other table own others))
    (hchangeOther : describeSides schema other method table newOthers newOwn =
      change (describeSides schema other method table others own)) :
    SaysTheSame change schema method other join := by
  have hplacedJoined := Schema.isPlaced_joined hplaced method join
  have hshort : ∀ asked, ((schema.joined method join).owner asked).shortName =
      (schema.owner asked).shortName := fun asked => by rw [owner_joined]; rfl
  have hshortJoined : ((schema.joined method join).owner (method.joined join)).shortName =
      (schema.owner method).shortName := hshort method
  constructor
  case describe_eq =>
    have hsides := describeSides_rejoin (joinsWith method join) schema method other table newOwn
      newOthers
    rw [Method.rejoin_self, Method.rejoin_other hkey, hchange] at hsides
    rw [evaluate_describe hplacedJoined hjoined.mem, hjoined.describe_eq,
      evaluate_describe hplaced h.mem, h.describe_eq]
    exact congrArg Except.ok hsides
  case describe_other =>
    have hsides := describeSides_rejoin (joinsWith method join) schema other method table newOthers
      newOwn
    rw [Method.rejoin_self, Method.rejoin_other hkey, hchangeOther] at hsides
    rw [evaluate_describe hplacedJoined hjoined.mem_other, hjoined.symm.describe_eq,
      evaluate_describe hplaced h.mem_other, h.symm.describe_eq]
    exact congrArg Except.ok hsides
  case pivot_eq =>
    rw [evaluate_impliedPivotTable hplacedJoined hjoined.mem, hjoined.shape_eq,
      evaluate_impliedPivotTable hplaced h.mem, h.shape_eq, hshortJoined, hshort, hcolumns]
  case pivot_other =>
    rw [evaluate_impliedPivotTable hplacedJoined hjoined.mem_other, hjoined.symm.shape_eq,
      evaluate_impliedPivotTable hplaced h.mem_other, h.symm.shape_eq, hshortJoined, hshort,
      Finset.pair_comm, hcolumns, Finset.pair_comm]

/-- If nothing changes, the columns have one name and the name of the table is not that of an
entity. The first is seen from the description of the method. The second is seen from the table in
it, which otherwise would be looked up as an entity. -/
theorem GoesThrough.of_saysTheSame (h : GoesThrough schema method other table own others)
    (hplaced : schema.IsPlaced) (hkey : other.key ≠ method.key) (hnone : other.join = none)
    (hjoin : SpellsOut schema method other table own others join)
    (hsame : SaysTheSame id schema method other join) :
    others.column = own.column ∧ schema.findEntity table = .ok none := by
  have hshares := h.toOpposite.joined hkey hnone join
  have hdescribe := hsame.describe_eq
  rw [evaluate_describe (Schema.isPlaced_joined hplaced method join) hshares.mem,
    evaluate_describe hplaced h.mem, h.describe_eq] at hdescribe
  obtain ⟨newTable, newOwn, newOthers, htable, hown, -, hdescribed⟩ :=
    (describe_eq_ok_iff (h.kind_joined hkey hnone hjoin).1 hshares.inverse_eq).1 hdescribe
  -- the new description is the old one, so that it is put together from the same names
  have hcolumn : newOwn.column = own.column :=
    Option.some.inj (congrArg RelationDescription.relatedPivotKey hdescribed)
  have hsameTable : newTable = table :=
    Option.some.inj (congrArg RelationDescription.pivotTable hdescribed)
  constructor
  · rw [← hcolumn]
    exact Except.ok.inj ((hjoin.pivotKey_method hshares).symm.trans hown.column_eq)
  · rw [h.pivotTableOf_joined hkey hnone hjoin, hsameTable] at htable
    cases hfound : schema.findEntity table with
    | error error =>
      rw [hfound] at htable
      cases htable
    | ok found =>
      cases found with
      | none => rfl
      | some entity =>
        rw [hfound] at htable
        have hstored : entity.table = table := Except.ok.inj htable
        exact absurd hstored (Schema.entityStoredIn?_eq_none_iff.1 h.noEntity entity
          (Schema.mem_of_findEntity hfound))

end Relation

/-- **Spelling out the pivot table of convention.** Let two methods of entities with different
short names be each other's inverse, both many-to-many and without a join, each entity with one
primary key, and let their pivot table be no entity's. A join is given to the first method that
spells the table out with the two columns that its description reports. Then nothing changes
exactly when both columns have one name (and that of the table is not the name of an entity).
Otherwise the descriptions of both sides have the two columns exchanged, as long as the name of the
first entity cannot mean the second, and the tables that are asked for have the same shape. -/
theorem spelledOut_iff {config : Config} {text : String} {ownKey otherKey table f r : String}
    {description : RelationDescription}
    (hparse : Schema.parse config text = .ok schema)
    (hmethod : method ∈ schema.methods) (hother : other ∈ schema.methods)
    (hinverse : Tracked.evaluate (Relation.inverse schema method) = .ok other)
    (hback : Tracked.evaluate (Relation.inverse schema other) = .ok method)
    (howners : (schema.owner method).shortName ≠ (schema.owner other).shortName)
    (hownKey : (schema.owner method).primaryKeys = [ownKey])
    (hotherKey : (schema.owner other).primaryKeys = [otherKey])
    (hkind : Tracked.evaluate (Relation.kind schema method) = .ok .belongsToMany)
    (hkindOther : Tracked.evaluate (Relation.kind schema other) = .ok .belongsToMany)
    (hnone : method.join = none) (hnoneOther : other.join = none)
    (htable : Tracked.evaluate (Relation.pivotTableOf schema method) = .ok table)
    (hfree : ∀ entity ∈ schema.entities, entity.table ≠ table)
    (hdescribe : Tracked.evaluate (Relation.describe schema method) = .ok description)
    (hforeign : description.foreignPivotKey = some f)
    (hrelated : description.relatedPivotKey = some r)
    (hfirst : join.first = ⟨(schema.owner method).shortName, ownKey, table, f⟩)
    (hsecond : join.second = some ⟨table, r, (schema.owner other).shortName, otherKey⟩) :
    (SaysTheSame id schema method other join ↔ f = r ∧ schema.findEntity table = .ok none) ∧
    (schema.findEntity table = .ok none →
      (schema.owner method).shortName ∉ Relation.namesInJoin schema (schema.owner other) →
        SaysTheSame RelationDescription.swapPivotKeys schema method other join) := by
  have hplaced : schema.IsPlaced := Schema.isPlaced_of_parse hparse
  have hshares : SharesJoin schema method other none := by
    have hshares := (Opposite.of_evaluate hplaced hmethod hother hinverse hback).sharesJoin
      (.inl hnone)
    rwa [hnone, hnoneOther] at hshares
  have hkey : other.key ≠ method.key := fun hsame =>
    howners (by rw [hplaced.eq_of_key_eq hother hmethod hsame])
  rw [evaluate_kind hplaced hmethod] at hkind
  rw [evaluate_kind hplaced hother] at hkindOther
  rw [evaluate_pivotTableOf hplaced hmethod] at htable
  rw [evaluate_describe hplaced hmethod] at hdescribe
  -- what the two sides bring to the relation can be read in the description
  obtain ⟨sameTable, own, others, -, hown, hothers, rfl⟩ :=
    (describe_eq_ok_iff hkind hshares.inverse_eq).1 hdescribe
  obtain rfl : others.column = f := Option.some.inj hforeign
  obtain rfl : own.column = r := Option.some.inj hrelated
  obtain rfl : own.key = ownKey := List.singleton_inj.1 (hown.key_eq.symm.trans hownKey)
  obtain rfl : others.key = otherKey := List.singleton_inj.1 (hothers.key_eq.symm.trans hotherKey)
  have hgoes : GoesThrough schema method other table own others :=
    ⟨hshares.toOpposite, hkind, hkindOther, htable, by rw [hshares.pivotTableOf_other, htable],
      Schema.entityStoredIn?_eq_none_iff.2 hfree, hown, hothers⟩
  have hjoin : SpellsOut schema method other table own others join := ⟨hfirst, hsecond⟩
  refine ⟨⟨hgoes.of_saysTheSame hplaced hkey hnoneOther hjoin, ?_⟩, ?_⟩
  · rintro ⟨hcolumns, hnamed⟩
    have hjoined := hgoes.joined hkey hnoneOther hjoin hplaced hnamed
    have hfound : SpellsOut.columnFound schema method other own others = others.column := by
      rw [SpellsOut.columnFound, hcolumns, ite_self]
    rw [hfound, hcolumns] at hjoined
    refine hgoes.saysTheSame hplaced hkey hjoined ?_ ?_ ?_
    · rw [hcolumns]
    · rw [id, describeSides, describeSides, hcolumns]
    · rw [id, describeSides, describeSides, hcolumns]
  · intro hnamed hmeans
    have hjoined := hgoes.joined hkey hnoneOther hjoin hplaced hnamed
    rw [SpellsOut.columnFound, if_neg hmeans] at hjoined
    exact hgoes.saysTheSame hplaced hkey hjoined (Finset.pair_comm _ _) rfl rfl

/-! ## Users and roles -/

namespace Schema

/-- The document of users and roles in which no side has a join. -/
def rolesText : String :=
  "User1 (user1)\n  roles1(): Role1[] <- Role1.users1()\n" ++
    "Role1 (role1)\n  users1(): User1[] <- User1.roles1()\n"

/-- Without the join the document says the same, but for the join. -/
theorem parse_rolesText : Schema.parse {} rolesText = .ok (rolesWith roles1) :=
  eq_ok_of_toOption (by decide +kernel)

/-- How the roles of a user are described by convention. -/
def describedRoles : RelationDescription where
  entity := "\\App\\User1"
  method := "roles1"
  kind := .belongsToMany
  related := some "\\App\\Role1"
  ownerKey := some "id"
  localKey := some "id"
  pivotTable := some "role1_user1"
  foreignPivotKey := some "users1_id"
  relatedPivotKey := some "roles1_id"

/-- The foreign column is named after the method of the roles, and the related one after that of the
users. -/
theorem describe_roles1 :
    Tracked.evaluate (Relation.describe (rolesWith roles1) roles1) = .ok describedRoles :=
  eq_ok_of_toOption (by decide +kernel)

end Schema

open Schema in
/-- In the example the two columns have different names, so that the join changes the descriptions:
the columns are exchanged. -/
theorem spelledOut_iff_roles :
    Schema.parse {} rolesText = .ok (rolesWith roles1) ∧
      ¬ SaysTheSame id (rolesWith roles1) roles1 users1 rolesJoin ∧
      SaysTheSame RelationDescription.swapPivotKeys (rolesWith roles1) roles1 users1 rolesJoin := by
  have hroles : roles1 ∈ (rolesWith roles1).methods := by decide
  have husers : users1 ∈ (rolesWith roles1).methods := by decide
  have htable : Tracked.evaluate (Relation.pivotTableOf (rolesWith roles1) roles1) =
      .ok "role1_user1" := eq_ok_of_toOption (by decide +kernel)
  have hfirst : rolesJoin.first = ⟨((rolesWith roles1).owner roles1).shortName, "id", "role1_user1",
      "users1_id"⟩ := rfl
  obtain ⟨hsame, hswapped⟩ := spelledOut_iff parse_rolesText hroles husers
    (eq_ok_of_toOption (by decide +kernel)) (eq_ok_of_toOption (by decide +kernel)) (by decide)
    (by decide) (by decide) (eq_ok_of_toOption (by decide +kernel))
    (eq_ok_of_toOption (by decide +kernel)) rfl rfl htable (by decide) describe_roles1 rfl rfl
    hfirst rfl
  refine ⟨parse_rolesText, fun h => ?_, ?_⟩
  · exact absurd (hsame.1 h).1 (by decide)
  · exact hswapped (eq_ok_of_toOption (by decide)) (by decide)

open Schema in
/-- The join that spells out the pivot table of the users and roles is accepted in a document, and
the schema of this document is that of the document without it, where the join is given to the
first side. But the two columns of the description are exchanged. -/
theorem not_spelledOut_roles :
    (Schema.parse {} rolesText = .ok (rolesWith roles1) ∧
      Tracked.evaluate (Relation.inverse (rolesWith roles1) roles1) = .ok users1 ∧
      Tracked.evaluate (Relation.inverse (rolesWith roles1) users1) = .ok roles1 ∧
      Tracked.evaluate (Relation.kind (rolesWith roles1) roles1) = .ok .belongsToMany ∧
      Tracked.evaluate (Relation.kind (rolesWith roles1) users1) = .ok .belongsToMany ∧
      Tracked.evaluate (Relation.pivotTableOf (rolesWith roles1) roles1) = .ok "role1_user1" ∧
      ∀ entity ∈ (rolesWith roles1).entities,
        entity.table ≠ "role1_user1" ∧ entity.primaryKeys = ["id"]) ∧
    Schema.parse {} joinedRolesText = .ok ((rolesWith roles1).joined roles1 rolesJoin) ∧
    ∃ described joined,
      Tracked.evaluate (Relation.describe (rolesWith roles1) roles1) = .ok described ∧
      Tracked.evaluate (Relation.describe ((rolesWith roles1).joined roles1 rolesJoin)
        (roles1.joined rolesJoin)) = .ok joined ∧
      (described.foreignPivotKey = some "users1_id" ∧
        described.relatedPivotKey = some "roles1_id") ∧
      (joined.foreignPivotKey = some "roles1_id" ∧
        joined.relatedPivotKey = some "users1_id") ∧ joined ≠ described := by
  have hjoined : (rolesWith roles1).joined roles1 rolesJoin = rolesWith joinedRoles1 := by decide
  refine ⟨⟨parse_rolesText, eq_ok_of_toOption (by decide +kernel),
    eq_ok_of_toOption (by decide +kernel), eq_ok_of_toOption (by decide +kernel),
    eq_ok_of_toOption (by decide +kernel), eq_ok_of_toOption (by decide +kernel), by decide⟩,
    by rw [hjoined]; exact parse_joinedRolesText, ?_⟩
  exact ⟨describedRoles, describedRoles.swapPivotKeys, describe_roles1,
    eq_ok_of_toOption (by decide +kernel), ⟨rfl, rfl⟩, ⟨rfl, rfl⟩, by decide⟩

end EntitySchema
