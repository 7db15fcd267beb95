/-
Comparing a schema with a snapshot.

A comparison succeeds if the relations of the schema are resolved and every entity has a table. What
it finds is then a matter of tables: those of the entities, each of which gives a change or none,
and the pivot tables, each of which is created if it is missing. `changesFrom_eq_ok` says so, and
the rest of the theory speaks of `ChangeSet.between` instead of the comparison itself.

The point of the split is that the two halves depend on different things. Whether the relations are
resolved, and which pivot tables they ask for, does not depend on the snapshot; once a comparison of
a schema has succeeded with some snapshot, this half succeeds with every other (`Schema.AsksFor`).
The tables of entities do depend on the snapshot, through the commands that are pending, but on
nothing else of the schema than the entity.

The comparison here is the one without a memory of lookups. That a memory makes no difference is
`evaluate_changesFrom`, and every theorem about documents begins with it.
-/
import EntitySchema.Proofs.Inverse
import EntitySchema.Proofs.Migration.Tables

set_option autoImplicit false

namespace EntitySchema

open Outcome

/-- The changes between a snapshot and given tables of entities and pivot tables. Those of the
entities come first, in the order of the entities, and all pivot tables come behind them. -/
def ChangeSet.between (snapshot : Snapshot) (tables pivots : List Table) : ChangeSet :=
  ⟨tables.filterMap (Table.changeFrom? snapshot) ++
    (pivots.filter (!snapshot.hasTable ·.name)).map (·.toChange .createTable)⟩

/-- The relations of a schema are resolved, and they ask for these pivot tables. -/
def Schema.AsksFor (schema : Schema) (pivots : List Table) : Prop :=
  checkRelations (m := Except Error) schema = .ok () ∧
    ∃ ofEntities, schema.entities.mapM (impliedPivotTables (m := Except Error) schema) =
      .ok ofEntities ∧ ofEntities.flatten = pivots

/-- A comparison succeeds if the relations are resolved and every entity has a table. Of these two
only the tables have to do with the snapshot. The pivot tables are given first, so that a proof can
keep them while it passes to another snapshot. -/
theorem changesFrom_eq_ok {schema : Schema} {snapshot : Snapshot} {changeSet : ChangeSet} :
    changesFrom (m := Except Error) schema snapshot = .ok changeSet ↔
      ∃ pivots, schema.AsksFor pivots ∧ ∃ tables,
        schema.entities.mapM (·.toTable snapshot) = .ok tables ∧
          ChangeSet.between snapshot tables pivots = changeSet := by
  simp only [changesFrom, entityChanges, pivotChanges, LookupMonad.lift_plain, bind_eq_ok]
  constructor
  · rintro ⟨⟨⟩, hrelations, changes, ⟨tables, htables, hchanges⟩, created,
      ⟨pivots, hpivots, hcreated⟩, hall⟩
    refine ⟨pivots.flatten, ⟨hrelations, pivots, hpivots, rfl⟩, tables, htables, ?_⟩
    rw [← Except.ok.inj hall, ← Except.ok.inj hchanges, ← Except.ok.inj hcreated]
    rfl
  · rintro ⟨_, ⟨hrelations, pivots, hpivots, rfl⟩, tables, htables, rfl⟩
    exact ⟨(), hrelations, _, ⟨tables, htables, rfl⟩, _, ⟨pivots, hpivots, rfl⟩, rfl⟩

/-- A table is missing if a snapshot has no entry for it. -/
theorem Snapshot.hasTable_eq_false_iff {snapshot : Snapshot} {table : String} :
    snapshot.hasTable table = false ↔ snapshot.tables.get? table = none := by
  rw [hasTable, OrderedMap.contains, Option.isSome_eq_false_iff, Option.isNone_iff_eq_none]

namespace Table

variable {snapshot : Snapshot} {table : Table} {change : TableChange}

/-- The change that comes of a table is a change of this table. -/
theorem table_of_changeFrom? (h : table.changeFrom? snapshot = some change) :
    change.table = table.name := by
  rcases changeFrom?_eq_some h with ⟨-, rfl⟩ | ⟨-, rfl⟩
  · rfl
  · rfl

/-- A table is created only if it is missing. -/
theorem get?_eq_none_of_create (h : table.changeFrom? snapshot = some change)
    (hkind : change.kind = .createTable) : snapshot.tables.get? table.name = none := by
  rcases changeFrom?_eq_some h with ⟨-, rfl⟩ | ⟨hmissing, -⟩
  · cases hkind
  · exact Snapshot.hasTable_eq_false_iff.1 hmissing

/-- The changes of tables keep the order of the tables. In particular, if the tables are different
the changes are of different tables. -/
theorem tables_filterMap_changeFrom? (snapshot : Snapshot) (tables : List Table) :
    ((tables.filterMap (changeFrom? snapshot)).map (·.table)).Sublist (tables.map (·.name)) := by
  induction tables with
  | nil => exact List.Sublist.refl _
  | cons table tables ih =>
    rw [List.filterMap_cons]
    cases hchange : changeFrom? snapshot table with
    | none => exact ih.cons _
    | some change =>
      rw [List.map_cons, List.map_cons, table_of_changeFrom? hchange]
      exact ih.cons_cons _

end Table

/-- The change that answers an entity, if its table can be built and is not up to date. This puts
the two stages, building a table and comparing it, into one function of the entity. -/
def Entity.answerFrom? (snapshot : Snapshot) (entity : Entity) : Option TableChange :=
  (entity.toTable snapshot).toOption.bind (Table.changeFrom? snapshot)

/-- For an entity whose table is known it is the change of the table. -/
theorem Entity.answerFrom?_eq {entity : Entity} {snapshot : Snapshot} {table : Table}
    (h : entity.toTable snapshot = .ok table) :
    entity.answerFrom? snapshot = table.changeFrom? snapshot := by
  rw [answerFrom?, h]
  rfl

/-- The changes of the tables of entities are what answers the entities. -/
theorem Schema.filterMap_changeFrom?_eq {schema : Schema} {snapshot : Snapshot}
    {tables : List Table} (htables : schema.entities.mapM (·.toTable snapshot) = .ok tables) :
    tables.filterMap (Table.changeFrom? snapshot) =
      schema.entities.filterMap (Entity.answerFrom? snapshot) := by
  have hsame : tables.map (Table.changeFrom? snapshot) =
      schema.entities.map (Entity.answerFrom? snapshot) :=
    map_of_mapM htables fun entity _ table htable => (Entity.answerFrom?_eq htable).symm
  rw [← Function.id_comp (Table.changeFrom? snapshot), ← List.filterMap_map, hsame,
    List.filterMap_map, Function.id_comp]

/-- The tables of the changes are those of entities, and the pivot tables that are missing. A pivot
table that several methods ask for occurs several times. -/
theorem ChangeSet.tables_between {snapshot : Snapshot} {tables pivots : List Table} :
    (ChangeSet.between snapshot tables pivots).tables =
      (tables.filterMap (Table.changeFrom? snapshot)).map (·.table) ++
        (pivots.map (·.name)).filter (!snapshot.hasTable ·) := by
  rw [ChangeSet.tables, between, List.map_append, List.map_map, List.filter_map]
  rfl

/-- A change comes of the table of an entity, or it creates a pivot table. Most statements about a
change set are proved by these two cases. -/
theorem ChangeSet.mem_between {snapshot : Snapshot} {tables pivots : List Table}
    {change : TableChange} :
    change ∈ (ChangeSet.between snapshot tables pivots).changes ↔
      (∃ table ∈ tables, table.changeFrom? snapshot = some change) ∨
        ∃ pivot ∈ pivots, snapshot.tables.get? pivot.name = none ∧
          pivot.toChange .createTable = change := by
  simp only [ChangeSet.between, List.mem_append, List.mem_filterMap, List.mem_map, List.mem_filter,
    Bool.not_eq_true', Snapshot.hasTable_eq_false_iff, and_assoc]

end EntitySchema
