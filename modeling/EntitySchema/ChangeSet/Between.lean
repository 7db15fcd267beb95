/-
The changes between a snapshot and a schema.

Tables of entities are created if they are missing and updated otherwise, in the order of the
entities; after them come the pivot tables that are missing. A pivot table that exists is never
touched, and nothing is ever dropped that no command names.

All relations are resolved before anything else, so that a schema with an unresolved relation gives
an error and no changes.

A table that exists is updated with what is missing of it. A column is missing if the snapshot does
not have it as it is asked for, which may mean that only its nullability is to be changed; an index
or a unique constraint is missing if there is none of its name. Commands are carried while they are
pending. If nothing is missing and no command is pending there is no change. How many rounds it
takes until that is so is told in `EntitySchema.Proofs.Migration.Convergence`.

Whether a table is missing is asked of the snapshot alone. What the changes before it in the same
change set have created does not count.
-/
import EntitySchema.Table

set_option autoImplicit false

namespace EntitySchema

namespace Table

/-- A column with what a snapshot says about it. -/
def markColumn (snapshot : Snapshot) (table : String) (column : ColumnChange) : ColumnChange :=
  match snapshot.columnNullable? table column.name with
  | none => column
  | some current => { column with alreadyThere := true, currentNullable := some current }

/-- Whether the snapshot has a column as one of the given columns asks for it. -/
def isSettled (snapshot : Snapshot) (table : String) (columns : List ColumnChange)
    (name : String) : Bool :=
  columns.any fun column =>
    column.name == name && snapshot.columnNullable? table name == some column.nullable

/-- What of a table the snapshot does not have yet. Indexes are compared by name only. -/
def missingFrom (snapshot : Snapshot) (table : Table) : Table :=
  { table with
    columns := (table.columns.map (markColumn snapshot table.name)).filter
      (!isSettled snapshot table.name table.columns ·.name)
    indexes := table.indexes.filterKeys (!snapshot.hasIndex table.name ·)
    uniques := table.uniques.filterKeys (!snapshot.hasIndex table.name ·) }

/-- The change that brings a snapshot up to the table of an entity, if one is needed. -/
def changeFrom? (snapshot : Snapshot) (table : Table) : Option TableChange :=
  if snapshot.hasTable table.name then
    if (table.missingFrom snapshot).hasChanges then
      some ((table.missingFrom snapshot).toChange .updateTable)
    else none
  else some (table.toChange .createTable)

end Table

variable {m : Type → Type} [LookupMonad m] (schema : Schema)

open LookupMonad (lift)

/-- Resolves the kind of every method. -/
def checkRelations : m Unit := schema.methods.forM fun method => do
  let _ ← Relation.kind schema method

/-- The changes of the tables of entities. -/
def entityChanges (snapshot : Snapshot) : Except Error (List TableChange) := do
  let tables ← schema.entities.mapM (·.toTable snapshot)
  return tables.filterMap (Table.changeFrom? snapshot)

/-- The pivot tables that are missing. -/
def pivotChanges (snapshot : Snapshot) : m (List TableChange) := do
  let tables ← schema.entities.mapM (impliedPivotTables schema)
  return (tables.flatten.filter (!snapshot.hasTable ·.name)).map (·.toChange .createTable)

/-- The changes that bring a snapshot up to the schema. -/
def changesFrom (snapshot : Snapshot) : m ChangeSet := do
  checkRelations schema
  let ofEntities ← lift (entityChanges schema snapshot)
  let ofPivots ← pivotChanges schema snapshot
  return ⟨ofEntities ++ ofPivots⟩

end EntitySchema
