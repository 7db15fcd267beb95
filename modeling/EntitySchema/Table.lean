/-
Tables that a schema asks for.

The table of an entity has a column for each field, and its indexes and unique constraints collect
the fields that name them. Commands are carried while there is something for them to act on. A
many-to-many without a declared pivot entity asks for a pivot table, on the side whose entity comes
first by name.

A table is built field by field from an empty one, and a command and a field of one entity may
contradict each other. A field that is the source of a rename must not be declared, and neither must
an index that is renamed or deleted. Unique constraints and the sources of deleted fields are not
looked at. The first field that is refused ends the work.

While a rename is pending its target is left to it: neither a column nor an index is added under the
new name, since the rename will bring it about. For this reason a table depends on the snapshot that
it is compared with, though only by the commands that are pending against it.
-/
import EntitySchema.ChangeSet.Basic
import EntitySchema.Relation.Pivot
import EntitySchema.Snapshot.Basic

set_option autoImplicit false

namespace EntitySchema

/-- What one table has to be. -/
structure Table where
  name : String
  columns : List ColumnChange := []
  commands : List AlterCommand := []
  /-- The columns of each index. -/
  indexes : OrderedMap String (List String) := ∅
  /-- The columns of each unique constraint. -/
  uniques : OrderedMap String (List String) := ∅
  /-- Whether it is the pivot table of a relation and no entity's. -/
  impliedPivot : Bool := false
  deriving DecidableEq, Inhabited

/-- The column of a field. -/
def Field.toColumn (field : Field) : ColumnChange where
  name := field.name
  type := field.type
  param1 := field.param1
  param2 := field.param2
  nullable := field.mayBeNull
  default := field.default
  primaryKey := field.primaryKey

namespace Table

/-- Whether something is to be done for the table. -/
def hasChanges (table : Table) : Bool :=
  !table.columns.isEmpty || !table.indexes.isEmpty || !table.uniques.isEmpty ||
    !table.commands.isEmpty

/-- The names of the columns in order. -/
def columnNames (table : Table) : List String := table.columns.map (·.name)

/-- The indexes of a map as changes. -/
def indexChanges (indexes : OrderedMap String (List String)) : List IndexChange :=
  indexes.entries.map fun entry => ⟨entry.1, entry.2⟩

/-- The table as a change. -/
def toChange (table : Table) (kind : ChangeKind) : TableChange where
  kind := kind
  table := table.name
  impliedPivot := table.impliedPivot
  columns := table.columns
  indexes := indexChanges table.indexes
  uniques := indexChanges table.uniques
  commands := table.commands.map fun command => ⟨command.kind, command.source, command.target⟩

/-- Adds a column to an index, which is created if it is new. -/
def addToIndex (column : String) (indexes : OrderedMap String (List String)) (name : String) :
    OrderedMap String (List String) :=
  indexes.insert name (((indexes.get? name).getD []) ++ [column])

end Table

/-! ## Tables of entities -/

namespace Entity

/-- Whether there is something in a snapshot for a command of an entity to act on. -/
def isPending (entity : Entity) (snapshot : Snapshot) (command : AlterCommand) : Bool :=
  if command.kind.actsOnIndex then snapshot.hasIndex entity.table command.source
  else snapshot.hasColumn entity.table command.source

/-- The commands of an entity that have something to act on. -/
def pendingCommands (entity : Entity) (snapshot : Snapshot) : List AlterCommand :=
  entity.commands.filter (entity.isPending snapshot)

/-- Refuses a field that is also the source of a rename. -/
def checkField (entity : Entity) (field : Field) : Except Error Unit :=
  match entity.commands.find? fun command =>
      command.kind == .renameField && command.source == field.name with
  | some command =>
    .error (.renamedFieldDeclared entity.shortName field.name (command.target.getD ""))
  | none => .ok ()

/-- Refuses an index of a field that is also the source of a rename or a deletion. -/
def checkIndex (entity : Entity) (field : Field) (index : String) : Except Error Unit :=
  match entity.commands.find? fun command =>
      command.kind.actsOnIndex && command.source == index with
  | some command =>
    if command.kind == .renameIndex then
      .error (.renamedIndexDeclared entity.shortName field.name index
        (command.target.getD ""))
    else
      .error (.deletedIndexDeclared entity.shortName field.name index)
  | none => .ok ()

/-- Whether a pending command renames something of a kind to a name. -/
def isRenamedTo (pending : List AlterCommand) (kind : AlterKind) (name : String) : Bool :=
  pending.any fun command => command.kind == kind && command.target == some name

/-- Adds a field to the table of its entity. What a pending rename brings about is left to the
rename: neither a column nor an index is added under its target. -/
def addFieldToTable (entity : Entity) (pending : List AlterCommand) (table : Table)
    (field : Field) : Except Error Table := do
  entity.checkField field
  if isRenamedTo pending .renameField field.name then
    return table
  field.indexNames.forM (entity.checkIndex field)
  let indexes := field.indexNames.filter (!isRenamedTo pending .renameIndex ·)
  return { table with
    columns := table.columns ++ [field.toColumn]
    indexes := indexes.foldl (Table.addToIndex field.name) table.indexes
    uniques := field.uniqueNames.foldl (Table.addToIndex field.name) table.uniques }

/-- The table of an entity, with the commands that are pending against a snapshot. -/
def toTable (entity : Entity) (snapshot : Snapshot) : Except Error Table :=
  let pending := entity.pendingCommands snapshot
  entity.fields.foldlM (entity.addFieldToTable pending)
    { name := entity.table, commands := pending }

end Entity

/-! ## Pivot tables -/

section Pivots

variable {m : Type → Type} [LookupMonad m] (schema : Schema)

/-- The pivot table that a method asks for, if it does. -/
def impliedPivotTable (method : Method) : m (Option Table) := do
  if !(← Relation.isManyToMany schema method) then return none
  if !(← Relation.isFirstSide schema method) then return none
  if (← Relation.pivotEntityOf schema method).isSome then return none
  let name ← Relation.pivotTableOf schema method
  let columns ← Relation.pivotColumns schema method
  return some {
    name
    columns := columns.map fun (column, nullable) =>
      { name := column, type := schema.config.pivotKeyType, nullable }
    impliedPivot := true }

/-- The pivot tables that the methods of an entity ask for. -/
def impliedPivotTables (entity : Entity) : m (List Table) := do
  return (← entity.methods.mapM (impliedPivotTable schema)).filterMap id

/-- The names of all tables: after the table of each entity the pivot tables that it asks
for. -/
def tableNames : m (List String) := do
  let names ← schema.entities.mapM fun entity => do
    return entity.table :: (← impliedPivotTables schema entity).map (·.name)
  return names.flatten

end Pivots

end EntitySchema
