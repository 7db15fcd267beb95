/-
Applying change sets to snapshots.

A change that does not fit the snapshot, because it creates what exists or acts on what does not,
fails, and with it the whole change set. Commands come before the columns and indexes of their
change.

A change is made in two parts. `TableState.run` carries out one command and is the only part that
can fail; `TableState.addAll` adds columns and indexes, and takes what is there already into
account: a column that exists only changes whether it may be null, and an index that exists is not
listed again. A created table starts empty, and commands of its change are not run.

No command looks at the name that it gives. A column that is renamed to the name of another one
takes its place, and an index that is renamed to the name of another one is listed beside it. What
follows from this is the subject of `EntitySchema.Proofs.Migration.Renames`.
-/
import EntitySchema.ChangeSet.Basic
import EntitySchema.Error
import EntitySchema.Snapshot.Basic

set_option autoImplicit false

namespace EntitySchema

namespace TableState

/-- The table with a column added. A column that exists only changes whether it may be null. -/
def addColumn (state : TableState) (column : ColumnChange) : TableState :=
  let entry : ColumnState :=
    match state.columns.get? (some column.name) with
    | some existing => { existing with nullable := column.nullable }
    | none => ⟨column.nullable, some column.type⟩
  { state with columns := state.columns.insert (some column.name) entry }

/-- The table with an index added, unless it has one of that name. -/
def addIndex (state : TableState) (name : String) : TableState :=
  if state.indexes.contains (some name) then state
  else { state with indexes := state.indexes ++ [some name] }

/-- The table with the columns, indexes and unique constraints of a change. -/
def addAll (state : TableState) (change : TableChange) : TableState :=
  let withColumns := change.columns.foldl addColumn state
  (change.indexes ++ change.uniques).foldl (fun state index => state.addIndex index.name)
    withColumns

/-- The table, named for messages, after a command. A renamed column moves to the end, unless
there is a column of the new name: that one keeps its place and gets the renamed state. A
renamed index keeps its place. Whatever is renamed to nothing has no name from then on. -/
def run (table : String) (state : TableState) (command : CommandChange) :
    Except Error TableState :=
  match command.kind with
  | .renameField =>
    match state.columns.get? (some command.source) with
    | none => .error (.columnMissing table command.source)
    | some column =>
      .ok { state with
        columns := (state.columns.erase (some command.source)).insert command.target column }
  | .deleteField =>
    match state.columns.get? (some command.source) with
    | none => .error (.columnMissing table command.source)
    | some _ => .ok { state with columns := state.columns.erase (some command.source) }
  | .renameIndex =>
    if state.indexes.contains (some command.source) then
      .ok { state with indexes := state.indexes.replace (some command.source) command.target }
    else .error (.indexMissing table command.source)
  | .deleteIndex =>
    if state.indexes.contains (some command.source) then
      .ok { state with indexes := state.indexes.erase (some command.source) }
    else .error (.indexMissing table command.source)

end TableState

namespace Snapshot

/-- The snapshot after a change. -/
def applyChange (snapshot : Snapshot) (change : TableChange) : Except Error Snapshot :=
  match change.kind, snapshot.tables.get? change.table with
  | .createTable, some _ => .error (.tableExists change.table)
  | .createTable, none =>
    .ok { tables := snapshot.tables.insert change.table (TableState.addAll {} change) }
  | .updateTable, none => .error (.tableMissing change.table)
  | .updateTable, some state => do
    let state ← change.commands.foldlM (TableState.run change.table) state
    return { tables := snapshot.tables.insert change.table (state.addAll change) }

/-- The snapshot after all changes of a change set, made in order. -/
def apply (snapshot : Snapshot) (changeSet : ChangeSet) : Except Error Snapshot :=
  changeSet.changes.foldlM applyChange snapshot

end Snapshot

end EntitySchema
