/-
Databases, as far as a schema is read from them.

A database is known by its tables, with columns, unique constraints and indexes. Reading it
gives a snapshot: tables in alphabetical order, and for each the names of its indexes in
alphabetical order, followed by the unique constraints that have a name. The database keeps one
constraint for each list of columns, so of several with equal columns only the first is read.
-/
import EntitySchema.Address
import EntitySchema.ColumnType
import EntitySchema.Error
import EntitySchema.Snapshot.Basic

set_option autoImplicit false

namespace EntitySchema

/-- A column of a database, with the type that was declared for it. -/
structure DatabaseColumn where
  name : String
  type : String
  nullable : Bool
  deriving DecidableEq, Repr, Inhabited

/-- A unique constraint of a database. Its name is empty if it has none. -/
structure DatabaseUnique where
  name : String
  columns : List String
  deriving DecidableEq, Repr, Inhabited

/-- A table of a database. -/
structure DatabaseTable where
  name : String
  columns : List DatabaseColumn
  /-- The unique constraints in the order of their declaration. -/
  uniques : List DatabaseUnique := []
  /-- Names of the indexes. -/
  indexes : List String := []
  deriving DecidableEq, Repr, Inhabited

/-- The tables of a database. -/
structure Database where
  tables : List DatabaseTable := []
  deriving DecidableEq, Repr, Inhabited

namespace Database

/-- Sorts by name, and keeps the order of what has the same name. -/
def sortByName {α : Type} (name : α → String) (items : List α) : List α :=
  items.mergeSort fun a b => !decide (name b < name a)

/-- The unique constraints that the database keeps: the first one for each list of columns. A
constraint is found by the names of the columns as they are spelled in the table, so one that
spells them in another way is not found. -/
def keptUniques (table : DatabaseTable) : List DatabaseUnique :=
  go [] table.uniques
where
  /-- Goes on after constraints on the lists of columns in `seen`. -/
  go (seen : List (List String)) : List DatabaseUnique → List DatabaseUnique
    | [] => []
    | unique :: rest =>
      if unique.columns.all (table.columns.map (·.name)).contains && !seen.contains unique.columns
      then unique :: go (unique.columns :: seen) rest
      else go seen rest

/-- The state of a table. -/
def stateOf (table : DatabaseTable) : TableState where
  columns := .ofList (table.columns.map fun column =>
    (some column.name, ⟨column.nullable, some (ColumnType.told column.type)⟩))
  indexes :=
    (((keptUniques table).map (·.name)).filter (· ≠ "")).foldl
      (fun names name => if names.contains (some name) then names else names ++ [some name])
      ((sortByName id table.indexes).map some)

/-- What a database has. -/
def snapshot (database : Database) : Snapshot where
  tables := .ofList ((sortByName (·.name) database.tables).map fun table =>
    (table.name, stateOf table))

/-- The name of the kind of database that is supported. -/
def dialect : String := "sqlite"

/-- The drivers for the kind of database that is supported. -/
def drivers : List String := [dialect, dialect ++ "+pysqlite"]

/-- Opens the database at an address. A database in memory is empty, and so is a new file; a
file in another directory is out of reach. -/
def openAt (url : String) : Except Error Database :=
  match Address.read? url with
  | none => .error (.unknownDatabase url)
  | some address =>
    if !drivers.contains address.driver || address.hasServer then .error (.unknownDatabase url)
    else if address.file = "" || address.file = ":memory:" || Address.isNear address.file then
      .ok {}
    else .error .unreachableDatabase

end Database

end EntitySchema
