/-
Change sets: what is to be done to a database.

A change creates a table or updates one. Its columns and indexes are to be added; a column that
exists only changes whether it may be null. Its commands rename and delete what the table has.

A change set is a list, and the order of the list is the order in which the changes are made.
Nothing forbids two changes of one table, although a comparison yields them only where two relations
ask for the same pivot table.

Changes are plain data and refer to nothing in the schema: whoever writes a migration from them
needs no other source. This is why a column says whether it exists already and whether it may be
null now, although neither matters when the change is applied.
-/
import EntitySchema.Declaration.Basic

set_option autoImplicit false

namespace EntitySchema

/-- Whether a change creates a table or updates it. -/
inductive ChangeKind where
  | createTable
  | updateTable
  deriving DecidableEq, Repr, Inhabited

namespace ChangeKind

/-- The name of a kind. -/
def name : ChangeKind → String
  | createTable => "create_table"
  | updateTable => "update_table"

/-- All kinds. -/
def all : List ChangeKind := [createTable, updateTable]

/-- Every kind is listed. -/
theorem mem_all (kind : ChangeKind) : kind ∈ all := by cases kind <;> simp [all]

/-- The kind with a name. -/
def ofName? (name : String) : Option ChangeKind := all.find? (·.name = name)

end ChangeKind

/-- A column to add, or to change in place if it exists. -/
structure ColumnChange where
  name : String
  type : String
  param1 : Option Parameter := none
  param2 : Option Int := none
  nullable : Bool
  default : Option String := none
  primaryKey : Bool := false
  /-- Whether the column exists, so that only its nullability changes. -/
  alreadyThere : Bool := false
  /-- Whether the column may be null now, if it exists. -/
  currentNullable : Option Bool := none
  deriving DecidableEq, Repr, Inhabited

/-- An index or unique constraint to add. -/
structure IndexChange where
  name : String
  columns : List String
  deriving DecidableEq, Repr, Inhabited

/-- A command to carry out. -/
structure CommandChange where
  kind : AlterKind
  source : String
  target : Option String := none
  deriving DecidableEq, Repr, Inhabited

/-- A change of one table. -/
structure TableChange where
  kind : ChangeKind
  table : String
  /-- Whether the table is the pivot table of a relation and no entity's. -/
  impliedPivot : Bool := false
  columns : List ColumnChange := []
  indexes : List IndexChange := []
  uniques : List IndexChange := []
  commands : List CommandChange := []
  deriving DecidableEq, Repr, Inhabited

/-- Changes in the order in which they are to be made. -/
structure ChangeSet where
  changes : List TableChange := []
  deriving DecidableEq, Repr, Inhabited

namespace ChangeSet

/-- Whether nothing is to be done. -/
def isEmpty (changeSet : ChangeSet) : Bool := changeSet.changes.isEmpty

/-- The table of each change. -/
def tables (changeSet : ChangeSet) : List String := changeSet.changes.map (·.table)

/-- The first change of a table. -/
def changeFor? (changeSet : ChangeSet) (table : String) : Option TableChange :=
  changeSet.changes.find? (·.table == table)

end ChangeSet

/-- The names of the columns of a change. -/
def TableChange.columnNames (change : TableChange) : List String := change.columns.map (·.name)

end EntitySchema
