/-
Snapshots: what a database has.

A snapshot lists tables with their columns and the names of their indexes. Unique constraints count
as indexes, since both are compared by name. It is what a schema is compared with, and what a change
set is applied to.

A comparison asks a snapshot three things only: whether a table exists, whether a column exists and
may be null, and whether a table has an index of a name. The functions below answer these, and
nothing else of a snapshot decides what is to be done. In particular the type of a column is not
among them, and neither are the columns of an index.

The name of a column or an index is optional. A rename whose target is left out takes the name away,
and what has no name is not found by any of the questions. Snapshots that are read from a text have
names throughout.
-/
import EntitySchema.OrderedMap

set_option autoImplicit false

namespace EntitySchema

/-- A column that exists. Its type is only told, never compared. -/
structure ColumnState where
  nullable : Bool := true
  type : Option String := none
  deriving DecidableEq, Repr, Inhabited

/-- A table that exists. Columns and indexes are known by their names, which a rename without a
target takes from them. -/
structure TableState where
  columns : OrderedMap (Option String) ColumnState := ∅
  indexes : List (Option String) := []
  deriving DecidableEq, Inhabited

/-- The tables that exist, in order. -/
structure Snapshot where
  tables : OrderedMap String TableState := ∅
  deriving DecidableEq, Inhabited

namespace Snapshot

/-- The snapshot of a database without tables. -/
def empty : Snapshot := {}

/-- Whether a table exists. -/
def hasTable (snapshot : Snapshot) (table : String) : Bool := snapshot.tables.contains table

/-- Whether a column may be null; nothing if it does not exist. -/
def columnNullable? (snapshot : Snapshot) (table column : String) : Option Bool :=
  ((snapshot.tables.get? table).bind (·.columns.get? (some column))).map (·.nullable)

/-- Whether a column exists. -/
def hasColumn (snapshot : Snapshot) (table column : String) : Bool :=
  (snapshot.columnNullable? table column).isSome

/-- Whether a table has an index or unique constraint of a name. -/
def hasIndex (snapshot : Snapshot) (table index : String) : Bool :=
  (snapshot.tables.get? table).any (·.indexes.contains (some index))

end Snapshot

end EntitySchema
