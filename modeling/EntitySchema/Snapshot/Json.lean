/-
The JSON form of snapshots.

Every key may be left out and unknown keys mean nothing. A truth value may also be written as the
number 0 or 1 or as one of a few words. Whatever else is wrong makes the whole text no snapshot. A
column or index without a name is written as null, and is not read back.

A snapshot is an object with the member `tables`; a table has `columns` and `indexes`; a column has
`nullable` and `type`. The order of the members is the order of tables and columns. A name that
occurs twice keeps the place of the first one and has the value of the last, which is what inserting
one after the other into an `OrderedMap` does.

There is a second, shorter form without types, in which a column is just its truth value and the
indexes of all tables stand apart. It is read and never written.
-/
import EntitySchema.Error
import EntitySchema.Json.Reader
import EntitySchema.Json.Writer
import EntitySchema.Snapshot.Basic

set_option autoImplicit false

namespace EntitySchema

namespace Json

/-! ## Truth values -/

/-- Words for true. -/
def trueWords : List String := ["1", "on", "t", "true", "y", "yes"]

/-- Words for false. -/
def falseWords : List String := ["0", "off", "f", "false", "n", "no"]

/-- False for a number that is 0, true for one that is 1. -/
def zeroOrOne? (number : JsonNumber) : Option Bool :=
  match number.integral? with
  | some 0 => some false
  | some 1 => some true
  | _ => none

/-- The truth value that a value stands for. -/
def truth? : Json → Option Bool
  | .bool value => some value
  | .number value => zeroOrOne? value
  | .string word =>
    let lower := String.ofList (word.toList.map Char.toLower)
    if trueWords.contains lower then some true
    else if falseWords.contains lower then some false
    else none
  | _ => none

/-- A member that may be left out. -/
def member {α : Type} (value : Json) (key : String) (fallback : α) (read : Json → Option α) :
    Option α :=
  match value.get? key with
  | none => some fallback
  | some found => read found

/-- A member that has to be there. -/
def required {α : Type} (value : Json) (key : String) (read : Json → Option α) : Option α :=
  (value.get? key).bind read

/-- A text or null. -/
def textOrNull? : Json → Option (Option String)
  | .null => some none
  | .string text => some (some text)
  | _ => none

/-- Reads all members of an object, with a key for each name. Of a name that occurs several times
the last value counts. -/
def readMap? {κ α : Type} [DecidableEq κ] (key : String → κ) (read : Json → Option α)
    (value : Json) : Option (OrderedMap κ α) := do
  let members ← value.asObject?
  OrderedMap.ofList <$> members.mapM fun (name, value) => do return (key name, ← read value)

end Json

/-! ## Reading -/

/-- Reads the state of a column. -/
def ColumnState.ofJson? (value : Json) : Option ColumnState := do
  let _ ← value.asObject?
  return {
    nullable := ← value.member "nullable" true Json.truth?
    type := ← value.member "type" none Json.textOrNull? }

/-- Reads the state of a table. -/
def TableState.ofJson? (value : Json) : Option TableState := do
  let _ ← value.asObject?
  return {
    columns := ← value.member "columns" ∅ (Json.readMap? some ColumnState.ofJson?)
    indexes := (← value.member "indexes" [] Json.asStrings?).map some }

namespace Snapshot

/-- Reads a snapshot. -/
def ofJson? (value : Json) : Option Snapshot := do
  let _ ← value.asObject?
  return { tables := ← value.member "tables" ∅ (Json.readMap? id TableState.ofJson?) }

/-- How deep the values of a snapshot may be nested. -/
def depthLimit : Nat := 200

/-- Reads a snapshot from text. -/
def ofText (text : String) : Except Error Snapshot :=
  match (Json.parseWithin? depthLimit text).bind ofJson? with
  | some snapshot => .ok snapshot
  | none => .error .invalidSnapshot

end Snapshot

/-! ## Writing -/

/-- Members of an object from a map, with a name for each key. -/
def OrderedMap.toJson {κ α : Type} (name : κ → String) (write : α → Json)
    (map : OrderedMap κ α) : Json :=
  .object (map.entries.map fun entry => (name entry.1, write entry.2))

/-- The state of a column as JSON. -/
def ColumnState.toJson (column : ColumnState) : Json :=
  .object [("nullable", .bool column.nullable), ("type", .optString column.type)]

/-- The state of a table as JSON. -/
def TableState.toJson (table : TableState) : Json :=
  .object [("columns", table.columns.toJson (·.getD "null") ColumnState.toJson),
    ("indexes", .array (table.indexes.map .optString))]

namespace Snapshot

/-- A snapshot as JSON. -/
def toJson (snapshot : Snapshot) : Json :=
  .object [("tables", snapshot.tables.toJson id TableState.toJson)]

/-- Reads a snapshot that is written without types: for each table whether its columns may be
null, and apart from that the names of its indexes. -/
def ofShorthand? (value : Json) : Option Snapshot := do
  let indexes ← value.member "indexes" ∅ fun found =>
    if found = .null then some ∅ else Json.readMap? id Json.asStrings? found
  let column (nullable : Json) : Option ColumnState := do return { nullable := ← nullable.truth? }
  let columns ← value.required "tables" (Json.readMap? id (Json.readMap? some column))
  return { tables := columns.mapValues fun table columns =>
    { columns, indexes := ((indexes.get? table).getD []).map some } }

/-- A snapshot as text. -/
def toText (snapshot : Snapshot) : String := snapshot.toJson.pretty

end Snapshot

end EntitySchema
