/-
The JSON form of change sets.
-/
import EntitySchema.ChangeSet.Basic
import EntitySchema.Snapshot.Json
import EntitySchema.Text.Integer

set_option autoImplicit false

namespace EntitySchema

/-! ## Writing -/

/-- A parameter as JSON. -/
def Parameter.toJson : Parameter → Json
  | number value => .int value
  | text value => .string value

/-- A column change as JSON. -/
def ColumnChange.toJson (column : ColumnChange) : Json :=
  .object [("name", .string column.name), ("type", .string column.type),
    ("param1", column.param1.elim .null Parameter.toJson),
    ("param2", column.param2.elim .null Json.int), ("nullable", .bool column.nullable),
    ("default", .optString column.default), ("primary_key", .bool column.primaryKey),
    ("exists", .bool column.alreadyThere), ("current_nullable", .optBool column.currentNullable)]

/-- An index change as JSON. -/
def IndexChange.toJson (index : IndexChange) : Json :=
  .object [("name", .string index.name), ("columns", .strings index.columns)]

/-- A command as JSON. -/
def CommandChange.toJson (command : CommandChange) : Json :=
  .object [("kind", .string command.kind.name), ("source", .string command.source),
    ("target", .optString command.target)]

/-- A table change as JSON. -/
def TableChange.toJson (change : TableChange) : Json :=
  .object [("kind", .string change.kind.name), ("table", .string change.table),
    ("implicit_pivot", .bool change.impliedPivot),
    ("columns", .array (change.columns.map (·.toJson))),
    ("indexes", .array (change.indexes.map (·.toJson))),
    ("uniques", .array (change.uniques.map (·.toJson))),
    ("commands", .array (change.commands.map (·.toJson)))]

/-- A change set as JSON. -/
def ChangeSet.toJson (changeSet : ChangeSet) : Json :=
  .object [("changes", .array (changeSet.changes.map (·.toJson)))]

/-! ## Reading -/

namespace Json

/-- Whether an integer fits into 64 bits with its sign, the lowest one left out. -/
def fitsWord (value : Int) : Bool := value.natAbs < Nat.pow 2 63

/-- The whole number that a value stands for: an integer, a decimal that is equal to one of at
most 64 bits, a text that writes one, or a truth value for 0 or 1. -/
def wholeNumber? : Json → Option Int
  | .number (.integer value) => some value
  | .number value => value.integral?.filter fitsWord
  | .bool value => some (if value then 1 else 0)
  | .string text => Text.integer? text.toList
  | _ => none

/-- A value or null. -/
def orNull? {α : Type} (read : Json → Option α) : Json → Option (Option α)
  | .null => some none
  | value => (read value).map some

/-- Reads all items of an array. -/
def readList? {α : Type} (read : Json → Option α) (value : Json) : Option (List α) :=
  value.asArray?.bind fun items => items.mapM read

end Json

/-- Reads a parameter. A string is always a text. -/
def Parameter.ofJson? : Json → Option Parameter
  | .string value => some (.text value)
  | value => value.wholeNumber?.map .number

/-- Reads a column change. -/
def ColumnChange.ofJson? (value : Json) : Option ColumnChange := do
  return {
    name := ← value.required "name" Json.asString?
    type := ← value.required "type" Json.asString?
    param1 := ← value.member "param1" none (Json.orNull? Parameter.ofJson?)
    param2 := ← value.member "param2" none (Json.orNull? Json.wholeNumber?)
    nullable := ← value.required "nullable" Json.truth?
    default := ← value.member "default" none Json.textOrNull?
    primaryKey := ← value.member "primary_key" false Json.truth?
    alreadyThere := ← value.member "exists" false Json.truth?
    currentNullable := ← value.member "current_nullable" none (Json.orNull? Json.truth?) }

/-- Reads an index change. -/
def IndexChange.ofJson? (value : Json) : Option IndexChange := do
  return {
    name := ← value.required "name" Json.asString?
    columns := ← value.required "columns" Json.asStrings? }

/-- Reads a command. -/
def CommandChange.ofJson? (value : Json) : Option CommandChange := do
  return {
    kind := ← value.required "kind" fun kind => kind.asString?.bind AlterKind.ofName?
    source := ← value.required "source" Json.asString?
    target := ← value.member "target" none Json.textOrNull? }

/-- Reads a table change. -/
def TableChange.ofJson? (value : Json) : Option TableChange := do
  return {
    kind := ← value.required "kind" fun kind => kind.asString?.bind ChangeKind.ofName?
    table := ← value.required "table" Json.asString?
    impliedPivot := ← value.member "implicit_pivot" false Json.truth?
    columns := ← value.member "columns" [] (Json.readList? ColumnChange.ofJson?)
    indexes := ← value.member "indexes" [] (Json.readList? IndexChange.ofJson?)
    uniques := ← value.member "uniques" [] (Json.readList? IndexChange.ofJson?)
    commands := ← value.member "commands" [] (Json.readList? CommandChange.ofJson?) }

/-- Reads a change set. -/
def ChangeSet.ofJson? (value : Json) : Option ChangeSet := do
  let _ ← value.asObject?
  return { changes := ← value.member "changes" [] (Json.readList? TableChange.ofJson?) }

end EntitySchema
