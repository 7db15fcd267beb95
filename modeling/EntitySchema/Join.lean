/-
Join expressions.

A join says how the tables of a relation hang together: one condition `Phone.user_id = User.id`, or
two conditions joined by `AND`, which go through a pivot table between two entities. In the second
form one table is named twice and two others once.

The text is read from the left, and a text that has conditions can be cut in one way only:
`EntitySchema.Proofs.Join.Grammar` has the grammar and the proof that it is what is read. The text
itself is kept beside the conditions, for messages.

Only the number of different tables is checked. Which of them is the pivot table is taken from its
place, the right side of the first condition, and not from its being named twice.
-/
import EntitySchema.Error
import EntitySchema.Text.Scan

set_option autoImplicit false

namespace EntitySchema

/-- `leftTable.leftField = rightTable.rightField`. -/
structure JoinCondition where
  leftTable : String
  leftField : String
  rightTable : String
  rightField : String
  deriving DecidableEq, Repr, Inhabited

/-- A join of one or two conditions, with the text it was read from. -/
structure Join where
  raw : String
  first : JoinCondition
  second : Option JoinCondition := none
  deriving DecidableEq, Repr, Inhabited

namespace JoinCondition

/-- The condition read from right to left. -/
def flip (condition : JoinCondition) : JoinCondition :=
  ⟨condition.rightTable, condition.rightField, condition.leftTable, condition.leftField⟩

/-- The two tables, from left to right. -/
def tables (condition : JoinCondition) : List String :=
  [condition.leftTable, condition.rightTable]

/-! ## Reading -/

/-- Reads `table.field`. -/
def column? (cs : List Char) : Option (String × String × List Char) := do
  let (table, afterTable) ← Text.name? cs
  let start ← Text.after? ['.'] afterTable
  let (field, rest) ← Text.name? start
  return (String.ofList table, String.ofList field, rest)

/-- Reads a condition. Blanks may surround the equals sign and nothing else. -/
def read? (cs : List Char) : Option (JoinCondition × List Char) := do
  let (leftTable, leftField, afterLeft) ← column? cs
  let start ← Text.after? ['='] (Text.trimStart afterLeft)
  let (rightTable, rightField, rest) ← column? (Text.trimStart start)
  return (⟨leftTable, leftField, rightTable, rightField⟩, rest)

end JoinCondition

namespace Join

/-- Whether the join goes through a pivot table. -/
def isPivot (join : Join) : Bool := join.second.isSome

/-- The table on the right of the first condition. In a join of two conditions it is the name
of the pivot table, or of the entity that is stored in it. -/
def pivotTable (join : Join) : String := join.first.rightTable

/-- The conditions in order. -/
def conditions (join : Join) : List JoinCondition := join.first :: join.second.toList

/-- Each condition in both directions, the first condition first. -/
def directed (join : Join) : List JoinCondition :=
  join.conditions.flatMap fun condition => [condition, condition.flip]

/-- The field that the first condition mentions of a table. -/
def fieldOf? (join : Join) (table : String) : Option String :=
  if join.first.leftTable = table then some join.first.leftField
  else if join.first.rightTable = table then some join.first.rightField
  else none

/-- The field that the first condition mentions of a table, unless it is `id`. -/
def keyOf? (join : Join) (table : String) : Option String :=
  if join.first.leftTable = table ∧ join.first.leftField ≠ "id" then some join.first.leftField
  else if join.first.rightTable = table ∧ join.first.rightField ≠ "id" then
    some join.first.rightField
  else none

/-! ## Reading -/

/-- Reads the second condition of a join, after the first one. -/
def second? (cs : List Char) : Option (JoinCondition × List Char) := do
  let afterFirst ← Text.blanks? cs
  let afterWord ← Text.after? ['A', 'N', 'D'] afterFirst
  let start ← Text.blanks? afterWord
  JoinCondition.read? start

/-- Reads one condition or two, with blanks around them. -/
def conditions? (cs : List Char) : Option (JoinCondition × Option JoinCondition) := do
  let (first, rest) ← JoinCondition.read? (Text.trimStart cs)
  if rest.all Text.isBlank then
    return (first, none)
  else
    let (second, left) ← second? rest
    if left.all Text.isBlank then return (first, some second) else none

/-- Whether two conditions mention one table twice and two others once: of their four tables,
three are different. -/
def hasPivotShape (first second : JoinCondition) : Bool :=
  (first.tables ++ second.tables).eraseDups.length = 3

/-- Reads a join. -/
def parse (raw : String) : Except Error Join :=
  match conditions? raw.toList with
  | none => .error (.joinSyntax raw none)
  | some (first, none) => .ok ⟨raw, first, none⟩
  | some (first, some second) =>
    if hasPivotShape first second then .ok ⟨raw, first, some second⟩
    else .error (.joinSyntax raw (some (Error.pivotShape raw)))

end Join

end EntitySchema
