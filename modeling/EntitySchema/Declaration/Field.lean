/-
Field lines.

`name: type` with an optional list of tags. The type is an `enum(…)` with any text, a name with one
or two numbers in parentheses, or a plain name. The text of an `enum` ends at the first parenthesis
after which the rest of the line can be a list of tags.

A line is read in two parts. `FieldLine.parts?` cuts it into name, type and tags, and answers
nothing for a line of another kind. After that it is a field line for good, and what is wrong with
it is an error: a number with too many digits, or a tag that is not known. Tags are added from left
to right to a field that has none, a later one overriding an earlier one of the same sort, while
indexes and unique constraints add up.

No part looks at the entity. Its name is only needed for the error about an unknown tag.
-/
import EntitySchema.Declaration.Basic
import EntitySchema.Text.Digit

set_option autoImplicit false

namespace EntitySchema

/-! ## Types -/

/-- The types that are known by name. A document may use any other name as well. -/
def wellKnownTypes : List String :=
  ["increments", "bigIncrements", "integer", "bigInteger", "unsignedInteger", "string", "text",
   "char", "boolean", "decimal", "float", "date", "datetime", "timestamp", "json", "jsonb", "enum"]

/-- The type of a field as it is written. -/
inductive TypeText where
  | plain (name : String)
  | numbered (name : String) (first : List Char) (second : Option (List Char))
  | enum (text : String)
  deriving DecidableEq, Repr, Inhabited

namespace TypeText

/-- The tags that follow a type: nothing, or blanks and one line. -/
def tags? (cs : List Char) : Option (List Char) :=
  if Text.isLineEnd cs then some [] else (Text.blanks? cs).bind Text.oneLine?

/-- The text of an `enum` up to its closing parenthesis, and the tags. -/
def enumText? : List Char → Option (List Char × List Char)
  | [] => none
  | c :: rest =>
    let further := (enumText? rest).map fun (text, tags) => (c :: text, tags)
    if c = ')' then
      -- the text ends here if the line can end here, and goes on otherwise
      match tags? rest with
      | some tags => some ([], tags)
      | none => further
    else if c = '\n' then none
    else further

/-- A second number after a comma, if there is one, and the rest. -/
def second? (cs : List Char) : Option (Option (List Char) × List Char) :=
  match cs with
  | ',' :: rest =>
    (Text.run? Text.isDigit (Text.trimStart rest)).map fun (digits, left) => (some digits, left)
  | _ => some (none, cs)

/-- The numbers between parentheses, and the tags. -/
def numbers? (cs : List Char) : Option (List Char × Option (List Char) × List Char) := do
  let start ← Text.after? ['('] cs
  let (first, afterFirst) ← Text.run? Text.isDigit start
  let (second, afterSecond) ← second? afterFirst
  let rest ← Text.after? [')'] afterSecond
  return (first, second, ← tags? rest)

/-- Reads a type as an `enum`. -/
def readEnum? (cs : List Char) : Option (TypeText × List Char) := do
  let rest ← Text.after? "enum(".toList cs
  let (text, tags) ← enumText? rest
  return (.enum (String.ofList text), tags)

/-- Reads a type with numbers. -/
def readNumbered? (cs : List Char) : Option (TypeText × List Char) := do
  let (name, afterName) ← Text.name? cs
  let (first, second, tags) ← numbers? afterName
  return (.numbered (String.ofList name) first second, tags)

/-- Reads a plain type. -/
def readPlain? (cs : List Char) : Option (TypeText × List Char) := do
  let (name, rest) ← Text.name? cs
  return (.plain (String.ofList name), ← tags? rest)

/-- Reads a type and the tags after it. -/
def read? (cs : List Char) : Option (TypeText × List Char) :=
  ((readEnum? cs).or (readNumbered? cs)).or (readPlain? cs)

/-- The number that digits write, unless there are too many of them. -/
def number (digits : List Char) : Except Error Int :=
  if digits.length ≤ Text.digitLimit then .ok (Text.numberOfDigits digits)
  else .error (.numberTooLong digits.length)

/-- The name of a type and its parameters. -/
def resolve : TypeText → Except Error (String × Option Parameter × Option Int)
  | plain name => .ok (name, none, none)
  | enum text => .ok ("enum", some (.text text), none)
  | numbered name first none => do return (name, some (.number (← number first)), none)
  | numbered name first (some second) => do
    let firstNumber ← number first
    return (name, some (.number firstNumber), some (← number second))

end TypeText

/-! ## Tags -/

/-- A tag of a field. -/
inductive FieldTag where
  | index (name : Option String)
  | unique (name : Option String)
  | primaryKey
  | nullable (value : Bool)
  | guarded
  | default (literal : String)
  deriving DecidableEq, Repr, Inhabited

namespace FieldTag

/-- A name between `start` and a closing parenthesis. -/
def named? (start : String) (tag : List Char) : Option String :=
  (Text.between? start.toList [')'] tag).bind fun name =>
    if !name.isEmpty && name.all Text.isNameChar then some (String.ofList name) else none

/-- Whether a text is a quoted literal. -/
def isQuoted (value : List Char) : Bool :=
  2 ≤ value.length && value.head? == some '"' && value.getLast? == some '"'

/-- Whether a text is a number, with an optional fraction. -/
def isNumber (value : List Char) : Bool :=
  match Text.splitOn '.' value with
  | [whole] => !whole.isEmpty && whole.all Char.isDigit
  | [whole, fraction] =>
    !whole.isEmpty && whole.all Char.isDigit && !fraction.isEmpty && fraction.all Char.isDigit
  | _ => false

/-- The literal of a default value. -/
def literal? (tag : List Char) : Option String :=
  (Text.between? "Default(".toList [')'] tag).bind fun value =>
    if isQuoted value || value == "false".toList || value == "true".toList || isNumber value then
      some (String.ofList value)
    else
      none

/-- Reads a tag. -/
def read? (tag : List Char) : Option FieldTag :=
  if tag = "Index".toList then some (.index none)
  else if tag = "Unique".toList then some (.unique none)
  else if tag = "PrimaryKey".toList then some .primaryKey
  else if tag = "NotNull".toList then some (.nullable false)
  else if tag = "Null".toList ∨ tag = "Nullable".toList then some (.nullable true)
  else if tag = "Guarded".toList then some .guarded
  else
    (((named? "Index(" tag).map fun name => FieldTag.index (some name)).or
      ((named? "Unique(" tag).map fun name => FieldTag.unique (some name))).or
        ((literal? tag).map FieldTag.default)

/-- The field with a tag added to it. A later tag overrides an earlier one, and indexes add
up. -/
def addTo (field : FieldLine) : FieldTag → FieldLine
  | index name => { field with indexes := field.indexes ++ [name] }
  | unique name => { field with uniques := field.uniques ++ [name] }
  | primaryKey => { field with primaryKey := true }
  | nullable value => { field with nullable := some value }
  | guarded => { field with guarded := some true }
  | default literal => { field with default := some literal }

end FieldTag

/-! ## Lines -/

namespace FieldLine

/-- The name of a field, its type and its tags. -/
def parts? (line : List Char) : Option (String × TypeText × List Char) := do
  let (name, afterName) ← Text.name? line
  let rest ← Text.after? [':'] afterName
  let (type, tags) ← TypeText.read? (Text.trimStart rest)
  return (String.ofList name, type, tags)

/-- Adds tags to a field, one after the other. The name of the owner is told if one of them is
not known. -/
def addTags (owner : String) (field : FieldLine) : List (List Char) → Except Error FieldLine
  | [] => .ok field
  | tag :: tags =>
    match FieldTag.read? tag with
    | some known => addTags owner (known.addTo field) tags
    | none => .error (.unknownTag "field" (owner ++ "." ++ field.name) (String.ofList tag))

/-- Reads a field line of an entity. -/
def read (owner line : String) : Except Error (Option FieldLine) :=
  match parts? line.toList with
  | none => .ok none
  | some (name, type, tags) => do
    let (typeName, param1, param2) ← type.resolve
    let field : FieldLine := { name, type := typeName, param1, param2 }
    return some (← addTags owner field (splitTags tags))

end FieldLine

end EntitySchema
