/-
Writing JSON.

Everything outside ASCII is written as an escape, beyond the first plane as a surrogate pair.
`Json.compress` writes a value on one line, `Json.pretty` writes one item or member per line with
two more blanks for each level. An empty array or object stays an empty pair of brackets.
`Json.prettyUnicode` lays out in the same way and escapes only what has to be.

Writing is structural recursion over the value, with the items of arrays and the members of objects
beside it. The laid-out form knows the depth at which it stands, and the way in which characters are
escaped is a parameter of it, so that the two laid-out forms are one definition.
-/
import EntitySchema.Json.Basic
import EntitySchema.Text.Hex

set_option autoImplicit false

namespace EntitySchema.Json

/-! ## Scalars -/

/-- The escape of a code unit. -/
def escapeUnit (unit : Nat) : List Char := ['\\', 'u'] ++ Text.hexDigits 4 unit

/-- The escape of a character that no string may hold as it is: a quote, a backslash or a
control character. -/
def specialEscape? (c : Char) : Option (List Char) :=
  if c = '"' then some ['\\', '"']
  else if c = '\\' then some ['\\', '\\']
  else if c = '\n' then some ['\\', 'n']
  else if c = '\r' then some ['\\', 'r']
  else if c = '\t' then some ['\\', 't']
  else if c = '\x08' then some ['\\', 'b']
  else if c = '\x0c' then some ['\\', 'f']
  else if c.toNat < 0x20 then some (escapeUnit c.toNat)
  else none

/-- A character as it stands in a string that is written in ASCII. -/
def escapeChar (c : Char) : List Char :=
  match specialEscape? c with
  | some escape => escape
  | none =>
    if c.toNat < 0x7f then [c]
    else if c.toNat < 0x10000 then escapeUnit c.toNat
    else
      escapeUnit (0xd800 + (c.toNat - 0x10000) / 0x400)
        ++ escapeUnit (0xdc00 + (c.toNat - 0x10000) % 0x400)

/-- A character as it stands in a string that may hold any character. -/
def escapeSpecial (c : Char) : List Char := (specialEscape? c).getD [c]

/-- A string in quotes, whose characters are written by `escape`. -/
def quote (escape : Char → List Char) (text : String) : List Char :=
  '"' :: text.toList.flatMap escape ++ ['"']

/-- A number. A decimal is written with its exponent, whatever its size. -/
def writeNumber : JsonNumber → List Char
  | .integer value => (toString value).toList
  | .decimal mantissa exponent => (toString mantissa ++ "e" ++ toString exponent).toList
  | .infinite negative => (if negative then "-Infinity" else "Infinity").toList
  | .notANumber => "NaN".toList

/-! ## Values -/

/-- Puts `separator` between lists of characters. -/
def separated (separator : List Char) : List (List Char) → List Char
  | [] => []
  | [one] => one
  | first :: more => first ++ separator ++ separated separator more

mutual

/-- A value on one line. -/
def writeCompact : Json → List Char
  | .null => ['n', 'u', 'l', 'l']
  | .bool true => ['t', 'r', 'u', 'e']
  | .bool false => ['f', 'a', 'l', 's', 'e']
  | .number value => writeNumber value
  | .string text => quote escapeChar text
  | .array items => '[' :: separated [',', ' '] (writeCompactItems items) ++ [']']
  | .object members => '\x7b' :: separated [',', ' '] (writeCompactMembers members) ++ ['\x7d']

/-- The items of an array, each on its own. -/
def writeCompactItems : List Json → List (List Char)
  | [] => []
  | item :: items => writeCompact item :: writeCompactItems items

/-- The members of an object, each on its own. -/
def writeCompactMembers : List (String × Json) → List (List Char)
  | [] => []
  | (key, value) :: members =>
    (quote escapeChar key ++ [':', ' '] ++ writeCompact value) :: writeCompactMembers members

end

/-- A line feed and the blanks at the start of the next line. -/
def newLine (depth : Nat) : List Char := '\n' :: List.replicate (2 * depth) ' '

/-- Items or members between brackets, each on a line of its own. -/
def block (depth : Nat) (opening closing : Char) : List (List Char) → List Char
  | [] => [opening, closing]
  | entries =>
    opening :: newLine (depth + 1) ++ separated (',' :: newLine (depth + 1)) entries
      ++ newLine depth ++ [closing]

mutual

/-- A value over several lines, inside `depth` brackets. -/
def writePretty (escape : Char → List Char) (depth : Nat) : Json → List Char
  | .array items => block depth '[' ']' (writePrettyItems escape (depth + 1) items)
  | .object members => block depth '\x7b' '\x7d' (writePrettyMembers escape (depth + 1) members)
  | .null => ['n', 'u', 'l', 'l']
  | .bool true => ['t', 'r', 'u', 'e']
  | .bool false => ['f', 'a', 'l', 's', 'e']
  | .number value => writeNumber value
  | .string text => quote escape text

/-- The items of an array, each on its own. -/
def writePrettyItems (escape : Char → List Char) (depth : Nat) : List Json → List (List Char)
  | [] => []
  | item :: items => writePretty escape depth item :: writePrettyItems escape depth items

/-- The members of an object, each on its own. -/
def writePrettyMembers (escape : Char → List Char) (depth : Nat) :
    List (String × Json) → List (List Char)
  | [] => []
  | (key, value) :: members =>
    (quote escape key ++ [':', ' '] ++ writePretty escape depth value) ::
      writePrettyMembers escape depth members

end

/-- A value as text on one line. -/
def compress (value : Json) : String := String.ofList (writeCompact value)

/-- A value as text over several lines, in ASCII. -/
def pretty (value : Json) : String := String.ofList (writePretty escapeChar 0 value)

/-- A value as text over several lines, with all characters but the special ones as they are. -/
def prettyUnicode (value : Json) : String := String.ofList (writePretty escapeSpecial 0 value)

end EntitySchema.Json
