/-
Reading JSON.

`Json.parse?` accepts the standard grammar: no trailing commas, no leading zeros, no raw control
characters, no half of a surrogate pair. Beyond it only `NaN` and the two infinities are values.
Numbers of too many digits are refused, and `Json.parseWithin?` also refuses values that are nested
too deep. Values are read by recursive descent. Each step down or to the right consumes a character,
so the length of the text is fuel enough.

Every reader answers what it has read together with what is left, or nothing. None of them goes
back, since the first character of a value, an item or a member decides what it is. So a proof that
a text is read in a certain way follows the text from left to right, with whatever comes after it
left open.
-/
import EntitySchema.Json.Basic
import EntitySchema.Text.Digit

set_option autoImplicit false

namespace EntitySchema.Json

/-! ## Strings -/

/-- The value of a hexadecimal digit. -/
def hexValue? (c : Char) : Option Nat :=
  if '0' ≤ c ∧ c ≤ '9' then some (c.toNat - '0'.toNat)
  else if 'a' ≤ c ∧ c ≤ 'f' then some (c.toNat - 'a'.toNat + 10)
  else if 'A' ≤ c ∧ c ≤ 'F' then some (c.toNat - 'A'.toNat + 10)
  else none

/-- The code unit that four hexadecimal digits write. -/
def codeUnit? (a b c d : Char) : Option Nat := do
  return ((← hexValue? a) * 16 + (← hexValue? b)) * 256 + (← hexValue? c) * 16 + (← hexValue? d)

/-- Whether a code unit is the first half of a surrogate pair. -/
def isHighSurrogate (unit : Nat) : Bool := 0xd800 ≤ unit && unit < 0xdc00

/-- Whether a code unit is the second half of a surrogate pair. -/
def isLowSurrogate (unit : Nat) : Bool := 0xdc00 ≤ unit && unit < 0xe000

/-- The character that a surrogate pair writes. -/
def pairChar (high low : Nat) : Char :=
  Char.ofNat (0x10000 + (high - 0xd800) * 0x400 + (low - 0xdc00))

/-- The character that an escape of one letter writes. -/
def shortEscape? : Char → Option Char
  | '"' => some '"'
  | '\\' => some '\\'
  | '/' => some '/'
  | 'b' => some '\x08'
  | 'f' => some '\x0c'
  | 'n' => some '\n'
  | 'r' => some '\r'
  | 't' => some '\t'
  | _ => none

/-- Reads the rest of a string after its opening quote. -/
def stringRest? : List Char → Option (List Char × List Char)
  | [] => none
  | '"' :: rest => some ([], rest)
  | '\\' :: 'u' :: a :: b :: c :: d :: '\\' :: 'u' :: e :: f :: g :: h :: rest =>
    match codeUnit? a b c d, codeUnit? e f g h with
    | some first, some second =>
      if isHighSurrogate first then
        if isLowSurrogate second then
          (stringRest? rest).map fun (text, left) => (pairChar first second :: text, left)
        else
          none
      else if isLowSurrogate first then none
      else
        (stringRest? ('\\' :: 'u' :: e :: f :: g :: h :: rest)).map fun (text, left) =>
          (Char.ofNat first :: text, left)
    | _, _ => none
  | '\\' :: 'u' :: a :: b :: c :: d :: rest =>
    match codeUnit? a b c d with
    | some unit =>
      if isHighSurrogate unit || isLowSurrogate unit then none
      else (stringRest? rest).map fun (text, left) => (Char.ofNat unit :: text, left)
    | none => none
  | '\\' :: c :: rest =>
    match shortEscape? c with
    | some meant => (stringRest? rest).map fun (text, left) => (meant :: text, left)
    | none => none
  | c :: rest =>
    if c = '\\' ∨ c.toNat < 0x20 then none
    else (stringRest? rest).map fun (text, left) => (c :: text, left)

/-! ## Numbers -/

/-- The number that digits of ASCII write in base ten. -/
def digitsValue (digits : List Char) : Nat :=
  digits.foldl (fun n c => 10 * n + (c.toNat - '0'.toNat)) 0

/-- Digits of ASCII at the start, at least one. -/
def digits? (cs : List Char) : Option (List Char × List Char) :=
  if (cs.takeWhile Char.isDigit).isEmpty then none
  else some (cs.takeWhile Char.isDigit, cs.dropWhile Char.isDigit)

/-- The fraction of a number, if one follows. -/
def fraction? : List Char → Option (List Char × List Char)
  | '.' :: rest => digits? rest
  | cs => some ([], cs)

/-- Digits with a sign in front of them. -/
def signed? (negative : Bool) (cs : List Char) : Option (Int × List Char) :=
  (digits? cs).map fun (digits, rest) =>
    (if negative then -(digitsValue digits : Int) else digitsValue digits, rest)

/-- The exponent of a number, if one follows. -/
def exponent? : List Char → Option (Option Int × List Char)
  | c :: rest =>
    if c = 'e' ∨ c = 'E' then
      let read := match rest with
        | '+' :: digits => signed? false digits
        | '-' :: digits => signed? true digits
        | digits => signed? false digits
      read.map fun (value, left) => (some value, left)
    else
      some (none, c :: rest)
  | [] => some (none, [])

/-- Reads a number. Its whole part, with the sign, must not be longer than digits are read. -/
def number? (cs : List Char) : Option (JsonNumber × List Char) := do
  let (negative, unsigned) := match cs with
    | '-' :: rest => (true, rest)
    | rest => (false, rest)
  let (whole, afterWhole) ← digits? unsigned
  if whole.length > 1 && whole.head? = some '0' then none
  if Text.digitLimit < (if negative then 1 else 0) + whole.length then none
  let (places, afterPlaces) ← fraction? afterWhole
  let (power, rest) ← exponent? afterPlaces
  let sign : Int := if negative then -1 else 1
  if places.isEmpty && power.isNone then
    return (.integer (sign * digitsValue whole), rest)
  else
    return (.decimal (sign * digitsValue (whole ++ places)) (power.getD 0 - places.length), rest)

/-! ## Values -/

/-- Whether a character may stand between the tokens. -/
def isSpace (c : Char) : Bool := c = ' ' || c = '\t' || c = '\n' || c = '\r'

/-- Skips what may stand between the tokens. -/
def skipSpace (cs : List Char) : List Char := cs.dropWhile isSpace

mutual

/-- Reads a value after the space before it. Arrays and objects that hold something may be nested
`depth` times in it. -/
def value? : (fuel depth : Nat) → List Char → Option (Json × List Char)
  | 0, _, _ => none
  | fuel + 1, depth, cs =>
    match skipSpace cs with
    | 'n' :: 'u' :: 'l' :: 'l' :: rest => some (.null, rest)
    | 't' :: 'r' :: 'u' :: 'e' :: rest => some (.bool true, rest)
    | 'f' :: 'a' :: 'l' :: 's' :: 'e' :: rest => some (.bool false, rest)
    | 'N' :: 'a' :: 'N' :: rest => some (.number .notANumber, rest)
    | 'I' :: 'n' :: 'f' :: 'i' :: 'n' :: 'i' :: 't' :: 'y' :: rest =>
      some (.number (.infinite false), rest)
    | '-' :: 'I' :: 'n' :: 'f' :: 'i' :: 'n' :: 'i' :: 't' :: 'y' :: rest =>
      some (.number (.infinite true), rest)
    | '"' :: rest => (stringRest? rest).map fun (text, left) => (.string (String.ofList text), left)
    | '[' :: rest =>
      match skipSpace rest with
      | ']' :: left => some (.array [], left)
      | _ =>
        match depth with
        | 0 => none
        | depth + 1 => (items? fuel depth rest).map fun (items, left) => (.array items, left)
    | '\x7b' :: rest =>
      match skipSpace rest with
      | '\x7d' :: left => some (.object [], left)
      | _ =>
        match depth with
        | 0 => none
        | depth + 1 =>
          (members? fuel depth rest).map fun (members, left) => (.object members, left)
    | rest => (number? rest).map fun (value, left) => (.number value, left)

/-- Reads the items of an array up to its closing bracket, at least one. -/
def items? : (fuel depth : Nat) → List Char → Option (List Json × List Char)
  | 0, _, _ => none
  | fuel + 1, depth, cs =>
    match value? fuel depth cs with
    | none => none
    | some (item, rest) =>
      match skipSpace rest with
      | ']' :: left => some ([item], left)
      | ',' :: more => (items? fuel depth more).map fun (items, left) => (item :: items, left)
      | _ => none

/-- Reads the members of an object up to its closing brace, at least one. -/
def members? : (fuel depth : Nat) → List Char → Option (List (String × Json) × List Char)
  | 0, _, _ => none
  | fuel + 1, depth, cs =>
    match skipSpace cs with
    | '"' :: start =>
      match stringRest? start with
      | none => none
      | some (key, afterKey) =>
        match skipSpace afterKey with
        | ':' :: afterColon =>
          match value? fuel depth afterColon with
          | none => none
          | some (value, rest) =>
            match skipSpace rest with
            | '\x7d' :: left => some ([(String.ofList key, value)], left)
            | ',' :: more =>
              (members? fuel depth more).map fun (members, left) =>
                ((String.ofList key, value) :: members, left)
            | _ => none
        | _ => none
    | _ => none

end

/-- Reads a text that is one JSON value, with nothing but space around it, in which arrays and
objects that hold something are nested `depth` times at most. -/
def parseWithin? (depth : Nat) (text : String) : Option Json :=
  match value? (text.length + 1) depth text.toList with
  | some (value, rest) => if (skipSpace rest).isEmpty then some value else none
  | none => none

/-- Reads a text that is one JSON value. No value is nested deeper than its text is long. -/
def parse? (text : String) : Option Json := parseWithin? text.length text

end EntitySchema.Json
