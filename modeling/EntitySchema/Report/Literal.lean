/-
Literals in the actions of tags.

A literal is a number, a text or a constant, or a tuple, set or map of literals in brackets, where
sets and the keys of maps hold nothing that can change. Of what is written only one thing matters:
whether it is a literal at all, `Literal.isLiteral`. Literals are read in two steps, first cut into
tokens and then by recursive descent.
-/
import EntitySchema.Text.Digit
import EntitySchema.Text.Letter
import EntitySchema.Text.Scan

set_option autoImplicit false

namespace EntitySchema.Literal

/-! ## Tokens -/

/-- A part of a literal. -/
inductive Token where
  /-- A number, real or imaginary. -/
  | number (imaginary : Bool)
  /-- A text, of characters or of bytes. -/
  | text (bytes : Bool)
  /-- A name. -/
  | name (name : List Char)
  /-- Three dots. -/
  | dots
  /-- Any other character. -/
  | sign (c : Char)
  deriving DecidableEq, Repr, Inhabited

/-- Whether a name may start with a character. -/
def startsName (c : Char) : Bool := Text.isLetter c || c = '_'

/-- Whether a character is a hexadecimal digit. -/
def isHex (c : Char) : Bool := c.isDigit || ('a' ≤ c.toLower && c.toLower ≤ 'f')

/-- Drops digits with single underscores between them, after a digit. -/
def dropDigits (p : Char → Bool) : List Char → List Char
  | [] => []
  | c :: rest =>
    if p c then dropDigits p rest
    else if c = '_' then
      match rest with
      | d :: more => if p d then dropDigits p more else c :: rest
      | [] => c :: rest
    else c :: rest

/-- What follows digits with single underscores between them, if there is a digit. -/
def afterDigits? (p : Char → Bool) : List Char → Option (List Char)
  | c :: rest => if p c then some (dropDigits p rest) else none
  | [] => none

/-- The digits of a base that a letter after a zero stands for. -/
def baseDigits? (letter : Char) : Option (Char → Bool) :=
  if letter = 'x' ∨ letter = 'X' then some isHex
  else if letter = 'o' ∨ letter = 'O' then some fun c => '0' ≤ c && c ≤ '7'
  else if letter = 'b' ∨ letter = 'B' then some fun c => c = '0' || c = '1'
  else none

/-- What follows an exponent, or all if there is none. -/
def afterExponent (cs : List Char) : List Char :=
  match cs with
  | c :: rest =>
    if c = 'e' ∨ c = 'E' then
      let digits := match rest with
        | sign :: digits => if sign = '+' ∨ sign = '-' then digits else rest
        | [] => []
      (afterDigits? Char.isDigit digits).getD cs
    else cs
  | [] => cs

/-- What follows a point and digits, or all if there is none. -/
def afterPoint (cs : List Char) : List Char :=
  match cs with
  | '.' :: rest => (afterDigits? Char.isDigit rest).getD rest
  | _ => cs

/-- Whether digits may write an integer: few enough, and no zeros in front but for zero. -/
def isInteger (digits : List Char) : Bool :=
  let digits := digits.filter (· != '_')
  (digits.head? != some '0' || digits.all (· = '0')) && digits.length ≤ Text.digitLimit

/-- What follows a number in base ten, and whether it is imaginary. -/
def afterDecimal? (cs : List Char) : Option (Bool × List Char) :=
  let afterWhole := (afterDigits? Char.isDigit cs).getD cs
  let afterPlaces := afterPoint afterWhole
  if afterPlaces.length + 1 = cs.length ∧ cs.head? = some '.' then none
  else
    let rest := afterExponent afterPlaces
    match rest with
    | c :: after =>
      if c = 'j' ∨ c = 'J' then some (true, after)
      else if rest.length = afterWhole.length ∧
          !isInteger (cs.take (cs.length - rest.length)) then none
      else some (false, rest)
    | [] =>
      if afterWhole.isEmpty ∧ !isInteger cs then none else some (false, [])

/-- What follows a number, and whether it is imaginary. No name may follow right after it. -/
def afterNumber? (cs : List Char) : Option (Bool × List Char) :=
  let read := match cs with
    | '0' :: letter :: rest =>
      match baseDigits? letter with
      | some p =>
        let digits := match rest with
          | '_' :: digits => digits
          | digits => digits
        (afterDigits? p digits).map fun rest => (false, rest)
      | none => afterDecimal? cs
    | _ => afterDecimal? cs
  read.filter fun (_, rest) => !rest.head?.any Text.isWordChar

/-- Whether the first `count` characters are hexadecimal digits. -/
def startsHex (count : Nat) (cs : List Char) : Bool :=
  (cs.take count).length = count && (cs.take count).all isHex

/-- Whether an escape of a letter is complete. -/
def isCompleteEscape (bytes : Bool) (letter : Char) (rest : List Char) : Bool :=
  if letter = 'x' then startsHex 2 rest
  else if bytes then true
  else if letter = 'u' then startsHex 4 rest
  else if letter = 'U' then
    startsHex 8 rest && (rest.take 2).all (· = '0') &&
      ((rest[2]? = some '0') || (rest[2]? = some '1' && rest[3]? = some '0'))
  else if letter = 'N' then
    match rest with
    | '\x7b' :: name =>
      !(name.takeWhile (· != '\x7d')).isEmpty && name.contains '\x7d'
    | _ => false
  else true

/-- What follows a text whose opening quotes have been read: one, or three if `long` holds. -/
def afterText? (quote : Char) (long raw bytes : Bool) : List Char → Option (List Char)
  | [] => none
  | c :: rest =>
    if c = '\x00' ∨ (bytes ∧ 0x80 ≤ c.toNat) ∨ (c = '\n' ∧ !long) then none
    else if c = '\\' then
      match rest with
      | [] => none
      | letter :: rest =>
        if letter = '\x00' ∨ (bytes ∧ 0x80 ≤ letter.toNat) then none
        else if raw || isCompleteEscape bytes letter rest then
          afterText? quote long raw bytes rest
        else none
    else if c = quote then
      if long then
        if rest.take 2 = [quote, quote] then some (rest.drop 2)
        else afterText? quote long raw bytes rest
      else some rest
    else afterText? quote long raw bytes rest

/-- What follows a text that starts with quotes. -/
def afterQuotes? (quote : Char) (raw bytes : Bool) (rest : List Char) : Option (List Char) :=
  if rest.take 2 = [quote, quote] then afterText? quote true raw bytes (rest.drop 2)
  else afterText? quote false raw bytes rest

/-- The letters that may stand before the quotes of a text. -/
def textMarks : List String := ["", "r", "u", "b", "br", "rb"]

/-- The first token of a text that starts with no blank, and what follows it. -/
def token? (cs : List Char) : Option (Token × List Char) :=
  let word := cs.takeWhile Text.isWordChar
  let mark := word.map Char.toLower
  match cs, cs.dropWhile Text.isWordChar with
  | [], _ => none
  | c :: after, rest =>
    let quote := rest.head?.filter fun c => c = '\'' || c = '"'
    if let (some quote, true) := (quote, textMarks.contains (String.ofList mark)) then
      (afterQuotes? quote (mark.contains 'r') (mark.contains 'b') (rest.drop 1)).map fun rest =>
        (.text (mark.contains 'b'), rest)
    else if startsName c then some (.name word, rest)
    else if c.isDigit || (c = '.' && after.head?.any Char.isDigit) then
      (afterNumber? cs).map fun (imaginary, rest) => (.number imaginary, rest)
    else if cs.take 3 = ['.', '.', '.'] then some (.dots, cs.drop 3)
    else some (.sign c, after)

/-- Whether a character is skipped between tokens: a blank, or a line feed inside brackets. -/
def isSkipped (depth : Nat) (c : Char) : Bool :=
  c = ' ' || c = '\t' || c = '\x0c' || (c = '\n' && 0 < depth)

/-- The brackets that are open after a token. -/
def depthAfter (depth : Nat) : Token → Nat
  | .sign c =>
    if c = '(' ∨ c = '\x7b' then depth + 1
    else if c = ')' ∨ c = '\x7d' then depth - 1
    else depth
  | _ => depth

/-- Cuts a text into tokens, inside `depth` brackets. Each step uses up a character, so their
number is fuel enough. -/
def tokens? (depth : Nat) : Nat → List Char → Option (List Token)
  | 0, _ => some []
  | _, [] => some []
  | fuel + 1, c :: rest =>
    if isSkipped depth c then tokens? depth fuel rest
    else if c = '#' then tokens? depth fuel (rest.dropWhile (· != '\n'))
    else if c = '\\' && rest.head? = some '\n' then tokens? depth fuel (rest.drop 1)
    else
      match token? (c :: rest) with
      | none => none
      | some (token, rest) => (tokens? (depthAfter depth token) fuel rest).map (token :: ·)

/-! ## Values -/

/-- What matters about a value: whether it is a number, with a sign or without, and whether it can
change. -/
inductive Kind where
  | number (imaginary signed : Bool)
  | fixed
  | changing
  deriving DecidableEq, Repr, Inhabited

/-- The names of constants. -/
def constants : List String := ["None", "True", "False"]

/-- A value with a sign before it. -/
def signed? : Kind → Option Kind
  | .number imaginary false => some (.number imaginary true)
  | _ => none

/-- The sum of a real and an imaginary number. -/
def sum? : Kind → Kind → Option Kind
  | .number false _, .number true false => some .fixed
  | _, _ => none

/-- A tuple of values: it can change if one of them can. -/
def tuple (kinds : List Kind) : Kind := if kinds.contains .changing then .changing else .fixed

/-- Drops the texts that follow a text of the same kind, and which are a part of it. -/
def dropTexts? (bytes : Bool) : List Token → Option (List Token)
  | .text other :: rest => if other = bytes then dropTexts? bytes rest else none
  | rest => some rest

mutual

/-- Reads a value without a sign. -/
def atom? : Nat → List Token → Option (Kind × List Token)
  | 0, _ => none
  | fuel + 1, tokens =>
    match tokens with
    | .number imaginary :: rest => some (.number imaginary false, rest)
    | .text bytes :: rest => (dropTexts? bytes rest).map fun rest => (.fixed, rest)
    | .dots :: rest => some (.fixed, rest)
    | .name name :: rest =>
      if constants.contains (String.ofList name) then some (.fixed, rest)
      else if name = "set".toList then
        match rest with
        | .sign '(' :: .sign ')' :: rest => some (.changing, rest)
        | _ => none
      else none
    | .sign '(' :: .sign ')' :: rest => some (.fixed, rest)
    | .sign '(' :: rest =>
      match items? fuel rest with
      | some ([kind], false, .sign ')' :: rest) => some (kind, rest)
      | some (kinds, _, .sign ')' :: rest) => some (tuple kinds, rest)
      | _ => none
    | .sign '\x7b' :: .sign '\x7d' :: rest => some (.changing, rest)
    | .sign '\x7b' :: rest =>
      match entries? fuel rest with
      | some (.sign '\x7d' :: rest) => some (.changing, rest)
      | _ =>
        match items? fuel rest with
        | some (kinds, _, .sign '\x7d' :: rest) =>
          if kinds.contains .changing then none else some (.changing, rest)
        | _ => none
    | _ => none

/-- Reads a value that may have a sign. -/
def term? : Nat → List Token → Option (Kind × List Token)
  | 0, _ => none
  | fuel + 1, tokens =>
    match tokens with
    | .sign c :: rest =>
      if c = '+' ∨ c = '-' then
        match term? fuel rest with
        | some (kind, rest) => (signed? kind).map fun kind => (kind, rest)
        | none => none
      else atom? fuel tokens
    | _ => atom? fuel tokens

/-- Reads a value, which may be the sum of a real and an imaginary number. -/
def value? : Nat → List Token → Option (Kind × List Token)
  | 0, _ => none
  | fuel + 1, tokens =>
    match term? fuel tokens with
    | some (left, .sign c :: rest) =>
      if c = '+' ∨ c = '-' then
        match term? fuel rest with
        | some (right, rest) => (sum? left right).map fun kind => (kind, rest)
        | none => none
      else some (left, .sign c :: rest)
    | result => result

/-- Reads values with commas between them, and tells whether a comma follows the last one. -/
def items? : Nat → List Token → Option (List Kind × Bool × List Token)
  | 0, _ => none
  | fuel + 1, tokens =>
    match value? fuel tokens with
    | some (kind, .sign ',' :: rest) =>
      match items? fuel rest with
      | some (kinds, comma, rest) => some (kind :: kinds, comma, rest)
      | none => some ([kind], true, rest)
    | some (kind, rest) => some ([kind], false, rest)
    | none => none

/-- Reads the entries of a map with commas between them. -/
def entries? : Nat → List Token → Option (List Token)
  | 0, _ => none
  | fuel + 1, tokens =>
    match value? fuel tokens with
    | some (key, .sign ':' :: rest) =>
      if key = .changing then none
      else
        match value? fuel rest with
        | some (_, .sign ',' :: rest) => some ((entries? fuel rest).getD rest)
        | some (_, rest) => some rest
        | none => none
    | _ => none

end

/-- Whether a text is a literal, or several with commas between them. -/
def isLiteral (cs : List Char) : Bool :=
  match tokens? 0 (cs.length + 1) cs with
  | none => false
  | some tokens =>
    match items? (2 * tokens.length + 8) tokens with
    | some (_, _, rest) => rest.isEmpty
    | none => false

/-- Whether a bracket is opened and not closed. -/
def isUnclosed (cs : List Char) : Bool :=
  match tokens? 0 (cs.length + 1) cs with
  | none => false
  | some tokens => 0 < tokens.foldl depthAfter 0

end EntitySchema.Literal
