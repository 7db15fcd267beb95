/-
The types that a database tells for columns.

A type may be declared in any words, with numbers in brackets after them. A type that is known is
told by its name with the numbers that matter for it. Any other type stands for one of a few types,
by the letters that it contains.
-/
import EntitySchema.Text.Letter
import EntitySchema.Text.Scan

set_option autoImplicit false

namespace EntitySchema

/-- A type of columns, by the numbers that belong to it. -/
inductive ColumnType where
  /-- No numbers are told. -/
  | plain (name : String)
  /-- The number is a length. A second one stands for an order of texts. -/
  | sized (name : String)
  /-- The numbers are a precision and a scale. -/
  | scaled (name : String)
  deriving DecidableEq, Repr, Inhabited

namespace ColumnType

/-- The types that are known, by their names in declarations. -/
def known : List (String × ColumnType) :=
  [("BIGINT", plain "BIGINT"), ("BLOB", plain "BLOB"), ("BOOL", plain "BOOLEAN"),
   ("BOOLEAN", plain "BOOLEAN"), ("CHAR", sized "CHAR"), ("DATE", plain "DATE"),
   ("DATE_CHAR", plain "DATE"), ("DATETIME", plain "DATETIME"),
   ("DATETIME_CHAR", plain "DATETIME"), ("DOUBLE", plain "DOUBLE"),
   ("DOUBLE_PRECISION", plain "DOUBLE PRECISION"), ("DECIMAL", scaled "DECIMAL"),
   ("FLOAT", plain "FLOAT"), ("INT", plain "INTEGER"), ("INTEGER", plain "INTEGER"),
   ("JSON", plain "JSON"), ("NUMERIC", scaled "NUMERIC"), ("REAL", plain "REAL"),
   ("SMALLINT", plain "SMALLINT"), ("TEXT", sized "TEXT"), ("TIME", plain "TIME"),
   ("TIME_CHAR", plain "TIME"), ("TIMESTAMP", plain "TIMESTAMP"), ("VARCHAR", sized "VARCHAR"),
   ("NVARCHAR", sized "NVARCHAR")]

/-- The type that other words stand for, by what they contain. -/
def byContent (words : List Char) : ColumnType :=
  let holds (piece : String) : Bool := Text.occursIn piece.toList words
  if holds "INT" then plain "INTEGER"
  else if holds "CHAR" || holds "CLOB" || holds "TEXT" then sized "TEXT"
  else if holds "BLOB" || words.isEmpty then plain "NULL"
  else if holds "REAL" || holds "FLOA" || holds "DOUB" then plain "REAL"
  else scaled "NUMERIC"

/-- The type that words in capitals stand for. -/
def ofWords (words : List Char) : ColumnType :=
  (known.lookup (String.ofList words)).getD (byContent words)

/-- A type with numbers. Numbers that are too many are left out, and so is a length of zero. -/
def withNumbers : ColumnType → List Nat → String
  | plain name, _ => name
  | sized name, numbers =>
    let length (n : Nat) : String := if n = 0 then "" else s!"({n})"
    match numbers with
    | [n] => name ++ length n
    | [n, order] => name ++ length n ++ (if order = 0 then "" else s!" COLLATE \"{order}\"")
    | _ => name
  | scaled name, numbers =>
    match numbers with
    | [] => name
    | [precision] => s!"{name}({precision})"
    | precision :: scale :: more =>
      if more.length ≤ 2 then s!"{name}({precision}, {scale})" else name

/-- The numbers in a text. -/
def numbersIn (cs : List Char) : List Nat :=
  let marked := cs.map fun c => if Text.isDigit c then c else ' '
  (Text.words marked).map Text.numberOfDigits

/-- The text in brackets with which a text starts, if there is one on the line. -/
def inBrackets (cs : List Char) : List Char :=
  let isInside (c : Char) : Bool := c != ')' && c != '\n'
  match cs with
  | '(' :: rest =>
    if (rest.dropWhile isInside).head? = some ')' then rest.takeWhile isInside else []
  | _ => []

/-- The type that is told for a declared one. -/
def told (declared : String) : String :=
  let isPart (c : Char) : Bool := c = ' ' || Text.isWordChar c
  let capitals := Text.upper (Text.trim declared.toList)
  (ofWords (capitals.takeWhile isPart)).withNumbers
    (numbersIn (inBrackets (capitals.dropWhile isPart)))

end ColumnType

end EntitySchema
