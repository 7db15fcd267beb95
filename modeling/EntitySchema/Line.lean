/-
Logical lines of a document.

A document is read line by line. Blank lines and comments carry nothing. The first line that does
carry something fixes the indent of the top level; a line with any other indent is nested. A nested
line that ends in a comma goes on in the next nested line.

Reading a document gives the lines that were completed and, if a continuation was cut off by a
top-level line or by the end, the failure that says so. The lines before the cut are kept, so that
an error in one of them is still told first.

The work is done in three passes over the text: `physical` cuts it at its line feeds, `meaningful`
numbers the lines and drops those that carry nothing, and `assemble` joins what is continued. Only
the last one has a state, the pieces of a continuation that is still open, and only it can fail. A
logical line has the number of the last physical line that it is made of.

A top-level line is never continued, even if it ends in a comma. And an indent is a number of
blanks, so that a tab counts as much as a space.
-/
import EntitySchema.Error
import EntitySchema.Text.Scan

set_option autoImplicit false

namespace EntitySchema

/-- A logical line, ready for the grammar. -/
structure Line where
  /-- Number of the physical line on which it ends, counted from one. -/
  number : Nat
  /-- The trimmed text, with continuation lines joined. -/
  text : String
  /-- Whether it stands at the indent of the first line. -/
  topLevel : Bool
  deriving DecidableEq, Repr, Inhabited

/-- What reading a document gives. -/
structure Lines where
  lines : List Line
  failure : Option Error
  deriving DecidableEq, Repr, Inhabited

namespace Line

/-! ## Physical lines -/

/-- Splits a text at its line feeds. A carriage return right before a line feed belongs to it;
nothing else ends a line. -/
def physical : List Char → List (List Char)
  | [] => [[]]
  | '\n' :: rest => [] :: physical rest
  | '\r' :: '\n' :: rest => [] :: physical rest
  | c :: rest =>
    match physical rest with
    | [] => [[c]]
    | line :: lines => (c :: line) :: lines

/-- Whether a line carries no declaration: it is blank or a comment. -/
def carriesNothing (line : List Char) : Bool :=
  match Text.trim line with
  | [] => true
  | c :: _ => c = '#'

/-- Number of blanks at the start. -/
def indent (line : List Char) : Nat := (line.takeWhile Text.isBlank).length

/-- The lines that carry something, with their numbers counted from `number`. -/
def meaningful (number : Nat) : List (List Char) → List (Nat × List Char)
  | [] => []
  | line :: lines =>
    if carriesNothing line then meaningful (number + 1) lines
    else (number, line) :: meaningful (number + 1) lines

/-! ## Continuations -/

/-- The text of a line without the comma at its end, if it has one. -/
def continued? (text : List Char) : Option (List Char) :=
  match text.reverse with
  | ',' :: rest => some (Text.trimEnd rest.reverse)
  | _ => none

/-- Pieces of a continued line as one text. -/
def joinPieces (pieces : List (List Char)) : List Char := List.intercalate [',', ' '] pieces

/-- The failure of a continuation that ends at line `number` without an end. -/
def cutOff (number : Nat) (pieces : List (List Char)) : Error :=
  .ofLine number (String.ofList (joinPieces pieces ++ [',']))

/-- Joins lines to logical lines. The pieces of a continuation that is still open are in
`pieces`, the number of its last line in `last`. -/
def assemble (baseline : Nat) (pieces : List (List Char)) (last : Nat) :
    List (Nat × List Char) → Lines
  | [] => ⟨[], if pieces.isEmpty then none else some (cutOff last pieces)⟩
  | (number, line) :: rest =>
    let text := Text.trim line
    if indent line = baseline then
      if pieces.isEmpty then
        let more := assemble baseline [] last rest
        ⟨⟨number, String.ofList text, true⟩ :: more.lines, more.failure⟩
      else
        ⟨[], some (cutOff last pieces)⟩
    else
      match continued? text with
      | some piece => assemble baseline (pieces ++ [piece]) number rest
      | none =>
        let more := assemble baseline [] number rest
        ⟨⟨number, String.ofList (joinPieces (pieces ++ [text])), false⟩ :: more.lines,
          more.failure⟩

end Line

/-- The logical lines of a document. -/
def Lines.ofText (text : String) : Lines :=
  match Line.meaningful 1 (Line.physical text.toList) with
  | [] => ⟨[], none⟩
  | (number, line) :: rest => Line.assemble (Line.indent line) [] 0 ((number, line) :: rest)

end EntitySchema
