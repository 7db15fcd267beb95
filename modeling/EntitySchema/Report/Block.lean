/-
Reports for readers.

A report is printed block by block. A block whose tags do not fit together cannot be shown, and
neither can what follows it: `Block.print`.
-/
import EntitySchema.Report.Grid

set_option autoImplicit false

namespace EntitySchema

/-- A part of a report that is printed at once. -/
inductive Block where
  | text (content : String)
  | grid (table : Grid)

/-- What is printed of a report: its lines, up to a fault if there is one. -/
structure Printed where
  lines : List (List Char)
  fault : Option Markup.Fault := none
  deriving DecidableEq, Repr, Inhabited

namespace Block

/-- The lines of a block. -/
def lines : Block → Except Markup.Fault (List (List Char))
  | .text content => do
    let shown ← Markup.shown content.toList
    return (wrap terminalWidth true shown).map (cropTo terminalWidth)
  | .grid table => table.lines

/-- Prints blocks one after the other. -/
def print : List Block → Printed
  | [] => { lines := [] }
  | block :: rest =>
    match block.lines with
    | .ok lines =>
      let printed := print rest
      { printed with lines := lines ++ printed.lines }
    | .error fault => { lines := [], fault := some fault }

/-- Blocks are printed after those that are before them. -/
theorem print_append {before : List Block} (h : (print before).fault = none)
    (after : List Block) :
    print (before ++ after) =
      { print after with lines := (print before).lines ++ (print after).lines } := by
  induction before with
  | nil => simp [print]
  | cons block rest ih =>
    simp only [List.cons_append, print] at h ⊢
    split at h
    · next lines heq => simp only [ih h, List.append_assoc]
    · simp at h

end Block

end EntitySchema
