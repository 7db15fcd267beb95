/-
Tables of text.

A grid has a header in heavy lines and rows in light ones. Each column is as wide as its widest
cell, with a blank on either side. If the columns do not fit on the terminal, the widest give way:
their cells are broken into lines, and words that are still too long are cut off. A title is
centred over the grid.
-/
import EntitySchema.Report.Markup
import EntitySchema.Report.Wrap
import EntitySchema.Rounding

set_option autoImplicit false

namespace EntitySchema

/-! ## Widths of columns -/

/-- The total of widths. -/
def total (widths : List Nat) : Nat := widths.foldr (· + ·) 0

/-- Takes places from the `count` columns that are `widest`, in equal shares of no more than
`limit`. -/
def takeFrom (widest limit : Nat) : Nat → Nat → List Nat → List Nat
  | _, _, [] => []
  | places, count, width :: rest =>
    if width = widest then
      let share := min limit (nearestQuotient places count)
      (width - share) :: takeFrom widest limit (places - share) (count - 1) rest
    else width :: takeFrom widest limit places count rest

/-- No column is lost. -/
theorem length_takeFrom (widest limit places count : Nat) (widths : List Nat) :
    (takeFrom widest limit places count widths).length = widths.length := by
  fun_induction takeFrom widest limit places count widths <;> simp_all

/-- Narrows the widest columns, by no more than what makes them as wide as the next ones. -/
def narrowOnce (available : Nat) (widths : List Nat) : List Nat :=
  let widest := widths.foldr max 0
  let next := (widths.filter (· ≠ widest)).foldr max 0
  let excess := total widths - available
  takeFrom widest (min excess (widest - next)) excess (widths.count widest) widths

/-- Narrows columns until they fit into the places that are available. Each step takes a place at
least, so their total is fuel enough. -/
def narrow (available : Nat) : Nat → List Nat → List Nat
  | 0, widths => widths
  | fuel + 1, widths =>
    if total widths ≤ available then widths
    else narrow available fuel (narrowOnce available widths)

/-- Columns that fit stay as they are. -/
theorem narrow_of_total_le {available : Nat} {widths : List Nat} (h : total widths ≤ available)
    (fuel : Nat) : narrow available fuel widths = widths := by
  cases fuel with
  | zero => rfl
  | succ fuel => rw [narrow, if_pos h]

/-- No column is lost on the way. -/
theorem length_narrow (available fuel : Nat) (widths : List Nat) :
    (narrow available fuel widths).length = widths.length := by
  induction fuel generalizing widths with
  | zero => rfl
  | succ fuel ih =>
    rw [narrow]
    split
    · rfl
    · rw [ih, narrowOnce, length_takeFrom]

/-! ## Cells -/

/-- Whether a character ends a line where a cell is measured. -/
def isLineEnd (c : Char) : Bool :=
  c = '\n' || c = '\x1c' || c = '\x1d' || c = '\x1e' || c = '\x85' || c = '\u2028' || c = '\u2029'

/-- The places that the longest line of a cell takes. -/
def cellWidth (cell : List Char) : Nat :=
  let marked := cell.map fun c => if isLineEnd c then '\n' else c
  ((Text.splitOn '\n' marked).map textWidth).foldr max 0

/-- The lines of a cell in a column, each as wide as the column. -/
def cellLines (width : Nat) (cell : List Char) : List (List Char) :=
  (wrap width false cell).map fun line => padTo width (elideTo width line)

/-- A line in the middle of a width. The blank that is left over goes to the right. -/
def centreIn (width : Nat) (line : List Char) : List Char :=
  let line := cropTo width (Text.trimEnd line)
  padTo width (blanks ((width - textWidth line) / 2) ++ line)

/-! ## Grids -/

/-- A table of text. -/
structure Grid where
  title : Option String := none
  header : List String
  rows : List (List String)

namespace Grid

/-- What a grid shows, without what is left out. -/
structure Shown where
  header : List (List Char)
  rows : List (List (List Char))
  deriving DecidableEq, Repr, Inhabited

/-- What the cells show, each in its row. The cells of a column are read before those of the next
one, and the styles in them last. -/
def shown (grid : Grid) : Except Markup.Fault Shown := do
  let columns ← grid.header.zipIdx.mapM fun (name, i) =>
    (name :: grid.rows.map (·.getD i "")).mapM fun cell => Markup.read cell.toList
  match columns.flatten.findSome? (·.styleFault) with
  | some fault => throw fault
  | none =>
    let row (j : Nat) : List (List Char) := columns.map fun column =>
      ((column[j]?.map (·.text)).getD []).filter (!isUnshown ·)
    return ⟨row 0, (List.range grid.rows.length).map fun j => row (j + 1)⟩

/-- The places for columns of a number, with a bar before each and after the last. -/
def available (columns : Nat) : Nat := terminalWidth - (columns + 1)

/-- The widths of the columns, with the blanks around the cells. -/
def widths (shown : Shown) : List Nat :=
  let available := available shown.header.length
  let widest := shown.rows.foldl (fun widths row => List.zipWith max widths (row.map cellWidth))
    (shown.header.map cellWidth)
  let widths := widest.map fun width => min (width + 2) available
  narrow available (total widths) widths

/-- The lines of a row between vertical lines. -/
def rowLines (bar : Char) (widths : List Nat) (row : List (List Char)) : List (List Char) :=
  let cells := (widths.zip row).map fun (width, cell) => (width - 2, cellLines (width - 2) cell)
  let height := (cells.map (·.2.length)).foldr max 0
  (List.range height).map fun i => bar :: cells.flatMap fun (width, lines) =>
    ' ' :: lines.getD i (blanks width) ++ [' ', bar]

/-- A horizontal line over all columns. -/
def border (left middle right line : Char) (widths : List Nat) : List Char :=
  left :: List.intercalate [middle] (widths.map (List.replicate · line)) ++ [right]

/-- The lines of a grid. -/
def lines (grid : Grid) : Except Markup.Fault (List (List Char)) := do
  let shown ← grid.shown
  let widths := widths shown
  let width := total widths + widths.length + 1
  let title := grid.title.toList.flatMap fun title =>
    (wrap width true title.toList).map (centreIn width)
  return title ++ [border '┏' '┳' '┓' '━' widths] ++ rowLines '┃' widths shown.header ++
    [border '┡' '╇' '┩' '━' widths] ++ shown.rows.flatMap (rowLines '│' widths) ++
    [border '└' '┴' '┘' '─' widths]

end Grid

end EntitySchema
