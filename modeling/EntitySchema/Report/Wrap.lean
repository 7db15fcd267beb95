/-
Breaking texts into lines of a width.

A line takes as many words as fit, each with the blanks around it. A word that fits on no line
starts a new one and is either cut into lines or left to be cut off. Blanks that stick out at the
end of a line are dropped.
-/
import EntitySchema.Report.Width
import EntitySchema.Text.Scan

set_option autoImplicit false

namespace EntitySchema

/-! ## What is shown of a text -/

/-- Whether a control character is left out of what is shown: the bell, the step back, and the
feeds other than the line feed. -/
def isUnshown (c : Char) : Bool :=
  c = '\x07' || c = '\x08' || c = '\x0b' || c = '\x0c' || c = '\r'

/-- The lines of a text without what is left out. -/
def shownLines (cs : List Char) : List (List Char) :=
  Text.splitOn '\n' (cs.filter (!isUnshown ·))

/-- Puts blanks for the tabs between pieces of a line, the first of which starts at a place: each
tab goes on to the next multiple of eight places. -/
def joinAtTabs (place : Nat) : List (List Char) → List Char
  | [] => []
  | [last] => last
  | piece :: rest =>
    let cell := piece ++ [' ']
    let stop := place + textWidth cell
    let more := (8 - stop % 8) % 8
    cell ++ blanks more ++ joinAtTabs (stop + more) rest

/-- A line with blanks for its tabs. -/
def expandTabs (line : List Char) : List Char := joinAtTabs 0 (Text.splitOn '\t' line)

/-! ## Words -/

/-- Cuts a line into words, each with the blanks after it, and the first with those before it as
well. A line of blanks has no words. -/
def wordsWithBlanks (line : List Char) : List (List Char) :=
  match line.dropWhile Text.isBlank with
  | [] => []
  | first :: rest => go (first :: (line.takeWhile Text.isBlank).reverse) rest
where
  /-- Goes on after the start of a word, which is held in reverse. -/
  go (word : List Char) : List Char → List (List Char)
    | [] => [word.reverse]
    | c :: rest =>
      if !Text.isBlank c && word.head?.any Text.isBlank then word.reverse :: go [c] rest
      else go (c :: word) rest

/-- Nothing is lost after the start of a word. -/
theorem flatten_wordsWithBlanks_go (word line : List Char) :
    (wordsWithBlanks.go word line).flatten = word.reverse ++ line := by
  fun_induction wordsWithBlanks.go word line <;> simp_all

/-- The words of a line make up the line, unless it has none. -/
theorem flatten_wordsWithBlanks {line : List Char} (h : wordsWithBlanks line ≠ []) :
    (wordsWithBlanks line).flatten = line := by
  unfold wordsWithBlanks at h ⊢
  split
  · next heq => rw [heq] at h; exact absurd rfl h
  · next first rest heq =>
    rw [flatten_wordsWithBlanks_go, List.reverse_cons, List.reverse_reverse, List.append_assoc,
      List.singleton_append, ← heq, List.takeWhile_append_dropWhile]

/-! ## Lines -/

/-- Fills lines with words, after the start of a line. Words that fit on no line are cut if
`folding` holds. -/
def fillLines (width : Nat) (folding : Bool) (line : List Char) (size : Nat) :
    List (List Char) → List (List Char)
  | [] => [line]
  | word :: rest =>
    let needed := textWidth (Text.trimEnd word)
    let closed := if line.isEmpty then [] else [line]
    if size + needed ≤ width then
      fillLines width folding (line ++ word) (size + textWidth word) rest
    else if folding && width < needed then
      let pieces := chop width word
      let last := pieces.getLastD []
      closed ++ pieces.dropLast ++ fillLines width folding last (textWidth last) rest
    else closed ++ fillLines width folding word (textWidth word) rest

/-- Breaks a line without tabs into lines of a width, which may still stick out. -/
def breakLine (width : Nat) (folding : Bool) (line : List Char) : List (List Char) :=
  match wordsWithBlanks line with
  | [] => [line]
  | words => fillLines width folding [] 0 words

/-- Drops blanks at the end of a line that is longer than `width` characters, as far as it is
too long. -/
def dropExcess (width : Nat) (line : List Char) : List Char :=
  let blank := (line.reverse.takeWhile Text.isBlank).length
  line.take (line.length - min blank (line.length - width))

/-- A line that is not too long stays as it is. -/
theorem dropExcess_of_length_le {width : Nat} {line : List Char} (h : line.length ≤ width) :
    dropExcess width line = line := by
  simp [dropExcess, Nat.sub_eq_zero_of_le h]

/-- Breaks a text into lines of a width and trims what sticks out. -/
def wrap (width : Nat) (folding : Bool) (cs : List Char) : List (List Char) :=
  (shownLines cs).flatMap fun line =>
    (breakLine width folding (expandTabs line)).map (dropExcess width)

end EntitySchema
