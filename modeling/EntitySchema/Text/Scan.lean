/-
Cutting texts into pieces.

Lines are read from the left by small functions that take characters and answer what is left, or
nothing when the text does not continue as wanted. All of them work on the list of characters, and
each one says how far it reads, so no reader ever has to go back.

The readers come with lemmas in both directions: `after?_append` says that what was written is read,
and `eq_append_of_after?` that what was read had been written. Proofs about the kinds of lines are
put together from such pairs.

Names are made of the letters and digits of ASCII and the underscore. This is one set of characters
for fields, methods, tables and indexes, and every place that reads a name takes as many of them as
there are.
-/
import EntitySchema.Text.Blank

set_option autoImplicit false

namespace EntitySchema.Text

/-! ## Splitting -/

/-- Splits at every character `sep`. There is one piece more than there are separators. -/
def splitOn (sep : Char) : List Char → List (List Char)
  | [] => [[]]
  | c :: rest =>
    if c = sep then [] :: splitOn sep rest
    else
      match splitOn sep rest with
      | [] => [[c]]
      | piece :: pieces => (c :: piece) :: pieces

/-- There is always a piece. -/
theorem splitOn_ne_nil (sep : Char) (cs : List Char) : splitOn sep cs ≠ [] := by
  cases cs with
  | nil => simp [splitOn]
  | cons c rest =>
    simp only [splitOn]
    split
    · simp
    · split <;> simp

/-- Joining the pieces with the separator gives the text back. -/
theorem intercalate_splitOn (sep : Char) (cs : List Char) :
    List.intercalate [sep] (splitOn sep cs) = cs := by
  induction cs with
  | nil => simp [splitOn, List.intercalate]
  | cons c rest ih =>
    obtain ⟨piece, pieces, hp⟩ := List.exists_cons_of_ne_nil (splitOn_ne_nil sep rest)
    rw [hp] at ih
    by_cases hc : c = sep
    · cases pieces <;> simp_all [splitOn, List.intercalate]
    · cases pieces <;> simp_all [splitOn, List.intercalate]

/-- Splits a text into its words, the runs without blanks. -/
def words (cs : List Char) : List (List Char) :=
  go [] cs
where
  /-- Collects the word that has been read so far in reverse. -/
  go (word : List Char) : List Char → List (List Char)
    | [] => if word.isEmpty then [] else [word.reverse]
    | c :: rest =>
      if isBlank c then if word.isEmpty then go [] rest else word.reverse :: go [] rest
      else go (c :: word) rest

/-- Whether `piece` occurs somewhere in a text. -/
def occursIn (piece : List Char) : List Char → Bool
  | [] => piece.isEmpty
  | c :: rest => piece.isPrefixOf (c :: rest) || occursIn piece rest

/-! ## Reading from the left -/

/-- What follows `start`, if the text starts with it. -/
def after? : (start cs : List Char) → Option (List Char)
  | [], cs => some cs
  | _ :: _, [] => none
  | s :: start, c :: cs => if s = c then after? start cs else none

/-- After its own start comes the rest. -/
@[simp]
theorem after?_append (start rest : List Char) : after? start (start ++ rest) = some rest := by
  induction start with
  | nil => rfl
  | cons s start ih => simp [after?, ih]

/-- A text that continues after a start consists of the two. -/
theorem eq_append_of_after? {start cs rest : List Char} (h : after? start cs = some rest) :
    cs = start ++ rest := by
  induction start generalizing cs with
  | nil => simpa [after?] using h
  | cons s start ih =>
    cases cs with
    | nil => simp [after?] at h
    | cons c cs =>
      simp only [after?] at h
      split at h
      · next hsc => rw [hsc, ih h, List.cons_append]
      · simp at h

/-- The longest run at the start whose characters all satisfy `p`, unless it is empty. -/
def run? (p : Char → Bool) (cs : List Char) : Option (List Char × List Char) :=
  if (cs.takeWhile p).isEmpty then none else some (cs.takeWhile p, cs.dropWhile p)

/-- The text inside, if the text starts with `start` and ends with `stop` right after it or
later. -/
def between? (start stop cs : List Char) : Option (List Char) :=
  (after? start cs).bind fun rest =>
    if stop.isSuffixOf rest then some (rest.take (rest.length - stop.length)) else none

/-- Requires a blank and skips all blanks that follow. -/
def blanks? : List Char → Option (List Char)
  | c :: rest => if isBlank c then some (trimStart rest) else none
  | [] => none

/-- Whether nothing is left of a line but perhaps one line feed. -/
def isLineEnd (cs : List Char) : Bool := cs.isEmpty || cs == ['\n']

/-- A line without the line feed at its end, if it holds no other. -/
def oneLine? (cs : List Char) : Option (List Char) :=
  if isLineEnd (cs.dropWhile (· != '\n')) then some (cs.takeWhile (· != '\n')) else none

/-! ## Characters of names -/

/-- Whether a character is a letter or digit of ASCII. -/
def isAlphanumeric (c : Char) : Bool := c.isAlpha || c.isDigit

/-- Whether a character may stand in the name of a field, method, table or index. -/
def isNameChar (c : Char) : Bool := isAlphanumeric c || c = '_'

/-- The name at the start of a text. -/
def name? (cs : List Char) : Option (List Char × List Char) := run? isNameChar cs

end EntitySchema.Text
