/-
Letters and their case.

Names are read by the case of their letters: `HomePhone` is two words because of its
capitals, and a noun is compared in lower case. All scripts with case are known. A capital may
have a lower-case form of several characters, and the other way round, and the small sigma has
a form of its own at the end of a word.
-/
import EntitySchema.Text.CaseTable
import EntitySchema.Text.Digit
import EntitySchema.Text.LetterTable
import EntitySchema.Text.Ranges

set_option autoImplicit false

namespace EntitySchema.Text

/-! ## Characters -/

/-- Whether a character is a letter. -/
def isLetter (c : Char) : Bool := inRanges letterRanges c

/-- Whether a character may stand in a word: a letter, a sign for a number or an underscore. -/
def isWordChar (c : Char) : Bool := isLetter c || isNumeral c || c = '_'

/-- Whether a character is an upper-case letter. -/
def isUpper (c : Char) : Bool :=
  ((CaseRun.lookup lowerRuns c).isSome || c == 'İ' || inRanges loneCapitalRanges c)
    && !inRanges titleCaseRanges c

/-- The lower-case form of a character on its own. Only `İ` becomes two characters. -/
def lowerChar (c : Char) : List Char :=
  if c = 'İ' then ['i', '\u0307'] else [(CaseRun.lookup lowerRuns c).getD c]

/-- The upper-case form of a character. -/
def upperChar (c : Char) : List Char :=
  match upperExpansions.lookup c.toNat with
  | some expansion => expansion.map Char.ofNat
  | none => [(CaseRun.lookup upperRuns c).getD c]

/-- Whether a character belongs to a cased script. -/
def isCased (c : Char) : Bool :=
  isUpper c || inRanges titleCaseRanges c || (CaseRun.lookup upperRuns c).isSome
    || (upperExpansions.lookup c.toNat).isSome || inRanges looseCasedRanges c

/-! ## Texts -/

/-- Whether a cased character is the first one that is not looked through. -/
def startsCased (cs : List Char) : Bool :=
  ((cs.dropWhile (inRanges caseIgnorableRanges)).head?).any isCased

/-- Lower-cases what follows `before`, which is held in reverse: a capital sigma at the end of
a word becomes `ς`, elsewhere `σ`. -/
def lowerAfter (before : List Char) : List Char → List Char
  | [] => []
  | c :: rest =>
    let low :=
      if c = 'Σ' then if startsCased before && !startsCased rest then ['ς'] else ['σ']
      else lowerChar c
    low ++ lowerAfter (c :: before) rest

/-- The lower-case form of a text. -/
def lower (cs : List Char) : List Char := lowerAfter [] cs

/-- The upper-case form of a text. -/
def upper (cs : List Char) : List Char := cs.flatMap upperChar

end EntitySchema.Text
