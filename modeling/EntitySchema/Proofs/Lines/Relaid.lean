/-
Physical lines laid out anew.

The layout of a text can be changed in several ways that have little in common as texts. On the
physical lines they are one relation, `Line.Relaid`: lines are kept up to the blanks around them,
new ones that carry nothing are put in, nested ones are broken in two after a comma, and all indents
move by the same amount. Every change of `Lines.Layout` is shown to be an instance of it there, and
what follows from the relation is shown once, here.

What may not change is `Lines.contents`: the text and the level of each logical line, and the
failure, all without the numbers. A line that is put in moves the numbers of those behind it, so
numbers are left out of the comparison from the start, also inside the error.

`Line.Relaid.sameContents` is the induction over that relation, with one step lemma for each of its
shapes. It carries two lists of open pieces, which need not be the same: a break makes two pieces of
one. What has to agree is only how they read when joined (`ReadAlike`), and that either both or none
of them are empty, because at the baseline this decides whether something is cut off.

The second half of a broken line may not be a comma alone. In the line that was, the space in front
of it is trimmed away with the comma; in the two that are made of it, a separator stands there. And
both halves have to stay off the baseline of the text as it is after the change, which is `shift`
further to the right than before: the first line that carries something moves as the others do
(`Relaid.head?_meaningful`).
-/
import EntitySchema.Proofs.Lines.Groups

set_option autoImplicit false

namespace EntitySchema

/-! ## What shows of a text -/

/-- An error without the number of the line in it. -/
def Error.withoutLine : Error → Error
  | .unparsedLine _ text => .unparsedLine 0 text
  | error => error

/-- What the grammar is given of a line. -/
def Line.content (line : Line) : String × Bool := (line.text, line.topLevel)

/-- The lines that were read and the failure, without the numbers. -/
def Lines.contents (read : Lines) : List (String × Bool) × Option Error :=
  (read.lines.map Line.content, read.failure.map Error.withoutLine)

namespace Line

/-! ## Pieces that read alike -/

/-- One piece more adds a separator and the piece, unless it is the first. -/
theorem joinPieces_append {pieces : List (List Char)} (h : pieces ≠ []) (last : List Char) :
    joinPieces (pieces ++ [last]) = joinPieces pieces ++ [',', ' '] ++ last := by
  induction pieces with
  | nil => exact absurd rfl h
  | cons first pieces ih =>
    by_cases hnil : pieces = []
    · subst hnil
      simp [joinPieces]
    · rw [joinPieces, joinPieces, List.cons_append, List.intercalate_cons_of_ne_nil (by simp),
        List.intercalate_cons_of_ne_nil hnil, ← joinPieces, ← joinPieces, ih hnil]
      simp only [List.append_assoc]

/-- Open pieces that are joined to the same text. -/
structure ReadAlike (pieces others : List (List Char)) : Prop where
  nil_iff : others = [] ↔ pieces = []
  joinPieces_eq : joinPieces others = joinPieces pieces

namespace ReadAlike

variable {pieces others : List (List Char)}

theorem refl (pieces : List (List Char)) : ReadAlike pieces pieces := ⟨Iff.rfl, rfl⟩

/-- They still do after one more piece. Whether the lists are empty has to be known, since the first
piece comes without a separator. -/
theorem append (h : ReadAlike pieces others) (last : List Char) :
    ReadAlike (pieces ++ [last]) (others ++ [last]) := by
  refine ⟨by simp, ?_⟩
  by_cases hnil : pieces = []
  · rw [hnil, h.nil_iff.2 hnil]
  · rw [joinPieces_append hnil, joinPieces_append (mt h.nil_iff.1 hnil), h.joinPieces_eq]

/-- They still do if one side gets in two pieces what the other gets in one. The break stands where
the separator is put, so joining the halves gives the line back. -/
theorem append_two (h : ReadAlike pieces others) (front back : List Char) :
    ReadAlike (pieces ++ [front ++ [',', ' '] ++ back]) (others ++ [front] ++ [back]) := by
  refine ⟨by simp, ?_⟩
  rw [joinPieces_append (by simp)]
  by_cases hnil : pieces = []
  · rw [hnil, h.nil_iff.2 hnil]
    simp [joinPieces]
  · rw [joinPieces_append hnil, joinPieces_append (mt h.nil_iff.1 hnil), h.joinPieces_eq]
    simp only [List.append_assoc]

/-- A continuation that is cut off is told in the same way: the message holds the joined pieces. -/
theorem cutOff (h : ReadAlike pieces others) (number other : Nat) :
    (cutOff other others).withoutLine = (cutOff number pieces).withoutLine := by
  rw [Line.cutOff, Line.cutOff, h.joinPieces_eq]
  rfl

end ReadAlike

/-! ## Physical lines laid out anew -/

/-- A line with other blanks around it, and `shift` more of them in front. -/
structure IsShifted (shift : Nat) (line other : List Char) : Prop where
  trim : Text.trim other = Text.trim line
  indent : carriesNothing line = false → indent other = shift + indent line

/-- A line that is broken in two after a comma. The second half is not only a comma. -/
structure IsBroken (line first second front back : List Char) : Prop where
  trim : Text.trim line = front ++ [',', ' '] ++ back
  trim_first : Text.trim first = front ++ [',']
  trim_second : Text.trim second = back
  trimEnd_front : Text.trimEnd front = front
  back_ne : back ≠ [',']
  carries : carriesNothing line = false
  carries_first : carriesNothing first = false
  carries_second : carriesNothing second = false

/-- Physical lines before and after a change of the layout that moves the baseline from `top` by
`shift`. -/
inductive Relaid (top shift : Nat) : List (List Char) → List (List Char) → Prop where
  | nil : Relaid top shift [] []
  | inserted {lines changed : List (List Char)} {line : List Char}
      (hnothing : carriesNothing line = true) (hrest : Relaid top shift lines changed) :
    Relaid top shift lines (line :: changed)
  | kept {lines changed : List (List Char)} {line other : List Char}
      (hshifted : IsShifted shift line other) (hrest : Relaid top shift lines changed) :
    Relaid top shift (line :: lines) (other :: changed)
  | broken {lines changed : List (List Char)} {line first second front back : List Char}
      (hbroken : IsBroken line first second front back) (hnested : indent line ≠ top)
      (hfirst : indent first = shift + indent line) (hsecond : indent second ≠ shift + top)
      (hrest : Relaid top shift lines changed) :
    Relaid top shift (line :: lines) (first :: second :: changed)

/-! ## Reading them -/

/-- A line that carries nothing is counted and dropped. -/
theorem meaningful_cons_of_nothing {line : List Char} (h : carriesNothing line = true)
    (number : Nat) (lines : List (List Char)) :
    meaningful number (line :: lines) = meaningful (number + 1) lines := by
  rw [meaningful, if_pos h]

/-- A line that carries something is counted and kept. -/
theorem meaningful_cons_of_carries {line : List Char} (h : carriesNothing line = false)
    (number : Nat) (lines : List (List Char)) :
    meaningful number (line :: lines) = (number, line) :: meaningful (number + 1) lines := by
  rw [meaningful, if_neg (by simp [h])]

/-- Whether a line goes on is read off its trimmed text, and so is its piece. -/
theorem endsInComma_congr {line other : List Char} (h : Text.trim other = Text.trim line)
    (number otherNumber : Nat) :
    EndsInComma (otherNumber, other) ↔ EndsInComma (number, line) := by
  rw [EndsInComma, EndsInComma, h]

theorem piece_congr {line other : List Char} (h : Text.trim other = Text.trim line)
    (number otherNumber : Nat) : piece (otherNumber, other) = piece (number, line) := by
  rw [piece, piece, h]

namespace IsBroken

variable {line first second front back : List Char}

/-- The first half always goes on. -/
theorem endsInComma_first (h : IsBroken line first second front back) (number : Nat) :
    EndsInComma (number, first) := by
  rw [EndsInComma, h.trim_first, List.getLast?_concat]

/-- The piece of the first half is what stands in front of the comma. -/
theorem piece_first (h : IsBroken line first second front back) (number : Nat) :
    piece (number, first) = front := by
  rw [piece, h.trim_first, List.dropLast_concat, h.trimEnd_front]

/-- The second half is not empty, or it would carry nothing and be dropped. -/
theorem back_ne_nil (h : IsBroken line first second front back) : back ≠ [] := by
  rw [← h.trim_second, ne_eq, Text.trim_eq_nil_iff]
  exact not_blank_of_carries h.carries_second

/-- The line goes on exactly when its second half does: both end alike. -/
theorem endsInComma_iff (h : IsBroken line first second front back) (number other : Nat) :
    EndsInComma (other, second) ↔ EndsInComma (number, line) := by
  rw [EndsInComma, EndsInComma, h.trim_second, h.trim,
    List.getLast?_append_of_ne_nil _ h.back_ne_nil]

/-- If the line goes on, its piece is made of those of its halves. This is where a lone comma as
second half has to be excluded: its piece would be empty. -/
theorem piece_eq (h : IsBroken line first second front back) (number other : Nat)
    (hcomma : EndsInComma (other, second)) :
    piece (number, line) = front ++ [',', ' '] ++ piece (other, second) := by
  rw [EndsInComma, h.trim_second] at hcomma
  obtain ⟨rest, rfl⟩ := List.getLast?_eq_some_iff.1 hcomma
  -- something is left in front of the comma, so the separator is not trimmed away
  have hblank : ¬ ∀ c ∈ rest, Text.isBlank c = true := by
    intro hall
    cases rest with
    | nil => exact h.back_ne rfl
    | cons c rest =>
      have hc := Text.not_isBlank_of_trim h.trim_second
      rw [hall c List.mem_cons_self] at hc
      cases hc
  rw [piece, piece, h.trim, h.trim_second, ← List.append_assoc, List.dropLast_concat,
    List.dropLast_concat, Text.trimEnd_append_of_not _ hblank]

end IsBroken

/-- A first line more, in front of what is read later. -/
theorem contents_cons {number other : Nat} {text otherText : List Char} (htext : otherText = text)
    (level : Bool) {read otherRead : Lines} (hread : otherRead.contents = read.contents) :
    Lines.contents ⟨⟨other, String.ofList otherText, level⟩ :: otherRead.lines, otherRead.failure⟩ =
      Lines.contents ⟨⟨number, String.ofList text, level⟩ :: read.lines, read.failure⟩ := by
  obtain ⟨hlines, hfailure⟩ := Prod.ext_iff.1 hread
  dsimp only [Lines.contents] at hlines hfailure
  rw [Lines.contents, Lines.contents, List.map_cons, List.map_cons, hlines, hfailure, htext]
  rfl

/-- Lines that are read to the same contents, whatever is open and whatever the numbers are, if the
open pieces read alike. -/
def SameContents (top shift : Nat) (lines changed : List (List Char)) : Prop :=
  ∀ {pieces others : List (List Char)}, ReadAlike pieces others →
    ∀ number otherNumber last otherLast : Nat,
      (assemble (shift + top) others otherLast (meaningful otherNumber changed)).contents =
        (assemble top pieces last (meaningful number lines)).contents

namespace SameContents

variable {top shift : Nat} {lines changed : List (List Char)}

/-- What is still open at the end is cut off on both sides. -/
theorem nil : SameContents top shift [] [] := by
  intro pieces others hpieces number otherNumber last otherLast
  rw [meaningful, meaningful, assemble, assemble]
  by_cases hnil : pieces = []
  · rw [hnil, hpieces.nil_iff.2 hnil]
    rfl
  · rw [if_neg (by simpa using mt hpieces.nil_iff.1 hnil), if_neg (by simpa using hnil),
      Lines.contents, Option.map_some, hpieces.cutOff last otherLast]
    rfl

/-- A line that carries nothing moves the numbers of those behind it and nothing else. -/
theorem inserted (h : SameContents top shift lines changed) {line : List Char}
    (hnothing : carriesNothing line = true) : SameContents top shift lines (line :: changed) := by
  intro pieces others hpieces number otherNumber last otherLast
  rw [meaningful_cons_of_nothing hnothing]
  exact h hpieces number (otherNumber + 1) last otherLast

/-- A line with other blanks around it stays at its level, and goes on if it did before. The three
cases are those of `assemble`: at the baseline, continued, and complete. -/
theorem kept (h : SameContents top shift lines changed) {line other : List Char}
    (hshifted : IsShifted shift line other) :
    SameContents top shift (line :: lines) (other :: changed) := by
  intro pieces others hpieces number otherNumber last otherLast
  have hcarries := carriesNothing_congr hshifted.trim
  by_cases hnothing : carriesNothing line = true
  · rw [meaningful_cons_of_nothing hnothing, meaningful_cons_of_nothing (hcarries.trans hnothing)]
    exact h hpieces (number + 1) (otherNumber + 1) last otherLast
  rw [Bool.not_eq_true] at hnothing
  -- the baseline moves along with the line, so it is at the baseline as before or off it as before
  have hindent := hshifted.indent hnothing
  rw [meaningful_cons_of_carries hnothing, meaningful_cons_of_carries (hcarries.trans hnothing)]
  by_cases htop : indent line = top
  · have hother : indent other = shift + top := by rw [hindent, htop]
    by_cases hnil : pieces = []
    · rw [hnil, hpieces.nil_iff.2 hnil, assemble_top htop, assemble_top hother]
      exact contents_cons hshifted.trim true (h (.refl []) _ _ last otherLast)
    · rw [assemble_cutOff htop hnil, assemble_cutOff hother (mt hpieces.nil_iff.1 hnil),
        Lines.contents, Option.map_some, hpieces.cutOff last otherLast]
      rfl
  · have hother : indent other ≠ shift + top := by omega
    by_cases hcomma : EndsInComma (number, line)
    · rw [assemble_continued htop hcomma,
        assemble_continued hother ((endsInComma_congr hshifted.trim _ _).2 hcomma),
        piece_congr hshifted.trim number otherNumber]
      exact h (hpieces.append _) _ _ number otherNumber
    · rw [assemble_complete htop hcomma,
        assemble_complete hother (mt (endsInComma_congr hshifted.trim _ _).1 hcomma), hshifted.trim]
      exact contents_cons (hpieces.append _).joinPieces_eq false
        (h (.refl []) _ _ number otherNumber)

/-- The first half of a broken line goes on in the second, and that goes on if the line did. Two
steps of reading on one side answer to one step on the other. -/
theorem broken (h : SameContents top shift lines changed) {line first second front back : List Char}
    (hbroken : IsBroken line first second front back) (hnested : indent line ≠ top)
    (hfirst : indent first = shift + indent line) (hsecond : indent second ≠ shift + top) :
    SameContents top shift (line :: lines) (first :: second :: changed) := by
  intro pieces others hpieces number otherNumber last otherLast
  have hfirstNested : indent first ≠ shift + top := by omega
  rw [meaningful_cons_of_carries hbroken.carries, meaningful_cons_of_carries hbroken.carries_first,
    meaningful_cons_of_carries hbroken.carries_second,
    assemble_continued hfirstNested (hbroken.endsInComma_first otherNumber), hbroken.piece_first]
  -- the first half is open by now, and from here on the second is read in place of the line
  by_cases hcomma : EndsInComma (otherNumber + 1, second)
  · rw [assemble_continued hsecond hcomma,
      assemble_continued hnested ((hbroken.endsInComma_iff number _).1 hcomma),
      hbroken.piece_eq number _ hcomma]
    exact h (hpieces.append_two front _) _ _ number (otherNumber + 1)
  · rw [assemble_complete hsecond hcomma,
      assemble_complete hnested (mt (hbroken.endsInComma_iff number _).2 hcomma), hbroken.trim,
      hbroken.trim_second]
    exact contents_cons (hpieces.append_two front back).joinPieces_eq false
      (h (.refl []) _ _ number (otherNumber + 1))

end SameContents

/-- **The layout does not show.** Lines that are laid out anew are read to the same contents, by
induction over how they are laid out anew. -/
theorem Relaid.sameContents {top shift : Nat} {lines changed : List (List Char)}
    (h : Relaid top shift lines changed) : SameContents top shift lines changed := by
  induction h with
  | nil => exact SameContents.nil
  | inserted hnothing hrest ih => exact ih.inserted hnothing
  | kept hshifted hrest ih => exact ih.kept hshifted
  | broken hbroken hnested hfirst hsecond hrest ih =>
    exact ih.broken hbroken hnested hfirst hsecond

/-- The first line that carries something moves as the others do, and it fixes the baseline. If it
is broken, its first half has its indent. -/
theorem Relaid.head?_meaningful {top shift : Nat} {lines changed : List (List Char)}
    (h : Relaid top shift lines changed) (number otherNumber : Nat) :
    ((meaningful otherNumber changed).head?.map (indent ·.2)) =
      (meaningful number lines).head?.map (shift + indent ·.2) := by
  induction h generalizing number otherNumber with
  | nil => rfl
  | inserted hnothing hrest ih =>
    rw [meaningful_cons_of_nothing hnothing]
    exact ih number (otherNumber + 1)
  | @kept lines changed line other hshifted hrest ih =>
    have hcarries := carriesNothing_congr hshifted.trim
    by_cases hnothing : carriesNothing line = true
    · rw [meaningful_cons_of_nothing hnothing, meaningful_cons_of_nothing (hcarries.trans hnothing)]
      exact ih (number + 1) (otherNumber + 1)
    · rw [Bool.not_eq_true] at hnothing
      rw [meaningful_cons_of_carries hnothing, meaningful_cons_of_carries (hcarries.trans hnothing)]
      exact congrArg some (hshifted.indent hnothing)
  | broken hbroken hnested hfirst hsecond hrest ih =>
    rw [meaningful_cons_of_carries hbroken.carries,
      meaningful_cons_of_carries hbroken.carries_first]
    exact congrArg some hfirst

/-- Texts whose physical lines are laid out anew have the same contents. Nothing is open at the
start of either, so the induction is entered with two empty lists. -/
theorem Relaid.contents_ofText {text changed : String} (shift : Nat)
    (h : Relaid (baseline (carrying text.toList)) shift (physical text.toList)
      (physical changed.toList)) :
    (Lines.ofText changed).contents = (Lines.ofText text).contents := by
  have hhead := h.head?_meaningful 1 1
  have hcontents := h.sameContents (.refl []) 1 1 0 0
  rw [Lines.ofText_eq, Lines.ofText_eq]
  rw [meaningful_eq, meaningful_eq, ← carrying, ← carrying] at hhead hcontents
  cases hlines : carrying text.toList with
  | nil =>
    -- nothing is read on either side, whatever the baseline
    rw [hlines, List.head?_nil, Option.map_none, Option.map_eq_none_iff,
      List.head?_eq_none_iff] at hhead
    rw [hhead]
  | cons first rest =>
    have hbaseline : baseline (carrying changed.toList) =
        shift + baseline (carrying text.toList) := by
      rw [baseline, hhead, baseline, hlines]
      rfl
    rw [← hlines, hbaseline]
    exact hcontents

end Line

end EntitySchema
