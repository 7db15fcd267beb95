/-
Texts that are laid out line by line.

A text that is put together from lines, each with some blanks in front and a line feed behind, is
read to just these lines: `Lines.ofText_laidOut`. What stands on a line must not be taken for
something else. `Line.IsOneLine` asks for that: neither blanks around it nor a line feed in it, no
comment and no continuation.

The use of this is for documents that are given by a scheme and not character by character. A family
of documents, one for every choice of some names, is laid out from its lines, and then the reading
of the text needs no computation: it is this lemma, and what is left is to read the declarations.

A line without blanks in front is at the baseline, if the first line is, and every other line is
nested. The lines are numbered from one in the order in which they were laid out, since none of them
is dropped. The text ends in a line feed, so there is one more physical line, which is empty and
carries nothing.
-/
import EntitySchema.Proofs.Lines.Relaid

set_option autoImplicit false

namespace EntitySchema

namespace Line

/-- A text that stands on a line as it is. -/
structure IsOneLine (text : List Char) : Prop where
  nonempty : text ≠ []
  noFeed : '\n' ∉ text
  first : ∀ c ∈ text.head?, Text.isBlank c = false ∧ c ≠ '#'
  last : ∀ c ∈ text.getLast?, Text.isBlank c = false ∧ c ≠ ','

/-- A text with blanks in front of it. -/
def behindBlanks (line : Nat × List Char) : List Char := List.replicate line.1 ' ' ++ line.2

/-- The text in which each line has its blanks in front and a line feed behind. -/
def laidOut (lines : List (Nat × List Char)) : List Char :=
  lines.flatMap fun line => behindBlanks line ++ ['\n']

theorem isBlank_of_mem_replicate {count : Nat} :
    ∀ c ∈ List.replicate count ' ', Text.isBlank c = true := by
  intro c hc
  rw [(List.mem_replicate.1 hc).2]
  decide

namespace IsOneLine

variable {line : Nat × List Char} (h : IsOneLine line.2)
include h

/-- Blanks in front add no line feed. -/
theorem noFeed_behindBlanks : '\n' ∉ behindBlanks line := by
  rw [behindBlanks, List.mem_append, not_or]
  exact ⟨fun hmem => absurd (List.mem_replicate.1 hmem).2 (by decide), h.noFeed⟩

/-- Trimming takes the blanks in front and nothing else. -/
theorem trim_behindBlanks : Text.trim (behindBlanks line) = line.2 := by
  obtain ⟨count, text⟩ := line
  rw [behindBlanks, Text.trim_append_left isBlank_of_mem_replicate]
  have hstart : Text.trimStart text = text := by
    cases text with
    | nil => rfl
    | cons c rest => exact Text.trimStart_cons_of_not_isBlank (h.first c rfl).1 rest
  obtain ⟨c, hc⟩ := Option.isSome_iff_exists.1 (List.getLast?_isSome.2 h.nonempty)
  obtain ⟨start, hsplit⟩ := List.getLast?_eq_some_iff.1 hc
  have hend : Text.trimEnd text = text := by
    rw [show text = start ++ [c] from hsplit]
    exact Text.trimEnd_append_of_not_isBlank start (h.last c hc).1
  rw [Text.trim, hstart, hend]

/-- A line that does not end in a blank does not end in a return. -/
theorem withoutReturn_behindBlanks : withoutReturn (behindBlanks line) = behindBlanks line := by
  refine withoutReturn_of_ne fun hreturn => ?_
  rw [behindBlanks, List.getLast?_append_of_ne_nil _ h.nonempty] at hreturn
  exact absurd (h.last '\r' hreturn).1 (by decide)

/-- The line carries something: it is not empty and no comment. -/
theorem carries_behindBlanks : carriesNothing (behindBlanks line) = false := by
  obtain ⟨c, rest, htext⟩ := List.exists_cons_of_ne_nil h.nonempty
  have hc := (h.first c (by rw [htext]; rfl)).2
  rw [carriesNothing, h.trim_behindBlanks, htext]
  simpa using hc

/-- The indent is the number of blanks in front. -/
theorem indent_behindBlanks : indent (behindBlanks line) = line.1 := by
  obtain ⟨count, text⟩ := line
  have htext : indent text = 0 := by
    obtain ⟨c, rest, rfl⟩ := List.exists_cons_of_ne_nil h.nonempty
    rw [indent, List.takeWhile_cons_of_neg (by simp [(h.first c rfl).1]), List.length_nil]
  rw [behindBlanks, indent_append isBlank_of_mem_replicate, htext, List.length_replicate,
    Nat.add_zero]

theorem not_endsInComma (number : Nat) : ¬ EndsInComma (number, behindBlanks line) := by
  rw [EndsInComma, h.trim_behindBlanks]
  exact fun hcomma => (h.last ',' hcomma).2 rfl

end IsOneLine

variable {lines : List (Nat × List Char)}

/-- The physical lines are those that were laid out, and an empty one at the end. -/
theorem physical_laidOut (h : ∀ line ∈ lines, IsOneLine line.2) :
    physical (laidOut lines) = lines.map behindBlanks ++ [[]] := by
  induction lines with
  | nil => rfl
  | cons line lines ih =>
    have hline := h line List.mem_cons_self
    have htext : laidOut (line :: lines) = behindBlanks line ++ '\n' :: laidOut lines := by
      simp [laidOut]
    rw [htext, physical_append_lineFeed hline.noFeed_behindBlanks, hline.withoutReturn_behindBlanks,
      ih fun other hother => h other (List.mem_cons_of_mem line hother)]
    rfl

/-- All of the lines are kept, except for the empty one behind the last line feed. -/
theorem meaningful_laidOut (h : ∀ line ∈ lines, IsOneLine line.2) (number : Nat) :
    meaningful number (lines.map behindBlanks ++ [[]]) =
      (lines.zipIdx number).map fun line => (line.2, behindBlanks line.1) := by
  induction lines generalizing number with
  | nil => rfl
  | cons line lines ih =>
    rw [List.map_cons, List.cons_append,
      meaningful_cons_of_carries (h line List.mem_cons_self).carries_behindBlanks,
      ih (fun other hother => h other (List.mem_cons_of_mem line hother)), List.zipIdx_cons,
      List.map_cons]

/-- A line that was laid out, as it is read. -/
def ofLaidOut (line : (Nat × List Char) × Nat) : Line :=
  ⟨line.2, String.ofList line.1.2, line.1.1 = 0⟩

/-- Each line is one logical line, since none of them is a continuation. By induction on the lines,
with nothing ever open. -/
theorem assemble_laidOut (h : ∀ line ∈ lines, IsOneLine line.2) (number last : Nat) :
    assemble 0 [] last ((lines.zipIdx number).map fun line => (line.2, behindBlanks line.1)) =
      ⟨(lines.zipIdx number).map ofLaidOut, none⟩ := by
  induction lines generalizing number last with
  | nil => rfl
  | cons line lines ih =>
    have hline := h line List.mem_cons_self
    have hrest := ih fun other hother => h other (List.mem_cons_of_mem line hother)
    rw [List.zipIdx_cons, List.map_cons, List.map_cons, ofLaidOut]
    by_cases htop : line.1 = 0
    · rw [assemble_top (hline.indent_behindBlanks.trans htop), hrest, hline.trim_behindBlanks]
      simp [htop]
    · have hnested : indent (behindBlanks line) ≠ 0 := by rwa [hline.indent_behindBlanks]
      rw [assemble_complete hnested (hline.not_endsInComma number), hrest, hline.trim_behindBlanks]
      simp [htop, joinPieces]

end Line

open Line in
/-- **A text that is laid out is read line by line**, if its first line has no blanks in front. Then
the baseline is zero, and a line is at the top level exactly if it has no blanks in front either. -/
theorem Lines.ofText_laidOut {lines : List (Nat × List Char)} (h : ∀ line ∈ lines, IsOneLine line.2)
    (hfirst : ∀ line ∈ lines.head?, line.1 = 0) :
    Lines.ofText (String.ofList (laidOut lines)) = ⟨(lines.zipIdx 1).map ofLaidOut, none⟩ := by
  have hlines := meaningful_laidOut h 1
  have hbaseline :
      baseline ((lines.zipIdx 1).map fun line => (line.2, behindBlanks line.1)) = 0 := by
    cases lines with
    | nil => rfl
    | cons line lines =>
      exact (h line List.mem_cons_self).indent_behindBlanks.trans (hfirst line rfl)
  rw [meaningful_eq, ← physical_laidOut h, ← carrying] at hlines
  rw [Lines.ofText_eq, String.toList_ofList, hlines, hbaseline, assemble_laidOut h]

end EntitySchema
