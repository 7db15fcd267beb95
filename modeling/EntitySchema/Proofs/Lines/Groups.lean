/-
Logical lines as groups of physical lines.

Reading a text goes from line to line with a list of pieces that are still open. Nothing of that
shows in the result, and this file says what does: the physical lines that carry something are cut
into groups, and each group is one logical line. A line at the baseline is a group of its own. Off
the baseline a group is a row of lines that end in a comma, followed by one that does not.

`IsGroup` says what one logical line has to do with its group, and `IsGrouping` what all of them
have to do with a text. Neither mentions how lines are read, so a reader can check them against the
format without a look at `assemble`. That they determine the lines is seen from the constructors:
number, text and level of a logical line are functions of its group.

The only thing that can go wrong is a row without an end. `Lines.ofText_isGrouped` says that reading
fails exactly when some run of nested lines, as long as it can be, ends in a comma, and that
otherwise the groups are all there, in order, and none is made up. Comments and blank lines are no
part of this: they are dropped first, and inside a continuation they do not end it.

The two halves are inductions over the physical lines that are left, with the open ones at hand:
`isSome_failure_assemble_iff` for the failure and `exists_groups_of_assemble` for the groups. Both
go through the same four cases, which the lemmas about one step name.
-/
import EntitySchema.Proofs.Lines.Physical
import Mathlib.Data.List.Induction
import Mathlib.Data.List.Forall2

set_option autoImplicit false

namespace EntitySchema

namespace Line

/-- A physical line with its number. -/
abbrev Numbered := Nat × List Char

/-- The physical lines of a text that carry something, numbered from one. -/
def carrying (text : List Char) : List Numbered :=
  (((physical text).zipIdx 1).filter fun line => !carriesNothing line.1).map Prod.swap

/-- The indent of the first line. -/
def baseline (lines : List Numbered) : Nat := ((lines.head?).map (indent ·.2)).getD 0

/-- Whether the trimmed text of a line ends in a comma. -/
def EndsInComma (line : Numbered) : Prop := (Text.trim line.2).getLast? = some ','

/-- The trimmed text of a line without the comma at its end and the blanks before that. -/
def piece (line : Numbered) : List Char := Text.trimEnd (Text.trim line.2).dropLast

/-! ## Groups -/

/-- The physical lines of one logical line. -/
inductive IsGroup (baseline : Nat) : List Numbered → Line → Prop where
  | top (number : Nat) (line : List Char) (htop : indent line = baseline) :
    IsGroup baseline [(number, line)] ⟨number, String.ofList (Text.trim line), true⟩
  | nested (continued : List Numbered) (number : Nat) (line : List Char)
      (hnested : ∀ other ∈ continued ++ [(number, line)], indent other.2 ≠ baseline)
      (hcontinued : ∀ other ∈ continued, EndsInComma other)
      (hlast : ¬ EndsInComma (number, line)) :
    IsGroup baseline (continued ++ [(number, line)])
      ⟨number, String.ofList (joinPieces (continued.map piece ++ [Text.trim line])), false⟩

/-- A run of nested lines that cannot be made longer on either side. -/
structure IsNestedRun (baseline : Nat) (lines run : List Numbered) : Prop where
  nonempty : run ≠ []
  nested : ∀ line ∈ run, indent line.2 ≠ baseline
  maximal : ∃ before after, lines = before ++ run ++ after ∧
    (∀ line ∈ before.getLast?, indent line.2 = baseline) ∧
    ∀ line ∈ after.head?, indent line.2 = baseline

/-! ## Numbered lines -/

/-- The lines that are kept, as a filter of all numbered lines. The definition counts while it
drops; here the counting is done first, and it is plain that dropping a line renumbers none. -/
theorem meaningful_eq (number : Nat) (lines : List (List Char)) :
    meaningful number lines =
      ((lines.zipIdx number).filter fun line => !carriesNothing line.1).map Prod.swap := by
  induction lines generalizing number with
  | nil => rfl
  | cons line lines ih =>
    rw [meaningful, List.zipIdx_cons, List.filter_cons, ih]
    cases carriesNothing line <;> rfl

/-- A line that is kept carries something. -/
theorem carries_of_mem_meaningful {number : Nat} {lines : List (List Char)} {line : Numbered}
    (h : line ∈ meaningful number lines) : carriesNothing line.2 = false := by
  rw [meaningful_eq] at h
  obtain ⟨kept, hkept, rfl⟩ := List.mem_map.1 h
  simpa using (List.mem_filter.1 hkept).2

/-- The numbers of the lines that are kept increase. The bound from below is what the induction
needs: all that comes later is numbered from further on. -/
theorem pairwise_meaningful (number : Nat) (lines : List (List Char)) :
    (∀ line ∈ meaningful number lines, number ≤ line.1) ∧
      (meaningful number lines).Pairwise fun line later => line.1 < later.1 := by
  induction lines generalizing number with
  | nil => exact ⟨by simp [meaningful], List.Pairwise.nil⟩
  | cons line lines ih =>
    obtain ⟨hlower, hpairwise⟩ := ih (number + 1)
    rw [meaningful]
    split
    · exact ⟨fun other hother => by have := hlower other hother; omega, hpairwise⟩
    · refine ⟨fun other hother => ?_, List.pairwise_cons.2 ⟨hlower, hpairwise⟩⟩
      rcases List.mem_cons.1 hother with rfl | hother
      · exact Nat.le_refl number
      · have := hlower other hother
        omega

/-! ## One line after another

What `assemble` does with the next line depends on whether the line is at the baseline, whether it
ends in a comma, and whether something is open. -/

/-- A line that ends in a comma goes on, with its piece. -/
theorem continued?_eq_some {line : Numbered} (h : EndsInComma line) :
    continued? (Text.trim line.2) = some (piece line) := by
  obtain ⟨start, hstart⟩ := List.getLast?_eq_some_iff.1 h
  simp [continued?, piece, hstart]

/-- A line that does not end in a comma is the last one of its group. -/
theorem continued?_eq_none {line : Numbered} (h : ¬ EndsInComma line) :
    continued? (Text.trim line.2) = none := by
  rw [continued?]
  split
  · next rest hrest =>
    refine absurd ?_ h
    rw [EndsInComma, List.getLast?_eq_head?_reverse, hrest, List.head?_cons]
  · rfl

section Steps

variable {top : Nat} {pieces : List (List Char)} {last number : Nat} {line : List Char}

/-- At the baseline, with nothing open, a line is a logical line by itself. A comma at its end is
part of its text. -/
theorem assemble_top (h : indent line = top) (rest : List Numbered) :
    assemble top [] last ((number, line) :: rest) =
      ⟨⟨number, String.ofList (Text.trim line), true⟩ :: (assemble top [] last rest).lines,
        (assemble top [] last rest).failure⟩ := by
  rw [assemble, if_pos h]
  rfl

/-- At the baseline, with something open, reading stops. What was open is told, and the lines that
are left are not looked at. -/
theorem assemble_cutOff (h : indent line = top) (hopen : pieces ≠ []) (rest : List Numbered) :
    assemble top pieces last ((number, line) :: rest) = ⟨[], some (cutOff last pieces)⟩ := by
  rw [assemble, if_pos h, if_neg (by simpa using hopen)]

/-- Off the baseline a line that ends in a comma is added to what is open. -/
theorem assemble_continued (h : indent line ≠ top) (hcomma : EndsInComma (number, line))
    (rest : List Numbered) :
    assemble top pieces last ((number, line) :: rest) =
      assemble top (pieces ++ [piece (number, line)]) number rest := by
  rw [assemble, if_neg h, continued?_eq_some hcomma]

/-- Off the baseline any other line completes what is open, and reading goes on with nothing
open. -/
theorem assemble_complete (h : indent line ≠ top) (hcomma : ¬ EndsInComma (number, line))
    (rest : List Numbered) :
    assemble top pieces last ((number, line) :: rest) =
      ⟨⟨number, String.ofList (joinPieces (pieces ++ [Text.trim line])), false⟩ ::
        (assemble top [] number rest).lines, (assemble top [] number rest).failure⟩ := by
  rw [assemble, if_neg h, continued?_eq_none hcomma]

end Steps

/-! ## When reading fails -/

/-- Some nested line ends in a comma, in front of a line or an end of which `follows` holds. -/
def IsOpenBefore (top : Nat) (follows : Option Numbered → Prop) (lines : List Numbered) : Prop :=
  ∃ before line after, lines = before ++ line :: after ∧ indent line.2 ≠ top ∧ EndsInComma line ∧
    follows after.head?

/-- A nested line that ends in a comma and is not followed by another nested one. -/
def IsCutOff (top : Nat) : List Numbered → Prop :=
  IsOpenBefore top fun next => ∀ line ∈ next, indent line.2 = top

theorem not_isOpenBefore_nil {top : Nat} {follows : Option Numbered → Prop} :
    ¬ IsOpenBefore top follows [] := by
  rintro ⟨before, line, after, hsplit, -⟩
  simp at hsplit

/-- The line in question is the first one, or it is among the others. With this a property of open
lines is followed through a list from the front, as `assemble` follows them. -/
theorem isOpenBefore_cons {top : Nat} {follows : Option Numbered → Prop} {line : Numbered}
    {rest : List Numbered} :
    IsOpenBefore top follows (line :: rest) ↔
      indent line.2 ≠ top ∧ EndsInComma line ∧ follows rest.head? ∨
        IsOpenBefore top follows rest := by
  constructor
  · rintro ⟨before, cut, after, hsplit, hnested, hcomma, hnext⟩
    cases before with
    | nil =>
      obtain ⟨rfl, rfl⟩ := List.cons.inj hsplit
      exact .inl ⟨hnested, hcomma, hnext⟩
    | cons first before =>
      obtain ⟨rfl, rfl⟩ := List.cons.inj hsplit
      exact .inr ⟨before, cut, after, rfl, hnested, hcomma, hnext⟩
  · rintro (⟨hnested, hcomma, hnext⟩ | ⟨before, cut, after, rfl, hnested, hcomma, hnext⟩)
    · exact ⟨[], line, rest, rfl, hnested, hcomma, hnext⟩
    · exact ⟨line :: before, cut, after, rfl, hnested, hcomma, hnext⟩

/-- **When reading fails.** Either what is open is not continued, or something later is cut off. The
induction is on the lines that are left, over all that may be open in front of them. -/
theorem isSome_failure_assemble_iff {top : Nat} (lines : List Numbered)
    (pieces : List (List Char)) (last : Nat) :
    (assemble top pieces last lines).failure.isSome = true ↔
      pieces ≠ [] ∧ (∀ next ∈ lines.head?, indent next.2 = top) ∨ IsCutOff top lines := by
  induction lines generalizing pieces last with
  | nil =>
    have hnone : ¬ IsCutOff top [] := not_isOpenBefore_nil
    cases pieces with
    | nil => simp [assemble, hnone]
    | cons first pieces => simp [assemble]
  | cons entry rest ih =>
    obtain ⟨number, line⟩ := entry
    rw [IsCutOff, isOpenBefore_cons, ← IsCutOff, List.head?_cons]
    -- at the baseline the line cuts off what is open, and off it the line goes on with that
    by_cases htop : indent line = top
    · by_cases hopen : pieces = []
      · subst hopen
        rw [assemble_top htop, ih]
        simp [htop]
      · rw [assemble_cutOff htop hopen]
        simp [htop, hopen]
    · by_cases hcomma : EndsInComma (number, line)
      · rw [assemble_continued htop hcomma, ih]
        simp [htop, hcomma]
      · rw [assemble_complete htop hcomma, ih]
        simp [htop, hcomma]

/-- The lines that end in a nested run of their own: from any place one can go back over nested
lines until a line at the baseline stands before them, or the start. By induction from the end. -/
theorem exists_nested_suffix (top : Nat) (lines : List Numbered) :
    ∃ before run, lines = before ++ run ∧ (∀ line ∈ run, indent line.2 ≠ top) ∧
      ∀ line ∈ before.getLast?, indent line.2 = top := by
  induction lines using List.reverseRecOn with
  | nil => exact ⟨[], [], rfl, by simp, by simp⟩
  | append_singleton lines line ih =>
    by_cases htop : indent line.2 = top
    · refine ⟨lines ++ [line], [], by simp, by simp, ?_⟩
      intro other hother
      rw [List.getLast?_concat] at hother
      rwa [← Option.some.inj hother]
    · obtain ⟨before, run, rfl, hnested, hbefore⟩ := ih
      refine ⟨before, run ++ [line], List.append_assoc .., ?_, hbefore⟩
      intro other hother
      rcases List.mem_append.1 hother with hother | hother
      · exact hnested other hother
      · rwa [List.mem_singleton.1 hother]

/-- Something is cut off exactly when a nested run, as long as it can be, ends in a comma. The left
side looks at two neighbours, which suits the induction; the right side is how the format puts
it. -/
theorem isCutOff_iff {top : Nat} {lines : List Numbered} :
    IsCutOff top lines ↔
      ∃ run, IsNestedRun top lines run ∧ ∃ last ∈ run.getLast?, EndsInComma last := by
  constructor
  · rintro ⟨before, line, after, rfl, hnested, hcomma, hnext⟩
    -- the run goes back from the line that is cut off as far as it can
    obtain ⟨front, run, rfl, hrun, hfront⟩ := exists_nested_suffix top before
    refine ⟨run ++ [line], ⟨by simp, ?_, front, after, by simp, hfront, hnext⟩, line, by simp,
      hcomma⟩
    intro other hother
    rcases List.mem_append.1 hother with hother | hother
    · exact hrun other hother
    · rwa [List.mem_singleton.1 hother]
  · rintro ⟨run, ⟨-, hnested, before, after, rfl, -, hafter⟩, last, hlast, hcomma⟩
    obtain ⟨front, rfl⟩ := List.getLast?_eq_some_iff.1 hlast
    exact ⟨before ++ front, last, after, by simp, hnested last (by simp), hcomma, hafter⟩

/-- Reading never fails for another reason: every failure is that of a line that cannot be
parsed. -/
theorem category?_failure_assemble {top : Nat} (lines : List Numbered)
    (pieces : List (List Char)) (last : Nat) :
    ∀ error ∈ (assemble top pieces last lines).failure,
      error.category? = some .parseFailure := by
  have hcut : ∀ (number : Nat) (pieces : List (List Char)),
      (cutOff number pieces).category? = some .parseFailure := fun _ _ => rfl
  induction lines generalizing pieces last with
  | nil =>
    intro error herror
    rw [assemble] at herror
    dsimp only at herror
    split at herror
    · cases herror
    · rw [← Option.some.inj herror, hcut]
  | cons entry rest ih =>
    obtain ⟨number, line⟩ := entry
    by_cases htop : indent line = top
    · by_cases hopen : pieces = []
      · subst hopen
        rw [assemble_top htop]
        exact ih [] last
      · rw [assemble_cutOff htop hopen]
        intro error herror
        rw [← Option.some.inj herror, hcut]
    · by_cases hcomma : EndsInComma (number, line)
      · rw [assemble_continued htop hcomma]
        exact ih _ number
      · rw [assemble_complete htop hcomma]
        exact ih [] number

/-! ## The groups of a text -/

/-- **The lines fall into groups.** If nothing is cut off, the open lines and those that are left
are cut into groups, and each group is one logical line. The induction carries the open lines
themselves and not only their pieces, since they belong to the first group. -/
theorem exists_groups_of_assemble {top : Nat} (lines : List Numbered) (waiting : List Numbered)
    (last : Nat) (hwaiting : ∀ line ∈ waiting, indent line.2 ≠ top ∧ EndsInComma line)
    (h : (assemble top (waiting.map piece) last lines).failure = none) :
    ∃ groups, groups.flatten = waiting ++ lines ∧
      List.Forall₂ (IsGroup top) groups (assemble top (waiting.map piece) last lines).lines := by
  induction lines generalizing waiting last with
  | nil =>
    -- nothing may be open at the end
    cases waiting with
    | nil => exact ⟨[], rfl, List.Forall₂.nil⟩
    | cons first waiting => cases h
  | cons entry rest ih =>
    obtain ⟨number, line⟩ := entry
    by_cases htop : indent line = top
    · by_cases hopen : waiting = []
      · subst hopen
        rw [List.map_nil, assemble_top htop] at h ⊢
        obtain ⟨groups, hflatten, hgroups⟩ := ih [] last (by simp) h
        refine ⟨[(number, line)] :: groups, ?_, .cons (.top number line htop) hgroups⟩
        rw [List.flatten_cons, hflatten]
        rfl
      · rw [assemble_cutOff htop (by simpa using hopen)] at h
        cases h
    · by_cases hcomma : EndsInComma (number, line)
      · rw [assemble_continued htop hcomma] at h ⊢
        have hmore : ∀ other ∈ waiting ++ [(number, line)],
            indent other.2 ≠ top ∧ EndsInComma other := by
          intro other hother
          rcases List.mem_append.1 hother with hother | hother
          · exact hwaiting other hother
          · rw [List.mem_singleton.1 hother]
            exact ⟨htop, hcomma⟩
        -- the line joins the open ones, so the group comes from what is read later
        rw [← List.map_singleton, ← List.map_append] at h ⊢
        obtain ⟨groups, hflatten, hgroups⟩ := ih (waiting ++ [(number, line)]) number hmore h
        exact ⟨groups, by rw [hflatten, List.append_assoc]; rfl, hgroups⟩
      · -- the open lines and this one are a group
        rw [assemble_complete htop hcomma] at h ⊢
        obtain ⟨groups, hflatten, hgroups⟩ := ih [] number (by simp) h
        refine ⟨(waiting ++ [(number, line)]) :: groups, ?_,
          .cons (.nested waiting number line ?_ (fun other hother => (hwaiting other hother).2)
            hcomma) hgroups⟩
        · rw [List.flatten_cons, hflatten, List.append_assoc]
          rfl
        · intro other hother
          rcases List.mem_append.1 hother with hother | hother
          · exact (hwaiting other hother).1
          · rwa [List.mem_singleton.1 hother]

/-- A logical line has the number of the last line of its group. An error names the line on which a
declaration ends, not the one on which it starts. -/
theorem IsGroup.getLast?_eq {top : Nat} {group : List Numbered} {line : Line}
    (h : IsGroup top group line) : group.getLast?.map (·.1) = some line.number := by
  cases h with
  | top number line htop => rfl
  | nested continued number line hnested hcontinued hlast => rw [List.getLast?_concat]; rfl

/-- Every logical line has its group. -/
theorem exists_group_of_mem {top : Nat} {groups : List (List Numbered)} {lines : List Line}
    (hgroups : List.Forall₂ (IsGroup top) groups lines) {line : Line} (hline : line ∈ lines) :
    ∃ group ∈ groups, IsGroup top group line := by
  induction hgroups with
  | nil => cases hline
  | @cons group first groups lines hgroup hgroups ih =>
    rcases List.mem_cons.1 hline with rfl | hline
    · exact ⟨group, List.mem_cons_self, hgroup⟩
    · obtain ⟨other, hother, hisGroup⟩ := ih hline
      exact ⟨other, List.mem_cons_of_mem group hother, hisGroup⟩

/-- The numbers of logical lines increase as those of the physical lines do: the last line of a
group stands in front of every line of the groups behind. -/
theorem pairwise_of_groups {top : Nat} {groups : List (List Numbered)} {lines : List Line}
    (hgroups : List.Forall₂ (IsGroup top) groups lines)
    (hnumbers : groups.flatten.Pairwise fun line later => line.1 < later.1) :
    lines.Pairwise fun line later => line.number < later.number := by
  induction hgroups with
  | nil => exact List.Pairwise.nil
  | @cons group line groups lines hgroup hgroups ih =>
    rw [List.flatten_cons, List.pairwise_append] at hnumbers
    obtain ⟨-, hrest, hbetween⟩ := hnumbers
    refine List.pairwise_cons.2 ⟨fun later hlater => ?_, ih hrest⟩
    -- both numbers are those of physical lines, one in this group and one in a later group
    obtain ⟨other, hother, hgroupOf⟩ := exists_group_of_mem hgroups hlater
    obtain ⟨first, hfirst, hfirstNumber⟩ := Option.map_eq_some_iff.1 hgroup.getLast?_eq
    obtain ⟨second, hsecond, hsecondNumber⟩ := Option.map_eq_some_iff.1 hgroupOf.getLast?_eq
    rw [← hfirstNumber, ← hsecondNumber]
    exact hbetween first (List.mem_of_getLast? hfirst) second
      (List.mem_flatten.2 ⟨other, hother, List.mem_of_getLast? hsecond⟩)

/-- The pieces of a logical line end as the last one does, since separators stand only between
them. -/
theorem getLast?_joinPieces (pieces : List (List Char)) {last : List Char} (h : last ≠ []) :
    (joinPieces (pieces ++ [last])).getLast? = last.getLast? := by
  induction pieces with
  | nil => rw [joinPieces, List.nil_append, List.intercalate_singleton]
  | cons first pieces ih =>
    -- the separator is in front of what follows, so the end is not touched
    have hnonempty : joinPieces (pieces ++ [last]) ≠ [] := by
      rw [ne_eq, ← List.getLast?_eq_none_iff, ih, List.getLast?_eq_none_iff]
      exact h
    rw [joinPieces, List.cons_append, List.intercalate_cons_of_ne_nil (by simp), ← joinPieces,
      List.getLast?_append_of_ne_nil _ hnonempty, ih]

/-- The text of a nested line does not end in a comma. One that did would have been continued. The
lines of the group carry something, so the last piece is not empty and the text ends as it does. -/
theorem IsGroup.getLast?_ne {top : Nat} {group : List Numbered} {line : Line}
    (h : IsGroup top group line) (hcarries : ∀ other ∈ group, carriesNothing other.2 = false)
    (hnested : line.topLevel = false) : line.text.toList.getLast? ≠ some ',' := by
  cases h with
  | top number line htop => cases hnested
  | nested continued number line hall hcontinued hlast =>
    have hnonempty : Text.trim line ≠ [] := by
      rw [ne_eq, Text.trim_eq_nil_iff]
      exact not_blank_of_carries (hcarries (number, line) (by simp))
    rw [String.toList_ofList, getLast?_joinPieces _ hnonempty]
    exact hlast

/-- How logical lines stand to the physical lines of a text. -/
structure IsGrouping (text : List Char) (lines : List Line) : Prop where
  /-- Every physical line that carries something is in the group of one logical line, and the order
  is that of the text. -/
  groups : ∃ groups, groups.flatten = carrying text ∧
    List.Forall₂ (IsGroup (baseline (carrying text))) groups lines
  increasing : lines.Pairwise fun line later => line.number < later.number
  complete : ∀ line ∈ lines, line.topLevel = false → line.text.toList.getLast? ≠ some ','

end Line

open Line

/-- The logical lines of a text are put together from the lines that carry something. -/
theorem Lines.ofText_eq (text : String) : Lines.ofText text =
    assemble (baseline (carrying text.toList)) [] 0 (carrying text.toList) := by
  rw [Lines.ofText, meaningful_eq, ← carrying]
  cases carrying text.toList <;> rfl

/-- **No line is lost and none is made up.** Reading a text fails exactly when a run of nested
lines, as long as it can be, ends in a comma. Otherwise the physical lines that carry something are
cut into groups, one for each logical line. Nothing is assumed of the text. -/
theorem Lines.ofText_isGrouped (text : String) :
    ((ofText text).failure.isSome = true ↔
        ∃ run, IsNestedRun (baseline (carrying text.toList)) (carrying text.toList) run ∧
          ∃ last ∈ run.getLast?, EndsInComma last) ∧
      (∀ error ∈ (ofText text).failure, error.category? = some .parseFailure) ∧
      ((ofText text).failure = none → IsGrouping text.toList (ofText text).lines) := by
  rw [ofText_eq]
  refine ⟨?_, category?_failure_assemble _ [] 0, fun hcomplete => ?_⟩
  · rw [isSome_failure_assemble_iff, ← isCutOff_iff]
    simp
  · obtain ⟨groups, hflatten, hgroups⟩ := exists_groups_of_assemble _ [] 0 (by simp) hcomplete
    rw [List.nil_append] at hflatten
    rw [List.map_nil] at hgroups
    refine ⟨⟨groups, hflatten, hgroups⟩, pairwise_of_groups hgroups ?_, ?_⟩
    · rw [hflatten, carrying, ← meaningful_eq]
      exact (pairwise_meaningful 1 _).2
    · intro line hline
      -- every line of a group carries something, so its last piece is not empty
      obtain ⟨group, hgroup, hisGroup⟩ := exists_group_of_mem hgroups hline
      refine hisGroup.getLast?_ne fun other hother => ?_
      have hmem : other ∈ carrying text.toList := by
        rw [← hflatten]
        exact List.mem_flatten.2 ⟨group, hgroup, hother⟩
      rw [carrying, ← meaningful_eq] at hmem
      exact carries_of_mem_meaningful hmem

/-- A comment and a blank line inside a continuation, at the indent of the top level or not, do not
end it. They carry nothing, and the two lines around them are neighbours among those that do. -/
theorem Lines.ofText_isGrouped_continued :
    (Lines.ofText "User\n  roles(): Role[],\n# of the user\n\n     Join(a)\n").failure = none ∧
      IsGrouping "User\n  roles(): Role[],\n# of the user\n\n     Join(a)\n".toList
        [⟨1, "User", true⟩, ⟨5, "roles(): Role[], Join(a)", false⟩] := by
  have hlines : Lines.ofText "User\n  roles(): Role[],\n# of the user\n\n     Join(a)\n" =
      ⟨[⟨1, "User", true⟩, ⟨5, "roles(): Role[], Join(a)", false⟩], none⟩ := by decide +kernel
  have hcomplete := congrArg Lines.failure hlines
  refine ⟨hcomplete, ?_⟩
  have hgrouping := (ofText_isGrouped _).2.2 hcomplete
  rwa [hlines] at hgrouping

end EntitySchema
