/-
Errors come in the order of the text.

A text is read line by line, and a line is read with nothing known of the lines behind it. So once
reading has failed, nothing that is put behind the text changes the error. The one failure that does
depend on what comes is that of a continuation which is still open at the end, `Document.EndsOpen`:
more text may go on with it, and then there is another error or none. `Schema.parse_extended_iff`
says that this is the only exception.

What has to be shown is about the lines, since the declarations of a line are read after it has been
put together. `Line.assemble_append_of_breaksOff` and `Line.exists_assemble_append` take reading
apart where a text ends: either a continuation has been broken off by then, and nothing is read from
there on, or reading goes on with the pieces that are open.

Two kinds of being cut off have to be told apart here that `Lines.Groups` treats alike. A nested
line with a comma at its end may be cut off by a line at the baseline (`IsInterrupted`), and then
its failure is settled; or by the end of the text (`IsLeftOpen`), and then it is not.

That a failure at the end really is an exception has to be shown for every such text, without
knowing it. The line `goingOn`, a comma behind more blanks than the baseline has, continues whatever
is open and is cut off in turn. Put right behind the text, or with an empty line between, it gives
two failures with different line numbers, so at most one of them can be the error of the text.

A text that is extended gets a line feed and then the rest. That line feed takes a carriage return
at the end of the text with it, so the last line need not be the same one; it is read alike
(`ReadsAs`), which is what the section on longer texts is for.
-/
import EntitySchema.Document
import EntitySchema.Proofs.Lines.Layout
import EntitySchema.Proofs.Lines.LaidOut
import EntitySchema.Proofs.Outcome

set_option autoImplicit false

namespace EntitySchema

open Outcome

namespace Line

variable {top : Nat}

/-! ## Continuations that do not end -/

/-- Some nested line ends in a comma and a line at the baseline comes next. -/
def IsInterrupted (top : Nat) : List Numbered → Prop :=
  IsOpenBefore top fun next => ∃ line ∈ next, indent line.2 = top

/-- The last line is nested and ends in a comma. -/
def IsLeftOpen (top : Nat) (lines : List Numbered) : Prop :=
  ∃ line ∈ lines.getLast?, indent line.2 ≠ top ∧ EndsInComma line

/-- What is cut off is cut off by a line, or by the end. -/
theorem isCutOff_iff_isInterrupted_or {lines : List Numbered} :
    IsCutOff top lines ↔ IsInterrupted top lines ∨ IsLeftOpen top lines := by
  constructor
  · rintro ⟨before, line, after, rfl, hnested, hcomma, hnext⟩
    cases after with
    | nil => exact .inr ⟨line, List.getLast?_concat, hnested, hcomma⟩
    | cons next after =>
      exact .inl ⟨before, line, next :: after, rfl, hnested, hcomma, next, rfl, hnext next rfl⟩
  · rintro (⟨before, line, after, rfl, hnested, hcomma, next, hmem, hnext⟩ |
      ⟨line, hlast, hnested, hcomma⟩)
    · refine ⟨before, line, after, rfl, hnested, hcomma, fun other hother => ?_⟩
      rwa [Option.mem_unique hother hmem]
    · obtain ⟨before, rfl⟩ := List.getLast?_eq_some_iff.1 hlast
      exact ⟨before, line, [], rfl, hnested, hcomma, by simp⟩

/-! ## Reading on behind some lines -/

/-- With `pieces` open in front of the lines, some line at the baseline comes where a continuation
is open. -/
def BreaksOff (top : Nat) (pieces : List (List Char)) (lines : List Numbered) : Prop :=
  pieces ≠ [] ∧ (∃ next ∈ lines.head?, indent next.2 = top) ∨ IsInterrupted top lines

section Steps

variable {pieces : List (List Char)} {number last : Nat} {line : List Char} {rest : List Numbered}

/-- At the baseline, with nothing open, whatever breaks off does so later. -/
theorem breaksOff_top (h : indent line = top) :
    BreaksOff top [] ((number, line) :: rest) ↔ BreaksOff top [] rest := by
  simp [BreaksOff, IsInterrupted, isOpenBefore_cons, h]

/-- A line that goes on is open from then on. -/
theorem breaksOff_continued (h : indent line ≠ top) (hcomma : EndsInComma (number, line)) :
    BreaksOff top pieces ((number, line) :: rest) ↔
      BreaksOff top (pieces ++ [piece (number, line)]) rest := by
  simp [BreaksOff, IsInterrupted, isOpenBefore_cons, h, hcomma]

/-- A line that completes what is open leaves nothing open. -/
theorem breaksOff_complete (h : indent line ≠ top) (hcomma : ¬ EndsInComma (number, line)) :
    BreaksOff top pieces ((number, line) :: rest) ↔ BreaksOff top [] rest := by
  simp [BreaksOff, IsInterrupted, isOpenBefore_cons, h, hcomma]

end Steps

/-- **Nothing is read behind a line that breaks off.** By induction on the lines up to it; the case
in which it breaks off does not look at what follows. -/
theorem assemble_append_of_breaksOff {lines : List Numbered} {pieces : List (List Char)}
    (h : BreaksOff top pieces lines) (last : Nat) (more : List Numbered) :
    assemble top pieces last (lines ++ more) = assemble top pieces last lines := by
  induction lines generalizing pieces last with
  | nil =>
    rcases h with ⟨-, next, hnext, -⟩ | h
    · cases hnext
    · exact absurd h not_isOpenBefore_nil
  | cons entry rest ih =>
    obtain ⟨number, line⟩ := entry
    rw [List.cons_append]
    by_cases htop : indent line = top
    · by_cases hopen : pieces = []
      · subst hopen
        rw [assemble_top htop, assemble_top htop, ih ((breaksOff_top htop).1 h)]
      · -- here it breaks off, on both sides
        rw [assemble_cutOff htop hopen, assemble_cutOff htop hopen]
    · by_cases hcomma : EndsInComma (number, line)
      · rw [assemble_continued htop hcomma, assemble_continued htop hcomma,
          ih ((breaksOff_continued htop hcomma).1 h)]
      · rw [assemble_complete htop hcomma, assemble_complete htop hcomma,
          ih ((breaksOff_complete htop hcomma).1 h)]

/-- **Reading goes on where it stopped.** If nothing is broken off, the lines that were completed
stay, and what comes next is read with the pieces that are open by then. The pieces are the same
whatever comes next, so they are chosen before it. -/
theorem exists_assemble_append (lines : List Numbered) {pieces : List (List Char)}
    (h : ¬ BreaksOff top pieces lines) (last : Nat) :
    ∃ opened reached, ∀ more, assemble top pieces last (lines ++ more) =
      ⟨(assemble top pieces last lines).lines ++ (assemble top opened reached more).lines,
        (assemble top opened reached more).failure⟩ := by
  induction lines generalizing pieces last with
  | nil => exact ⟨pieces, last, fun more => rfl⟩
  | cons entry rest ih =>
    obtain ⟨number, line⟩ := entry
    by_cases htop : indent line = top
    · -- with something open this line would break it off
      obtain rfl : pieces = [] := by
        by_contra hopen
        exact h (.inl ⟨hopen, (number, line), rfl, htop⟩)
      obtain ⟨opened, reached, hrest⟩ := ih (mt (breaksOff_top htop).2 h) last
      refine ⟨opened, reached, fun more => ?_⟩
      rw [List.cons_append, assemble_top htop, assemble_top htop, hrest more, List.cons_append]
    · by_cases hcomma : EndsInComma (number, line)
      · obtain ⟨opened, reached, hrest⟩ := ih (mt (breaksOff_continued htop hcomma).2 h) number
        refine ⟨opened, reached, fun more => ?_⟩
        rw [List.cons_append, assemble_continued htop hcomma, assemble_continued htop hcomma,
          hrest more]
      · obtain ⟨opened, reached, hrest⟩ := ih (mt (breaksOff_complete htop hcomma).2 h) number
        refine ⟨opened, reached, fun more => ?_⟩
        rw [List.cons_append, assemble_complete htop hcomma, assemble_complete htop hcomma,
          hrest more, List.cons_append]

/-- With nothing open at the start, only an interruption can break off. -/
theorem breaksOff_nil_iff {lines : List Numbered} :
    BreaksOff top [] lines ↔ IsInterrupted top lines := by
  simp [BreaksOff]

/-! ## The lines of a longer text

The line feed that is put behind a text takes a carriage return with it, so its last line need not
be the same. It is still read as the same line. -/

/-- Two lines of one number that differ in the blanks at the end. -/
structure ReadsAs (line other : Numbered) : Prop where
  number : other.1 = line.1
  trim : Text.trim other.2 = Text.trim line.2
  indent : indent other.2 = indent line.2

/-- A line is read as itself. -/
theorem ReadsAs.refl (line : Numbered) : ReadsAs line line := ⟨rfl, rfl, rfl⟩

/-- Only the number, the trimmed text and the indent of a line are looked at. -/
theorem assemble_congr {lines others : List Numbered} (h : List.Forall₂ ReadsAs lines others)
    (pieces : List (List Char)) (last : Nat) :
    assemble top pieces last others = assemble top pieces last lines := by
  induction h generalizing pieces last with
  | nil => rfl
  | @cons line other lines others hreads hrest ih =>
    obtain ⟨number, line⟩ := line
    obtain ⟨otherNumber, other⟩ := other
    obtain ⟨rfl, htrim, hindent⟩ := hreads
    dsimp only at htrim hindent
    simp only [assemble, htrim, hindent, ih]

/-- The physical lines of a longer text: those of the text, up to blanks at the end of the last one,
and those of the rest. By induction over the lines of the text. -/
theorem exists_physical_extended (text rest : List Char) :
    ∃ others, List.Forall₂ (IsShifted 0) (physical text) others ∧
      physical (text ++ '\n' :: rest) = others ++ physical rest := by
  induction text using induction_on_lines with
  | last line hline =>
    -- the line feed is put right behind this one
    refine ⟨[withoutReturn line], ?_, ?_⟩
    · rw [physical_of_not_mem hline]
      exact .cons (isShifted_withoutReturn line) .nil
    · rw [physical_append_lineFeed hline, List.singleton_append]
  | more line later hline ih =>
    obtain ⟨others, hothers, hphysical⟩ := ih
    refine ⟨withoutReturn line :: others, ?_, ?_⟩
    · rw [physical_append_lineFeed hline]
      exact .cons (.refl _) hothers
    · rw [List.append_assoc, List.cons_append, physical_append_lineFeed hline, hphysical,
        List.cons_append]

/-- Lines that differ in blanks are kept and numbered alike. -/
theorem forall₂_meaningful {lines others : List (List Char)}
    (h : List.Forall₂ (IsShifted 0) lines others) (number : Nat) :
    List.Forall₂ ReadsAs (meaningful number lines) (meaningful number others) := by
  induction h generalizing number with
  | nil => exact .nil
  | @cons line other lines others hshifted hrest ih =>
    have hcarries := carriesNothing_congr hshifted.trim
    by_cases hnothing : carriesNothing line = true
    · rw [meaningful_cons_of_nothing hnothing,
        meaningful_cons_of_nothing (hcarries.trans hnothing)]
      exact ih (number + 1)
    · rw [Bool.not_eq_true] at hnothing
      rw [meaningful_cons_of_carries hnothing,
        meaningful_cons_of_carries (hcarries.trans hnothing)]
      have hindent := hshifted.indent hnothing
      rw [Nat.zero_add] at hindent
      exact .cons ⟨rfl, hshifted.trim, hindent⟩ (ih (number + 1))

/-- Behind some lines the numbering goes on from their number, also over those that carry
nothing. -/
theorem meaningful_append (number : Nat) (lines others : List (List Char)) :
    meaningful number (lines ++ others) =
      meaningful number lines ++ meaningful (number + lines.length) others := by
  rw [meaningful_eq, meaningful_eq, meaningful_eq, List.zipIdx_append, List.filter_append,
    List.map_append]

/-- The lines of the text that carry something, and behind them those of the rest, which are
numbered from where the text ends. -/
theorem exists_carrying_extended (text rest : List Char) :
    ∃ others, List.Forall₂ ReadsAs (carrying text) others ∧
      carrying (text ++ '\n' :: rest) =
        others ++ meaningful ((physical text).length + 1) (physical rest) := by
  obtain ⟨others, hothers, hphysical⟩ := exists_physical_extended text rest
  refine ⟨meaningful 1 others, ?_, ?_⟩
  · rw [carrying, ← meaningful_eq]
    exact forall₂_meaningful hothers 1
  · rw [carrying, ← meaningful_eq, hphysical, meaningful_append, hothers.length_eq, Nat.add_comm]

/-- A text that carries something has the baseline of its first line, whatever comes behind. -/
theorem baseline_extended {lines others : List Numbered} (h : List.Forall₂ ReadsAs lines others)
    (hlines : lines ≠ []) (more : List Numbered) : baseline (others ++ more) = baseline lines := by
  cases h with
  | nil => exact absurd rfl hlines
  | cons hreads hrest => exact hreads.indent

/-! ## A line that goes on -/

/-- A comma behind more blanks than there are in front of the first line. -/
def goingOn (top : Nat) : List Char := behindBlanks (top + 1, [','])

/-- The line is a comma. -/
theorem trim_goingOn (top : Nat) : Text.trim (goingOn top) = [','] := by
  rw [goingOn, behindBlanks, Text.trim_append_left isBlank_of_mem_replicate]
  rfl

/-- A comma is neither blank nor a comment, so the line counts. -/
theorem carries_goingOn (top : Nat) : carriesNothing (goingOn top) = false := by
  rw [carriesNothing, trim_goingOn]
  rfl

/-- The line is nested under every baseline. -/
theorem indent_goingOn_ne (top : Nat) : indent (goingOn top) ≠ top := by
  have hcomma : indent [','] = 0 := rfl
  rw [goingOn, behindBlanks, indent_append isBlank_of_mem_replicate, hcomma, List.length_replicate]
  omega

theorem lineFeed_not_mem_goingOn (top : Nat) : '\n' ∉ goingOn top := by
  simp [goingOn, behindBlanks]

/-- By itself it is one line that carries something. -/
theorem meaningful_goingOn (number top : Nat) :
    meaningful number (physical (goingOn top)) = [(number, goingOn top)] := by
  rw [physical_of_not_mem (lineFeed_not_mem_goingOn top),
    meaningful_cons_of_carries (carries_goingOn top)]
  rfl

/-- The failure of a continuation names the last line of it. So two failures with different numbers
are different errors. -/
theorem cutOff_inj {number other : Nat} {pieces others : List (List Char)}
    (h : cutOff number pieces = cutOff other others) : number = other := by
  rw [cutOff, cutOff, Error.ofLine, Error.ofLine] at h
  exact Int.ofNat.inj (Error.unparsedLine.inj h).1

end Line

namespace Lines

open Line

variable {text : String}

/-- The logical lines of a longer text are put together as if its first part had been kept. The text
has to carry something, or the baseline would come from the rest. -/
theorem ofText_extended (htext : carrying text.toList ≠ []) (rest : String) :
    ofText (text ++ "\n" ++ rest) =
      assemble (baseline (carrying text.toList)) [] 0 (carrying text.toList ++
        meaningful ((physical text.toList).length + 1) (physical rest.toList)) := by
  obtain ⟨others, hothers, hcarrying⟩ := exists_carrying_extended text.toList rest.toList
  have hlist : (text ++ "\n" ++ rest).toList = text.toList ++ '\n' :: rest.toList := by simp
  rw [ofText_eq, hlist, hcarrying, baseline_extended hothers htext]
  have hkept : ∀ more : List Numbered, List.Forall₂ ReadsAs more more :=
    fun more => List.forall₂_same.2 fun line _ => .refl line
  exact assemble_congr (List.rel_append hothers (hkept _)) [] 0

/-- Behind a continuation that is interrupted nothing is read. -/
theorem ofText_extended_of_isInterrupted (htext : carrying text.toList ≠ [])
    (h : IsInterrupted (baseline (carrying text.toList)) (carrying text.toList)) (rest : String) :
    ofText (text ++ "\n" ++ rest) = ofText text := by
  rw [ofText_extended htext, assemble_append_of_breaksOff (breaksOff_nil_iff.2 h), ← ofText_eq]

/-- Otherwise the logical lines of a text stay, and reading goes on with what is open at its end. -/
theorem exists_ofText_extended (htext : carrying text.toList ≠ [])
    (h : ¬ IsInterrupted (baseline (carrying text.toList)) (carrying text.toList)) :
    ∃ opened reached, ∀ rest : String,
      let more := assemble (baseline (carrying text.toList)) opened reached
        (meaningful ((physical text.toList).length + 1) (physical rest.toList))
      ofText (text ++ "\n" ++ rest) = ⟨(ofText text).lines ++ more.lines, more.failure⟩ := by
  obtain ⟨opened, reached, happend⟩ := exists_assemble_append _ (mt breaksOff_nil_iff.1 h) 0
  refine ⟨opened, reached, fun rest => ?_⟩
  rw [ofText_extended htext, happend, ← ofText_eq]

/-- **The logical lines of a text stay**, whatever is put behind it. More may follow them, but none
of them is changed, also if the text fails. -/
theorem lines_prefix_extended (text rest : String) :
    (ofText text).lines <+: (ofText (text ++ "\n" ++ rest)).lines := by
  by_cases htext : carrying text.toList = []
  · rw [ofText_eq, htext]
    exact List.nil_prefix
  · by_cases hbreaks : IsInterrupted (baseline (carrying text.toList)) (carrying text.toList)
    · have hsame := ofText_extended_of_isInterrupted htext hbreaks rest
      exact hsame ▸ List.prefix_rfl
    · obtain ⟨opened, reached, hlonger⟩ := exists_ofText_extended htext hbreaks
      rw [hlonger]
      exact List.prefix_append _ _

end Lines

namespace Document

open Line

/-! ## Reading a longer text -/

variable {config : Config} {text : String} {error : Error}

/-- All lines of the text that are complete can be read, and a continuation is still open at its
end. -/
structure EndsOpen (config : Config) (text : String) : Prop where
  read : ∃ document, (Lines.ofText text).lines.foldlM readLine (start config) = .ok document
  notInterrupted : ¬ IsInterrupted (baseline (carrying text.toList)) (carrying text.toList)
  leftOpen : IsLeftOpen (baseline (carrying text.toList)) (carrying text.toList)

/-- A text cannot be read if one of its lines cannot, or else if a continuation is cut off. The
order of the two is the order in which errors are told. -/
theorem readText_eq_error_iff :
    readText config text = .error error ↔
      (Lines.ofText text).lines.foldlM readLine (start config) = .error error ∨
        (∃ document, (Lines.ofText text).lines.foldlM readLine (start config) = .ok document) ∧
          (Lines.ofText text).failure = some error := by
  rw [readText]
  cases (Lines.ofText text).lines.foldlM readLine (start config) with
  | error other => simp [error_bind]
  | ok document =>
    -- only now is the failure of the lines looked at
    rw [ok_bind]
    cases (Lines.ofText text).failure with
    | none => simp [pure, Except.pure]
    | some other => simp [throw, throwThe, MonadExceptOf.throw]

/-- A text that cannot be read carries something. -/
theorem carrying_ne_nil_of_readText (h : readText config text = .error error) :
    carrying text.toList ≠ [] := by
  intro hnil
  rw [readText, Lines.ofText_eq, hnil] at h
  cases h

/-- An error in a line is the error of every longer text, because the line is read with the same
document in front of it. -/
theorem readText_extended_of_line {lines more : List Line} {longer : String}
    (hline : lines.foldlM readLine (start config) = .error error)
    (hlonger : (Lines.ofText longer).lines = lines ++ more) :
    readText config longer = .error error := by
  rw [readText_eq_error_iff, hlonger, List.foldlM_append, hline]
  exact .inl rfl

/-- **An error stays.** If no continuation is open at its end, a text that cannot be read keeps its
error in every longer text. An error in a line stays because the lines do, and an interruption
because nothing is read behind it. -/
theorem readText_extended (h : readText config text = .error error)
    (hopen : ¬ EndsOpen config text) (rest : String) :
    readText config (text ++ "\n" ++ rest) = .error error := by
  have htext := carrying_ne_nil_of_readText h
  by_cases hbreaks : IsInterrupted (baseline (carrying text.toList)) (carrying text.toList)
  · rwa [readText, Lines.ofText_extended_of_isInterrupted htext hbreaks, ← readText]
  · rcases readText_eq_error_iff.1 h with hline | ⟨hread, hfailure⟩
    · obtain ⟨opened, reached, hlonger⟩ := Lines.exists_ofText_extended htext hbreaks
      exact readText_extended_of_line hline (congrArg Lines.lines (hlonger rest))
    · -- the failure is that of a continuation, and nothing interrupts it
      have hcut : (Lines.ofText text).failure.isSome = true := by rw [hfailure]; rfl
      rw [Lines.ofText_eq, isSome_failure_assemble_iff, isCutOff_iff_isInterrupted_or] at hcut
      rcases hcut with ⟨hpieces, -⟩ | hcut | hleft
      · exact absurd rfl hpieces
      · exact absurd hcut hbreaks
      · exact absurd ⟨hread, hbreaks, hleft⟩ hopen

/-- A continuation that is open at the end of a text goes on in a line that is put behind it, and if
that ends in a comma, it is cut off there. The number in the failure is that of the new line. -/
theorem EndsOpen.exists_readText_eq (h : EndsOpen config text) (rest : String) {number : Nat}
    {line : List Char}
    (hrest : meaningful ((physical text.toList).length + 1) (physical rest.toList) =
      [(number, line)])
    (hnested : Line.indent line ≠ baseline (carrying text.toList))
    (hcomma : EndsInComma (number, line)) :
    ∃ pieces, readText config (text ++ "\n" ++ rest) = .error (cutOff number pieces) := by
  have htext : carrying text.toList ≠ [] := by
    intro hnil
    obtain ⟨last, hlast, -⟩ := h.leftOpen
    rw [hnil] at hlast
    cases hlast
  obtain ⟨opened, reached, hlonger⟩ := Lines.exists_ofText_extended htext h.notInterrupted
  -- the line is all that comes, so it is the last one that is open at the end
  have hmore : assemble (baseline (carrying text.toList)) opened reached [(number, line)] =
      ⟨[], some (cutOff number (opened ++ [piece (number, line)]))⟩ := by
    rw [assemble_continued hnested hcomma, assemble, if_neg (by simp)]
  refine ⟨opened ++ [piece (number, line)], readText_eq_error_iff.2 (.inr ?_)⟩
  rw [hlonger, hrest, hmore, List.append_nil]
  exact ⟨h.read, rfl⟩

/-- A line that goes on can stand right behind the text, or with an empty line between, and the two
failures have different numbers. -/
theorem EndsOpen.exists_readText_goingOn (h : EndsOpen config text) :
    ∃ next later pieces others,
      readText config (text ++ "\n" ++ next) =
        .error (cutOff ((physical text.toList).length + 1) pieces) ∧
      readText config (text ++ "\n" ++ later) =
        .error (cutOff ((physical text.toList).length + 1 + 1) others) := by
  have hnested := indent_goingOn_ne (baseline (carrying text.toList))
  generalize hline : goingOn (baseline (carrying text.toList)) = line at hnested
  have hcomma : ∀ number, EndsInComma (number, line) := by
    intro number
    rw [EndsInComma, ← hline, trim_goingOn]
    rfl
  have hmeaningful : ∀ number, meaningful number (physical line) = [(number, line)] := by
    intro number
    rw [← hline, meaningful_goingOn]
  obtain ⟨pieces, hnext⟩ := h.exists_readText_eq (String.ofList line)
    (by rw [String.toList_ofList, hmeaningful]) hnested (hcomma _)
  obtain ⟨others, hlater⟩ := h.exists_readText_eq (String.ofList ('\n' :: line))
    (by rw [String.toList_ofList, physical_lineFeed, meaningful_cons_of_nothing rfl, hmeaningful])
    hnested (hcomma _)
  exact ⟨_, _, pieces, others, hnext, hlater⟩

end Document

/-- An error in reading is the error of the text. -/
theorem Schema.parse_eq_error_of_readText {config : Config} {text : String} {error : Error}
    (h : Document.readText config text = .error error) : parse config text = .error error := by
  rw [parse, h, error_bind]

/-- **The first error is told.** A text that cannot be read keeps its error, whatever is put behind
it on further lines, exactly if it is not the failure of a continuation that is open at its end. The
hypothesis is on reading alone: an error in the implied fields comes after all lines and is not
covered. -/
theorem Schema.parse_extended_iff {config : Config} {text : String} {error : Error}
    (h : Document.readText config text = .error error) :
    (∀ rest, parse config (text ++ "\n" ++ rest) = .error error) ↔
      ¬ Document.EndsOpen config text := by
  constructor
  · intro hall hopen
    obtain ⟨next, later, pieces, others, hnext, hlater⟩ := hopen.exists_readText_goingOn
    -- the two failures name different lines, so they are not one error
    have hfirst := (parse_eq_error_of_readText hnext).symm.trans (hall next)
    have hsecond := (parse_eq_error_of_readText hlater).symm.trans (hall later)
    have hnumbers := Line.cutOff_inj
      ((Except.error.inj hfirst).trans (Except.error.inj hsecond).symm)
    omega
  · intro hopen rest
    exact parse_eq_error_of_readText (Document.readText_extended h hopen rest)

/-- A line that no rule matches, in front of a continuation that does not end. -/
def brokenText : String := "Item1 (items)\n  price\n  weight: integer,"

/-- The error is that of the line, whether the continuation goes on or not. The text ends open in
the sense of its lines, but a line before that end cannot be read. -/
theorem Schema.parse_extended_broken :
    Document.readText {} brokenText = .error (.ofLine 2 "price") ∧
      ¬ Document.EndsOpen {} brokenText ∧
      ∀ rest, parse {} (brokenText ++ "\n" ++ rest) = .error (.ofLine 2 "price") := by
  have hlines : (Lines.ofText brokenText).lines.foldlM Document.readLine (.start {}) =
      .error (.ofLine 2 "price") := by decide +kernel
  have hread : Document.readText {} brokenText = .error (.ofLine 2 "price") :=
    Document.readText_eq_error_iff.2 (.inl hlines)
  have hopen : ¬ Document.EndsOpen {} brokenText := by
    rintro ⟨⟨document, hdocument⟩, -, -⟩
    rw [hlines] at hdocument
    cases hdocument
  exact ⟨hread, hopen, (parse_extended_iff hread).2 hopen⟩

end EntitySchema
