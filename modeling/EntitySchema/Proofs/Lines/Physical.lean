/-
Physical lines.

A text is cut at its line feeds, and a carriage return right before a line feed goes with it. The
definition reads one character after the other; here it is said in terms of whole lines. A text is
either one line without a line feed, or such a line, a line feed and another text, and on these two
shapes `Line.physical_of_not_mem` and `Line.physical_append_lineFeed` compute the physical lines.
`Line.induction_on_lines` is the induction that goes with them, and every later statement about a
text that is changed somewhere is proved by it.

The two rules about carriage returns are what makes this more than splitting at a character. One
that stands in front of a line feed is dropped, also when more of them stand in front of it; one
anywhere else, at the end of the text for instance, is a character of its line. `withoutReturn` says
what a line feed does to the line before it, and that it depends on the line and on nothing behind.

The last section is about what a line holds besides blanks: the trimmed text does not change when
blanks are put around it, and the indent only when they are put in front. A carriage return is a
blank too, so a line that loses one is still trimmed to the same text. From there on it makes no
difference in which of the two ways the lines of a text end.
-/
import EntitySchema.Line
import Mathlib.Data.List.Basic
import Mathlib.Data.List.TakeWhile

set_option autoImplicit false

namespace EntitySchema

namespace Line

/-- A line without the carriage return at its end, if it has one. -/
def withoutReturn (line : List Char) : List Char :=
  if line.getLast? = some '\r' then line.dropLast else line

/-! ## Lines without a return -/

@[simp]
theorem withoutReturn_nil : withoutReturn [] = [] := rfl

/-- Of several returns at the end one is taken. -/
@[simp]
theorem withoutReturn_append_return (line : List Char) : withoutReturn (line ++ ['\r']) = line := by
  rw [withoutReturn, List.getLast?_concat, if_pos rfl, List.dropLast_concat]

/-- A line that does not end in a return stays as it is. -/
theorem withoutReturn_of_ne {line : List Char} (h : line.getLast? ≠ some '\r') :
    withoutReturn line = line := by
  rw [withoutReturn, if_neg h]

/-- What stands in front of a line that is not empty stays. -/
theorem withoutReturn_append (start : List Char) {line : List Char} (h : line ≠ []) :
    withoutReturn (start ++ line) = start ++ withoutReturn line := by
  have hlast : (start ++ line).getLast? = line.getLast? := List.getLast?_append_of_ne_nil start h
  rw [withoutReturn, withoutReturn, hlast, List.dropLast_append_of_ne_nil h]
  split <;> rfl

/-! ## Cutting a text -/

/-- A line feed at the start ends an empty line. -/
theorem physical_lineFeed (rest : List Char) : physical ('\n' :: rest) = [] :: physical rest := rfl

/-- A character that does not end a line belongs to the first line of what follows. A return ends
one only together with the line feed behind it. -/
theorem physical_cons {c : Char} {rest first : List Char} {others : List (List Char)}
    (hfeed : c ≠ '\n') (hreturn : c = '\r' → rest.head? ≠ some '\n')
    (h : physical rest = first :: others) : physical (c :: rest) = (c :: first) :: others := by
  rw [physical]
  · rw [h]
  · exact hfeed
  · intro more hc hrest
    refine hreturn hc ?_
    rw [hrest, List.head?_cons]

/-- A text without a line feed is one line. It may be empty, and it keeps the return at its end. -/
theorem physical_of_not_mem {line : List Char} (h : '\n' ∉ line) : physical line = [line] := by
  induction line with
  | nil => rfl
  | cons c line ih =>
    have hline : '\n' ∉ line := fun hmem => h (List.mem_cons_of_mem c hmem)
    refine physical_cons (fun hc => h (hc ▸ List.mem_cons_self)) ?_ (ih hline)
    intro _ hhead
    exact hline (List.mem_of_mem_head? hhead)

/-- **The first line of a text.** It ends at the first line feed, and a carriage return in front of
that goes with it. By induction on the line, whose last character is the one that may be dropped. -/
theorem physical_append_lineFeed {line : List Char} (h : '\n' ∉ line) (rest : List Char) :
    physical (line ++ '\n' :: rest) = withoutReturn line :: physical rest := by
  induction line with
  | nil => rfl
  | cons c line ih =>
    have hline : '\n' ∉ line := fun hmem => h (List.mem_cons_of_mem c hmem)
    have hfeed : c ≠ '\n' := fun hc => h (hc ▸ List.mem_cons_self)
    by_cases hnil : line = []
    · subst hnil
      by_cases hreturn : c = '\r'
      · subst hreturn
        rfl
      · have hlast : [c].getLast? ≠ some '\r' := by simpa using hreturn
        rw [withoutReturn_of_ne hlast]
        exact physical_cons hfeed (fun hc => absurd hc hreturn) (physical_lineFeed rest)
    · -- the line goes on after `c`, so the line feed does not follow at once
      have hkeeps : withoutReturn (c :: line) = c :: withoutReturn line :=
        withoutReturn_append [c] hnil
      rw [hkeeps]
      refine physical_cons hfeed ?_ (ih hline)
      intro _ hhead
      change (line ++ '\n' :: rest).head? = some '\n' at hhead
      rw [List.head?_append_of_ne_nil line hnil] at hhead
      exact hline (List.mem_of_mem_head? hhead)

/-- **Induction over the lines of a text.** A text is a line without a line feed, or such a line, a
line feed and another text. The rest is shorter than the text, which is what the recursion is on. -/
theorem induction_on_lines {P : List Char → Prop} (last : ∀ line, '\n' ∉ line → P line)
    (more : ∀ line rest, '\n' ∉ line → P rest → P (line ++ '\n' :: rest)) (text : List Char) :
    P text := by
  induction hlength : text.length using Nat.strongRecOn generalizing text with
  | ind length ih =>
    by_cases hmem : '\n' ∈ text
    · obtain ⟨line, rest, rfl, hline⟩ := List.eq_append_cons_of_mem hmem
      refine more line rest hline (ih rest.length ?_ rest rfl)
      rw [← hlength, List.length_append, List.length_cons]
      omega
    · exact last text hmem

/-- There is always a line: behind the last line feed stands one more, empty perhaps. -/
theorem physical_ne_nil (text : List Char) : physical text ≠ [] := by
  induction text using induction_on_lines with
  | last line h => rw [physical_of_not_mem h]; simp
  | more line rest h _ => rw [physical_append_lineFeed h]; simp

/-- Whether a text stops where a line begins. -/
def EndsLines (text : List Char) : Prop := text = [] ∨ text.getLast? = some '\n'

/-- **Cutting a text where a line begins.** The lines of both parts are the lines of the text,
without the empty line that the first part ends in. -/
theorem physical_append {before : List Char} (h : EndsLines before) (after : List Char) :
    physical (before ++ after) = (physical before).dropLast ++ physical after := by
  induction before using induction_on_lines with
  | last line hline =>
    rcases h with rfl | hlast
    · rfl
    · exact absurd (List.mem_of_getLast? hlast) hline
  | more line rest hline ih =>
    -- the text ends as `rest` does, unless nothing follows the line feed
    have hrest : EndsLines rest := by
      rcases h with hnil | hlast
      · simp at hnil
      · by_cases hnil : rest = []
        · exact .inl hnil
        · refine .inr ?_
          rw [List.getLast?_append_of_ne_nil line (by simp)] at hlast
          rwa [← List.getLast?_append_of_ne_nil ['\n'] hnil]
    rw [List.append_assoc, List.cons_append, physical_append_lineFeed hline,
      physical_append_lineFeed hline, ih hrest,
      List.dropLast_cons_of_ne_nil (physical_ne_nil rest), List.cons_append]

end Line

/-! ## Blanks around a text -/

namespace Text

variable {cs run : List Char}

/-- Trimming leaves nothing of a blank text, and of no other. -/
theorem trimStart_eq_nil_iff : trimStart cs = [] ↔ ∀ c ∈ cs, isBlank c = true := by
  rw [trimStart, List.dropWhile_eq_nil_iff]

/-- Blanks in front are dropped. -/
theorem trimStart_append (h : ∀ c ∈ run, isBlank c = true) (cs : List Char) :
    trimStart (run ++ cs) = trimStart cs := by
  induction run with
  | nil => rfl
  | cons c run ih =>
    have hc := h c List.mem_cons_self
    rw [List.cons_append, trimStart, List.dropWhile_cons_of_pos hc]
    exact ih fun d hd => h d (List.mem_cons_of_mem c hd)

/-- What follows a text that is not blank stays as it is: trimming stops inside the text. -/
theorem trimStart_append_of_not (h : ¬ ∀ c ∈ cs, isBlank c = true) (more : List Char) :
    trimStart (cs ++ more) = trimStart cs ++ more := by
  induction cs with
  | nil => simp at h
  | cons c cs ih =>
    by_cases hc : isBlank c = true
    · have hrest : ¬ ∀ d ∈ cs, isBlank d = true :=
        fun hall => h (List.forall_mem_cons.2 ⟨hc, hall⟩)
      rw [List.cons_append, trimStart, trimStart, List.dropWhile_cons_of_pos hc,
        List.dropWhile_cons_of_pos hc]
      exact ih hrest
    · rw [List.cons_append, trimStart, trimStart, List.dropWhile_cons_of_neg hc,
        List.dropWhile_cons_of_neg hc, List.cons_append]

/-- Trimming at the end is trimming the text that is read from its end. -/
theorem trimEnd_eq (cs : List Char) : trimEnd cs = (trimStart cs.reverse).reverse := rfl

/-- Blanks at the end are dropped. -/
theorem trimEnd_append (h : ∀ c ∈ run, isBlank c = true) (cs : List Char) :
    trimEnd (cs ++ run) = trimEnd cs := by
  rw [trimEnd_eq, List.reverse_append, trimStart_append (fun c hc => h c (List.mem_reverse.1 hc)),
    trimEnd_eq]

/-- What stands in front of a text that is not blank stays as it is. -/
theorem trimEnd_append_of_not (start : List Char) (h : ¬ ∀ c ∈ cs, isBlank c = true) :
    trimEnd (start ++ cs) = start ++ trimEnd cs := by
  have hreverse : ¬ ∀ c ∈ cs.reverse, isBlank c = true := by
    intro hall
    exact h fun c hc => hall c (List.mem_reverse.2 hc)
  rw [trimEnd_eq, List.reverse_append, trimStart_append_of_not hreverse, List.reverse_append,
    List.reverse_reverse, trimEnd_eq]

/-- What is left after trimming at the start does not start with a blank. -/
theorem not_isBlank_of_trimStart {c : Char} {rest : List Char} (h : trimStart cs = c :: rest) :
    isBlank c = false := by
  have hhead := List.head?_dropWhile_not isBlank cs
  rw [trimStart] at h
  rwa [h] at hhead

/-- The same holds of trimming at both ends. A line of which nothing is left carries nothing. -/
theorem trim_eq_nil_iff : trim cs = [] ↔ ∀ c ∈ cs, isBlank c = true := by
  constructor
  · intro h
    rw [← trimStart_eq_nil_iff]
    cases hstart : trimStart cs with
    | nil => rfl
    | cons c rest =>
      -- the first character that is not blank is not trimmed at the end either
      rw [trim, hstart, trimEnd_eq, List.reverse_eq_nil_iff, trimStart_eq_nil_iff] at h
      exact absurd (h c (by simp)) (by simp [not_isBlank_of_trimStart hstart])
  · intro h
    rw [trim, trimStart_eq_nil_iff.2 h]
    rfl

/-- A character that is not blank stays at the start, whatever is trimmed behind it. -/
theorem trimEnd_cons_of_not_isBlank {c : Char} (h : isBlank c = false) (cs : List Char) :
    trimEnd (c :: cs) = c :: trimEnd cs := by
  by_cases hblank : ∀ d ∈ cs, isBlank d = true
  · have hnil : trimEnd cs = [] := by
      rw [trimEnd_eq, List.reverse_eq_nil_iff, trimStart_eq_nil_iff]
      exact fun d hd => hblank d (List.mem_reverse.1 hd)
    rw [hnil, ← List.singleton_append, trimEnd_append hblank]
    exact trimEnd_append_of_not_isBlank [] h
  · exact trimEnd_append_of_not [c] hblank

/-- A trimmed text does not start with a blank. -/
theorem not_isBlank_of_trim {c : Char} {rest : List Char} (h : trim cs = c :: rest) :
    isBlank c = false := by
  cases hstart : trimStart cs with
  | nil =>
    rw [trim, hstart] at h
    cases h
  | cons d others =>
    have hd := not_isBlank_of_trimStart hstart
    rw [trim, hstart, trimEnd_cons_of_not_isBlank hd] at h
    rwa [← (List.cons.inj h).1]

/-- What stands in front of a character that is not blank is trimmed without regard to it. -/
theorem trimStart_append_cons {c : Char} (h : isBlank c = false) (front cs : List Char) :
    trimStart (front ++ c :: cs) = trimStart front ++ c :: cs := by
  by_cases hblank : ∀ d ∈ front, isBlank d = true
  · rw [trimStart_append hblank, trimStart_eq_nil_iff.2 hblank, List.nil_append,
      trimStart_cons_of_not_isBlank h]
  · rw [trimStart_append_of_not hblank]

/-- Blanks at the end of a text do not show when it is trimmed. -/
theorem trim_append (h : ∀ c ∈ run, isBlank c = true) (cs : List Char) :
    trim (cs ++ run) = trim cs := by
  by_cases hblank : ∀ c ∈ cs, isBlank c = true
  · rw [trim_eq_nil_iff.2 hblank, trim_eq_nil_iff]
    intro c hc
    rcases List.mem_append.1 hc with hc | hc
    · exact hblank c hc
    · exact h c hc
  · rw [trim, trimStart_append_of_not hblank, trimEnd_append h, trim]

/-- Blanks in front of a text do not show when it is trimmed. -/
theorem trim_append_left (h : ∀ c ∈ run, isBlank c = true) (cs : List Char) :
    trim (run ++ cs) = trim cs := by
  rw [trim, trimStart_append h, trim]

end Text

namespace Line

variable {line run : List Char}

/-- A carriage return at the end is one of the blanks that are trimmed. -/
theorem trim_withoutReturn (line : List Char) :
    Text.trim (withoutReturn line) = Text.trim line := by
  by_cases hreturn : line.getLast? = some '\r'
  · obtain ⟨start, rfl⟩ := List.getLast?_eq_some_iff.1 hreturn
    rw [withoutReturn_append_return, Text.trim_append]
    intro c hc
    rw [List.mem_singleton.1 hc]
    decide
  · rw [withoutReturn_of_ne hreturn]

/-- A line carries nothing if what is left of it after trimming does. -/
theorem carriesNothing_congr {other : List Char} (h : Text.trim line = Text.trim other) :
    carriesNothing line = carriesNothing other := by
  rw [carriesNothing, carriesNothing, h]

/-- A line that carries something is not blank, so it has an indent that blanks behind it do not
change. -/
theorem not_blank_of_carries (h : carriesNothing line = false) :
    ¬ ∀ c ∈ line, Text.isBlank c = true := by
  intro hblank
  rw [carriesNothing, Text.trim_eq_nil_iff.2 hblank] at h
  cases h

/-- Blanks in front of a line add to its indent. Each of them counts for one, a tab as well. -/
theorem indent_append (h : ∀ c ∈ run, Text.isBlank c = true) (line : List Char) :
    indent (run ++ line) = run.length + indent line := by
  rw [indent, List.takeWhile_append_of_pos h, List.length_append, indent]

/-- What follows a line that is not blank does not change its indent: the count stops inside the
line. -/
theorem indent_append_of_not (h : ¬ ∀ c ∈ line, Text.isBlank c = true) (more : List Char) :
    indent (line ++ more) = indent line := by
  induction line with
  | nil => simp at h
  | cons c line ih =>
    by_cases hc : Text.isBlank c = true
    · have hrest : ¬ ∀ d ∈ line, Text.isBlank d = true :=
        fun hall => h (List.forall_mem_cons.2 ⟨hc, hall⟩)
      have hih := ih hrest
      rw [indent, indent] at hih ⊢
      rw [List.cons_append, List.takeWhile_cons_of_pos hc, List.takeWhile_cons_of_pos hc,
        List.length_cons, List.length_cons, hih]
    · rw [indent, indent, List.cons_append, List.takeWhile_cons_of_neg hc,
        List.takeWhile_cons_of_neg hc]

end Line

end EntitySchema
