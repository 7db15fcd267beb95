/-
Layout does not matter.

Four changes of a text are looked at, `Layout.Change`: a line that carries nothing is put in, every
line feed becomes a carriage return with a line feed, all lines are moved to the right by one run of
blanks, and a nested line is broken after a comma. For each of them the physical lines after the
change are those before it laid out anew, and so the contents of the text stay.

From there on everything follows from the contents, since the grammar is given the text of a line
and its level and nothing else. The number of a line shows only in errors, so
`Schema.parse_eq_of_layoutChange` compares outcomes up to it.

The changes are relations between texts and not between lines, as an editor would make them. A line
is put in where a line begins, with any blanks or any comment in it. The run in front of the lines
is one of spaces and tabs, and it is put in front of blank lines too. A break is described by what
stands around it (`Layout.Break`): the comma may not follow on a blank, because a comma at the end
of a line takes the blanks before it along; exactly one space has to stand behind it, because that
is what joining puts there; the second half may not start as a comment does, and the indent that it
is given may not be the baseline.

One break is left out, the one that puts nothing but the comma at the end of a line on a line of its
own. `Layout.contents_ne_of_loneComma` shows that it does change the text that is read: the space in
front of the comma is trimmed in one text, and joined in the other.
-/
import EntitySchema.Document
import EntitySchema.Proofs.Lines.Relaid
import EntitySchema.Proofs.Outcome

set_option autoImplicit false

namespace EntitySchema

namespace Line

variable {line : List Char} {top : Nat}

/-! ## Lines that stay -/

/-- A line is itself without a move. -/
theorem IsShifted.refl (line : List Char) : IsShifted 0 line line :=
  ⟨rfl, fun _ => (Nat.zero_add _).symm⟩

/-- The carriage return at the end of a line is one of the blanks around it. -/
theorem isShifted_withoutReturn (line : List Char) : IsShifted 0 line (withoutReturn line) := by
  by_cases hreturn : line.getLast? = some '\r'
  · refine ⟨trim_withoutReturn line, fun hcarries => ?_⟩
    -- the return is behind the indent, since the line holds more than blanks
    obtain ⟨start, rfl⟩ := List.getLast?_eq_some_iff.1 hreturn
    have htrim := trim_withoutReturn (start ++ ['\r'])
    rw [withoutReturn_append_return] at htrim ⊢
    rw [← carriesNothing_congr htrim] at hcarries
    rw [indent_append_of_not (not_blank_of_carries hcarries), Nat.zero_add]
  · rw [withoutReturn_of_ne hreturn]
    exact .refl line

/-- Without a move the relation can be turned round, for then both lines have the same indent. -/
theorem IsShifted.symm {other : List Char} (h : IsShifted 0 line other) :
    IsShifted 0 other line := by
  refine ⟨h.trim.symm, fun hcarries => ?_⟩
  rw [carriesNothing_congr h.trim] at hcarries
  rw [h.indent hcarries]
  omega

/-- Lines that stay are laid out anew, trivially. Each change leaves most lines alone. -/
theorem Relaid.refl (top : Nat) (lines : List (List Char)) : Relaid top 0 lines lines := by
  induction lines with
  | nil => exact .nil
  | cons line lines ih => exact .kept (.refl line) ih

/-- The lines in front stay as they are. -/
theorem Relaid.append_left {lines changed : List (List Char)} (h : Relaid top 0 lines changed)
    (before : List (List Char)) : Relaid top 0 (before ++ lines) (before ++ changed) := by
  induction before with
  | nil => exact h
  | cons line before ih => exact .kept (.refl line) ih

/-- What stands behind a line does not depend on the line. It starts with a line feed or there is
nothing, so the line is complete but for a return at its end. -/
theorem exists_physical_append {after : List Char} (h : after = [] ∨ after.head? = some '\n') :
    ∃ others, ∀ line, '\n' ∉ line →
      ∃ kept, physical (line ++ after) = kept :: others ∧ IsShifted 0 line kept := by
  rcases h with rfl | hhead
  · refine ⟨[], fun line hline => ⟨line, ?_, .refl line⟩⟩
    rw [List.append_nil, physical_of_not_mem hline]
  · obtain ⟨rest, rfl⟩ : ∃ rest, after = '\n' :: rest := by
      cases after with
      | nil => cases hhead
      | cons c rest => exact ⟨rest, by rw [Option.some.inj hhead]⟩
    refine ⟨physical rest, fun line hline => ⟨withoutReturn line, ?_, isShifted_withoutReturn line⟩⟩
    exact physical_append_lineFeed hline rest

/-- Being broken is about the trimmed halves. -/
theorem IsBroken.congr {first second front back other otherSecond : List Char}
    (h : IsBroken line first second front back) (hline : Text.trim other = Text.trim line)
    (hsecond : Text.trim otherSecond = Text.trim second) :
    IsBroken other first otherSecond front back where
  trim := hline.trans h.trim
  trim_first := h.trim_first
  trim_second := hsecond.trans h.trim_second
  trimEnd_front := h.trimEnd_front
  back_ne := h.back_ne
  carries := (carriesNothing_congr hline).trans h.carries
  carries_first := h.carries_first
  carries_second := (carriesNothing_congr hsecond).trans h.carries_second

end Line

namespace Layout

open Line

/-! ## Changes of a text -/

/-- The text with a carriage return in front of every line feed. -/
def withReturns (text : List Char) : List Char :=
  text.flatMap fun c => if c = '\n' then ['\r', '\n'] else [c]

/-- The text with `run` in front of every physical line. -/
def indented (run text : List Char) : List Char :=
  run ++ text.flatMap fun c => if c = '\n' then '\n' :: run else [c]

/-- A place where a line is broken after a comma, and the blanks that are put there. -/
structure Break where
  /-- What stands in front of the line. -/
  before : List Char
  /-- The line up to the comma. -/
  front : List Char
  /-- The character behind the comma and one space. -/
  next : Char
  /-- The rest of the line. -/
  tail : List Char
  /-- What stands behind the line, from its line feed on. -/
  after : List Char
  /-- The end of the first half. -/
  lineEnd : List Char
  /-- The blanks in front of the second half. -/
  indent : List Char

namespace Break

variable (place : Break)

/-- The line that is broken. -/
def line : List Char := place.front ++ ',' :: ' ' :: place.next :: place.tail

def first : List Char := place.front ++ [',']

def second : List Char := place.indent ++ place.next :: place.tail

/-- The text with the line as it was. -/
def text : List Char := place.before ++ (place.line ++ place.after)

/-- The text with the line in two. -/
def changed : List Char :=
  place.before ++ (place.first ++ (place.lineEnd ++ (place.second ++ place.after)))

/-- The comma follows on something, the second half starts with something that is no comment, and
both the line and its second half are nested. -/
structure IsNested : Prop where
  before : EndsLines place.before
  front_noFeed : '\n' ∉ place.front
  tail_noFeed : '\n' ∉ place.tail
  after : place.after = [] ∨ place.after.head? = some '\n'
  carries : carriesNothing place.line = false
  nested : Line.indent place.line ≠ baseline (carrying place.text)
  comma : ∀ c ∈ place.front.getLast?, Text.isBlank c = false
  next : Text.isBlank place.next = false
  next_ne : place.next ≠ '#'
  lineEnd : place.lineEnd = ['\n'] ∨ place.lineEnd = ['\r', '\n']
  indent_blank : ∀ c ∈ place.indent, Text.isBlank c = true ∧ c ≠ '\n'
  indent : place.indent.length ≠ baseline (carrying place.text)

end Break

/-- One change of the layout. -/
inductive Change : List Char → List Char → Prop where
  | inserted {before line : List Char} (after : List Char) (hbefore : EndsLines before)
      (hline : '\n' ∉ line) (hnothing : carriesNothing line = true) :
    Change (before ++ after) (before ++ (line ++ '\n' :: after))
  | returns (text : List Char) : Change text (withReturns text)
  | indented {run : List Char} (text : List Char) (hrun : ∀ c ∈ run, c = ' ' ∨ c = '\t') :
    Change text (indented run text)
  | broken {place : Break} (hnested : place.IsNested)
      (hsecond : Text.trim (place.next :: place.tail) ≠ [',']) :
    Change place.text place.changed

/-! ## The lines after a change -/

variable {top : Nat}

/-- A line is put in: the lines in front of it and behind it are the same. -/
theorem relaid_inserted {before line : List Char} (after : List Char) (hbefore : EndsLines before)
    (hline : '\n' ∉ line) (hnothing : carriesNothing line = true) :
    Relaid top 0 (physical (before ++ after)) (physical (before ++ (line ++ '\n' :: after))) := by
  rw [physical_append hbefore, physical_append hbefore, physical_append_lineFeed hline]
  refine Relaid.append_left (.inserted ?_ (.refl top _)) _
  rw [carriesNothing_congr (trim_withoutReturn line), hnothing]

/-- A line without a line feed gets no return. -/
theorem withReturns_of_not_mem {line : List Char} (h : '\n' ∉ line) : withReturns line = line := by
  induction line with
  | nil => rfl
  | cons c line ih =>
    have hc : c ≠ '\n' := fun hc => h (hc ▸ List.mem_cons_self)
    rw [withReturns, List.flatMap_cons, if_neg hc, ← withReturns,
      ih fun hmem => h (List.mem_cons_of_mem c hmem), List.singleton_append]

/-- Every line but the last gets a return, which is taken off again when the text is cut. By
induction over the lines. A return that was there before stays, as a blank. -/
theorem relaid_withReturns (text : List Char) :
    Relaid top 0 (physical text) (physical (withReturns text)) := by
  induction text using induction_on_lines with
  | last line hline =>
    rw [withReturns_of_not_mem hline]
    exact .refl top _
  | more line rest hline ih =>
    have hchanged : withReturns (line ++ '\n' :: rest) =
        (line ++ ['\r']) ++ '\n' :: withReturns rest := by
      rw [withReturns, List.flatMap_append, ← withReturns, withReturns_of_not_mem hline,
        List.flatMap_cons, if_pos rfl, ← withReturns]
      simp only [List.append_assoc, List.cons_append, List.nil_append]
    have hreturn : '\n' ∉ line ++ ['\r'] := by simpa using hline
    rw [hchanged, physical_append_lineFeed hline, physical_append_lineFeed hreturn,
      withoutReturn_append_return]
    exact .kept (isShifted_withoutReturn line).symm ih

section Indented

variable {run : List Char} (hrun : ∀ c ∈ run, c = ' ' ∨ c = '\t')
include hrun

/-- Spaces and tabs are blanks. -/
theorem isBlank_of_mem_run : ∀ c ∈ run, Text.isBlank c = true := by
  intro c hc
  rcases hrun c hc with rfl | rfl <;> decide

/-- The run has no line feed, so no line is added by it. -/
theorem lineFeed_not_mem_run : '\n' ∉ run := by
  intro hmem
  rcases hrun '\n' hmem with h | h <;> cases h

/-- A line behind the run is the line, moved by the length of the run. -/
theorem isShifted_run (line : List Char) : IsShifted run.length line (run ++ line) :=
  ⟨Text.trim_append_left (isBlank_of_mem_run hrun) line,
    fun _ => indent_append (isBlank_of_mem_run hrun) line⟩

/-- The run does not end in a carriage return, so a line loses the same with it as without it. -/
theorem withoutReturn_run (line : List Char) :
    withoutReturn (run ++ line) = run ++ withoutReturn line := by
  by_cases hnil : line = []
  · subst hnil
    rw [List.append_nil, withoutReturn_nil, List.append_nil, withoutReturn_of_ne]
    intro hlast
    rcases hrun '\r' (List.mem_of_getLast? hlast) with h | h <;> cases h
  · exact withoutReturn_append run hnil

end Indented

theorem indented_of_not_mem (run : List Char) {line : List Char} (h : '\n' ∉ line) :
    indented run line = run ++ line := by
  induction line with
  | nil => rfl
  | cons c line ih =>
    have hc : c ≠ '\n' := fun hc => h (hc ▸ List.mem_cons_self)
    have hrest := ih fun hmem => h (List.mem_cons_of_mem c hmem)
    rw [indented, List.append_cancel_left_eq] at hrest ⊢
    rw [List.flatMap_cons, if_neg hc, hrest, List.singleton_append]

/-- All lines are moved by the same amount, by induction over the lines. The first one is moved by
what stands in front of the text, the others by what stands behind each line feed. -/
theorem relaid_indented {run : List Char} (hrun : ∀ c ∈ run, c = ' ' ∨ c = '\t')
    (text : List Char) :
    Relaid top run.length (physical text) (physical (indented run text)) := by
  induction text using induction_on_lines with
  | last line hline =>
    have hmore : '\n' ∉ run ++ line := by simpa [lineFeed_not_mem_run hrun] using hline
    rw [indented_of_not_mem run hline, physical_of_not_mem hline, physical_of_not_mem hmore]
    exact .kept (isShifted_run hrun line) .nil
  | more line rest hline ih =>
    have hmore : '\n' ∉ run ++ line := by simpa [lineFeed_not_mem_run hrun] using hline
    have hchanged : indented run (line ++ '\n' :: rest) =
        (run ++ line) ++ '\n' :: indented run rest := by
      rw [indented, List.flatMap_append, ← List.append_assoc, ← indented,
        indented_of_not_mem run hline, List.flatMap_cons, if_pos rfl, indented, List.cons_append]
    rw [hchanged, physical_append_lineFeed hline, physical_append_lineFeed hmore,
      withoutReturn_run hrun]
    exact .kept (isShifted_run hrun _) ih

/-! ## A line in two -/

namespace Break

variable {place : Break}

theorem isBlank_comma : Text.isBlank ',' = false := by decide

/-- The part in front of the comma is not trimmed at its end, since no blank stands there. It may be
empty. -/
theorem IsNested.trimEnd_front (h : place.IsNested) :
    Text.trimEnd (Text.trimStart place.front) = Text.trimStart place.front := by
  cases hlast : place.front.getLast? with
  | none =>
    rw [List.getLast?_eq_none_iff.1 hlast]
    rfl
  | some c =>
    have hc := h.comma c hlast
    obtain ⟨start, hstart⟩ := List.getLast?_eq_some_iff.1 hlast
    rw [hstart, Text.trimStart_append_cons hc]
    exact Text.trimEnd_append_of_not_isBlank _ hc

/-- The second half starts where the break is. -/
theorem IsNested.trim_next (h : place.IsNested) :
    Text.trim (place.next :: place.tail) = place.next :: Text.trimEnd place.tail := by
  rw [Text.trim, Text.trimStart_cons_of_not_isBlank h.next,
    Text.trimEnd_cons_of_not_isBlank h.next]

/-- The first half, trimmed: what stands in front of the comma, and the comma. -/
theorem trim_first : Text.trim place.first = Text.trimStart place.front ++ [','] := by
  rw [first, Text.trim, Text.trimStart_append_cons isBlank_comma]
  exact Text.trimEnd_append_of_not_isBlank _ isBlank_comma

/-- The whole line, trimmed: both halves with the separator between them. That the separator is the
one that joining puts in is what makes a break invisible. -/
theorem IsNested.trim_line (h : place.IsNested) :
    Text.trim place.line = Text.trimStart place.front ++ [',', ' '] ++
      Text.trim (place.next :: place.tail) := by
  have hshape : Text.trimStart place.front ++ ',' :: ' ' :: place.next :: place.tail =
      (Text.trimStart place.front ++ [',', ' ']) ++ place.next :: place.tail := by simp
  have hblank : ¬ ∀ c ∈ place.next :: place.tail, Text.isBlank c = true := by
    simp [h.next]
  rw [line, Text.trim, Text.trimStart_append_cons isBlank_comma, hshape,
    Text.trimEnd_append_of_not _ hblank, h.trim_next, Text.trimEnd_cons_of_not_isBlank h.next]

/-- The halves of a line that is not broken in front of a lone comma. -/
theorem IsNested.isBroken (h : place.IsNested)
    (hsecond : Text.trim (place.next :: place.tail) ≠ [',']) :
    IsBroken place.line place.first place.second (Text.trimStart place.front)
      (Text.trim (place.next :: place.tail)) where
  trim := h.trim_line
  trim_first := trim_first
  trim_second := Text.trim_append_left (fun c hc => (h.indent_blank c hc).1) _
  trimEnd_front := h.trimEnd_front
  back_ne := hsecond
  carries := h.carries
  carries_first := by
    -- the first half starts as the line does
    have hcarries := h.carries
    rw [carriesNothing, h.trim_line] at hcarries
    rw [carriesNothing, trim_first]
    cases hstart : Text.trimStart place.front with
    | nil => rfl
    | cons c rest =>
      rw [hstart] at hcarries
      exact hcarries
  carries_second := by
    rw [carriesNothing, second,
      Text.trim_append_left (fun c hc => (h.indent_blank c hc).1), h.trim_next]
    simpa using h.next_ne

/-- The first half has the indent of the line. -/
theorem indent_first : Line.indent place.first = Line.indent place.line := by
  have hblank : ¬ ∀ c ∈ place.first, Text.isBlank c = true := by
    simp [first, isBlank_comma]
  have hshape : place.line = place.first ++ ' ' :: place.next :: place.tail := by
    simp [line, first]
  rw [hshape, indent_append_of_not hblank]

/-- The second half has the indent that it is given. -/
theorem IsNested.indent_second (h : place.IsNested) :
    Line.indent place.second = place.indent.length := by
  rw [second, indent_append (fun c hc => (h.indent_blank c hc).1), Line.indent,
    List.takeWhile_cons_of_neg (by simp [h.next]), List.length_nil, Nat.add_zero]

/-- The line end behind the first half may be of either kind. -/
theorem IsNested.physical_first (h : place.IsNested) (rest : List Char) :
    physical (place.first ++ (place.lineEnd ++ rest)) = place.first :: physical rest := by
  have hfirst : '\n' ∉ place.first := by simpa [first] using h.front_noFeed
  rcases h.lineEnd with hend | hend
  · have hlast : place.first.getLast? ≠ some '\r' := by simp [first]
    rw [hend, List.singleton_append, physical_append_lineFeed hfirst, withoutReturn_of_ne hlast]
  · have hreturn : '\n' ∉ place.first ++ ['\r'] := by simpa using hfirst
    have hshape : place.first ++ (['\r', '\n'] ++ rest) =
        (place.first ++ ['\r']) ++ '\n' :: rest := by simp
    rw [hend, hshape, physical_append_lineFeed hreturn, withoutReturn_append_return]

/-- A break lays the lines out anew, wherever the line stands and whatever stands around it. -/
theorem IsNested.relaid (h : place.IsNested)
    (hsecond : Text.trim (place.next :: place.tail) ≠ [',']) :
    Relaid (baseline (carrying place.text)) 0 (physical place.text) (physical place.changed) := by
  obtain ⟨others, hothers⟩ := exists_physical_append h.after
  have hnextFeed : place.next ≠ '\n' := by
    intro hnext
    have hblank := h.next
    rw [hnext] at hblank
    exact absurd hblank (by decide)
  have hlineFeed : '\n' ∉ place.line := by
    simp [line, h.front_noFeed, h.tail_noFeed, hnextFeed.symm]
  have hsecondFeed : '\n' ∉ place.second := by
    simp only [second, List.mem_append, List.mem_cons, not_or]
    exact ⟨fun hmem => (h.indent_blank _ hmem).2 rfl, hnextFeed.symm, h.tail_noFeed⟩
  -- if a line feed follows, a return at the end goes with it, with the break as without it
  obtain ⟨kept, hkept, hshifted⟩ := hothers place.line hlineFeed
  obtain ⟨keptSecond, hkeptSecond, hshiftedSecond⟩ := hothers place.second hsecondFeed
  have hbroken := h.isBroken hsecond
  have hindent := hshifted.indent h.carries
  have hindentSecond := hshiftedSecond.indent hbroken.carries_second
  have hnested := h.nested
  have hnestedSecond := h.indent
  rw [text, changed, physical_append h.before, physical_append h.before, hkept, h.physical_first,
    hkeptSecond, ← text]
  refine Relaid.append_left (.broken (hbroken.congr hshifted.trim hshiftedSecond.trim) ?_ ?_ ?_
    (.refl _ others)) _
  · omega
  · rw [hindent, indent_first]
    omega
  · rw [hindentSecond, h.indent_second]
    omega

end Break

/-- **A change of the layout keeps the contents.** One case for each change; a break in front of a
lone comma is excluded by its constructor. -/
theorem Change.contents_eq {text changed : String} (h : Change text.toList changed.toList) :
    (Lines.ofText changed).contents = (Lines.ofText text).contents := by
  generalize htext : text.toList = start at h
  generalize hchanged : changed.toList = last at h
  cases h with
  | inserted after hbefore hline hnothing =>
    refine Relaid.contents_ofText 0 ?_
    rw [htext, hchanged]
    exact relaid_inserted after hbefore hline hnothing
  | returns =>
    refine Relaid.contents_ofText 0 ?_
    rw [htext, hchanged]
    exact relaid_withReturns start
  | @indented run _ hrun =>
    refine Relaid.contents_ofText run.length ?_
    rw [htext, hchanged]
    exact relaid_indented hrun start
  | broken hnested hsecond =>
    refine Relaid.contents_ofText 0 ?_
    rw [htext, hchanged]
    exact hnested.relaid hsecond

/-- What is left behind the space is the comma at the end of the line. -/
def loneComma : Break where
  before := "User\n".toList
  front := "  first".toList
  next := ','
  tail := []
  after := "\n  second\n".toList
  lineEnd := ['\n']
  indent := [' ', ' ']

/-- Without the condition that something else is left, a break does show. All the other conditions
hold of the example. -/
theorem contents_ne_of_loneComma :
    loneComma.IsNested ∧
      (Lines.ofText (String.ofList loneComma.changed)).contents ≠
        (Lines.ofText (String.ofList loneComma.text)).contents := by
  have hcomma : ∀ c ∈ loneComma.front.getLast?, Text.isBlank c = false := by
    intro c hc
    obtain rfl : 't' = c := Option.some.inj hc
    decide
  have hindent : ∀ c ∈ loneComma.indent, Text.isBlank c = true ∧ c ≠ '\n' := by
    intro c hc
    obtain rfl : c = ' ' := List.eq_of_mem_replicate (n := 2) hc
    decide
  refine ⟨⟨.inr rfl, by decide, by decide, .inr rfl, by decide, by decide, hcomma, by decide,
    by decide, .inl rfl, hindent, by decide⟩, ?_⟩
  have htext : (Lines.ofText (String.ofList loneComma.text)).contents =
      ([("User", true), ("first,, second", false)], none) := by decide +kernel
  have hchanged : (Lines.ofText (String.ofList loneComma.changed)).contents =
      ([("User", true), ("first, , second", false)], none) := by decide +kernel
  rw [htext, hchanged]
  decide

end Layout

/-! ## From lines to the schema -/

namespace Document

/-- A line is read by what it holds, and its number shows only in the error. The error of a line
that no rule matches is the only one that has it. -/
theorem readLine_congr {line other : Line} (h : other.content = line.content)
    (document : Document) :
    (document.readLine other).mapError Error.withoutLine =
      (document.readLine line).mapError Error.withoutLine := by
  obtain ⟨htext, hlevel⟩ := Prod.ext_iff.1 h
  dsimp only [Line.content] at htext hlevel
  have hdeclaration : document.declarationOf other = document.declarationOf line := by
    rw [declarationOf, declarationOf, htext, hlevel]
  rw [readLine, readLine, hdeclaration, htext]
  refine Outcome.mapError_bind_congr rfl fun declaration => ?_
  cases declaration with
  | none => rfl
  | some declaration => rfl

/-- Lines with the same contents are read to the same document, one after the other. If one of them
cannot be read, neither can its counterpart, and the two errors differ in the number at most. -/
theorem foldlM_readLine_congr {lines others : List Line}
    (h : others.map Line.content = lines.map Line.content) (document : Document) :
    (others.foldlM readLine document).mapError Error.withoutLine =
      (lines.foldlM readLine document).mapError Error.withoutLine := by
  induction lines generalizing others document with
  | nil =>
    rw [List.map_nil, List.map_eq_nil_iff] at h
    rw [h]
  | cons line lines ih =>
    cases others with
    | nil => cases h
    | cons other others =>
      obtain ⟨hline, hlines⟩ := List.cons.inj h
      rw [List.foldlM_cons, List.foldlM_cons]
      exact Outcome.mapError_bind_congr (readLine_congr hline document) (ih hlines)

/-- Texts with the same contents give the same document. The failure of the lines themselves is told
if all of them can be read, and it is part of the contents. -/
theorem readText_congr {text changed : String}
    (h : (Lines.ofText changed).contents = (Lines.ofText text).contents) (config : Config) :
    (readText config changed).mapError Error.withoutLine =
      (readText config text).mapError Error.withoutLine := by
  obtain ⟨hlines, hfailure⟩ := Prod.ext_iff.1 h
  dsimp only [Lines.contents] at hlines hfailure
  rw [readText, readText]
  -- all lines are read before a failure of the text is raised
  refine Outcome.mapError_bind_congr (foldlM_readLine_congr hlines (start config))
    fun document => ?_
  cases hchanged : (Lines.ofText changed).failure with
  | none =>
    rw [hchanged, Option.map_none] at hfailure
    rw [Option.map_eq_none_iff.1 hfailure.symm]
  | some error =>
    rw [hchanged, Option.map_some] at hfailure
    obtain ⟨other, hother, herror⟩ := Option.map_eq_some_iff.1 hfailure.symm
    rw [hother]
    exact congrArg Except.error herror.symm

end Document

/-- **Layout does not matter.** A change of the layout keeps the text and the level of all lines in
their order, and the schema or the error too, up to the line that the error names. Any number of
changes may follow each other, since the statement is an equation. -/
theorem Schema.parse_eq_of_layoutChange (config : Config) {text changed : String}
    (h : Layout.Change text.toList changed.toList) :
    (Lines.ofText changed).contents = (Lines.ofText text).contents ∧
      (parse config changed).mapError Error.withoutLine =
        (parse config text).mapError Error.withoutLine := by
  have hcontents := h.contents_eq
  refine ⟨hcontents, ?_⟩
  exact Outcome.mapError_bind_congr (Document.readText_congr hcontents config) fun _ => rfl

/-- The two numbers of a type, of which the second may stand on a line of its own. -/
def scalePlace : Layout.Break where
  before := "Item1 (items)\n".toList
  front := "  price: decimal(8".toList
  next := '2'
  tail := ") Null".toList
  after := "\n".toList
  lineEnd := ['\n']
  indent := [' ', ' ', ' ', ' ']

/-- The document is read to the same schema with a line break between the numbers: also inside the
parentheses of a type a line may be broken after a comma. -/
theorem parse_eq_of_layoutChange_scale :
    Layout.Change scalePlace.text scalePlace.changed ∧
      (Schema.parse {} (String.ofList scalePlace.text)).toOption.isSome = true ∧
      (Schema.parse {} (String.ofList scalePlace.changed)).mapError Error.withoutLine =
        (Schema.parse {} (String.ofList scalePlace.text)).mapError Error.withoutLine := by
  have hcomma : ∀ c ∈ scalePlace.front.getLast?, Text.isBlank c = false := by
    intro c hc
    obtain rfl : '8' = c := Option.some.inj hc
    decide
  have hindent : ∀ c ∈ scalePlace.indent, Text.isBlank c = true ∧ c ≠ '\n' := by
    intro c hc
    obtain rfl : c = ' ' := List.eq_of_mem_replicate (n := 4) hc
    decide
  have hchange : Layout.Change scalePlace.text scalePlace.changed :=
    .broken ⟨.inr rfl, by decide, by decide, .inr rfl, by decide, by decide, hcomma, by decide,
      by decide, .inl rfl, hindent, by decide⟩ (by decide)
  refine ⟨hchange, by decide +kernel, ?_⟩
  exact (Schema.parse_eq_of_layoutChange {} (by simpa using hchange)).2

end EntitySchema
