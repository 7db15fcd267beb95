/-
The texts that are joins.

`Join.IsWrittenAs` says how a join is written: one condition or two, in which tables and fields are
names, blanks may stand around the whole and around each equals sign, none may stand around a dot,
and some have to stand on both sides of the word `AND`. Nothing in it is about reading.

Every reader that `Join.parse` is made of has a lemma that says exactly when it succeeds
(`column?_eq_some_iff`, `read?_eq_some_iff`, `second?_eq_some_iff`, `conditions?_eq_one_iff` and
`conditions?_eq_two_iff`): the text is a piece of the right form and a rest that does not go on with
it. That the rest does not go on is a part of every statement, because a reader of names takes as
much as it can; it is also what makes the reading of a text unique. From left to right the proofs
take a reader apart, from right to left they find out what stands at each place.

A table or field may be called `AND` like anything else. The word is told from a name by its place
alone, since nothing but blanks, the word or the end can follow a condition.

`hasPivotShape_iff` ties the test on two conditions to what it is meant to say, that one table is
named twice and two others once. The test counts the different names among four, which would be
three also if nothing were known of them; that it comes to the same is a case analysis over which of
the four places agree.

`parse_reads_exactly` puts all of this together. Soundness, completeness, uniqueness and the error
for every other text are in one statement, and there is no hypothesis about the text.
-/
import EntitySchema.Join
import EntitySchema.Proofs.Declaration.Fields
import Mathlib.Data.List.Nodup

set_option autoImplicit false

namespace EntitySchema

/-! ## Pieces of a text -/

namespace Text

variable {cs rest name start : List Char}

/-- A text of blanks only, or no text at all. -/
def IsBlanks (cs : List Char) : Prop := ∀ c ∈ cs, isBlank c = true

/-- A text that does not go on with a name. -/
def EndsName (rest : List Char) : Prop := ∀ c ∈ rest.head?, isNameChar c = false

/-- A text that does not start with a blank. -/
def StartsPlain (cs : List Char) : Prop := ∀ c ∈ cs.head?, isBlank c = false

instance (cs : List Char) : Decidable (IsBlanks cs) :=
  decidable_of_iff (cs.all isBlank = true) List.all_eq_true

/-- Blanks end a name, and so does what follows if there are none. -/
theorem IsBlanks.endsName_append (h : IsBlanks cs) (hrest : EndsName rest) :
    EndsName (cs ++ rest) := by
  cases cs with
  | nil => exact hrest
  | cons c cs =>
    intro d hd
    obtain rfl : c = d := Option.some.inj hd
    exact eq_false_of_isBlank isBlank_of_isNameChar (h c List.mem_cons_self)

theorem endsName_nil : EndsName [] := by
  intro c hc
  cases hc

/-- At the end of a text, or in front of blanks, a name is complete. -/
theorem IsBlanks.endsName (h : IsBlanks cs) : EndsName cs := by
  have happend := h.endsName_append endsName_nil
  rwa [List.append_nil] at happend

/-- A character that no name has ends one. -/
theorem endsName_cons {c : Char} (h : isNameChar c = false) (cs : List Char) :
    EndsName (c :: cs) := by
  intro d hd
  obtain rfl : c = d := Option.some.inj hd
  exact h

/-- **A name.** What is read is the longest name at the start, so no character of names follows
it. -/
theorem name?_eq_some_iff :
    name? cs = some (name, rest) ↔ IsName name ∧ cs = name ++ rest ∧ EndsName rest := by
  constructor
  · intro h
    rw [name?, run?] at h
    split at h
    · cases h
    · next hnonempty =>
      obtain ⟨rfl, rfl⟩ := Prod.mk.inj (Option.some.inj h)
      refine ⟨⟨by simpa using hnonempty, fun c hc => List.mem_takeWhile_imp hc⟩,
        List.takeWhile_append_dropWhile.symm, ?_⟩
      intro c hc
      have hhead := List.head?_dropWhile_not isNameChar cs
      rw [Option.mem_def.1 hc] at hhead
      simpa using hhead
  · rintro ⟨hname, rfl, hrest⟩
    exact hname.name?_append hrest

/-- **A fixed word.** Nothing is asked of what follows: a word may be the start of a longer one. -/
theorem after?_eq_some_iff : after? start cs = some rest ↔ cs = start ++ rest := by
  constructor
  · exact eq_append_of_after?
  · rintro rfl
    exact after?_append start rest

/-- Dropping the blanks at the start leaves what does not start with one. As an equivalence it says
of a trimmed text what it was made from. -/
theorem trimStart_eq_iff :
    trimStart cs = rest ↔ ∃ blanks, IsBlanks blanks ∧ cs = blanks ++ rest ∧ StartsPlain rest := by
  constructor
  · rintro rfl
    refine ⟨cs.takeWhile isBlank, fun c hc => List.mem_takeWhile_imp hc,
      List.takeWhile_append_dropWhile.symm, ?_⟩
    intro c hc
    have hhead := List.head?_dropWhile_not isBlank cs
    rw [trimStart] at hc
    rw [Option.mem_def.1 hc] at hhead
    simpa using hhead
  · rintro ⟨blanks, hblanks, rfl, hrest⟩
    rw [trimStart_append hblanks]
    cases rest with
    | nil => rfl
    | cons c rest => exact trimStart_cons_of_not_isBlank (hrest c rfl) rest

/-- **Some blanks**, at least one, and all there are. -/
theorem blanks?_eq_some_iff :
    blanks? cs = some rest ↔
      ∃ blanks, blanks ≠ [] ∧ IsBlanks blanks ∧ cs = blanks ++ rest ∧ StartsPlain rest := by
  cases cs with
  | nil =>
    constructor
    · intro h
      cases h
    · rintro ⟨blanks, hnonempty, -, hsplit, -⟩
      exact absurd (List.append_eq_nil_iff.1 hsplit.symm).1 hnonempty
  | cons c cs =>
    rw [blanks?]
    constructor
    · intro h
      split at h
      · next hc =>
        obtain ⟨blanks, hblanks, hsplit, hrest⟩ := trimStart_eq_iff.1 (Option.some.inj h)
        refine ⟨c :: blanks, List.cons_ne_nil c blanks, ?_, by rw [hsplit, List.cons_append], hrest⟩
        intro d hd
        rcases List.mem_cons.1 hd with rfl | hd
        · exact hc
        · exact hblanks d hd
      · cases h
    · rintro ⟨blanks, hnonempty, hblanks, hsplit, hrest⟩
      obtain ⟨d, blanks, rfl⟩ := List.exists_cons_of_ne_nil hnonempty
      obtain ⟨rfl, rfl⟩ := List.cons.inj hsplit
      rw [if_pos (hblanks c List.mem_cons_self), Option.some.injEq]
      refine trimStart_eq_iff.2 ⟨blanks, ?_, rfl, hrest⟩
      intro d hd
      exact hblanks d (List.mem_cons_of_mem c hd)

end Text

namespace IsName

open Text

variable {name : List Char}

/-- A text that starts with a name is not trimmed. -/
theorem startsPlain_append (h : IsName name) (rest : List Char) : StartsPlain (name ++ rest) := by
  obtain ⟨c, cs, rfl⟩ := List.exists_cons_of_ne_nil h.nonempty
  intro d hd
  obtain rfl : c = d := Option.some.inj hd
  exact isBlank_of_isNameChar (h.nameChars c List.mem_cons_self)

end IsName

/-! ## Conditions -/

namespace JoinCondition

open Text

variable {condition : JoinCondition} {cs rest : List Char}

/-- A condition of names. -/
structure IsNamed (condition : JoinCondition) : Prop where
  leftTable : IsName condition.leftTable.toList
  leftField : IsName condition.leftField.toList
  rightTable : IsName condition.rightTable.toList
  rightField : IsName condition.rightField.toList

/-- A condition as it is written, given what stands in front of the equals sign and behind it. -/
def text (condition : JoinCondition) (front back : List Char) : List Char :=
  condition.leftTable.toList ++ '.' :: (condition.leftField.toList ++ (front ++ '=' :: (back ++
    (condition.rightTable.toList ++ '.' :: condition.rightField.toList))))

/-- Whether a text is a condition: names, and blanks nowhere but around the equals sign. -/
def IsWrittenAs (condition : JoinCondition) (cs : List Char) : Prop :=
  condition.IsNamed ∧ ∃ front back, IsBlanks front ∧ IsBlanks back ∧
    cs = condition.text front back

/-- A condition starts with the name of its left table. -/
theorem IsWrittenAs.startsPlain_append (h : condition.IsWrittenAs cs) (rest : List Char) :
    StartsPlain (cs ++ rest) := by
  obtain ⟨hnamed, front, back, -, -, rfl⟩ := h
  rw [text, List.append_assoc]
  exact hnamed.leftTable.startsPlain_append _

/-- **A column** is a table and a field, with a dot and nothing else between them. -/
theorem column?_eq_some_iff {table field : String} :
    column? cs = some (table, field, rest) ↔
      IsName table.toList ∧ IsName field.toList ∧
        cs = table.toList ++ '.' :: (field.toList ++ rest) ∧ EndsName rest := by
  constructor
  · intro h
    obtain ⟨⟨readTable, afterTable⟩, htable, h⟩ := Option.bind_eq_some_iff.1 h
    obtain ⟨start, hstart, h⟩ := Option.bind_eq_some_iff.1 h
    obtain ⟨⟨readField, left⟩, hfield, h⟩ := Option.bind_eq_some_iff.1 h
    obtain ⟨rfl, rfl, rfl⟩ : String.ofList readTable = table ∧ String.ofList readField = field ∧
        left = rest := by simpa using h
    obtain ⟨hname, rfl, -⟩ := name?_eq_some_iff.1 htable
    obtain rfl := after?_eq_some_iff.1 hstart
    obtain ⟨hfieldName, rfl, hrest⟩ := name?_eq_some_iff.1 hfield
    rw [String.toList_ofList, String.toList_ofList]
    exact ⟨hname, hfieldName, rfl, hrest⟩
  · rintro ⟨htable, hfield, rfl, hrest⟩
    have hdot : EndsName ('.' :: (field.toList ++ rest)) := endsName_cons (by decide) _
    have hreadTable := name?_eq_some_iff.2 ⟨htable, rfl, hdot⟩
    have hreadField := name?_eq_some_iff.2 ⟨hfield, rfl, hrest⟩
    refine bind_eq_some hreadTable ?_
    refine bind_eq_some (after?_eq_some_iff.2 rfl) ?_
    refine bind_eq_some hreadField ?_
    simp

/-- **A condition.** The blanks around the equals sign are trimmed away by the reader, so the
written form says that there are some without saying which. -/
theorem read?_eq_some_iff :
    read? cs = some (condition, rest) ↔
      ∃ written, condition.IsWrittenAs written ∧ cs = written ++ rest ∧ EndsName rest := by
  constructor
  · intro h
    obtain ⟨⟨leftTable, leftField, afterLeft⟩, hleft, h⟩ := Option.bind_eq_some_iff.1 h
    obtain ⟨start, hstart, h⟩ := Option.bind_eq_some_iff.1 h
    obtain ⟨⟨rightTable, rightField, left⟩, hright, h⟩ := Option.bind_eq_some_iff.1 h
    obtain ⟨rfl, rfl⟩ : (⟨leftTable, leftField, rightTable, rightField⟩ : JoinCondition) =
        condition ∧ left = rest := by simpa using h
    obtain ⟨hleftTable, hleftField, rfl, -⟩ := column?_eq_some_iff.1 hleft
    obtain ⟨front, hfront, rfl, -⟩ := trimStart_eq_iff.1 (after?_eq_some_iff.1 hstart)
    obtain ⟨hrightTable, hrightField, hcolumn, hrest⟩ := column?_eq_some_iff.1 hright
    obtain ⟨back, hback, rfl, -⟩ := trimStart_eq_iff.1 hcolumn
    refine ⟨text ⟨leftTable, leftField, rightTable, rightField⟩ front back,
      ⟨⟨hleftTable, hleftField, hrightTable, hrightField⟩, front, back, hfront, hback, rfl⟩, ?_,
      hrest⟩
    simp [text]
  · rintro ⟨written, ⟨hnamed, front, back, hfront, hback, rfl⟩, rfl, hrest⟩
    obtain ⟨leftTable, leftField, rightTable, rightField⟩ := condition
    obtain ⟨hleftTable, hleftField, hrightTable, hrightField⟩ := hnamed
    dsimp only at hleftTable hleftField hrightTable hrightField
    -- the right side, and the equals sign in front of it
    let right := rightTable.toList ++ '.' :: (rightField.toList ++ rest)
    have htrim : trimStart (back ++ right) = right :=
      trimStart_eq_iff.2 ⟨back, hback, rfl, hrightTable.startsPlain_append _⟩
    have hright : column? right = some (rightTable, rightField, rest) :=
      column?_eq_some_iff.2 ⟨hrightTable, hrightField, rfl, hrest⟩
    have hequals : trimStart (front ++ '=' :: (back ++ right)) = ['='] ++ (back ++ right) := by
      refine trimStart_eq_iff.2 ⟨front, hfront, rfl, ?_⟩
      intro c hc
      obtain rfl : '=' = c := Option.some.inj hc
      decide
    have hleft : column? (leftTable.toList ++ '.' :: (leftField.toList ++
        (front ++ '=' :: (back ++ right)))) =
          some (leftTable, leftField, front ++ '=' :: (back ++ right)) :=
      column?_eq_some_iff.2 ⟨hleftTable, hleftField, rfl,
        hfront.endsName_append (endsName_cons (by decide) _)⟩
    have htext : text ⟨leftTable, leftField, rightTable, rightField⟩ front back ++ rest =
        leftTable.toList ++ '.' :: (leftField.toList ++ (front ++ '=' :: (back ++ right))) := by
      simp [text, right]
    rw [htext]
    refine bind_eq_some hleft ?_
    refine bind_eq_some (after?_eq_some_iff.2 hequals) ?_
    dsimp only
    rw [htrim]
    exact bind_eq_some hright rfl

/-- Whether a text is a condition that is added to another one: blanks and the word `AND` in front
of it, and blanks between the two. -/
def IsAddedAs (condition : JoinCondition) (cs : List Char) : Prop :=
  ∃ front back written, front ≠ [] ∧ IsBlanks front ∧ back ≠ [] ∧ IsBlanks back ∧
    condition.IsWrittenAs written ∧ cs = front ++ 'A' :: 'N' :: 'D' :: (back ++ written)

/-- An added condition starts with a blank, so the condition in front of it is complete. -/
theorem IsAddedAs.endsName_append (h : condition.IsAddedAs cs) (rest : List Char) :
    EndsName (cs ++ rest) := by
  obtain ⟨front, back, written, hnonempty, hfront, -, -, -, rfl⟩ := h
  obtain ⟨c, front, rfl⟩ := List.exists_cons_of_ne_nil hnonempty
  exact endsName_cons (eq_false_of_isBlank isBlank_of_isNameChar (hfront c List.mem_cons_self)) _

/-- An added condition is more than blanks. -/
theorem IsAddedAs.not_blank (h : condition.IsAddedAs cs) (rest : List Char) :
    ¬ IsBlanks (cs ++ rest) := by
  obtain ⟨front, back, written, -, -, -, -, -, rfl⟩ := h
  intro hblank
  have hword := hblank 'A' (by simp)
  revert hword
  decide

/-! ## Two conditions with one table in common -/

/-- Whether a table is named twice by two conditions, and the other tables once. -/
structure IsShared (first second : JoinCondition) (shared : String) : Prop where
  twice : (first.tables ++ second.tables).count shared = 2
  others : ∀ table ∈ first.tables ++ second.tables, table ≠ shared →
    (first.tables ++ second.tables).count table = 1

end JoinCondition

/-! ## Joins -/

namespace Join

open Text JoinCondition

/-- How a join is written. -/
inductive IsWrittenAs : Join → String → Prop where
  /-- One condition, with blanks around it. -/
  | one {raw : String} {first : JoinCondition} {front written back : List Char}
      (hfront : IsBlanks front) (hback : IsBlanks back) (hfirst : first.IsWrittenAs written)
      (htext : raw.toList = front ++ (written ++ back)) : IsWrittenAs ⟨raw, first, none⟩ raw
  /-- Two conditions that share a table, with blanks around both. -/
  | two {raw shared : String} {first second : JoinCondition}
      {front written added back : List Char} (hfront : IsBlanks front) (hback : IsBlanks back)
      (hfirst : first.IsWrittenAs written) (hsecond : second.IsAddedAs added)
      (hshared : IsShared first second shared)
      (htext : raw.toList = front ++ (written ++ (added ++ back))) :
      IsWrittenAs ⟨raw, first, some second⟩ raw

variable {cs rest : List Char} {first second condition : JoinCondition} {shared : String}

/-! ### The shape of two conditions -/

/-- A list without its repetitions has none. -/
theorem nodup_eraseDups {α : Type} [BEq α] [LawfulBEq α] (l : List α) : l.eraseDups.Nodup := by
  induction hlength : l.length using Nat.strongRecOn generalizing l with
  | ind length ih =>
    cases l with
    | nil => simp
    | cons head tail =>
      rw [List.eraseDups_cons, List.nodup_cons]
      refine ⟨by simp, ih _ ?_ _ rfl⟩
      have hle := List.length_filter_le (fun other => !other == head) tail
      rw [List.length_cons] at hlength
      omega

/-- Of two conditions that share a table three tables are different: that one, and the other two
places. The list without repetitions is a permutation of these three. -/
theorem hasPivotShape_of_isShared (h : IsShared first second shared) :
    hasPivotShape first second = true := by
  let names := first.tables ++ second.tables
  let others := names.filter (· ≠ shared)
  have htwice : names.count shared = 2 := h.twice
  have hothers : others.length = 2 := by
    have hsum := List.length_eq_countP_add_countP (· == shared) (l := names)
    have hne : names.countP (fun name => ¬(name == shared) = true) = others.length := by
      simp [others, List.countP_eq_length_filter]
    have hcount : names.countP (· == shared) = 2 := htwice
    have hfour : names.length = 4 := rfl
    omega
  have hnodup : (shared :: others).Nodup := by
    refine List.nodup_cons.2 ⟨by simp [others], List.nodup_iff_count_le_one.2 fun name => ?_⟩
    by_cases hname : name ∈ others
    · obtain ⟨hmem, hne⟩ := List.mem_filter.1 hname
      have hle : others.count name ≤ names.count name := List.filter_sublist.count_le name
      have hone := h.others name hmem (of_decide_eq_true hne)
      exact Nat.le_trans hle (Nat.le_of_eq hone)
    · rw [List.count_eq_zero.2 hname]
      exact Nat.zero_le 1
  have hmem : ∀ name, name ∈ names.eraseDups ↔ name ∈ shared :: others := by
    intro name
    have hshared : shared ∈ names := List.count_pos_iff.1 (by omega)
    rw [List.mem_eraseDups, List.mem_cons]
    by_cases hname : name = shared
    · simp [hname, hshared]
    · simp [hname, others]
  have hperm := (List.perm_ext_iff_of_nodup (nodup_eraseDups names) hnodup).2 hmem
  rw [hasPivotShape, decide_eq_true_eq]
  change names.eraseDups.length = 3
  rw [hperm.length_eq, List.length_cons, hothers]

/-- **The shape of a join of two conditions** is right if there is a table that they share. Of the
four places two have to agree, and the first two that do name the shared table. -/
theorem hasPivotShape_iff :
    hasPivotShape first second = true ↔ ∃ shared, IsShared first second shared := by
  constructor
  · intro h
    obtain ⟨a, _, b, _⟩ := first
    obtain ⟨c, _, d, _⟩ := second
    have hthree : [a, b, c, d].eraseDups.length = 3 := of_decide_eq_true h
    have hshared : ∃ shared, [a, b, c, d].count shared = 2 ∧
        ∀ table ∈ [a, b, c, d], table ≠ shared → [a, b, c, d].count table = 1 := by
      -- the first two places that agree tell the shared table
      by_cases hab : a = b
      · exact ⟨a, by grind⟩
      by_cases hac : a = c
      · exact ⟨a, by grind⟩
      by_cases had : a = d
      · exact ⟨a, by grind⟩
      by_cases hbc : b = c
      · exact ⟨b, by grind⟩
      by_cases hbd : b = d
      · exact ⟨b, by grind⟩
      by_cases hcd : c = d
      · exact ⟨c, by grind⟩
      exfalso
      grind
    obtain ⟨shared, htwice, hothers⟩ := hshared
    exact ⟨shared, htwice, hothers⟩
  · rintro ⟨shared, hshared⟩
    exact hasPivotShape_of_isShared hshared

/-! ### Reading -/

/-- **A condition that is added.** The blanks on both sides of the word are required by the
reader. -/
theorem second?_eq_some_iff :
    second? cs = some (condition, rest) ↔
      ∃ added, condition.IsAddedAs added ∧ cs = added ++ rest ∧ EndsName rest := by
  constructor
  · intro h
    obtain ⟨afterFirst, hfirst, h⟩ := Option.bind_eq_some_iff.1 h
    obtain ⟨afterWord, hword, h⟩ := Option.bind_eq_some_iff.1 h
    obtain ⟨start, hstart, hread⟩ := Option.bind_eq_some_iff.1 h
    obtain ⟨front, hfrontNonempty, hfront, rfl, -⟩ := blanks?_eq_some_iff.1 hfirst
    obtain rfl := after?_eq_some_iff.1 hword
    obtain ⟨back, hbackNonempty, hback, rfl, -⟩ := blanks?_eq_some_iff.1 hstart
    obtain ⟨written, hwritten, rfl, hrest⟩ := read?_eq_some_iff.1 hread
    exact ⟨_, ⟨front, back, written, hfrontNonempty, hfront, hbackNonempty, hback, hwritten, rfl⟩,
      by simp, hrest⟩
  · rintro ⟨added, ⟨front, back, written, hfrontNonempty, hfront, hbackNonempty, hback, hwritten,
      rfl⟩, rfl, hrest⟩
    have hstart : blanks? (back ++ (written ++ rest)) = some (written ++ rest) :=
      blanks?_eq_some_iff.2 ⟨back, hbackNonempty, hback, rfl, hwritten.startsPlain_append rest⟩
    have hfirst : blanks? (front ++ (['A', 'N', 'D'] ++ (back ++ (written ++ rest)))) =
        some (['A', 'N', 'D'] ++ (back ++ (written ++ rest))) := by
      refine blanks?_eq_some_iff.2 ⟨front, hfrontNonempty, hfront, rfl, ?_⟩
      intro c hc
      obtain rfl : 'A' = c := Option.some.inj hc
      decide
    have htext : front ++ 'A' :: 'N' :: 'D' :: (back ++ written) ++ rest =
        front ++ (['A', 'N', 'D'] ++ (back ++ (written ++ rest))) := by simp
    rw [htext]
    refine bind_eq_some hfirst ?_
    refine bind_eq_some (after?_append _ _) ?_
    refine bind_eq_some hstart ?_
    exact read?_eq_some_iff.2 ⟨written, hwritten, rfl, hrest⟩

/-- The first condition is read behind the blanks in front of it. -/
theorem read?_trimStart_eq_some_iff :
    JoinCondition.read? (trimStart cs) = some (first, rest) ↔
      ∃ front written, IsBlanks front ∧ first.IsWrittenAs written ∧
        cs = front ++ (written ++ rest) ∧ EndsName rest := by
  rw [read?_eq_some_iff]
  constructor
  · rintro ⟨written, hwritten, htrim, hrest⟩
    obtain ⟨front, hfront, rfl, -⟩ := trimStart_eq_iff.1 htrim
    exact ⟨front, written, hfront, hwritten, rfl, hrest⟩
  · rintro ⟨front, written, hfront, hwritten, rfl, hrest⟩
    exact ⟨written, hwritten, trimStart_eq_iff.2 ⟨front, hfront, rfl,
      hwritten.startsPlain_append rest⟩, hrest⟩

/-- **One condition.** Behind it there is nothing but blanks, which is what the reader looks at
first. -/
theorem conditions?_eq_one_iff :
    conditions? cs = some (first, none) ↔
      ∃ front written back, IsBlanks front ∧ IsBlanks back ∧ first.IsWrittenAs written ∧
        cs = front ++ (written ++ back) := by
  constructor
  · intro h
    obtain ⟨⟨read, rest⟩, hfirst, h⟩ := Option.bind_eq_some_iff.1 h
    dsimp only at h
    split at h
    · next hblank =>
      obtain ⟨rfl, -⟩ := Prod.mk.inj (Option.some.inj h)
      obtain ⟨front, written, hfront, hwritten, rfl, -⟩ := read?_trimStart_eq_some_iff.1 hfirst
      exact ⟨front, written, rest, hfront, List.all_eq_true.1 hblank, hwritten, rfl⟩
    · obtain ⟨⟨second, left⟩, -, h⟩ := Option.bind_eq_some_iff.1 h
      dsimp only at h
      split at h
      · cases (Prod.mk.inj (Option.some.inj h)).2
      · cases h
  · rintro ⟨front, written, back, hfront, hback, hwritten, rfl⟩
    have hfirst := read?_trimStart_eq_some_iff.2
      ⟨front, written, hfront, hwritten, rfl, hback.endsName⟩
    refine bind_eq_some hfirst ?_
    exact if_pos (List.all_eq_true.2 hback)

/-- **Two conditions.** There is more than blanks behind the first one, and only blanks behind the
second. -/
theorem conditions?_eq_two_iff :
    conditions? cs = some (first, some second) ↔
      ∃ front written added back, IsBlanks front ∧ IsBlanks back ∧ first.IsWrittenAs written ∧
        second.IsAddedAs added ∧ cs = front ++ (written ++ (added ++ back)) := by
  constructor
  · intro h
    obtain ⟨⟨read, rest⟩, hfirst, h⟩ := Option.bind_eq_some_iff.1 h
    dsimp only at h
    split at h
    · cases (Prod.mk.inj (Option.some.inj h)).2
    · obtain ⟨⟨readSecond, left⟩, hsecond, h⟩ := Option.bind_eq_some_iff.1 h
      dsimp only at h
      split at h
      · next hblank =>
        obtain ⟨rfl, hsame⟩ := Prod.mk.inj (Option.some.inj h)
        obtain rfl := Option.some.inj hsame
        obtain ⟨front, written, hfront, hwritten, rfl, -⟩ := read?_trimStart_eq_some_iff.1 hfirst
        obtain ⟨added, hadded, rfl, -⟩ := second?_eq_some_iff.1 hsecond
        exact ⟨front, written, added, left, hfront, List.all_eq_true.1 hblank, hwritten, hadded,
          rfl⟩
      · cases h
  · rintro ⟨front, written, added, back, hfront, hback, hwritten, hadded, rfl⟩
    have hfirst := read?_trimStart_eq_some_iff.2
      ⟨front, written, hfront, hwritten, rfl, hadded.endsName_append back⟩
    have hsecond := second?_eq_some_iff.2 ⟨added, hadded, rfl, hback.endsName⟩
    have hnot : ¬ (added ++ back).all isBlank = true := by
      rw [List.all_eq_true]
      exact hadded.not_blank back
    refine bind_eq_some hfirst ?_
    dsimp only
    rw [if_neg hnot]
    refine bind_eq_some hsecond ?_
    exact if_pos (List.all_eq_true.2 hback)

/-- A join is read from the texts that it is written as, and from no others. Its own text is a part
of it, so the join is not only some join with these conditions. -/
theorem parse_eq_ok_iff {raw : String} {join : Join} :
    parse raw = .ok join ↔ join.IsWrittenAs raw := by
  constructor
  · intro h
    rw [parse] at h
    split at h
    · cases h
    · next first hread =>
      obtain rfl := Except.ok.inj h
      obtain ⟨front, written, back, hfront, hback, hfirst, htext⟩ := conditions?_eq_one_iff.1 hread
      exact .one hfront hback hfirst htext
    · next first second hread =>
      split at h
      · next hshape =>
        obtain rfl := Except.ok.inj h
        obtain ⟨shared, hshared⟩ := hasPivotShape_iff.1 hshape
        obtain ⟨front, written, added, back, hfront, hback, hfirst, hsecond, htext⟩ :=
          conditions?_eq_two_iff.1 hread
        exact .two hfront hback hfirst hsecond hshared htext
      · cases h
  · intro h
    cases h with
    | one hfront hback hfirst htext =>
      have hread := conditions?_eq_one_iff.2 ⟨_, _, _, hfront, hback, hfirst, htext⟩
      rw [parse, hread]
    | two hfront hback hfirst hsecond hshared htext =>
      have hread := conditions?_eq_two_iff.2 ⟨_, _, _, _, hfront, hback, hfirst, hsecond, htext⟩
      rw [parse, hread]
      exact if_pos (hasPivotShape_iff.2 ⟨_, hshared⟩)

/-- Whatever is not read as a join is refused as one, with the text itself. -/
theorem parse_eq_error {raw : String} {error : Error} (h : parse raw = .error error) :
    ∃ reason, error = .joinSyntax raw reason := by
  rw [parse] at h
  split at h
  · exact ⟨_, (Except.error.inj h).symm⟩
  · cases h
  · split at h
    · cases h
    · exact ⟨_, (Except.error.inj h).symm⟩

/-- **Joins are read exactly as they are written.** A text is read as a join if and only if the join
is written so. There is at most one such join, and every other text is a syntax error. That there is
at most one follows from the first part, since reading is a function. -/
theorem parse_reads_exactly (raw : String) :
    (∀ join, parse raw = .ok join ↔ join.IsWrittenAs raw) ∧
      (∀ join other : Join, join.IsWrittenAs raw → other.IsWrittenAs raw → join = other) ∧
        ((¬ ∃ join : Join, join.IsWrittenAs raw) → ∃ reason,
          parse raw = .error (.joinSyntax raw reason)) := by
  refine ⟨fun join => parse_eq_ok_iff, ?_, ?_⟩
  · intro join other hjoin hother
    have hread := parse_eq_ok_iff.2 hjoin
    rw [parse_eq_ok_iff.2 hother] at hread
    exact (Except.ok.inj hread).symm
  · intro hnone
    cases hread : parse raw with
    | ok join => exact absurd ⟨join, parse_eq_ok_iff.1 hread⟩ hnone
    | error error =>
      obtain ⟨reason, rfl⟩ := parse_eq_error hread
      exact ⟨reason, rfl⟩

/-- A join in which a table, two fields and the word between the conditions are all `AND`. -/
def andText : String := "\tAND.AND = b.AND  AND\nb.x=c2.y "

/-- What it says. -/
def andJoin : Join where
  raw := andText
  first := ⟨"AND", "AND", "b", "AND"⟩
  second := some ⟨"b", "x", "c2", "y"⟩

/-- Tabs, line feeds and several blanks stand where blanks may stand, and the word `AND` in four
roles. -/
theorem parse_reads_exactly_andText :
    andJoin.IsWrittenAs andText ∧ parse andText = .ok andJoin ∧
      ∀ other : Join, other.IsWrittenAs andText → other = andJoin := by
  have hfirst : (⟨"AND", "AND", "b", "AND"⟩ : JoinCondition).IsWrittenAs
      "AND.AND = b.AND".toList :=
    ⟨⟨by decide, by decide, by decide, by decide⟩, [' '], [' '], by decide, by decide, by decide⟩
  have hsecond : (⟨"b", "x", "c2", "y"⟩ : JoinCondition).IsAddedAs "  AND\nb.x=c2.y".toList :=
    ⟨[' ', ' '], ['\n'], "b.x=c2.y".toList, by decide, by decide, by decide, by decide,
      ⟨⟨by decide, by decide, by decide, by decide⟩, [], [], by decide, by decide, by decide⟩,
      by decide⟩
  have hshared : IsShared ⟨"AND", "AND", "b", "AND"⟩ ⟨"b", "x", "c2", "y"⟩ "b" :=
    ⟨by decide, by decide⟩
  have hfront : IsBlanks ['\t'] := by decide
  have hback : IsBlanks [' '] := by decide
  have hwritten : andJoin.IsWrittenAs andText :=
    .two hfront hback hfirst hsecond hshared (by decide)
  obtain ⟨hexactly, hunique, -⟩ := parse_reads_exactly andText
  exact ⟨hwritten, (hexactly andJoin).2 hwritten, fun other hother =>
    hunique other andJoin hother hwritten⟩

end Join

end EntitySchema
