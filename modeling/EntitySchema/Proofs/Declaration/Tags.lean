/-
Lists of tags.

The tags of a line stand behind a blank, with a comma and a blank between two of them. Reading cuts
such a list at its commas, trims the pieces and drops those that are empty; a tag that is a
`Text.IsPiece` survives all of this, so the list is read back as it was written
(`splitTags_intercalate`). A tag may fail to be a piece and still stand on a line: a quoted text
with a comma in it is cut like anything else. `Text.IsListed` is what such a tag keeps, and the
lemmas about where a list starts and ends are stated for it, so that they serve both the lines that
are read back and those that are not.

Reading then adds one tag after the other to the line, and of two tags that set the same attribute
the later one wins. `part_foldl` says what this comes to when every attribute is set at most once:
the order of the tags does not matter. Attributes that collect their tags, the indexes of a field,
keep the order in which the tags stand; that is `part_foldl_append`.

Fields and methods have different tags and are read by different readers, but both write their tags
with `tagsText` and add them with a fold. What is said here knows of neither. The lemmas about
readers at the start are of the same kind: each says how far one of the small readers of `Text.Scan`
gets on a text that is put together by appending, and the proofs about lines chain them from left to
right.
-/
import EntitySchema.Declaration.Basic
import EntitySchema.Proofs.Lines.Physical
import EntitySchema.Proofs.Naming.Studly

set_option autoImplicit false

namespace EntitySchema

/-! ## Reading from the left -/

namespace Text

variable {p : Char → Bool} {cs rest : List Char}

/-- A reader that goes on where another one has stopped. The round trips are chains of this lemma,
one link a part of the line, which is easier to follow than a rewrite of the whole reader at
once. -/
theorem bind_eq_some {α β : Type} {reader : Option α} {next : α → Option β} {first : α} {last : β}
    (hfirst : reader = some first) (hnext : next first = some last) :
    (reader >>= next) = some last :=
  Option.bind_eq_some_iff.2 ⟨first, hfirst, hnext⟩

/-- A run ends where a character does not belong to it. At the end of the text there is none, hence
the hypothesis about `head?`: it is empty for a text that ends. -/
theorem run?_append (hnonempty : cs ≠ []) (h : ∀ c ∈ cs, p c = true)
    (hrest : ∀ c ∈ rest.head?, p c = false) : run? p (cs ++ rest) = some (cs, rest) := by
  have htake : rest.takeWhile p = [] := by
    cases rest with
    | nil => rfl
    | cons c rest => exact List.takeWhile_cons_of_neg (by simp [hrest c rfl])
  have hdrop : rest.dropWhile p = rest := by
    cases rest with
    | nil => rfl
    | cons c rest => exact List.dropWhile_cons_of_neg (by simp [hrest c rfl])
  rw [run?, List.takeWhile_append_of_pos h, List.dropWhile_append_of_pos h, htake, hdrop,
    List.append_nil, if_neg (by simpa using hnonempty)]

/-- A text of characters that are not blank is not trimmed. -/
theorem trimStart_append_of_nonblank (hnonempty : cs ≠ []) (h : ∀ c ∈ cs, isBlank c = false)
    (rest : List Char) : trimStart (cs ++ rest) = cs ++ rest := by
  obtain ⟨c, cs, rfl⟩ := List.exists_cons_of_ne_nil hnonempty
  exact trimStart_cons_of_not_isBlank (h c List.mem_cons_self) _

/-- A blank in front is trimmed. -/
theorem trimStart_space (cs : List Char) : trimStart (' ' :: cs) = trimStart cs := rfl

/-- A class of characters without blanks has no blank. Stated this way round it closes the side
condition of `run?_append` when a blank follows. -/
theorem eq_false_of_isBlank {c : Char} (hp : p c = true → isBlank c = false)
    (hblank : isBlank c = true) : p c = false := by
  rw [← Bool.not_eq_true]
  intro hc
  rw [hp hc] at hblank
  cases hblank

/-- A text that starts with another character does not continue a start. -/
theorem after?_cons_of_ne {s c : Char} (h : s ≠ c) (start cs : List Char) :
    after? (s :: start) (c :: cs) = none := by
  rw [after?, if_neg h]

/-- What stands between a start and a stop is found there, also if the stop occurs inside: only the
end of the text counts. -/
theorem between?_append (start stop cs : List Char) :
    between? start stop (start ++ (cs ++ stop)) = some cs := by
  have hsuffix : stop.isSuffixOf (cs ++ stop) = true :=
    List.isSuffixOf_iff_suffix.2 (List.suffix_append cs stop)
  rw [between?, after?_append, Option.bind_some, if_pos hsuffix, List.length_append,
    Nat.add_sub_cancel, List.take_left]

/-- A text without the start has nothing between it and the stop. -/
theorem between?_eq_none {start : List Char} (h : after? start cs = none) (stop : List Char) :
    between? start stop cs = none := by
  rw [between?, h, Option.bind_none]

/-- A text without a line feed is one line. -/
theorem oneLine?_of_not_mem (h : '\n' ∉ cs) : oneLine? cs = some cs := by
  have hall : ∀ c ∈ cs, (c != '\n') = true := by
    intro c hc
    exact bne_iff_ne.2 fun heq => h (heq ▸ hc)
  rw [oneLine?, List.dropWhile_eq_nil_iff.2 hall, List.takeWhile_eq_self_iff.2 hall]
  rfl

/-! ## Pieces between commas -/

/-- A text that is kept whole when a list of tags is cut at its commas and trimmed. -/
structure IsPiece (cs : List Char) : Prop where
  noComma : ',' ∉ cs
  noFeed : '\n' ∉ cs
  first : ∃ c ∈ cs.head?, isBlank c = false
  last : ∃ c ∈ cs.getLast?, isBlank c = false

/-- A text that may stand in a list of tags, whether the list is cut inside it or not. -/
structure IsListed (cs : List Char) : Prop where
  noFeed : '\n' ∉ cs
  first : ∃ c ∈ cs.head?, isBlank c = false

/-- A piece may stand in a list, whole. -/
theorem IsPiece.isListed (h : IsPiece cs) : IsListed cs := ⟨h.noFeed, h.first⟩

/-- What starts with a character that is not blank is not trimmed, whatever follows it. -/
theorem IsListed.trimStart_append (h : IsListed cs) (more : List Char) :
    trimStart (cs ++ more) = cs ++ more := by
  obtain ⟨c, hc, hblank⟩ := h.first
  obtain ⟨rest, rfl⟩ := List.head?_eq_some_iff.1 hc
  exact trimStart_cons_of_not_isBlank hblank _

/-- A text without the separator is one piece. -/
theorem splitOn_of_not_mem {sep : Char} (h : sep ∉ cs) : splitOn sep cs = [cs] := by
  induction cs with
  | nil => rfl
  | cons c cs ih =>
    rw [List.mem_cons, not_or] at h
    rw [splitOn, if_neg (Ne.symm h.1), ih h.2]

/-- The first piece ends at the first separator. By induction on the piece, whose characters are
passed one by one. -/
theorem splitOn_append_cons {sep : Char} (h : sep ∉ cs) (rest : List Char) :
    splitOn sep (cs ++ sep :: rest) = cs :: splitOn sep rest := by
  induction cs with
  | nil => rw [List.nil_append, splitOn, if_pos rfl]
  | cons c cs ih =>
    rw [List.mem_cons, not_or] at h
    rw [List.cons_append, splitOn, if_neg (Ne.symm h.1), ih h.2]

/-- Blanks around a list are never taken for a separator. -/
theorem comma_not_mem_of_blank (h : ∀ c ∈ cs, isBlank c = true) : ',' ∉ cs := by
  intro hmem
  exact absurd (h ',' hmem) (by decide)

namespace IsPiece

/-- A piece has a first character, so it is not among the empty pieces that reading drops. -/
theorem nonempty (h : IsPiece cs) : cs ≠ [] := by
  obtain ⟨c, hc, -⟩ := h.first
  rintro rfl
  cases hc

/-- Nothing is trimmed off a piece, at neither end. -/
theorem trim_eq (h : IsPiece cs) : trim cs = cs := by
  obtain ⟨c, hc, hblank⟩ := h.last
  obtain ⟨start, hsplit⟩ := List.getLast?_eq_some_iff.1 hc
  have hstart := h.isListed.trimStart_append []
  rw [List.append_nil] at hstart
  rw [trim, hstart, hsplit, trimEnd_append_of_not_isBlank start hblank]

/-- A start, a text and a stop are a piece if the text has no comma and no line feed. The blanks of
the text do not matter, since it is not at an end. -/
theorem append {start stop : List Char} (hstart : IsPiece start) (hstop : IsPiece stop)
    (hcomma : ',' ∉ cs) (hfeed : '\n' ∉ cs) : IsPiece (start ++ (cs ++ stop)) := by
  constructor
  case noComma => simp [hstart.noComma, hcomma, hstop.noComma]
  case noFeed => simp [hstart.noFeed, hfeed, hstop.noFeed]
  case first =>
    rw [List.head?_append_of_ne_nil _ hstart.nonempty]
    exact hstart.first
  case last =>
    rw [← List.append_assoc, List.getLast?_append_of_ne_nil _ hstop.nonempty]
    exact hstop.last

end IsPiece

instance (cs : List Char) : Decidable (IsPiece cs) :=
  decidable_of_iff (',' ∉ cs ∧ '\n' ∉ cs ∧ cs.head?.any (!isBlank ·) = true ∧
      cs.getLast?.any (!isBlank ·) = true)
    ⟨fun h => ⟨h.1, h.2.1, by simpa [Option.any_eq_true] using h.2.2.1,
        by simpa [Option.any_eq_true] using h.2.2.2⟩,
      fun h => ⟨h.noComma, h.noFeed, by simpa [Option.any_eq_true] using h.first,
        by simpa [Option.any_eq_true] using h.last⟩⟩

end Text

/-! ## Lists of tags -/

section Splitting

open Text

variable {tags : List (List Char)} {front back : List Char}

/-- Cutting at the commas and trimming gives the tags back, whatever blanks stand in front of them
and behind them. The induction is on the tags. Each step cuts off the first one, and the blank that
is written behind its comma becomes the front of the rest. -/
theorem map_trim_splitOn (htags : ∀ tag ∈ tags, IsPiece tag) (hnonempty : tags ≠ [])
    (hfront : ∀ c ∈ front, isBlank c = true) (hback : ∀ c ∈ back, isBlank c = true) :
    (splitOn ',' (front ++ ([',', ' '].intercalate tags ++ back))).map trim = tags := by
  induction tags generalizing front with
  | nil => exact absurd rfl hnonempty
  | cons tag tags ih =>
    have htag := htags tag List.mem_cons_self
    have hcomma : ',' ∉ front ++ tag := by
      rw [List.mem_append, not_or]
      exact ⟨comma_not_mem_of_blank hfront, htag.noComma⟩
    cases tags with
    | nil =>
      have hlast : ',' ∉ front ++ (tag ++ back) := by
        rw [← List.append_assoc, List.mem_append, not_or]
        exact ⟨hcomma, comma_not_mem_of_blank hback⟩
      rw [List.intercalate_singleton, splitOn_of_not_mem hlast, List.map_singleton,
        trim_append_left hfront, trim_append hback, htag.trim_eq]
    | cons next tags =>
      have hspace : ∀ c ∈ [' '], isBlank c = true := List.all_eq_true.1 (by decide)
      have hrest := ih (fun other hother => htags other (List.mem_cons_of_mem tag hother))
        (List.cons_ne_nil next tags) hspace
      have htext : front ++ ([',', ' '].intercalate (tag :: next :: tags) ++ back) =
          (front ++ tag) ++ ',' :: ([' '] ++ ([',', ' '].intercalate (next :: tags) ++ back)) := by
        simp [List.intercalate_cons_cons]
      rw [htext, splitOn_append_cons hcomma, List.map_cons, hrest, trim_append_left hfront,
        htag.trim_eq]

/-- **A list of tags is read as it is written**, and blanks behind it do not matter. No tags at all
are a case of their own: cutting the empty text gives one empty piece, which is dropped. -/
theorem splitTags_intercalate (htags : ∀ tag ∈ tags, IsPiece tag)
    (hback : ∀ c ∈ back, isBlank c = true) :
    splitTags ([',', ' '].intercalate tags ++ back) = tags := by
  by_cases hnil : tags = []
  · subst hnil
    rw [List.intercalate_nil, List.nil_append, splitTags,
      splitOn_of_not_mem (comma_not_mem_of_blank hback), List.map_singleton,
      trim_eq_nil_iff.2 hback]
    rfl
  · have hpieces := map_trim_splitOn htags hnil (List.forall_mem_nil _) hback
    rw [List.nil_append] at hpieces
    rw [splitTags, hpieces, List.filter_eq_self]
    intro tag htag
    simpa using (htags tag htag).nonempty

/-- A list of tags has no line feed. -/
theorem feed_not_mem_intercalate (htags : ∀ tag ∈ tags, IsListed tag) :
    '\n' ∉ [',', ' '].intercalate tags := by
  induction tags with
  | nil => exact fun hmem => nomatch hmem
  | cons tag tags ih =>
    have htag := (htags tag List.mem_cons_self).noFeed
    have hrest := ih fun other hother => htags other (List.mem_cons_of_mem tag hother)
    cases tags with
    | nil => rwa [List.intercalate_singleton]
    | cons next tags =>
      rw [List.intercalate_cons_cons]
      simp [htag, hrest]

/-- A list of tags starts with its first tag. -/
theorem exists_intercalate_eq (htags : ∀ tag ∈ tags, IsListed tag) (hnonempty : tags ≠ []) :
    ∃ tag rest, IsListed tag ∧ [',', ' '].intercalate tags = tag ++ rest := by
  obtain ⟨tag, tags, rfl⟩ := List.exists_cons_of_ne_nil hnonempty
  refine ⟨tag, ?_⟩
  cases tags with
  | nil => exact ⟨[], htags tag List.mem_cons_self, by simp⟩
  | cons next tags =>
    exact ⟨_, htags tag List.mem_cons_self,
      List.intercalate_cons_cons.trans (List.append_assoc _ _ _)⟩

/-- A list of tags does not start with a blank. -/
theorem trimStart_intercalate (htags : ∀ tag ∈ tags, IsListed tag) (hnonempty : tags ≠ [])
    (more : List Char) :
    trimStart ([',', ' '].intercalate tags ++ more) = [',', ' '].intercalate tags ++ more := by
  obtain ⟨tag, rest, htag, heq⟩ := exists_intercalate_eq htags hnonempty
  rw [heq, List.append_assoc]
  exact htag.trimStart_append _

end Splitting

/-- The tags of a line as they are written behind the rest of it. -/
def tagsText (tags : List String) : String :=
  if tags.isEmpty then "" else " " ++ ", ".intercalate tags

/-- The characters of the tags: nothing, or a blank and the list. -/
theorem toList_tagsText (tags : List String) :
    (tagsText tags).toList =
      if tags.isEmpty then [] else ' ' :: [',', ' '].intercalate (tags.map (·.toList)) := by
  rw [tagsText]
  split
  · rfl
  · rw [String.toList_append, String.toList_intercalate]
    rfl

/-- What follows a type or a return type is a blank, if anything does. It is how a name is known to
end there. -/
theorem eq_blank_of_mem_head? {tags : List String} {c : Char}
    (hc : c ∈ (tagsText tags).toList.head?) : c = ' ' := by
  rw [toList_tagsText] at hc
  split at hc
  · cases hc
  · exact (Option.some.inj hc).symm

/-! ## Adding tags -/

/-- What the tag of an attribute that may be absent adds. -/
theorem filterMap_toList {τ β : Type} (adds? : τ → Option β) (tag : Option τ) :
    tag.toList.filterMap adds? = (tag.bind adds?).toList := by
  cases tag with
  | none => rfl
  | some tag =>
    rw [Option.toList_some, Option.bind_some]
    cases hadds : adds? tag with
    | none => rw [List.filterMap_cons_none hadds, List.filterMap_nil, Option.toList_none]
    | some item => rw [List.filterMap_cons_some hadds, List.filterMap_nil, Option.toList_some]

/-- What the tag of an attribute that is on or off adds. -/
theorem filterMap_ite {τ β : Type} (adds? : τ → Option β) (on : Bool) (tag : τ) :
    (if on then [tag] else []).filterMap adds? = (if on then adds? tag else none).toList := by
  cases on with
  | false => rfl
  | true => exact filterMap_toList adds? (some tag)

section Adding

variable {σ τ β : Type} (add : σ → τ → σ) (part : σ → β) (sets? : τ → Option β)
  (hadd : ∀ state tag, part (add state tag) = (sets? tag).getD (part state))
include hadd

/-- Of the tags that set an attribute the last one decides. By induction on the tags, over any
start: what a tag has set is the start of those behind it. -/
theorem part_foldl_last (tags : List τ) (start : σ) :
    part (tags.foldl add start) = ((tags.filterMap sets?).getLast?).getD (part start) := by
  induction tags generalizing start with
  | nil => rfl
  | cons tag tags ih =>
    rw [List.foldl_cons, ih, hadd]
    cases hsets : sets? tag with
    | none => rw [List.filterMap_cons_none hsets, Option.getD_none]
    | some value =>
      rw [List.filterMap_cons_some hsets, List.getLast?_cons, Option.getD_some, Option.getD_some]

/-- An attribute has the value that the last tag sets which sets it. -/
theorem part_foldl_of_last {first last : List τ} {tag : τ} {value : β}
    (htag : sets? tag = some value) (hlast : ∀ other ∈ last, sets? other = none) (start : σ) :
    part ((first ++ tag :: last).foldl add start) = value := by
  rw [part_foldl_last add part sets? hadd, List.filterMap_append, List.filterMap_cons_some htag,
    List.filterMap_eq_nil_iff.2 hlast, List.getLast?_concat, Option.getD_some]

/-- **An attribute that is set at most once** has the value that it is set to, in whatever order the
tags stand. A permutation cannot change a list of at most one setting, and that is all there is to
the freedom in the order of tags. -/
theorem part_foldl {tags others : List τ} (value : Option β) (hperm : tags.Perm others)
    (hvalue : others.filterMap sets? = value.toList) (start : σ) :
    part (tags.foldl add start) = value.getD (part start) := by
  have hsets : (tags.filterMap sets?).Perm value.toList := hvalue ▸ hperm.filterMap sets?
  have heq : tags.filterMap sets? = value.toList := by
    cases value with
    | none => exact List.perm_nil.1 hsets
    | some value => exact List.perm_singleton.1 hsets
  rw [part_foldl_last add part sets? hadd, heq]
  cases value <;> rfl

omit hadd in
/-- An attribute that collects what the tags add to it collects it in their order. -/
theorem part_foldl_append (items : σ → List β) (adds? : τ → Option β)
    (hadd : ∀ state tag, items (add state tag) = items state ++ (adds? tag).toList)
    (tags : List τ) (start : σ) :
    items (tags.foldl add start) = items start ++ tags.filterMap adds? := by
  induction tags generalizing start with
  | nil => rw [List.foldl_nil, List.filterMap_nil, List.append_nil]
  | cons tag tags ih =>
    have hfirst : [tag].filterMap adds? = (adds? tag).toList :=
      filterMap_toList adds? (some tag)
    rw [List.foldl_cons, ih, hadd, List.append_assoc, ← hfirst, ← List.filterMap_append,
      List.singleton_append]

end Adding

end EntitySchema
