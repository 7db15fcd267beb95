/-
Quoted literals in lists of tags.

A default value and an alias stand between quotes, and the rules for them take any text there that
has no quote and no line feed. But a list of tags is cut at its commas before any tag is looked at,
and the cuts know nothing of quotes: a comma in a literal cuts it in two, and the first half is no
tag, since its quote is not closed. `quoted_kept_iff` says that this is all that can go wrong. A
literal without a comma is kept as it is, wherever it stands in its list, and the tags around it
have the effect that they have without it.

The cutting is settled for texts of any kind (`splitTags_intercalate_eq_flatMap`): a list is cut
where its texts meet, and where they are cut themselves. Only one text of our lists is cut itself,
so what is left is to see what becomes of its first piece. It begins with the start of its tag and a
quote, and trimming may take blanks off its end, but it cannot close the quote
(`exists_splitTags_of_comma_mem`). A reader that is given it therefore finds no literal, and no
other tag starts like that.

The tags around the literal are given by what they are read as and not by a text of ours
(`TagsRead`): `Null` and `Nullable` are read as one tag, and both may stand there. They have to be
pieces, since a neighbour that is cut itself would be an error of its own. Both lines are written
behind a line without tags, so that the list holds the literal and its neighbours and nothing else.

The two halves of the statement, for fields and for methods, are proved side by side. What they
share is above; what differs is the reader of a tag and the label in the error.
-/
import EntitySchema.Proofs.Declaration.Methods

set_option autoImplicit false

namespace EntitySchema

open Outcome

/-! ## Cutting a list of texts -/

section Cutting

open Text

variable {start stop value : List Char}

/-- A text is cut at each of its separators. By induction on the text in front, of which the last
piece is the one that ends at the separator. -/
theorem Text.splitOn_append (sep : Char) (front back : List Char) :
    splitOn sep (front ++ sep :: back) = splitOn sep front ++ splitOn sep back := by
  induction front with
  | nil => rw [List.nil_append, splitOn.eq_2, if_pos rfl, splitOn, List.singleton_append]
  | cons c front ih =>
    obtain ⟨piece, pieces, hpieces⟩ := List.exists_cons_of_ne_nil (splitOn_ne_nil sep front)
    rw [hpieces] at ih
    rw [List.cons_append, splitOn, splitOn, ih, hpieces]
    split <;> rfl

/-- A blank behind a comma is trimmed. It belongs to the first piece, whatever that is. -/
theorem map_trim_splitOn_space (cs : List Char) :
    (splitOn ',' (' ' :: cs)).map trim = (splitOn ',' cs).map trim := by
  obtain ⟨piece, pieces, hpieces⟩ := List.exists_cons_of_ne_nil (splitOn_ne_nil ',' cs)
  rw [splitOn, if_neg (by decide), hpieces, List.map_cons, List.map_cons, trim, trimStart_space,
    trim]

/-- **A list of texts is cut where they meet and where they are cut themselves.** Nothing is asked
of the texts; they may be empty or blank, and then they leave nothing behind. -/
theorem splitTags_intercalate_eq_flatMap (texts : List (List Char)) :
    splitTags ([',', ' '].intercalate texts) = texts.flatMap splitTags := by
  induction texts with
  | nil => rfl
  | cons text texts ih =>
    cases texts with
    | nil => rw [List.intercalate_singleton, List.flatMap_singleton]
    | cons next texts =>
      have hmeet : [',', ' '].intercalate (text :: next :: texts) =
          text ++ ',' :: ' ' :: [',', ' '].intercalate (next :: texts) := by
        simp [List.intercalate_cons_cons]
      rw [List.flatMap_cons, ← ih, hmeet, splitTags, splitOn_append, List.map_append,
        map_trim_splitOn_space, List.filter_append]
      rfl

/-- Texts that are not cut are kept. -/
theorem flatMap_splitTags {texts : List (List Char)} (h : ∀ text ∈ texts, IsPiece text) :
    texts.flatMap splitTags = texts := by
  rw [← splitTags_intercalate_eq_flatMap, ← List.append_nil (List.intercalate _ _),
    splitTags_intercalate h (List.forall_mem_nil _)]

/-- A piece is cut nowhere. -/
theorem splitTags_of_isPiece {text : List Char} (h : IsPiece text) : splitTags text = [text] := by
  rw [← List.flatMap_singleton splitTags text, flatMap_splitTags (List.forall_mem_singleton.2 h)]

/-- What stands between a start and a stop is listed, whatever it is. -/
theorem isListed_between (hstart : IsPiece start) (hstop : IsPiece stop) (hfeed : '\n' ∉ value) :
    IsListed (start ++ (value ++ stop)) := by
  refine ⟨by simp [hstart.noFeed, hfeed, hstop.noFeed], ?_⟩
  rw [List.head?_append_of_ne_nil _ hstart.nonempty]
  exact hstart.first

/-- What stands between a start and a stop stands there: the converse of `between?_append`. It says
what a text looks like of which nothing is known but that a reader takes it. -/
theorem Text.eq_append_of_between? {cs : List Char} (h : between? start stop cs = some value) :
    cs = start ++ (value ++ stop) := by
  obtain ⟨rest, hrest, h⟩ := Option.bind_eq_some_iff.1 h
  split at h
  · next hstop =>
    obtain ⟨front, rfl⟩ := List.isSuffixOf_iff_suffix.1 hstop
    rw [List.length_append, Nat.add_sub_cancel, List.take_left] at h
    rw [eq_append_of_after? hrest, Option.some.inj h]
  · cases h

/-- Trimming a start with some text behind it takes blanks off that text, and nothing else. The
start is a piece, so it is not blank itself. -/
theorem exists_trim_eq_append (hstart : IsPiece start) (value : List Char) :
    ∃ kept, trim (start ++ value) = start ++ kept ∧ ∀ c ∈ kept, c ∈ value := by
  by_cases hblank : ∀ c ∈ value, isBlank c = true
  · refine ⟨[], ?_, List.forall_mem_nil _⟩
    rw [trim_append hblank, hstart.trim_eq, List.append_nil]
  · refine ⟨trimEnd value, ?_, fun c hc => ?_⟩
    · rw [trim, hstart.isListed.trimStart_append, trimEnd_append_of_not start hblank]
    · rw [trimEnd, List.mem_reverse] at hc
      exact List.mem_reverse.1 ((List.dropWhile_sublist _).mem hc)

/-- A text with a comma is cut there, and its first piece is a start that nothing closes. What is
kept of the text holds only characters of the text, and among those there is no quote. -/
theorem exists_splitTags_of_comma_mem (hstart : IsPiece start) (hcomma : ',' ∈ value)
    (stop : List Char) :
    ∃ kept rest, splitTags (start ++ (value ++ stop)) = (start ++ kept) :: rest ∧
      ∀ c ∈ kept, c ∈ value := by
  obtain ⟨front, back, rfl, hfront⟩ := List.eq_append_cons_of_mem hcomma
  obtain ⟨kept, htrim, hkept⟩ := exists_trim_eq_append hstart front
  have hnot : ',' ∉ start ++ front := by
    rw [List.mem_append, not_or]
    exact ⟨hstart.noComma, hfront⟩
  have htext : start ++ (front ++ ',' :: back ++ stop) =
      (start ++ front) ++ ',' :: (back ++ stop) := by simp
  refine ⟨kept, splitTags (back ++ stop), ?_, fun c hc => List.mem_append_left _ (hkept c hc)⟩
  rw [htext, splitTags, splitOn_append_cons hnot, List.map_cons, htrim,
    List.filter_cons_of_pos (by simp [hstart.nonempty]), splitTags]

end Cutting

/-! ## Quotes that are not closed -/

/-- A text between quotes. -/
def quoted (value : String) : String := "\"" ++ value ++ "\""

namespace FieldTag

/-- A text that starts with a quote is no number. It may hold a point, so both shapes of a number
are excluded by the first character. -/
theorem isNumber_quote (rest : List Char) : isNumber ('"' :: rest) = false := by
  obtain ⟨piece, pieces, hpieces⟩ :=
    List.exists_cons_of_ne_nil (Text.splitOn_ne_nil '.' rest)
  have hsplit : Text.splitOn '.' ('"' :: rest) = ('"' :: piece) :: pieces := by
    rw [Text.splitOn, if_neg (by decide), hpieces]
  have hquote : ('"' :: piece).all Char.isDigit = false := rfl
  rw [isNumber, hsplit]
  rcases pieces with _ | ⟨fraction, _ | ⟨other, others⟩⟩
  · simp only [hquote, Bool.and_false]
  · simp only [hquote, Bool.and_false, Bool.false_and]
  · rfl

/-- A quote alone does not close itself: a quoted text has two ends, which is why the reader asks
for two characters. -/
theorem isQuoted_of_not_closed {inner : List Char} (h : '"' ∉ inner) :
    isQuoted ('"' :: inner) = false := by
  cases hlast : inner.getLast? with
  | none =>
    rw [List.getLast?_eq_none_iff.1 hlast]
    decide
  | some c =>
    have hc : c ≠ '"' := fun heq => h (heq ▸ List.mem_of_getLast? hlast)
    simp [isQuoted, List.getLast?_cons, hlast, hc]

/-- A literal whose quote is not closed is none. What stands between the parentheses, if they are
closed at all, starts with a quote and does not end with one. -/
theorem literal?_of_not_closed {kept : List Char} (h : '"' ∉ kept) :
    literal? ("Default(\"".toList ++ kept) = none := by
  refine Option.bind_eq_none_iff.2 fun value hvalue => if_neg ?_
  have htext : "Default(".toList ++ '"' :: kept = "Default(".toList ++ (value ++ [')']) :=
    Text.eq_append_of_between? hvalue
  have hkept : '"' :: kept = value ++ [')'] := List.append_cancel_left htext
  cases value with
  | nil => cases hkept
  | cons c inner =>
    obtain ⟨rfl, rfl⟩ := List.cons.inj hkept
    have hinner : '"' ∉ inner := fun hmem => h (List.mem_append_left _ hmem)
    have hfalse : ('"' :: inner == "false".toList) = false := rfl
    have htrue : ('"' :: inner == "true".toList) = false := rfl
    rw [isQuoted_of_not_closed hinner, hfalse, htrue, isNumber_quote]
    decide

/-- A default value whose quote is not closed is no tag: it is none of the words, and neither an
index nor a unique constraint starts like it. -/
theorem read?_of_not_closed {kept : List Char} (h : '"' ∉ kept) :
    read? ("Default(\"".toList ++ kept) = none := by
  have hword : ∀ word : List Char, word.head? ≠ some 'D' → "Default(\"".toList ++ kept ≠ word := by
    rintro _ hne rfl
    exact hne rfl
  have hindex : named? "Index(" ("Default(\"".toList ++ kept) = none := rfl
  have hunique : named? "Unique(" ("Default(\"".toList ++ kept) = none := rfl
  have hdefault : literal? ("Default(\"".toList ++ kept) = none := literal?_of_not_closed h
  rw [read?, if_neg (hword _ (by decide)), if_neg (hword _ (by decide)),
    if_neg (hword _ (by decide)), if_neg (hword _ (by decide)),
    if_neg (not_or.2 ⟨hword _ (by decide), hword _ (by decide)⟩), if_neg (hword _ (by decide)),
    hindex, hunique, hdefault]
  rfl

end FieldTag

/-- An alias whose quote is not closed is no tag. The other kind of quote is tried as well and does
not stand there at all. -/
theorem MethodTag.read_of_not_closed {kept : List Char} (h : '"' ∉ kept) :
    read ("As(\"".toList ++ kept) = .ok none := by
  have hpointer : pointer? ('A' :: ("s(\"".toList ++ kept)) = none := rfl
  have hsingle : quoted? '\'' ('A' :: ("s(\"".toList ++ kept)) = none := rfl
  have hdouble : quoted? '"' ('A' :: ("s(\"".toList ++ kept)) = none := by
    -- what closes the alias has a quote itself
    have hsuffix : "\")".toList.isSuffixOf kept = false := Bool.eq_false_iff.2 fun hsuffix =>
      h ((List.isSuffixOf_iff_suffix.1 hsuffix).subset List.mem_cons_self)
    have hbetween : Text.between? "As(\"".toList "\")".toList ("As(\"".toList ++ kept) = none := by
      rw [Text.between?, Text.after?_append, Option.bind_some, hsuffix, if_neg Bool.false_ne_true]
    exact congrArg (Option.bind · _) hbetween
  have htext : "As(\"".toList ++ kept = 'A' :: ("s(\"".toList ++ kept) := rfl
  rw [htext, read_cons (by decide) (by decide) (by decide), hpointer, hdouble, hsingle]
  rfl

/-! ## The tags around it -/

/-- Tags as they stand in a list, and what each of them is read as. -/
def TagsRead {τ : Type} (isReadFrom : τ → List Char → Prop) (texts : List String)
    (tags : List τ) : Prop :=
  List.Forall₂ (fun text tag => Text.IsPiece text.toList ∧ isReadFrom tag text.toList) texts tags

/-- Each of the texts is a piece by itself. -/
theorem TagsRead.isPiece {τ : Type} {isReadFrom : τ → List Char → Prop} {texts : List String}
    {tags : List τ} (h : TagsRead isReadFrom texts tags) :
    ∀ text ∈ texts, Text.IsPiece text.toList := by
  induction h with
  | nil => exact List.forall_mem_nil _
  | cons hread _ ih => exact List.forall_mem_cons.2 ⟨hread.1, ih⟩

/-- Only one text of a list is cut if the others are pieces. Its pieces stand where it stood. -/
theorem splitTags_around {before after : List String} {text : String}
    (hbefore : ∀ piece ∈ before, Text.IsPiece piece.toList)
    (hafter : ∀ piece ∈ after, Text.IsPiece piece.toList) :
    splitTags ([',', ' '].intercalate ((before ++ text :: after).map (·.toList))) =
      before.map (·.toList) ++ (splitTags text.toList ++ after.map (·.toList)) := by
  rw [splitTags_intercalate_eq_flatMap, List.map_append, List.map_cons, List.flatMap_append,
    List.flatMap_cons, flatMap_splitTags (List.forall_mem_map.2 hbefore),
    flatMap_splitTags (List.forall_mem_map.2 hafter)]

/-- A text between others is listed with them. -/
theorem isListed_around {before after : List String} {text : String}
    (hbefore : ∀ piece ∈ before, Text.IsPiece piece.toList)
    (hafter : ∀ piece ∈ after, Text.IsPiece piece.toList) (htext : Text.IsListed text.toList) :
    ∀ listed ∈ before ++ text :: after, Text.IsListed listed.toList := by
  refine List.forall_mem_append.2 ⟨fun piece hpiece => (hbefore piece hpiece).isListed, ?_⟩
  exact List.forall_mem_cons.2 ⟨htext, fun piece hpiece => (hafter piece hpiece).isListed⟩

section Around

variable {before after : List String}

/-! ### Fields -/

/-- A text is read as a tag of a field. -/
def FieldTag.IsReadFrom (tag : FieldTag) (text : List Char) : Prop := read? text = some tag

namespace FieldLine

variable {line : FieldLine} {first last : List FieldTag}

/-- A line without tags sets nothing but what stands in front of them. -/
theorem untagged_eq_self (h : line.IsWritable) (htags : line.tags = []) : line.untagged = line := by
  have hnone : line.indexes = [] ∧ line.uniques = [] := by
    simp only [tags, List.append_eq_nil_iff, List.map_eq_nil_iff] at htags
    exact ⟨htags.1.1.1.1.1, htags.1.1.1.1.2⟩
  have hnil : line.IsTaggedBy [] := ⟨htags ▸ .refl _, hnone.1.symm, hnone.2.symm⟩
  exact hnil.foldl_addTo h.guarded

/-- Tags that are read are added one after the other, and the rest is then added to the outcome. By
induction over the texts and what they are read as, side by side. -/
theorem addTags_append (owner : String) {texts : List String} {tags : List FieldTag}
    (h : TagsRead FieldTag.IsReadFrom texts tags) (field : FieldLine) (rest : List (List Char)) :
    addTags owner field (texts.map (·.toList) ++ rest) =
      addTags owner (tags.foldl FieldTag.addTo field) rest := by
  induction h generalizing field with
  | nil => rfl
  | cons hread _ ih =>
    have hread := hread.2
    rw [FieldTag.IsReadFrom] at hread
    rw [List.map_cons, List.cons_append, addTags, hread]
    exact ih _

/-- A field line is read up to some text in the list of its tags. What becomes of the line hangs on
the pieces of that text, which come next. -/
theorem read_around (h : line.IsWritable) (htags : line.tags = [])
    (hfirst : TagsRead FieldTag.IsReadFrom before first)
    (hafter : ∀ piece ∈ after, Text.IsPiece piece.toList) {text : String}
    (htext : Text.IsListed text.toList) (owner : String) :
    read owner (line.text [] ++ tagsText (before ++ text :: after)) =
      (addTags owner (first.foldl FieldTag.addTo line)
        (splitTags text.toList ++ after.map (·.toList))).map some := by
  obtain ⟨type, hresolve, hparts⟩ := parts?_listed h (isListed_around hfirst.isPiece hafter htext)
  have hline := untagged_eq_self h htags
  rw [untagged] at hline
  rw [read_of_parts? hparts hresolve, hline, splitTags_around hfirst.isPiece hafter,
    addTags_append owner hfirst]

variable (h : line.IsWritable) (htags : line.tags = [])
  (hfirst : TagsRead FieldTag.IsReadFrom before first)
  (hlast : TagsRead FieldTag.IsReadFrom after last) (owner : String) {value : String}
  (hquote : '"' ∉ value.toList) (hfeed : '\n' ∉ value.toList)

include h htags hfirst hlast hquote hfeed

/-- A quoted default without a comma is a tag like any other. It is a piece, and so is everything
around it. -/
theorem read_quoted (hcomma : ',' ∉ value.toList) :
    read owner (line.text [] ++
        tagsText (before ++ (FieldTag.default (quoted value)).text :: after)) =
      .ok (some ((first ++ .default (quoted value) :: last).foldl FieldTag.addTo line)) := by
  have hwritable : (FieldTag.default (quoted value)).IsWritable := by
    rw [FieldTag.IsWritable, quoted, String.toList_append, String.toList_append,
      List.append_assoc]
    exact .quoted hquote hcomma hfeed
  have hpiece := FieldTag.isPiece_text hwritable
  have hread : TagsRead FieldTag.IsReadFrom ((FieldTag.default (quoted value)).text :: after)
      (.default (quoted value) :: last) :=
    .cons ⟨hpiece, FieldTag.read?_text hwritable⟩ hlast
  have hadd := addTags_append owner hread (first.foldl FieldTag.addTo line) []
  rw [List.append_nil, List.map_cons, ← List.singleton_append] at hadd
  rw [read_around h htags hfirst hlast.isPiece hpiece.isListed, splitTags_of_isPiece hpiece, hadd,
    List.foldl_append]
  rfl

/-- A quoted default with a comma is refused: its first half is no tag. The error names the field
and that half; the tags behind it are not looked at. -/
theorem exists_read_quoted_eq_error (hcomma : ',' ∈ value.toList) :
    ∃ label tag, read owner (line.text [] ++
        tagsText (before ++ (FieldTag.default (quoted value)).text :: after)) =
      .error (.unknownTag "field" label tag) := by
  have htext : (FieldTag.default (quoted value)).text.toList =
      "Default(\"".toList ++ (value.toList ++ ['"', ')']) := by
    rw [FieldTag.text, FieldTag.toList_enclosed, quoted, String.toList_append,
      String.toList_append]
    simp
  have hstart : Text.IsPiece "Default(\"".toList := by decide
  have hlisted : Text.IsListed (FieldTag.default (quoted value)).text.toList := by
    rw [htext]
    exact isListed_between hstart (by decide) hfeed
  obtain ⟨kept, rest, hsplit, hkept⟩ := exists_splitTags_of_comma_mem hstart hcomma ['"', ')']
  have hunread : FieldTag.read? ("Default(\"".toList ++ kept) = none :=
    FieldTag.read?_of_not_closed fun hmem => hquote (hkept _ hmem)
  rw [read_around h htags hfirst hlast.isPiece hlisted, htext, hsplit, List.cons_append, addTags,
    hunread]
  exact ⟨_, _, rfl⟩

end FieldLine

/-! ### Methods -/

/-- A text is read as a tag of a method. -/
def MethodTag.IsReadFrom (tag : MethodTag) (text : List Char) : Prop := read text = .ok (some tag)

namespace MethodLine

variable {line : MethodLine} {first last : List MethodTag}

/-- The same for methods, where reading a tag may fail with an error of its own. Here it does not,
since the texts are read as tags. -/
theorem addTags_append (label : String) {texts : List String} {tags : List MethodTag}
    (h : TagsRead MethodTag.IsReadFrom texts tags) (method : MethodLine)
    (rest : List (List Char)) :
    addTags label method (texts.map (·.toList) ++ rest) =
      addTags label (tags.foldl MethodTag.addTo method) rest := by
  induction h generalizing method with
  | nil => rfl
  | cons hread _ ih =>
    have hread := hread.2
    rw [MethodTag.IsReadFrom] at hread
    rw [List.map_cons, List.cons_append, addTags, hread, ok_bind]
    exact ih _

/-- A method line is read up to some text in the list of its tags. It has a return type, or no tags
could follow. -/
theorem read_around (h : line.IsWritable) (htags : line.tags = []) {type : String}
    (htype : line.returnType = some type) (hfirst : TagsRead MethodTag.IsReadFrom before first)
    (hafter : ∀ piece ∈ after, Text.IsPiece piece.toList) {text : String}
    (htext : Text.IsListed text.toList) (owner : String) :
    read owner (line.text [] ++ tagsText (before ++ text :: after)) =
      (addTags (owner ++ "." ++ line.name ++ "()") (first.foldl MethodTag.addTo line)
        (splitTags text.toList ++ after.map (·.toList))).map some := by
  have hback : ∀ c ∈ ([] : List Char), Text.isBlank c = true := List.forall_mem_nil _
  obtain ⟨left, hleft, hparts⟩ :=
    parts?_typed h htype (isListed_around hfirst.isPiece hafter htext) hback
  obtain rfl := List.prefix_nil.1 hleft
  have hnil : [].Perm line.tags := htags ▸ .refl _
  have hline : line.untagged = line := foldl_addTo hnil
  rw [List.append_nil, List.append_nil, hline] at hparts
  rw [read, hparts]
  dsimp only
  rw [htype]
  dsimp only
  rw [isUnionArray_eq_false (h.returnType type htype), if_neg Bool.false_ne_true,
    splitTags_around hfirst.isPiece hafter, addTags_append _ hfirst]

variable (h : line.IsWritable) (htags : line.tags = []) {type : String}
  (htype : line.returnType = some type) (hfirst : TagsRead MethodTag.IsReadFrom before first)
  (hlast : TagsRead MethodTag.IsReadFrom after last) (owner : String) {value : String}
  (hquote : '"' ∉ value.toList) (hfeed : '\n' ∉ value.toList)

include h htags htype hfirst hlast hquote hfeed

/-- A quoted alias without a comma is a tag like any other. Unlike a default an alias may not be
empty. -/
theorem read_quoted (hnonempty : value.toList ≠ []) (hcomma : ',' ∉ value.toList) :
    read owner (line.text [] ++
        tagsText (before ++ (MethodTag.pivotAlias value).text :: after)) =
      .ok (some ((first ++ .pivotAlias value :: last).foldl MethodTag.addTo line)) := by
  have hwritable : (MethodTag.pivotAlias value).IsWritable :=
    ⟨hnonempty, hquote, hcomma, hfeed⟩
  have hpiece := MethodTag.isPiece_text hwritable
  have hread : TagsRead MethodTag.IsReadFrom ((MethodTag.pivotAlias value).text :: after)
      (.pivotAlias value :: last) :=
    .cons ⟨hpiece, MethodTag.read_text hwritable⟩ hlast
  have hadd := addTags_append (owner ++ "." ++ line.name ++ "()") hread
    (first.foldl MethodTag.addTo line) []
  rw [List.append_nil, List.map_cons, ← List.singleton_append] at hadd
  rw [read_around h htags htype hfirst hlast.isPiece hpiece.isListed,
    splitTags_of_isPiece hpiece, hadd, List.foldl_append]
  rfl

/-- A quoted alias with a comma is refused: its first half is no tag, as for fields. -/
theorem exists_read_quoted_eq_error (hcomma : ',' ∈ value.toList) :
    ∃ label tag, read owner (line.text [] ++
        tagsText (before ++ (MethodTag.pivotAlias value).text :: after)) =
      .error (.unknownTag "method" label tag) := by
  have htext : (MethodTag.pivotAlias value).text.toList =
      "As(\"".toList ++ (value.toList ++ ['"', ')']) := by
    rw [MethodTag.text, String.toList_append, String.toList_append, List.append_assoc]
    rfl
  have hstart : Text.IsPiece "As(\"".toList := by decide
  have hlisted : Text.IsListed (MethodTag.pivotAlias value).text.toList := by
    rw [htext]
    exact isListed_between hstart (by decide) hfeed
  obtain ⟨kept, rest, hsplit, hkept⟩ := exists_splitTags_of_comma_mem hstart hcomma ['"', ')']
  have hunread : MethodTag.read ("As(\"".toList ++ kept) = .ok none :=
    MethodTag.read_of_not_closed fun hmem => hquote (hkept _ hmem)
  rw [read_around h htags htype hfirst hlast.isPiece hlisted, htext, hsplit, List.cons_append,
    addTags, hunread, ok_bind]
  exact ⟨_, _, rfl⟩

end MethodLine

end Around

/-! ## Literals that are kept -/

/-- A text that may stand between quotes. -/
structure IsQuotable (value : List Char) : Prop where
  nonempty : value ≠ []
  quote : '"' ∉ value
  feed : '\n' ∉ value

/-- Of the defaults among the tags of a field the last one counts. That the tags behind it set no
default is all that has to be known of them. -/
theorem FieldLine.default_foldl {line : FieldLine} {first last : List FieldTag} {literal : String}
    (h : ∀ other, FieldTag.default other ∉ last) :
    ((first ++ .default literal :: last).foldl FieldTag.addTo line).default = some literal := by
  refine part_foldl_of_last FieldTag.addTo (·.default)
    (fun | .default literal => some (some literal) | _ => none)
    (by intro field tag; cases tag <;> rfl) rfl ?_ line
  intro other hother
  cases other with
  | default literal => exact absurd hother (h literal)
  | _ => rfl

/-- Of the aliases among the tags of a method the last one counts. -/
theorem MethodLine.pivotAlias_foldl {line : MethodLine} {first last : List MethodTag}
    {name : String} (h : ∀ other, MethodTag.pivotAlias other ∉ last) :
    ((first ++ .pivotAlias name :: last).foldl MethodTag.addTo line).pivotAlias = some name := by
  refine part_foldl_of_last MethodTag.addTo (·.pivotAlias)
    (fun | .pivotAlias name => some (some name) | _ => none)
    (by intro method tag; cases tag <;> rfl) rfl ?_ line
  intro other hother
  cases other with
  | pivotAlias name => exact absurd hother (h name)
  | _ => rfl

/-- **A quoted literal is kept exactly if it has no comma.** A field line that has it as its default
value, among other tags, is read with that default and the other tags; a method line that has it as
its alias is read with that alias and the other tags. With a comma in it neither line is read.

The neighbours, their number and the place of the literal among them are arbitrary, and so are the
line and its owner. A later tag of the same kind would overwrite the literal, hence the condition
under which the attribute is told. -/
theorem quoted_kept_iff {value : String} (hvalue : IsQuotable value.toList) :
    (∀ (owner : String) (line : FieldLine) (before after : List String)
        (first last : List FieldTag),
      line.IsWritable → line.tags = [] →
      TagsRead FieldTag.IsReadFrom before first → TagsRead FieldTag.IsReadFrom after last →
      ((∃ field, FieldLine.read owner (line.text [] ++
            tagsText (before ++ ("Default(\"" ++ value ++ "\")") :: after)) = .ok (some field) ∧
          field = (first ++ .default ("\"" ++ value ++ "\"") :: last).foldl FieldTag.addTo line ∧
          ((∀ other, FieldTag.default other ∉ last) →
            field.default = some ("\"" ++ value ++ "\""))) ↔
        ',' ∉ value.toList)) ∧
    ∀ (owner : String) (line : MethodLine) (before after : List String)
      (first last : List MethodTag),
      line.IsWritable → line.tags = [] → line.returnType ≠ none →
      TagsRead MethodTag.IsReadFrom before first → TagsRead MethodTag.IsReadFrom after last →
      ((∃ method, MethodLine.read owner (line.text [] ++
            tagsText (before ++ ("As(\"" ++ value ++ "\")") :: after)) = .ok (some method) ∧
          method = (first ++ .pivotAlias value :: last).foldl MethodTag.addTo line ∧
          ((∀ other, MethodTag.pivotAlias other ∉ last) → method.pivotAlias = some value)) ↔
        ',' ∉ value.toList) := by
  obtain ⟨hnonempty, hquote, hfeed⟩ := hvalue
  constructor
  · intro owner line before after first last hline htags hfirst hlast
    have htext : "Default(\"" ++ value ++ "\")" = (FieldTag.default (quoted value)).text :=
      String.toList_inj.1 (by simp [FieldTag.text, quoted])
    rw [htext]
    constructor
    · rintro ⟨field, hread, -⟩ hcomma
      obtain ⟨label, tag, herror⟩ := FieldLine.exists_read_quoted_eq_error hline htags hfirst hlast
        owner hquote hfeed hcomma
      rw [herror] at hread
      cases hread
    · intro hcomma
      exact ⟨_, FieldLine.read_quoted hline htags hfirst hlast owner hquote hfeed hcomma, rfl,
        FieldLine.default_foldl⟩
  · intro owner line before after first last hline htags htype hfirst hlast
    obtain ⟨type, htype⟩ := Option.ne_none_iff_exists'.1 htype
    constructor
    · rintro ⟨method, hread, -⟩ hcomma
      obtain ⟨label, tag, herror⟩ := MethodLine.exists_read_quoted_eq_error hline htags htype hfirst
        hlast owner hquote hfeed hcomma
      have hread := herror.symm.trans hread
      cases hread
    · intro hcomma
      exact ⟨_, MethodLine.read_quoted hline htags htype hfirst hlast owner hquote hfeed hnonempty
        hcomma, rfl, MethodLine.pivotAlias_foldl⟩

/-- A field without tags. -/
def nickname : FieldLine where
  name := "nickname"
  type := "string"

/-- A method without tags. -/
def grants : MethodLine where
  name := "grants"
  returnType := some "Role[]"

/-- A literal with a blank, between other tags: the blank is inside, so it is not trimmed. -/
theorem quoted_kept_noName :
    FieldLine.read "User" "nickname: string Index, Default(\"no name\"), NotNull" =
        .ok (some { nickname with
          indexes := [none], default := some "\"no name\"", nullable := some false }) ∧
      MethodLine.read "User" "grants(): Role[] Nullable, As(\"no name\")" =
        .ok (some { grants with nullable := some true, pivotAlias := some "no name" }) := by
  have hvalue : IsQuotable "no name".toList := ⟨by decide, by decide, by decide⟩
  have hkept := quoted_kept_iff hvalue
  have hnickname : nickname.IsWritable :=
    { name := by decide
      type := .plain (by decide)
      indexes := by decide
      uniques := by decide
      guarded := by decide
      default := fun _ hdefault => nomatch hdefault }
  have hgrants : grants.IsWritable :=
    { name := by decide
      via := fun _ hvia => nomatch hvia
      returnType := fun type htype =>
        Option.some.inj htype ▸
          @MethodLine.IsReturnType.array "Role".toList (by decide) (List.all_eq_true.1 (by decide))
      tags := fun _ htag => nomatch htag
      untagged := fun htype => nomatch htype }
  constructor
  · obtain ⟨field, hread, rfl, -⟩ := (hkept.1 "User" nickname ["Index"] ["NotNull"]
      [.index none] [.nullable false] hnickname rfl
      (.cons ⟨by decide, rfl⟩ .nil) (.cons ⟨by decide, rfl⟩ .nil)).2 (by decide)
    exact hread
  · obtain ⟨method, hread, rfl, -⟩ := (hkept.2 "User" grants ["Nullable"] []
      [.nullable true] [] hgrants rfl nofun (.cons ⟨by decide, rfl⟩ .nil) .nil).2 (by decide)
    exact hread

/-- With a comma in it the literal is cut in two. The error tells the first half. -/
theorem not_quoted_kept_comma :
    FieldLine.read "" "name: string Default(\"a,b\")" =
        .error (.unknownTag "field" ".name" "Default(\"a") ∧
      MethodLine.read "" "roles(): Role[] As(\"a,b\")" =
        .error (.unknownTag "method" ".roles()" "As(\"a") := by
  decide +kernel

end EntitySchema
