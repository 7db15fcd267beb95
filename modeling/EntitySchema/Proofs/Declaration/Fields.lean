/-
Field lines are read as they are written.

A field is written as its name, a colon, its type and its tags. Each part of the reader has a lemma
here that says what it takes of such a text: `FieldTag.read?_text` for a tag and
`TypeText.read?_append` for a type with what follows it. A name in front of a parenthesis could be
the start of an `enum`, and `TypeText.readEnum?_eq_none` is where this is excluded.

The tags may stand in any order that leaves the names of the indexes, and those of the unique
constraints, in theirs (`FieldLine.IsTaggedBy`). Every other attribute is set by one tag at most, so
that the order makes no difference to it.

What may be written is said by `FieldLine.IsWritable` and the predicates below it, and each of their
conditions answers to a way in which a reader would take something else:

* names are made of the characters of names, or they would end early;
* a type with numbers is not called `enum`, since the reader tries that first;
* the numbers have at most as many digits as a number may have;
* the text of an `enum` has no closing parenthesis and no line feed, at which it would end;
* a quoted default has no comma, at which the list of tags would be cut, and no quote or line feed;
* no tag takes a guard away, so a line that says so has no text.

None of them limits how long a line is or how many tags it has. The proof goes from the right of the
line to its left, because a reader of one part hands the rest to the reader of the next: tags, then
the type with its tags, then the line. `read_text_of_isTaggedBy` puts the parts together.
-/
import EntitySchema.Declaration.Field
import EntitySchema.Proofs.Declaration.Tags
import EntitySchema.Proofs.Outcome

set_option autoImplicit false

namespace EntitySchema

open Outcome

/-! ## Names and digits -/

/-- A name is never trimmed: none of its characters is a blank. -/
theorem Text.isBlank_of_isNameChar {c : Char} (h : isNameChar c = true) : isBlank c = false :=
  forall_ascii (P := fun c => isNameChar c = true → isBlank c = false)
    (by decide +kernel) (toNat_lt_of_isNameChar h) h

instance (name : List Char) : Decidable (IsName name) :=
  decidable_of_iff (name ≠ [] ∧ name.all Text.isNameChar = true)
    ⟨fun h => ⟨h.1, List.all_eq_true.1 h.2⟩, fun h => ⟨h.nonempty, List.all_eq_true.2 h.nameChars⟩⟩

namespace IsName

variable {name : List Char} {c : Char}

/-- What is no character of names does not occur in a name. Commas, parentheses and colons are kept
out of names by this. -/
theorem not_mem (h : IsName name) (hc : Text.isNameChar c = false) : c ∉ name := by
  intro hmem
  rw [h.nameChars c hmem] at hc
  cases hc

/-- A name is read up to the first character that is none of a name. -/
theorem name?_append (h : IsName name) {rest : List Char}
    (hrest : ∀ c ∈ rest.head?, Text.isNameChar c = false) :
    Text.name? (name ++ rest) = some (name, rest) :=
  Text.run?_append h.nonempty h.nameChars hrest

/-- Trimming in front of a name takes nothing of it. -/
theorem trimStart_append (h : IsName name) (rest : List Char) :
    Text.trimStart (name ++ rest) = name ++ rest :=
  Text.trimStart_append_of_nonblank h.nonempty
    (fun c hc => Text.isBlank_of_isNameChar (h.nameChars c hc)) rest

end IsName

namespace Text

variable {c : Char} {digits : List Char}

/-- A row of digits of ASCII. -/
structure IsDigits (digits : List Char) : Prop where
  nonempty : digits ≠ []
  digits : ∀ c ∈ digits, c.isDigit = true

/-- The digits of a number are characters of names as well, which is why a name reader would take
them. -/
theorem isNameChar_of_isDigit (h : c.isDigit = true) : isNameChar c = true :=
  isNameChar_of_isAlphanumeric (Bool.or_eq_true_iff.2 (.inr h))

/-- The digits that are written are those of ASCII, while the reader takes the digits of any script.
On those of ASCII it gives the values that a number is written with. -/
theorem digitValue?_of_isDigit (h : c.isDigit = true) : digitValue? c = some (c.toNat - 48) :=
  forall_ascii (P := fun c => c.isDigit = true → digitValue? c = some (c.toNat - 48))
    (by decide +kernel) (toNat_lt_of_isNameChar (isNameChar_of_isDigit h)) h

theorem isDigit_of_isDigit (h : c.isDigit = true) : isDigit c = true := by
  rw [isDigit, digitValue?_of_isDigit h, Option.isSome_some]

namespace IsDigits

/-- A number is written with at least one digit, and with nothing but digits. -/
theorem toDigits (n : Nat) : IsDigits (Nat.toDigits 10 n) :=
  ⟨Nat.toDigits_ne_nil, fun _ hc => Nat.isDigit_of_mem_toDigits (by decide) (by decide) hc⟩

theorem isName (h : IsDigits digits) : IsName digits :=
  ⟨h.nonempty, fun c hc => isNameChar_of_isDigit (h.digits c hc)⟩

/-- A row of digits is read up to the first character that is no digit. -/
theorem run?_append (h : IsDigits digits) {rest : List Char}
    (hrest : ∀ c ∈ rest.head?, isDigit c = false) :
    run? isDigit (digits ++ rest) = some (digits, rest) :=
  Text.run?_append h.nonempty (fun c hc => isDigit_of_isDigit (h.digits c hc)) hrest

end IsDigits

/-- The digits of a number write the number. By the library's `Nat.ofDigitChars`, of which the
reader's fold is the same computation. -/
theorem numberOfDigits_toDigits (n : Nat) : numberOfDigits (Nat.toDigits 10 n) = n := by
  have hdigits : numberOfDigits (Nat.toDigits 10 n) =
      Nat.ofDigitChars 10 (Nat.toDigits 10 n) 0 := by
    refine List.foldl_ext _ _ _ fun value c hc => ?_
    rw [digitValue?_of_isDigit ((IsDigits.toDigits n).digits c hc), Option.getD_some]
    rfl
  rw [hdigits, Nat.ofDigitChars_toDigits (by decide) (by decide)]

end Text

/-! ## Tags -/

namespace FieldTag

/-- A literal that a default value may have. -/
inductive IsLiteral : List Char → Prop where
  | yes : IsLiteral "true".toList
  | no : IsLiteral "false".toList
  | whole {digits : List Char} (hdigits : Text.IsDigits digits) : IsLiteral digits
  | fraction {whole digits : List Char} (hwhole : Text.IsDigits whole)
      (hdigits : Text.IsDigits digits) : IsLiteral (whole ++ '.' :: digits)
  | quoted {text : List Char} (hquote : '"' ∉ text) (hcomma : ',' ∉ text) (hfeed : '\n' ∉ text) :
      IsLiteral ('"' :: (text ++ ['"']))

/-- A tag as it is written. -/
def text : FieldTag → String
  | index none => "Index"
  | index (some name) => "Index(" ++ name ++ ")"
  | unique none => "Unique"
  | unique (some name) => "Unique(" ++ name ++ ")"
  | primaryKey => "PrimaryKey"
  | nullable true => "Nullable"
  | nullable false => "NotNull"
  | guarded => "Guarded"
  | default literal => "Default(" ++ literal ++ ")"

/-- The entry that a tag adds to the indexes. -/
def index? : FieldTag → Option (Option String)
  | index name => some name
  | _ => none

/-- The entry that a tag adds to the unique constraints. -/
def unique? : FieldTag → Option (Option String)
  | unique name => some name
  | _ => none

/-- A tag whose names and literals may stand where they are written. -/
def IsWritable : FieldTag → Prop
  | index (some name) | unique (some name) => IsName name.toList
  | default literal => IsLiteral literal.toList
  | _ => True

/-! ### Literals -/

namespace IsLiteral

variable {value : List Char}

/-- No literal holds a comma, so none is cut with the list of tags. Only for a quoted one this has
to be asked. -/
theorem comma_not_mem (h : IsLiteral value) : ',' ∉ value := by
  cases h with
  | yes => decide
  | no => decide
  | whole hdigits => exact hdigits.isName.not_mem (by decide)
  | fraction hwhole hdigits =>
    simp [hwhole.isName.not_mem (c := ',') (by decide),
      hdigits.isName.not_mem (c := ',') (by decide)]
  | quoted hquote hcomma hfeed => simp [hcomma]

/-- No literal holds a line feed, at which the line would end. -/
theorem feed_not_mem (h : IsLiteral value) : '\n' ∉ value := by
  cases h with
  | yes => decide
  | no => decide
  | whole hdigits => exact hdigits.isName.not_mem (by decide)
  | fraction hwhole hdigits =>
    simp [hwhole.isName.not_mem (c := '\n') (by decide),
      hdigits.isName.not_mem (c := '\n') (by decide)]
  | quoted hquote hcomma hfeed => simp [hfeed]

end IsLiteral

/-- Digits alone are a number. -/
theorem isNumber_of_isDigits {digits : List Char} (h : Text.IsDigits digits) :
    isNumber digits = true := by
  rw [isNumber, Text.splitOn_of_not_mem (h.isName.not_mem (by decide))]
  simp [h.nonempty, List.all_eq_true.2 h.digits]

/-- Two rows of digits with a point between them are a number: the point cuts the text into two
pieces. -/
theorem isNumber_fraction {whole digits : List Char} (hwhole : Text.IsDigits whole)
    (hdigits : Text.IsDigits digits) : isNumber (whole ++ '.' :: digits) = true := by
  rw [isNumber, Text.splitOn_append_cons (hwhole.isName.not_mem (by decide)),
    Text.splitOn_of_not_mem (hdigits.isName.not_mem (by decide))]
  simp [hwhole.nonempty, List.all_eq_true.2 hwhole.digits, hdigits.nonempty,
    List.all_eq_true.2 hdigits.digits]

/-- A text between quotes is quoted, also the empty one. -/
theorem isQuoted_quoted (text : List Char) : isQuoted ('"' :: (text ++ ['"'])) = true := by
  simp [isQuoted, List.getLast?_cons]

/-- The literal of a default is read back. The reader accepts any of four shapes and answers with
the text that it was given, so it does not matter which of them fits. -/
theorem literal?_append {value : List Char} (h : IsLiteral value) :
    literal? ("Default(".toList ++ (value ++ [')'])) = some (String.ofList value) := by
  have hallowed : (isQuoted value || value == "false".toList || value == "true".toList ||
      isNumber value) = true := by
    cases h with
    | yes => decide
    | no => decide
    | whole hdigits => simp [isNumber_of_isDigits hdigits]
    | fraction hwhole hdigits => simp [isNumber_fraction hwhole hdigits]
    | quoted hquote hcomma hfeed => simp [isQuoted_quoted]
  rw [literal?, Text.between?_append, Option.bind_some, if_pos hallowed]

/-! ### One tag -/

/-- The characters of a tag with parentheses, in the form in which `between?_append` takes them. -/
theorem toList_enclosed (start text : String) :
    (start ++ text ++ ")").toList = start.toList ++ (text.toList ++ [')']) := by
  rw [String.toList_append, String.toList_append, List.append_assoc]
  rfl

/-- The name of an index or a unique constraint is read back. The name is not empty, which the
reader asks for. -/
theorem named?_append {start name : String} (h : IsName name.toList) :
    named? start (start.toList ++ (name.toList ++ [')'])) = some name := by
  have hallowed : (!name.toList.isEmpty && name.toList.all Text.isNameChar) = true := by
    simp [h.nonempty, List.all_eq_true.2 h.nameChars]
  rw [named?, Text.between?_append, Option.bind_some, if_pos hallowed, String.ofList_toList]

/-- A tag with parentheses is none of the words. The words are told from it by their last character,
so that nothing has to be known of what stands between the parentheses. -/
theorem read?_of_getLast? {tag : List Char} (h : tag.getLast? = some ')') :
    read? tag = (((named? "Index(" tag).map fun name => FieldTag.index (some name)).or
      ((named? "Unique(" tag).map fun name => FieldTag.unique (some name))).or
        ((literal? tag).map FieldTag.default) := by
  have hword : ∀ word : List Char, word.getLast? ≠ some ')' → tag ≠ word := by
    rintro word hne rfl
    exact hne h
  rw [read?, if_neg (hword _ (by decide)), if_neg (hword _ (by decide)),
    if_neg (hword _ (by decide)), if_neg (hword _ (by decide)),
    if_neg (not_or.2 ⟨hword _ (by decide), hword _ (by decide)⟩), if_neg (hword _ (by decide))]

/-- **A tag is read as it is written.** The words are compared as they are; of the tags in
parentheses an earlier reader is excluded by the first character in which the starts differ. -/
theorem read?_text {tag : FieldTag} (h : tag.IsWritable) : read? tag.text.toList = some tag := by
  have hlast : ∀ start text : List Char, (start ++ (text ++ [')'])).getLast? = some ')' := by
    intro start text
    rw [← List.append_assoc, List.getLast?_concat]
  cases tag with
  | index name =>
    cases name with
    | none => rfl
    | some name =>
      rw [text, toList_enclosed, read?_of_getLast? (hlast _ _), named?_append h]
      rfl
  | unique name =>
    cases name with
    | none => rfl
    | some name =>
      have hindex : named? "Index(" ("Unique(".toList ++ (name.toList ++ [')'])) = none := rfl
      rw [text, toList_enclosed, read?_of_getLast? (hlast _ _), hindex, named?_append h]
      rfl
  | primaryKey => rfl
  | nullable value => cases value <;> rfl
  | guarded => rfl
  | default literal =>
    have hindex : named? "Index(" ("Default(".toList ++ (literal.toList ++ [')'])) = none := rfl
    have hunique : named? "Unique(" ("Default(".toList ++ (literal.toList ++ [')'])) = none := rfl
    rw [text, toList_enclosed, read?_of_getLast? (hlast _ _), hindex, hunique, literal?_append h,
      String.ofList_toList]
    rfl

/-- A tag is kept whole in a list of tags. Here the conditions on names and literals are used once
more: they are what keeps commas out. -/
theorem isPiece_text {tag : FieldTag} (h : tag.IsWritable) : Text.IsPiece tag.text.toList := by
  cases tag with
  | index name =>
    cases name with
    | none => decide
    | some name =>
      rw [text, toList_enclosed]
      exact .append (by decide) (by decide) (IsName.not_mem h (by decide))
        (IsName.not_mem h (by decide))
  | unique name =>
    cases name with
    | none => decide
    | some name =>
      rw [text, toList_enclosed]
      exact .append (by decide) (by decide) (IsName.not_mem h (by decide))
        (IsName.not_mem h (by decide))
  | primaryKey => decide
  | nullable value => cases value <;> decide
  | guarded => decide
  | default literal =>
    rw [text, toList_enclosed]
    exact .append (by decide) (by decide) (IsLiteral.comma_not_mem h) (IsLiteral.feed_not_mem h)

end FieldTag

/-! ## What a field line is written as -/

namespace FieldLine

/-- A type with its parameters that may be written: a name, a name with one or two numbers behind
it, or an `enum` with a text. -/
inductive IsWritableType : String → Option Parameter → Option Int → Prop where
  | plain {name : String} (hname : IsName name.toList) : IsWritableType name none none
  | oneNumber {name : String} {first : Nat} (hname : IsName name.toList) (henum : name ≠ "enum")
      (hfirst : (Nat.toDigits 10 first).length ≤ Text.digitLimit) :
      IsWritableType name (some (.number first)) none
  | twoNumbers {name : String} {first second : Nat} (hname : IsName name.toList)
      (henum : name ≠ "enum") (hfirst : (Nat.toDigits 10 first).length ≤ Text.digitLimit)
      (hsecond : (Nat.toDigits 10 second).length ≤ Text.digitLimit) :
      IsWritableType name (some (.number first)) (some second)
  | enum {text : String} (hclose : ')' ∉ text.toList) (hfeed : '\n' ∉ text.toList) :
      IsWritableType "enum" (some (.text text)) none

/-- A field line all of whose parts may stand where they are written. No tag takes a guard away. -/
structure IsWritable (line : FieldLine) : Prop where
  name : IsName line.name.toList
  type : IsWritableType line.type line.param1 line.param2
  indexes : ∀ entry ∈ line.indexes, ∀ name ∈ entry, IsName name.toList
  uniques : ∀ entry ∈ line.uniques, ∀ name ∈ entry, IsName name.toList
  guarded : line.guarded ≠ some false
  default : ∀ literal ∈ line.default, FieldTag.IsLiteral literal.toList

/-- The parameters of a type in parentheses. -/
def parametersText : Option Parameter → Option Int → String
  | none, _ => ""
  | some (.text text), _ => "(" ++ text ++ ")"
  | some (.number first), none => "(" ++ toString first ++ ")"
  | some (.number first), some second => "(" ++ toString first ++ ", " ++ toString second ++ ")"

/-- The name and the type of a field, as they stand in front of its tags. -/
def untagged (line : FieldLine) : FieldLine where
  name := line.name
  type := line.type
  param1 := line.param1
  param2 := line.param2

/-- The tags that say what the name and the type of a field leave open. -/
def tags (line : FieldLine) : List FieldTag :=
  line.indexes.map .index ++ line.uniques.map .unique ++
    (if line.primaryKey then [.primaryKey] else []) ++ (line.nullable.map .nullable).toList ++
    (if line.guarded.isSome then [.guarded] else []) ++ (line.default.map .default).toList

/-- Tags of a field in some order that leaves its indexes, and its unique constraints, in theirs. -/
structure IsTaggedBy (line : FieldLine) (tags : List FieldTag) : Prop where
  perm : tags.Perm line.tags
  indexes : tags.filterMap FieldTag.index? = line.indexes
  uniques : tags.filterMap FieldTag.unique? = line.uniques

/-- A field line as it is written, with its tags in the given order. -/
def text (line : FieldLine) (tags : List FieldTag) : String :=
  line.name ++ ": " ++ line.type ++ parametersText line.param1 line.param2 ++
    tagsText (tags.map (·.text))

/-- Whatever its parameters are, a type that may be written starts with a name. -/
theorem IsWritableType.isName {type : String} {param1 : Option Parameter} {param2 : Option Int}
    (h : IsWritableType type param1 param2) : IsName type.toList := by
  cases h with
  | plain hname => exact hname
  | oneNumber hname henum hfirst => exact hname
  | twoNumbers hname henum hfirst hsecond => exact hname
  | enum hclose hfeed => decide

end FieldLine

/-! ## Types -/

namespace TypeText

variable {name tail tags first second : List Char}

/-- What is listed behind a type is found there. It need not be cut into the tags that were written,
so this serves lines with a comma between quotes too. -/
theorem tags?_listed {texts : List String} (h : ∀ text ∈ texts, Text.IsListed text.toList) :
    tags? (tagsText texts).toList = some ([',', ' '].intercalate (texts.map (·.toList))) := by
  have hlisted : ∀ text ∈ texts.map (·.toList), Text.IsListed text := List.forall_mem_map.2 h
  rw [toList_tagsText]
  split
  · next hnil =>
    rw [List.isEmpty_iff.1 hnil]
    rfl
  · next hnonempty =>
    have hmap : texts.map (·.toList) ≠ [] := by simpa using hnonempty
    have hstart := trimStart_intercalate hlisted hmap []
    rw [List.append_nil] at hstart
    have hblanks : Text.blanks? (' ' :: [',', ' '].intercalate (texts.map (·.toList))) =
        some ([',', ' '].intercalate (texts.map (·.toList))) := congrArg some hstart
    rw [tags?, if_neg (by simp [Text.isLineEnd]), hblanks, Option.bind_some,
      Text.oneLine?_of_not_mem (feed_not_mem_intercalate hlisted)]

/-- The tags of a line follow its type. -/
theorem tags?_tagsText {tags : List String} (h : ∀ tag ∈ tags, Text.IsPiece tag.toList) :
    tags? (tagsText tags).toList = some ([',', ' '].intercalate (tags.map (·.toList))) :=
  tags?_listed fun tag htag => (h tag htag).isListed

/-- A name is not taken for the start of an `enum`, unless it is that word and a parenthesis
follows. Were it taken for one, the text would have two first names, its own and the word, and a
text has only one. -/
theorem readEnum?_eq_none {rest : List Char} (hname : IsName name)
    (hrest : ∀ c ∈ rest.head?, Text.isNameChar c = false)
    (hnot : name ≠ "enum".toList ∨ rest.head? ≠ some '(') : readEnum? (name ++ rest) = none := by
  have hafter : Text.after? "enum(".toList (name ++ rest) = none := by
    rw [Option.eq_none_iff_forall_ne_some]
    intro left hleft
    -- the first name of the text would be `enum`, and the parenthesis would follow it
    have htext : name ++ rest = "enum".toList ++ '(' :: left :=
      (Text.eq_append_of_after? hleft).trans rfl
    have henum : Text.name? ("enum".toList ++ '(' :: left) = some ("enum".toList, '(' :: left) :=
      IsName.name?_append (by decide) (by simp; decide +kernel)
    rw [← htext, hname.name?_append hrest] at henum
    obtain ⟨hsame, hopen⟩ := Prod.mk.inj (Option.some.inj henum)
    rcases hnot with hne | hne
    · exact hne hsame
    · exact hne (by rw [hopen]; rfl)
  rw [readEnum?, hafter]
  rfl

section Shapes

variable (hblank : ∀ c ∈ tail.head?, c = ' ') (htags : tags? tail = some tags)
include hblank htags

/-- A type without parameters is read as a name. The reader with numbers is tried before and fails,
since what follows is a blank or the end and no parenthesis. -/
theorem read?_plain (hname : IsName name) :
    read? (name ++ tail) = some (.plain (String.ofList name), tags) := by
  have hrest : ∀ c ∈ tail.head?, Text.isNameChar c = false := by
    intro c hc
    rw [hblank c hc]
    decide
  have hopen : tail.head? ≠ some '(' := fun hc => absurd (hblank '(' hc) (by decide)
  have hnumbers : numbers? tail = none := by
    have hafter : Text.after? ['('] tail = none := by
      cases tail with
      | nil => rfl
      | cons c rest => exact Text.after?_cons_of_ne (by rw [hblank c rfl]; decide) [] rest
    exact Option.bind_eq_none_iff.2 fun start hstart => by rw [hafter] at hstart; cases hstart
  have hnumbered : readNumbered? (name ++ tail) = none := by
    refine Option.bind_eq_none_iff.2 fun found hfound => ?_
    rw [hname.name?_append hrest] at hfound
    obtain rfl := Option.some.inj hfound
    dsimp only
    rw [hnumbers]
    rfl
  have hplain : readPlain? (name ++ tail) = some (.plain (String.ofList name), tags) :=
    Text.bind_eq_some (hname.name?_append hrest) (Text.bind_eq_some htags rfl)
  rw [read?, readEnum?_eq_none hname hrest (.inr hopen), hnumbered, hplain]
  rfl

omit hblank in
/-- One number in parentheses, and the tags behind them. -/
theorem numbers?_one (hfirst : Text.IsDigits first) :
    numbers? ('(' :: (first ++ ')' :: tail)) = some (first, none, tags) := by
  have hrun : Text.run? Text.isDigit (first ++ ')' :: tail) = some (first, ')' :: tail) :=
    hfirst.run?_append (by simp; decide +kernel)
  have hsecond : second? (')' :: tail) = some (none, ')' :: tail) := rfl
  exact Text.bind_eq_some (Text.after?_append ['('] _) <| Text.bind_eq_some hrun <|
    Text.bind_eq_some hsecond <|
    Text.bind_eq_some (Text.after?_append [')'] _) <| Text.bind_eq_some htags rfl

omit hblank in
/-- Two numbers in parentheses, with a comma and a blank between them, and the tags behind them. -/
theorem numbers?_two (hfirst : Text.IsDigits first) (hsecond : Text.IsDigits second) :
    numbers? ('(' :: (first ++ ',' :: ' ' :: (second ++ ')' :: tail))) =
      some (first, some second, tags) := by
  have hrun : Text.run? Text.isDigit (first ++ ',' :: ' ' :: (second ++ ')' :: tail)) =
      some (first, ',' :: ' ' :: (second ++ ')' :: tail)) :=
    hfirst.run?_append (by simp; decide +kernel)
  have hafter : second? (',' :: ' ' :: (second ++ ')' :: tail)) =
      some (some second, ')' :: tail) := by
    have hstart : Text.trimStart (' ' :: (second ++ ')' :: tail)) = second ++ ')' :: tail :=
      hsecond.isName.trimStart_append _
    rw [second?, hstart, hsecond.run?_append (by simp; decide +kernel)]
    rfl
  exact Text.bind_eq_some (Text.after?_append ['('] _) <| Text.bind_eq_some hrun <|
    Text.bind_eq_some hafter <| Text.bind_eq_some (Text.after?_append [')'] _) <|
    Text.bind_eq_some htags rfl

omit hblank htags in
/-- A type with numbers is read as one, since its name is not `enum`. -/
theorem read?_numbered {rest : List Char} {other : Option (List Char)} (hname : IsName name)
    (henum : name ≠ "enum".toList) (hnumbers : numbers? ('(' :: rest) = some (first, other, tags)) :
    read? (name ++ '(' :: rest) = some (.numbered (String.ofList name) first other, tags) := by
  have hrest : ∀ c ∈ ('(' :: rest).head?, Text.isNameChar c = false := by simp; decide
  have hnumbered : readNumbered? (name ++ '(' :: rest) =
      some (.numbered (String.ofList name) first other, tags) :=
    Text.bind_eq_some (hname.name?_append hrest) (Text.bind_eq_some hnumbers rfl)
  rw [read?, readEnum?_eq_none hname hrest (.inl henum), hnumbered]
  rfl

omit hblank in
/-- The text of an `enum` ends at its first parenthesis. The reader would go on if the line could
not end there, but tags follow, or nothing. -/
theorem enumText?_append {text : List Char} (hclose : ')' ∉ text) (hfeed : '\n' ∉ text) :
    enumText? (text ++ ')' :: tail) = some (text, tags) := by
  induction text with
  | nil => simp [enumText?, htags]
  | cons c text ih =>
    rw [List.mem_cons, not_or] at hclose hfeed
    rw [List.cons_append, enumText?, if_neg (Ne.symm hclose.1), if_neg (Ne.symm hfeed.1),
      ih hclose.2 hfeed.2]
    rfl

omit hblank in
/-- An `enum` is read with its text. It is tried first, so nothing else has to be excluded. -/
theorem read?_enum {text : List Char} (hclose : ')' ∉ text) (hfeed : '\n' ∉ text) :
    read? ("enum(".toList ++ (text ++ ')' :: tail)) = some (.enum (String.ofList text), tags) := by
  have henum : readEnum? ("enum(".toList ++ (text ++ ')' :: tail)) =
      some (.enum (String.ofList text), tags) :=
    Text.bind_eq_some (Text.after?_append _ _) <|
      Text.bind_eq_some (enumText?_append htags hclose hfeed) rfl
  rw [read?, henum]
  rfl

end Shapes

/-- The digits of a number that is not too long are that number. A longer one is refused, and a line
with it is not writable. -/
theorem number_toDigits {n : Nat} (h : (Nat.toDigits 10 n).length ≤ Text.digitLimit) :
    number (Nat.toDigits 10 n) = .ok (n : Int) := by
  rw [number, if_pos h, Text.numberOfDigits_toDigits]

theorem toList_repr (n : Nat) : (n : Int).repr.toList = Nat.toDigits 10 n :=
  Nat.toList_repr

/-- **A type is read as it is written**, with the tags that follow it. The two steps of the reader
are told together: the shape is read, and it resolves to the type and its parameters. One case for
each way in which a type may be written. -/
theorem read?_append {type : String} {param1 : Option Parameter} {param2 : Option Int}
    (h : FieldLine.IsWritableType type param1 param2) (hblank : ∀ c ∈ tail.head?, c = ' ')
    (htags : tags? tail = some tags) :
    ∃ read, read? (type.toList ++ ((FieldLine.parametersText param1 param2).toList ++ tail)) =
        some (read, tags) ∧ read.resolve = .ok (type, param1, param2) := by
  cases h with
  | plain hname => exact ⟨_, read?_plain hblank htags hname, by rw [String.ofList_toList]; rfl⟩
  | @oneNumber _ first hname henum hfirst =>
    have hread := read?_numbered hname (fun heq => henum (String.toList_inj.1 heq))
      (numbers?_one htags (Text.IsDigits.toDigits first))
    rw [String.ofList_toList] at hread
    refine ⟨.numbered type (Nat.toDigits 10 first) none, ?_, ?_⟩
    · rw [← hread]
      simp [FieldLine.parametersText, toList_repr]
    · rw [resolve, number_toDigits hfirst]
      rfl
  | @twoNumbers _ first second hname henum hfirst hsecond =>
    have hread := read?_numbered hname (fun heq => henum (String.toList_inj.1 heq))
      (numbers?_two htags (Text.IsDigits.toDigits first) (Text.IsDigits.toDigits second))
    rw [String.ofList_toList] at hread
    refine ⟨.numbered type (Nat.toDigits 10 first) (some (Nat.toDigits 10 second)), ?_, ?_⟩
    · rw [← hread]
      simp [FieldLine.parametersText, toList_repr]
    · rw [resolve, number_toDigits hfirst, number_toDigits hsecond]
      rfl
  | @enum text hclose hfeed =>
    have hread := read?_enum htags hclose hfeed
    rw [String.ofList_toList] at hread
    refine ⟨.enum text, ?_, rfl⟩
    rw [← hread]
    simp [FieldLine.parametersText]

end TypeText

/-! ## Lines -/

attribute [ext] FieldLine

namespace FieldLine

variable {line : FieldLine} {written : List FieldTag}

/-- The tags of a line that may be written may be written. The conditions on the line are on its
attributes, and each tag stands for one of them. -/
theorem IsWritable.isWritable_of_mem (h : line.IsWritable) :
    ∀ tag ∈ line.tags, tag.IsWritable := by
  intro tag htag
  simp only [tags, List.mem_append, List.mem_map, Option.mem_toList,
    Option.map_eq_some_iff] at htag
  rcases htag with
    ((((⟨entry, hentry, rfl⟩ | ⟨entry, hentry, rfl⟩) | hkey) | ⟨value, -, rfl⟩) | hguarded) |
      ⟨literal, hliteral, rfl⟩
  · cases entry with
    | none => trivial
    | some name => exact h.indexes _ hentry name rfl
  · cases entry with
    | none => trivial
    | some name => exact h.uniques _ hentry name rfl
  · split at hkey
    · rw [List.mem_singleton.1 hkey]
      trivial
    · cases hkey
  · trivial
  · split at hguarded
    · rw [List.mem_singleton.1 hguarded]
      trivial
    · cases hguarded
  · exact h.default literal hliteral

/-- Tags that may be written are added as they are: none of them is unknown, so the owner, who would
be told in the error, is not asked for. -/
theorem addTags_text (owner : String) (hwritten : ∀ tag ∈ written, tag.IsWritable)
    (field : FieldLine) :
    addTags owner field (written.map (·.text.toList)) =
      .ok (written.foldl FieldTag.addTo field) := by
  induction written generalizing field with
  | nil => rfl
  | cons tag written ih =>
    rw [List.map_cons, addTags, FieldTag.read?_text (hwritten tag List.mem_cons_self)]
    exact ih (fun other hother => hwritten other (List.mem_cons_of_mem tag hother)) _

/-- What the tags of a line set, apart from its indexes and unique constraints. Each of the four
attributes is a case of this, by a choice of `sets?` that sees one kind of tag. -/
theorem filterMap_tags {β : Type} {sets? : FieldTag → Option β}
    (hindex : ∀ name, sets? (.index name) = none) (hunique : ∀ name, sets? (.unique name) = none) :
    line.tags.filterMap sets? =
      (if line.primaryKey then sets? .primaryKey else none).toList ++
        (line.nullable.bind fun value => sets? (.nullable value)).toList ++
        (if line.guarded.isSome then sets? .guarded else none).toList ++
        (line.default.bind fun literal => sets? (.default literal)).toList := by
  have hindexes : (line.indexes.map FieldTag.index).filterMap sets? = [] := by simp [hindex]
  have huniques : (line.uniques.map FieldTag.unique).filterMap sets? = [] := by simp [hunique]
  simp only [tags, List.filterMap_append, hindexes, huniques, filterMap_ite, filterMap_toList,
    Option.bind_map, List.nil_append, Function.comp_def]

/-- **The tags of a line give it back**, in whatever order they stand. The line is compared
attribute by attribute: the lists of indexes by `part_foldl_append`, the attributes that are set
once by `part_foldl`, and the name and the type by the same lemma, with no tag that sets them. -/
theorem IsTaggedBy.foldl_addTo (h : line.IsTaggedBy written)
    (hguarded : line.guarded ≠ some false) : written.foldl FieldTag.addTo line.untagged = line := by
  -- no tag sets the name or the type
  have hfront := part_foldl FieldTag.addTo
    (fun field => (field.name, field.type, field.param1, field.param2)) (fun _ => none)
    (by intro field tag; cases tag <;> rfl) none h.perm (by simp) line.untagged
  -- each of the next four attributes is set by at most one tag
  have hkey := part_foldl FieldTag.addTo (·.primaryKey)
    (fun | .primaryKey => some true | _ => none) (by intro field tag; cases tag <;> rfl)
    (if line.primaryKey then some true else none) h.perm (by rw [filterMap_tags] <;> simp)
    line.untagged
  have hnullable := part_foldl FieldTag.addTo (·.nullable)
    (fun | .nullable value => some (some value) | _ => none)
    (by intro field tag; cases tag <;> rfl)
    (line.nullable.bind fun value => some (some value)) h.perm (by rw [filterMap_tags] <;> simp)
    line.untagged
  have hguard := part_foldl FieldTag.addTo (·.guarded)
    (fun | .guarded => some (some true) | _ => none) (by intro field tag; cases tag <;> rfl)
    (if line.guarded.isSome then some (some true) else none) h.perm
    (by rw [filterMap_tags] <;> simp) line.untagged
  have hdefault := part_foldl FieldTag.addTo (·.default)
    (fun | .default literal => some (some literal) | _ => none)
    (by intro field tag; cases tag <;> rfl)
    (line.default.bind fun literal => some (some literal)) h.perm
    (by rw [filterMap_tags] <;> simp) line.untagged
  -- the entries of indexes and unique constraints are collected in order
  have hindexes := part_foldl_append FieldTag.addTo (·.indexes) FieldTag.index?
    (by intro field tag; cases tag <;> simp [FieldTag.addTo, FieldTag.index?])
    written line.untagged
  have huniques := part_foldl_append FieldTag.addTo (·.uniques) FieldTag.unique?
    (by intro field tag; cases tag <;> simp [FieldTag.addTo, FieldTag.unique?])
    written line.untagged
  rw [h.indexes] at hindexes
  rw [h.uniques] at huniques
  have hset : (if line.guarded.isSome then some (some true) else none).getD none =
      line.guarded := by
    rcases hline : line.guarded with _ | _ | _
    · rfl
    · exact absurd hline hguarded
    · rfl
  refine FieldLine.ext (congrArg (·.1) hfront) (congrArg (·.2.1) hfront)
    (congrArg (·.2.2.1) hfront) (congrArg (·.2.2.2) hfront) (hkey.trans ?keepsKey)
    (hnullable.trans ?keepsNullable) (hguard.trans hset) (hdefault.trans ?keepsDefault)
    hindexes huniques
  case keepsKey => cases line.primaryKey <;> rfl
  case keepsNullable => cases line.nullable <;> rfl
  case keepsDefault => cases line.default <;> rfl

/-! ### The round trip -/

theorem toList_text (line : FieldLine) (written : List FieldTag) :
    (line.text written).toList = line.name.toList ++ ':' :: ' ' :: (line.type.toList ++
      ((parametersText line.param1 line.param2).toList ++
        (tagsText (written.map (·.text))).toList)) := by
  simp [text]

/-- Once the parts of a line are read and its type has a meaning, its tags decide the rest. Stated
of any parts, so that lines whose tags are not read back are covered as well. -/
theorem read_of_parts? {owner text : String} {name typeName : String} {type : TypeText}
    {tags : List Char} {param1 : Option Parameter} {param2 : Option Int}
    (hparts : parts? text.toList = some (name, type, tags))
    (htype : type.resolve = .ok (typeName, param1, param2)) :
    read owner text =
      (addTags owner { name, type := typeName, param1, param2 } (splitTags tags)).map some := by
  rw [read, hparts]
  dsimp only
  rw [htype, ok_bind]
  cases addTags owner { name, type := typeName, param1, param2 } (splitTags tags) <;> rfl

/-- The parts of a line without tags and what is listed behind it: name, colon, blank, type and
list, each taken by its own lemma. -/
theorem parts?_listed (h : line.IsWritable) {texts : List String}
    (hlisted : ∀ text ∈ texts, Text.IsListed text.toList) :
    ∃ type, type.resolve = .ok (line.type, line.param1, line.param2) ∧
      parts? (line.text [] ++ tagsText texts).toList =
        some (line.name, type, [',', ' '].intercalate (texts.map (·.toList))) := by
  obtain ⟨type, htype, hresolve⟩ := TypeText.read?_append h.type
    (fun _ hc => eq_blank_of_mem_head? hc) (TypeText.tags?_listed hlisted)
  have htext : (line.text [] ++ tagsText texts).toList = line.name.toList ++ ':' :: ' ' ::
      (line.type.toList ++ ((parametersText line.param1 line.param2).toList ++
        (tagsText texts).toList)) := by
    rw [String.toList_append, toList_text]
    simp [toList_tagsText]
  have htrim := h.type.isName.trimStart_append ((parametersText line.param1 line.param2).toList ++
    (tagsText texts).toList)
  refine ⟨type, hresolve, ?_⟩
  rw [htext]
  refine Text.bind_eq_some (h.name.name?_append (by simp; decide)) <|
    Text.bind_eq_some (Text.after?_append [':'] _) ?_
  rw [Text.trimStart_space, htrim]
  exact Text.bind_eq_some htype (congrArg (fun name => some (name, _)) String.ofList_toList)

/-- **Field lines are read as they are written.** The name of the owner is arbitrary, since it is
only used in an error and there is none. -/
theorem read_text_of_isTaggedBy (h : line.IsWritable) (htags : line.IsTaggedBy written)
    (owner : String) :
    read owner (line.text written) = .ok (some line) := by
  have hwritten : ∀ tag ∈ written, tag.IsWritable :=
    fun tag htag => h.isWritable_of_mem tag (htags.perm.mem_iff.1 htag)
  have hpieces : ∀ tag ∈ written.map (·.text), Text.IsPiece tag.toList :=
    List.forall_mem_map.2 fun tag htag => FieldTag.isPiece_text (hwritten tag htag)
  obtain ⟨type, htype, hresolve⟩ := TypeText.read?_append h.type
    (fun _ hc => eq_blank_of_mem_head? hc) (TypeText.tags?_tagsText hpieces)
  have hparts : parts? (line.text written).toList =
      some (line.name, type, [',', ' '].intercalate ((written.map (·.text)).map (·.toList))) := by
    rw [toList_text]
    refine Text.bind_eq_some (h.name.name?_append (by simp; decide)) <|
      Text.bind_eq_some (Text.after?_append [':'] _) ?_
    have htrim := h.type.isName.trimStart_append ((parametersText line.param1 line.param2).toList ++
      (tagsText (written.map (·.text))).toList)
    rw [Text.trimStart_space, htrim]
    exact Text.bind_eq_some htype (congrArg (fun name => some (name, _)) String.ofList_toList)
  have hsplit := splitTags_intercalate (List.forall_mem_map.2 hpieces) (List.forall_mem_nil _)
  rw [List.append_nil] at hsplit
  have hadd := addTags_text owner hwritten line.untagged
  rw [htags.foldl_addTo h.guarded] at hadd
  rw [read_of_parts? hparts hresolve, hsplit, List.map_map]
  exact congrArg (Except.map some) hadd

/-- A field with every kind of tag. -/
def price : FieldLine where
  name := "price"
  type := "decimal"
  param1 := some (.number 8)
  param2 := some 2
  primaryKey := true
  nullable := some false
  guarded := some true
  default := some "0.5"
  indexes := [none, some "by_price"]
  uniques := [some "one_price"]

/-- The tags of `price` in another order than that of `tags`. -/
def priceTags : List FieldTag :=
  [.default "0.5", .index none, .unique (some "one_price"), .guarded, .primaryKey,
    .index (some "by_price"), .nullable false]

/-- The example has two numbers and every kind of tag, in an order that is not that of `tags`, so
none of the hypotheses holds trivially. -/
theorem read_text_price :
    price.IsWritable ∧ price.IsTaggedBy priceTags ∧
      price.text priceTags = "price: decimal(8, 2) Default(0.5), Index, Unique(one_price), " ++
        "Guarded, PrimaryKey, Index(by_price), NotNull" ∧
      read "Product" (price.text priceTags) = .ok (some price) := by
  have hzero : Text.IsDigits ['0'] := ⟨by decide, List.all_eq_true.1 (by decide)⟩
  have hfive : Text.IsDigits ['5'] := ⟨by decide, List.all_eq_true.1 (by decide)⟩
  have hdefault : FieldTag.IsLiteral "0.5".toList := .fraction hzero hfive
  have hline : price.IsWritable :=
    { name := by decide
      type := @IsWritableType.twoNumbers "decimal" 8 2 (by decide) (by decide) (by decide)
        (by decide)
      indexes := by decide
      uniques := by decide
      guarded := by decide
      default := fun literal hliteral => Option.some.inj hliteral ▸ hdefault }
  have htags : price.IsTaggedBy priceTags := ⟨by decide, rfl, rfl⟩
  exact ⟨hline, htags, by decide +kernel, read_text_of_isTaggedBy hline htags "Product"⟩

end FieldLine

end EntitySchema
