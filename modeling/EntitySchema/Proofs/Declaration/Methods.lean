/-
Method lines are read as they are written.

A method is written as its name with `()`, then what it goes `via`, then a colon with its return
type, then its tags. Only the name has to be there, so the work is to see where each of the optional
parts stops: no character that ends a part may stand in it (`MethodLine.readVia_append`,
`MethodLine.returnType?_append`).

A join is a tag with a grammar of its own. The list of tags is cut at commas before any tag is read,
and `Join.comma_not_mem_of_parse` is why this cuts no join. It is proved of the reader of joins and
not of the texts of joins: each step of that reader would leave a comma to the next one, and at the
end only blanks may be left. So nothing has to be asked of the join of a method but that its text is
read as it.

Method lines differ from field lines in two ways that show in the statements. All attributes of a
method are set by at most one tag, so any permutation of the tags will do, where a field has to keep
its indexes in order. And blanks may follow the line, line feeds among them. The reader counts some
of these blanks to the list of tags, which is why the lemmas about parts speak of a `left` that is a
start of what follows; in the end it is trimmed with the last tag.

A line without a return type has no tags. That is a condition of `IsWritable`, since the reader
knows no other place for tags than behind a return type.
-/
import EntitySchema.Declaration.Method
import EntitySchema.Proofs.Declaration.Fields

set_option autoImplicit false

namespace EntitySchema

open Outcome

/-! ## A join has no comma -/

namespace Text

variable {cs rest run start : List Char} {c : Char}

/-- A run that is read keeps what is no part of it for the rest. This and the next four lemmas say
the same of each step of a reader: what a step cannot take it leaves. -/
theorem mem_of_run? {p : Char → Bool} (h : run? p cs = some (run, rest)) (hc : p c = false)
    (hmem : c ∈ cs) : c ∈ rest := by
  rw [run?] at h
  split at h
  · cases h
  · obtain ⟨rfl, rfl⟩ := Prod.mk.inj (Option.some.inj h)
    rw [← List.takeWhile_append_dropWhile (p := p) (l := cs), List.mem_append] at hmem
    rcases hmem with htake | hdrop
    · exact absurd (List.mem_takeWhile_imp htake) (by simp [hc])
    · exact hdrop

/-- A fixed start that is read keeps what is not in it for the rest. -/
theorem mem_of_after? (h : after? start cs = some rest) (hc : c ∉ start) (hmem : c ∈ cs) :
    c ∈ rest := by
  rw [eq_append_of_after? h, List.mem_append] at hmem
  exact hmem.resolve_left hc

/-- Trimming keeps what is no blank. -/
theorem mem_trimStart (hc : isBlank c = false) (hmem : c ∈ cs) : c ∈ trimStart cs := by
  rw [← List.takeWhile_append_dropWhile (p := isBlank) (l := cs), List.mem_append] at hmem
  rcases hmem with htake | hdrop
  · exact absurd (List.mem_takeWhile_imp htake) (by simp [hc])
  · exact hdrop

/-- Blanks that are read keep what is no blank. -/
theorem mem_of_blanks? (h : blanks? cs = some rest) (hc : isBlank c = false) (hmem : c ∈ cs) :
    c ∈ rest := by
  cases cs with
  | nil => cases hmem
  | cons d cs =>
    rw [blanks?] at h
    split at h
    · next hd =>
      obtain rfl := Option.some.inj h
      rcases List.mem_cons.1 hmem with rfl | hmem
      · rw [hc] at hd
        cases hd
      · exact mem_trimStart hc hmem
    · cases h

/-- At the end only blanks may be left, and so nothing that was kept. -/
theorem not_mem_of_all_isBlank (h : cs.all isBlank = true) (hc : isBlank c = false) : c ∉ cs := by
  intro hmem
  rw [List.all_eq_true.1 h c hmem] at hc
  cases hc

end Text

/-- A column is two names with a point between them, none of which takes a comma. -/
theorem JoinCondition.comma_mem_of_column? {cs rest : List Char} {table field : String}
    (h : column? cs = some (table, field, rest)) (hmem : ',' ∈ cs) : ',' ∈ rest := by
  obtain ⟨⟨_, afterTable⟩, htable, h⟩ := Option.bind_eq_some_iff.1 h
  obtain ⟨start, hstart, h⟩ := Option.bind_eq_some_iff.1 h
  obtain ⟨⟨_, left⟩, hfield, h⟩ := Option.bind_eq_some_iff.1 h
  obtain ⟨-, -, rfl⟩ : _ ∧ _ ∧ left = rest := by simpa using h
  have htail := Text.mem_of_after? hstart (by decide) (Text.mem_of_run? htable (by decide) hmem)
  exact Text.mem_of_run? hfield (by decide) htail

/-- A condition is two columns with an equals sign between them. -/
theorem JoinCondition.comma_mem_of_read? {cs rest : List Char} {condition : JoinCondition}
    (h : read? cs = some (condition, rest)) (hmem : ',' ∈ cs) : ',' ∈ rest := by
  obtain ⟨⟨_, _, afterLeft⟩, hleft, h⟩ := Option.bind_eq_some_iff.1 h
  obtain ⟨start, hstart, h⟩ := Option.bind_eq_some_iff.1 h
  obtain ⟨⟨_, _, left⟩, hright, h⟩ := Option.bind_eq_some_iff.1 h
  obtain ⟨-, rfl⟩ : _ ∧ left = rest := by simpa using h
  have htail := Text.mem_of_after? hstart (by decide)
    (Text.mem_trimStart (by decide) (comma_mem_of_column? hleft hmem))
  exact comma_mem_of_column? hright (Text.mem_trimStart (by decide) htail)

/-- The second condition stands behind the word `AND`. -/
theorem Join.comma_mem_of_second? {cs rest : List Char} {condition : JoinCondition}
    (h : second? cs = some (condition, rest)) (hmem : ',' ∈ cs) : ',' ∈ rest := by
  obtain ⟨afterFirst, hfirst, h⟩ := Option.bind_eq_some_iff.1 h
  obtain ⟨afterWord, hword, h⟩ := Option.bind_eq_some_iff.1 h
  obtain ⟨start, hstart, h⟩ := Option.bind_eq_some_iff.1 h
  have htail := Text.mem_of_after? hword (by decide) (Text.mem_of_blanks? hfirst (by decide) hmem)
  exact JoinCondition.comma_mem_of_read? h (Text.mem_of_blanks? hstart (by decide) htail)

/-- **A text that is read as a join has no comma.** Without this a join could not be a tag: the list
of tags is cut at its commas before anything is known of the tags. -/
theorem Join.comma_not_mem_of_parse {raw : String} {join : Join} (h : parse raw = .ok join) :
    ',' ∉ raw.toList := by
  intro hmem
  -- each part of the reader would leave the comma to the next, and only blanks may be left
  have hconditions : ∃ read, conditions? raw.toList = some read := by
    rw [parse] at h
    split at h
    · cases h
    · next hread => exact ⟨_, hread⟩
    · next hread => exact ⟨_, hread⟩
  obtain ⟨read, hread⟩ := hconditions
  obtain ⟨⟨first, rest⟩, hfirst, hread⟩ := Option.bind_eq_some_iff.1 hread
  have hrest := JoinCondition.comma_mem_of_read? hfirst (Text.mem_trimStart (by decide) hmem)
  dsimp only at hread
  split at hread
  · next hblank => exact Text.not_mem_of_all_isBlank hblank (by decide) hrest
  · obtain ⟨⟨second, left⟩, hsecond, hread⟩ := Option.bind_eq_some_iff.1 hread
    have hleft := Join.comma_mem_of_second? hsecond hrest
    dsimp only at hread
    split at hread
    · next hblank => exact Text.not_mem_of_all_isBlank hblank (by decide) hleft
    · cases hread

/-! ## Tags -/

namespace MethodTag

/-- A pointer to a method: names and dots, and the parentheses of a call. -/
def IsPointer (pointer : List Char) : Prop :=
  ∃ callee, pointer = callee ++ ['(', ')'] ∧ callee ≠ [] ∧ ∀ c ∈ callee, isPointerChar c = true

/-- An alias that may stand between double quotes. -/
structure IsAlias (name : List Char) : Prop where
  nonempty : name ≠ []
  quote : '"' ∉ name
  comma : ',' ∉ name
  feed : '\n' ∉ name

/-- A tag as it is written. -/
def text : MethodTag → String
  | join value => "Join(" ++ value.raw ++ ")"
  | inverse pointer => "<- " ++ pointer
  | pivotAlias name => "As(\"" ++ name ++ "\")"
  | pivotWithTimestamps => "PivotWithTimestamps"
  | nullable true => "Nullable"
  | nullable false => "NotNull"

/-- A tag whose texts may stand where they are written. -/
def IsWritable : MethodTag → Prop
  | join value => Join.parse value.raw = .ok value ∧ '\n' ∉ value.raw.toList
  | inverse pointer => IsPointer pointer.toList
  | pivotAlias name => IsAlias name.toList
  | _ => True

/-- A pointer is not trimmed and does not end the blank in front of it. -/
theorem isBlank_of_isPointerChar {c : Char} (h : isPointerChar c = true) :
    Text.isBlank c = false := by
  rw [isPointerChar, Bool.or_eq_true, decide_eq_true_eq] at h
  rcases h with hname | rfl
  · exact Text.isBlank_of_isNameChar hname
  · decide

/-- A pointer is read back, parentheses included: the reader looks behind the last name for them and
answers with the whole text. -/
theorem pointer?_append {pointer : List Char} (h : IsPointer pointer) :
    pointer? ('<' :: '-' :: ' ' :: pointer) = some (String.ofList pointer) := by
  obtain ⟨callee, rfl, hnonempty, hchars⟩ := h
  have htrim := Text.trimStart_append_of_nonblank hnonempty
    (fun c hc => isBlank_of_isPointerChar (hchars c hc)) ['(', ')']
  refine Text.bind_eq_some (Text.after?_append ['<', '-'] _) <|
    Text.bind_eq_some (congrArg some htrim) <|
      Text.bind_eq_some (Text.run?_append hnonempty hchars (by simp; decide +kernel)) ?_
  rfl

/-- An alias is read back. Between its quotes anything may stand but a quote; that a comma may not
is asked for by the list, not by this reader. -/
theorem quoted?_append {name : List Char} (h : IsAlias name) :
    quoted? '"' ("As(\"".toList ++ (name ++ "\")".toList)) = some (String.ofList name) := by
  have hallowed : (!name.isEmpty && !name.contains '"') = true := by
    simp [h.nonempty, h.quote]
  exact (congrArg (Option.bind · _) (Text.between?_append _ _ _)).trans (if_pos hallowed)

/-- A tag that starts with another letter than a join and the words is a pointer or an alias. The
word for timestamps is read in either case, hence the hypothesis about its first letter. -/
theorem read_cons {c : Char} (hjoin : 'J' ≠ c) (hnull : c ≠ 'N') (hpivot : isLetterOf 'p' c = false)
    (rest : List Char) :
    read (c :: rest) = .ok (((pointer? (c :: rest)).map MethodTag.inverse).or
      (((quoted? '"' (c :: rest)).or (quoted? '\'' (c :: rest))).map MethodTag.pivotAlias)) := by
  have hbetween : Text.between? "Join(".toList [')'] (c :: rest) = none :=
    Text.between?_eq_none (Text.after?_cons_of_ne hjoin _ _) _
  have htimestamps : isPivotWithTimestamps (c :: rest) = false := by
    have hletters : (("pivotwithtimestamps".toList.zip (c :: rest)).all
        fun pair => isLetterOf pair.1 pair.2) = false :=
      (congrArg (· && _) hpivot).trans rfl
    rw [isPivotWithTimestamps, hletters, Bool.and_false]
  have hword : ∀ word : List Char, word.head? = some 'N' → c :: rest ≠ word := by
    rintro _ hhead rfl
    exact hnull (Option.some.inj hhead)
  rw [read, hbetween]
  simp only [htimestamps]
  rw [if_neg Bool.false_ne_true, if_neg (hword _ rfl),
    if_neg (not_or.2 ⟨hword _ rfl, hword _ rfl⟩)]

/-- **A tag is read as it is written.** A join is read by its own reader, which is asked first; the
others are told apart by their first characters. -/
theorem read_text {tag : MethodTag} (h : tag.IsWritable) :
    read tag.text.toList = .ok (some tag) := by
  cases tag with
  | join value =>
    have hbetween : Text.between? "Join(".toList [')'] (text (.join value)).toList =
        some value.raw.toList := by
      rw [text, FieldTag.toList_enclosed, Text.between?_append]
    rw [read, hbetween]
    simp only [String.ofList_toList, h.1]
    rfl
  | inverse pointer =>
    have htext : (text (.inverse pointer)).toList = '<' :: '-' :: ' ' :: pointer.toList :=
      String.toList_append
    rw [htext, read_cons (by decide) (by decide) (by decide), pointer?_append h,
      String.ofList_toList]
    rfl
  | pivotAlias name =>
    have htext : (text (.pivotAlias name)).toList =
        'A' :: ("s(\"".toList ++ (name.toList ++ "\")".toList)) := by
      rw [text, String.toList_append, String.toList_append, List.append_assoc]
      rfl
    have hpointer : pointer? ('A' :: ("s(\"".toList ++ (name.toList ++ "\")".toList))) = none := rfl
    have hquoted : quoted? '"' ('A' :: ("s(\"".toList ++ (name.toList ++ "\")".toList))) =
        some (String.ofList name.toList) := quoted?_append h
    rw [htext, read_cons (by decide) (by decide) (by decide), hpointer, hquoted,
      String.ofList_toList]
    rfl
  | pivotWithTimestamps => exact eq_ok_of_toOption (by decide +kernel)
  | nullable value => cases value <;> exact eq_ok_of_toOption (by decide +kernel)

/-- A tag is kept whole in a list of tags. For a join this is where it counts that its text has no
comma. -/
theorem isPiece_text {tag : MethodTag} (h : tag.IsWritable) : Text.IsPiece tag.text.toList := by
  cases tag with
  | join value =>
    rw [text, FieldTag.toList_enclosed]
    exact .append (by decide) (by decide) (Join.comma_not_mem_of_parse h.1) h.2
  | inverse pointer =>
    obtain ⟨callee, hpointer, -, hchars⟩ := h
    have htext : (text (.inverse pointer)).toList =
        ['<', '-'] ++ (' ' :: callee ++ ['(', ')']) := by
      rw [text, String.toList_append, hpointer]
      rfl
    have hcall : ∀ c, isPointerChar c = false → c ≠ ' ' → c ∉ ' ' :: callee := by
      intro c hc hblank hmem
      rcases List.mem_cons.1 hmem with heq | hmem
      · exact hblank heq
      · rw [hchars c hmem] at hc
        cases hc
    rw [htext]
    exact .append (by decide) (by decide) (hcall _ (by decide) (by decide))
      (hcall _ (by decide) (by decide))
  | pivotAlias name =>
    rw [text, String.toList_append, String.toList_append, List.append_assoc]
    exact .append (by decide) (by decide) h.comma h.feed
  | pivotWithTimestamps => decide
  | nullable value => cases value <;> decide

end MethodTag

/-! ## What a method line is written as -/

attribute [ext] MethodLine

namespace MethodLine

/-- What may stand behind `via`. -/
structure IsVia (via : List Char) : Prop where
  nonempty : via ≠ []
  viaChars : ∀ c ∈ via, isViaChar c = true

/-- A return type that may be written: names with bars between them, or a name with `[]`. -/
inductive IsReturnType : List Char → Prop where
  | union {names : List Char} (hnonempty : names ≠ []) (hnames : ∀ c ∈ names, isTypeChar c = true) :
      IsReturnType names
  | array {name : List Char} (hnonempty : name ≠ [])
      (hname : ∀ c ∈ name, Text.isAlphanumeric c = true) : IsReturnType (name ++ ['[', ']'])

/-- The tags that say what the name, the `via` and the return type of a method leave open. -/
def tags (line : MethodLine) : List MethodTag :=
  (line.join.map .join).toList ++ (line.inverseOf.map .inverse).toList ++
    (line.pivotAlias.map .pivotAlias).toList ++
    (if line.pivotWithTimestamps then [.pivotWithTimestamps] else []) ++
    (line.nullable.map .nullable).toList

/-- A method line all of whose parts may stand where they are written. Tags follow a return type
only. -/
structure IsWritable (line : MethodLine) : Prop where
  name : IsName line.name.toList
  via : ∀ via ∈ line.via, IsVia via.toList
  returnType : ∀ type ∈ line.returnType, IsReturnType type.toList
  tags : ∀ tag ∈ line.tags, tag.IsWritable
  untagged : line.returnType = none → line.tags = []

/-- The name of a method, its `via` and its return type, as they stand in front of its tags. -/
def untagged (line : MethodLine) : MethodLine where
  name := line.name
  via := line.via
  returnType := line.returnType

/-- A method line as it is written, with its tags in the given order. -/
def text (line : MethodLine) (tags : List MethodTag) : String :=
  line.name ++ "()" ++ (line.via.elim "" fun via => " via " ++ via) ++
    (line.returnType.elim "" fun type => ": " ++ type) ++ tagsText (tags.map (·.text))

/-! ## Parts of a line -/

section Parts

variable {rest back : List Char}

/-- What stands behind `via` holds no blank, so a blank ends it. -/
theorem isBlank_of_isViaChar {c : Char} (h : isViaChar c = true) : Text.isBlank c = false := by
  simp only [isViaChar, Bool.or_eq_true, decide_eq_true_eq] at h
  rcases h with ((hname | rfl) | rfl) | rfl
  · exact Text.isBlank_of_isNameChar hname
  all_goals decide

/-- Without a `via` the line goes on with the return type or is at its end. The reader trims before
it looks for the word, so blanks at the end of the line have to be allowed for. -/
theorem readVia_eq_none (h : rest.head? = some ':' ∨ ∀ c ∈ rest, Text.isBlank c = true) :
    readVia rest = (none, rest) := by
  have hafter : Text.after? "via".toList (Text.trimStart rest) = none := by
    rcases h with hcolon | hblank
    · obtain ⟨rest, rfl⟩ := List.head?_eq_some_iff.1 hcolon
      rw [Text.trimStart_cons_of_not_isBlank (by decide)]
      exact Text.after?_cons_of_ne (by decide) _ _
    · rw [Text.trimStart_eq_nil_iff.2 hblank]
      rfl
  rw [readVia, hafter]
  rfl

/-- A `via` ends where the return type or a blank follows. A colon is no character of it, but a
point and parentheses are, since a method may be named there. -/
theorem readVia_append {via : List Char} (h : IsVia via)
    (hrest : ∀ c ∈ rest.head?, c = ':' ∨ Text.isBlank c = true) :
    readVia (" via ".toList ++ (via ++ rest)) = (some (String.ofList via), rest) := by
  have hend : ∀ c ∈ rest.head?, isViaChar c = false := by
    intro c hc
    rcases hrest c hc with rfl | hblank
    · decide
    · exact Text.eq_false_of_isBlank isBlank_of_isViaChar hblank
  have htrim : Text.trimStart (' ' :: (via ++ rest)) = via ++ rest :=
    (Text.trimStart_space _).trans
      (Text.trimStart_append_of_nonblank h.nonempty
        (fun c hc => isBlank_of_isViaChar (h.viaChars c hc)) _)
  have hword : Text.trimStart (" via ".toList ++ (via ++ rest)) =
      "via".toList ++ ' ' :: (via ++ rest) :=
    (Text.trimStart_space _).trans (Text.trimStart_cons_of_not_isBlank (by decide) _)
  rw [readVia, hword, Text.after?_append]
  simp only [Option.bind_eq_bind, Option.bind_some, htrim,
    Text.run?_append h.nonempty h.viaChars hend]

/-- The tags of a line are read whatever blanks stand behind them. The reader takes them up to the
first line feed, so a start of those blanks is read with them. -/
theorem tags?_tagsText {tags : List String} (h : ∀ tag ∈ tags, Text.IsListed tag.toList)
    (hback : ∀ c ∈ back, Text.isBlank c = true) :
    ∃ left, left <+: back ∧ tags? ((tagsText tags).toList ++ back) =
      some ([',', ' '].intercalate (tags.map (·.toList)) ++ left) := by
  have hlisted : ∀ tag ∈ tags.map (·.toList), Text.IsListed tag := List.forall_mem_map.2 h
  rw [toList_tagsText]
  split
  · next hnil =>
    refine ⟨[], List.nil_prefix, ?_⟩
    rw [List.isEmpty_iff.1 hnil, List.nil_append, tags?, if_pos (List.all_eq_true.2 hback)]
    rfl
  · next hnonempty =>
    have hmap : tags.map (·.toList) ≠ [] := by simpa using hnonempty
    generalize tags.map (·.toList) = pieces at *
    have htrim := trimStart_intercalate hlisted hmap back
    have hnot : ((' ' :: [',', ' '].intercalate pieces) ++ back).all Text.isBlank ≠ true := by
      obtain ⟨tag, rest, htag, heq⟩ := exists_intercalate_eq hlisted hmap
      obtain ⟨c, hc, hblank⟩ := htag.first
      intro hall
      have hmem := List.mem_of_mem_head? hc
      rw [List.all_eq_true.1 hall c (by simp [heq, hmem])] at hblank
      cases hblank
    have hfeed : ∀ c ∈ [',', ' '].intercalate pieces, (c != '\n') = true := fun c hc =>
      bne_iff_ne.2 fun heq => feed_not_mem_intercalate hlisted (heq ▸ hc)
    have hdrop : (back.dropWhile (· != '\n')).all Text.isBlank = true :=
      List.all_eq_true.2 fun c hc => hback c ((List.dropWhile_sublist _).mem hc)
    refine ⟨back.takeWhile (· != '\n'), List.takeWhile_prefix _, ?_⟩
    rw [tags?, if_neg hnot]
    refine Text.bind_eq_some (congrArg some htrim) ?_
    rw [List.dropWhile_append_of_pos hfeed, if_pos hdrop, List.takeWhile_append_of_pos hfeed]

/-- The name of an array type is made of fewer characters than a union may have. -/
theorem isTypeChar_of_isAlphanumeric {c : Char} (h : Text.isAlphanumeric c = true) :
    isTypeChar c = true :=
  Bool.or_eq_true_iff.2 (.inl h)

/-- A return type holds no blank, so the blank in front of the tags ends it. -/
theorem isBlank_of_isTypeChar {c : Char} (h : isTypeChar c = true) : Text.isBlank c = false := by
  rw [isTypeChar, Bool.or_eq_true, decide_eq_true_eq] at h
  rcases h with halpha | rfl
  · exact Text.isBlank_of_isNameChar (Text.isNameChar_of_isAlphanumeric halpha)
  · decide

/-- The names of a return type are read up to its array mark or its end. Blanks in front of them are
skipped by the reader, and a return type starts with none. -/
theorem run?_isTypeChar {names : List Char} (hnonempty : names ≠ [])
    (hnames : ∀ c ∈ names, isTypeChar c = true)
    (hrest : ∀ c ∈ rest.head?, c = '[' ∨ Text.isBlank c = true) :
    Text.run? isTypeChar (Text.trimStart (names ++ rest)) = some (names, rest) := by
  have htrim := Text.trimStart_append_of_nonblank hnonempty
    (fun c hc => isBlank_of_isTypeChar (hnames c hc)) rest
  have hend : ∀ c ∈ rest.head?, isTypeChar c = false := by
    intro c hc
    rcases hrest c hc with rfl | hblank
    · decide
    · exact Text.eq_false_of_isBlank isBlank_of_isTypeChar hblank
  rw [htrim, Text.run?_append hnonempty hnames hend]

/-- A return type is read as it is written, with the tags that follow it. The array mark is looked
for behind the names, and a union has none. -/
theorem returnType?_append {type tags : List Char} (h : IsReturnType type)
    (hblank : ∀ c ∈ rest.head?, Text.isBlank c = true) (htags : tags? rest = some tags) :
    returnType? (' ' :: (type ++ rest)) = some (String.ofList type, tags) := by
  cases h with
  | union hnonempty hnames =>
    have hstart : Text.blanks? (' ' :: (type ++ rest)) = some (Text.trimStart (type ++ rest)) := rfl
    have hrun := run?_isTypeChar hnonempty hnames fun c hc => .inr (hblank c hc)
    refine Text.bind_eq_some hstart (Text.bind_eq_some hrun ?_)
    dsimp only
    split
    · next more => exact absurd (hblank '[' rfl) (by decide)
    · exact Text.bind_eq_some htags rfl
  | @array name hnonempty hname =>
    have hstart : Text.blanks? (' ' :: (name ++ '[' :: ']' :: rest)) =
        some (Text.trimStart (name ++ '[' :: ']' :: rest)) := rfl
    have hrun : Text.run? isTypeChar (Text.trimStart (name ++ '[' :: ']' :: rest)) =
        some (name, '[' :: ']' :: rest) :=
      run?_isTypeChar hnonempty (fun c hc => isTypeChar_of_isAlphanumeric (hname c hc)) (by simp)
    rw [List.append_assoc]
    refine Text.bind_eq_some hstart (Text.bind_eq_some hrun ?_)
    exact Text.bind_eq_some htags rfl

end Parts

/-- No return type that may be written is a union and an array at once. The reader refuses such a
line with an error of its own, so this has to be excluded before the tags are looked at. -/
theorem isUnionArray_eq_false {type : String} (h : IsReturnType type.toList) :
    isUnionArray type = false := by
  rw [isUnionArray, Bool.and_eq_false_iff]
  generalize type.toList = cs at h
  cases h with
  | union hnonempty hnames =>
    refine .inr (Bool.eq_false_iff.2 fun hsuffix => ?_)
    -- a union would end in a bracket, which stands in no name
    obtain ⟨front, rfl⟩ := List.isSuffixOf_iff_suffix.1 hsuffix
    exact absurd (hnames ']' (by simp)) (by decide)
  | array hnonempty hname =>
    refine .inl (Bool.eq_false_iff.2 fun hbar => ?_)
    have hmem := List.contains_iff_mem.1 hbar
    rw [List.mem_append] at hmem
    rcases hmem with hmem | hmem
    · exact absurd (hname '|' hmem) (by decide)
    · exact absurd hmem (by decide)

/-! ## Lines -/

variable {line : MethodLine} {written : List MethodTag}

/-- Tags that may be written are added as they are. The label is only used in an error. -/
theorem addTags_text (label : String) (hwritten : ∀ tag ∈ written, tag.IsWritable)
    (method : MethodLine) :
    addTags label method (written.map (·.text.toList)) =
      .ok (written.foldl MethodTag.addTo method) := by
  induction written generalizing method with
  | nil => rfl
  | cons tag written ih =>
    rw [List.map_cons, addTags, MethodTag.read_text (hwritten tag List.mem_cons_self)]
    exact ih (fun other hother => hwritten other (List.mem_cons_of_mem tag hother)) _

/-- What the tags of a line set. Each attribute is a case of this, by a choice of `sets?` that sees
one kind of tag. -/
theorem filterMap_tags {β : Type} (sets? : MethodTag → Option β) :
    line.tags.filterMap sets? =
      (line.join.bind fun value => sets? (.join value)).toList ++
        (line.inverseOf.bind fun pointer => sets? (.inverse pointer)).toList ++
        (line.pivotAlias.bind fun name => sets? (.pivotAlias name)).toList ++
        (if line.pivotWithTimestamps then sets? .pivotWithTimestamps else none).toList ++
        (line.nullable.bind fun value => sets? (.nullable value)).toList := by
  simp only [tags, List.filterMap_append, filterMap_ite, filterMap_toList, Option.bind_map,
    Function.comp_def]

/-- **The tags of a line give it back**, in whatever order they stand. As for fields the line is
compared attribute by attribute, but here no attribute collects its tags, so a permutation is
enough. -/
theorem foldl_addTo (h : written.Perm line.tags) :
    written.foldl MethodTag.addTo line.untagged = line := by
  -- no tag sets the name, the `via` or the return type
  have hfront := part_foldl MethodTag.addTo
    (fun method => (method.name, method.via, method.returnType)) (fun _ => none)
    (by intro method tag; cases tag <;> rfl) none h (by simp) line.untagged
  -- each of the other attributes is set by at most one tag
  have hjoin := part_foldl MethodTag.addTo (·.join)
    (fun | .join value => some (some value) | _ => none) (by intro method tag; cases tag <;> rfl)
    (line.join.bind fun value => some (some value)) h (by simp [filterMap_tags]) line.untagged
  have hinverse := part_foldl MethodTag.addTo (·.inverseOf)
    (fun | .inverse pointer => some (some pointer) | _ => none)
    (by intro method tag; cases tag <;> rfl)
    (line.inverseOf.bind fun pointer => some (some pointer)) h (by simp [filterMap_tags])
    line.untagged
  have halias := part_foldl MethodTag.addTo (·.pivotAlias)
    (fun | .pivotAlias name => some (some name) | _ => none)
    (by intro method tag; cases tag <;> rfl)
    (line.pivotAlias.bind fun name => some (some name)) h (by simp [filterMap_tags]) line.untagged
  have htimestamps := part_foldl MethodTag.addTo (·.pivotWithTimestamps)
    (fun | .pivotWithTimestamps => some true | _ => none)
    (by intro method tag; cases tag <;> rfl)
    (if line.pivotWithTimestamps then some true else none) h (by simp [filterMap_tags])
    line.untagged
  have hnullable := part_foldl MethodTag.addTo (·.nullable)
    (fun | .nullable value => some (some value) | _ => none)
    (by intro method tag; cases tag <;> rfl)
    (line.nullable.bind fun value => some (some value)) h (by simp [filterMap_tags]) line.untagged
  refine MethodLine.ext (congrArg (·.1) hfront) (congrArg (·.2.1) hfront)
    (congrArg (·.2.2) hfront) (hinverse.trans ?keepsInverse) (hjoin.trans ?keepsJoin)
    (halias.trans ?keepsPivotAlias) (htimestamps.trans ?keepsTimestamps)
    (hnullable.trans ?keepsNullable)
  case keepsInverse => cases line.inverseOf <;> rfl
  case keepsJoin => cases line.join <;> rfl
  case keepsPivotAlias => cases line.pivotAlias <;> rfl
  case keepsTimestamps => cases line.pivotWithTimestamps <;> rfl
  case keepsNullable => cases line.nullable <;> rfl

/-- The characters of a line, part by part and bracketed to the right, as the reader takes them. -/
theorem toList_text (line : MethodLine) (written : List MethodTag) :
    (line.text written).toList = line.name.toList ++ (['(', ')'] ++
      ((line.via.elim [] fun via => " via ".toList ++ via.toList) ++
        ((line.returnType.elim [] fun type => ':' :: ' ' :: type.toList) ++
          (tagsText (written.map (·.text))).toList))) := by
  cases hvia : line.via <;> cases htype : line.returnType <;> simp [text, hvia, htype]

/-- What may follow a `via`, or its place if there is none. Both cases in one, because the rest of
the line is read alike. -/
theorem readVia_text {via : Option String} (h : ∀ name ∈ via, IsVia name.toList) (rest : List Char)
    (hrest : rest.head? = some ':' ∨ ∀ c ∈ rest, Text.isBlank c = true) :
    readVia ((via.elim [] fun name => " via ".toList ++ name.toList) ++ rest) = (via, rest) := by
  cases via with
  | none => exact readVia_eq_none hrest
  | some name =>
    have hend : ∀ c ∈ rest.head?, c = ':' ∨ Text.isBlank c = true := by
      intro c hc
      rcases hrest with hcolon | hblank
      · exact .inl (Option.some.inj (hc.symm.trans hcolon))
      · exact .inr (hblank c (List.mem_of_mem_head? hc))
    have hread := readVia_append (h name rfl) hend
    rw [String.ofList_toList] at hread
    rw [← hread, Option.elim_some, List.append_assoc]

/-- The name of a line is read, and the parentheses of a call are left. -/
theorem name?_append_call (h : line.IsWritable) (rest : List Char) :
    Text.name? (line.name.toList ++ (['(', ')'] ++ rest)) =
      some (line.name.toList, ['(', ')'] ++ rest) :=
  h.name.name?_append (by simp; decide)

/-- The parts of a line without a return type. It has no tags, and any blanks may follow it, line
feeds among them. -/
theorem parts?_untyped (h : line.IsWritable) (htype : line.returnType = none) {back : List Char}
    (hback : ∀ c ∈ back, Text.isBlank c = true) :
    parts? ((line.text []).toList ++ back) = some (line.untagged, []) := by
  have hvia := readVia_text h.via back (.inr hback)
  have hall : back.all Text.isBlank = true := List.all_eq_true.2 hback
  have hline : line.untagged = { name := line.name, via := line.via } := by
    rw [untagged, htype]
  have htags : (tagsText (([] : List MethodTag).map (·.text))).toList = [] := rfl
  rw [toList_text, htype]
  simp only [List.append_assoc]
  refine Text.bind_eq_some (name?_append_call h _) <|
    Text.bind_eq_some (Text.after?_append _ _) ?_
  rw [htags, Option.elim_none, List.nil_append, List.nil_append, hvia]
  dsimp only
  split
  · exact absurd (hback ':' List.mem_cons_self) (by decide)
  · rw [if_pos hall, hline, String.ofList_toList]

/-- The tags of a line stand behind the rest of it. -/
theorem text_eq (line : MethodLine) (written : List MethodTag) :
    line.text written = line.text [] ++ tagsText (written.map (·.text)) := by
  simp [text, tagsText]

/-- The parts of a line with a return type and what is listed behind it. Some of the blanks that
follow count to the list. What is listed need not be tags that are read back, so that lines with a
comma between quotes are covered. -/
theorem parts?_typed (h : line.IsWritable) {type : String} (htype : line.returnType = some type)
    {texts : List String} (hlisted : ∀ text ∈ texts, Text.IsListed text.toList) {back : List Char}
    (hback : ∀ c ∈ back, Text.isBlank c = true) :
    ∃ left, left <+: back ∧
      parts? ((line.text [] ++ tagsText texts).toList ++ back) = some (line.untagged,
        [',', ' '].intercalate (texts.map (·.toList)) ++ left) := by
  have hend : ∀ c ∈ ((tagsText texts).toList ++ back).head?, Text.isBlank c = true := by
    intro c hc
    rw [List.head?_append, Option.mem_def, Option.or_eq_some_iff] at hc
    rcases hc with htag | ⟨-, hlast⟩
    · rw [eq_blank_of_mem_head? htag]
      decide
    · exact hback c (List.mem_of_mem_head? hlast)
  have hvia := readVia_text h.via (':' :: ' ' :: type.toList ++ ((tagsText texts).toList ++ back))
    (.inl rfl)
  obtain ⟨left, hleft, htags⟩ := tags?_tagsText hlisted hback
  have hread := returnType?_append (h.returnType type htype) hend htags
  have htext : (line.text []).toList = line.name.toList ++ (['(', ')'] ++
      ((line.via.elim [] fun via => " via ".toList ++ via.toList) ++
        ':' :: ' ' :: type.toList)) := by
    rw [toList_text, htype]
    simp [toList_tagsText]
  refine ⟨left, hleft, ?_⟩
  rw [String.toList_append, htext]
  simp only [List.append_assoc]
  refine Text.bind_eq_some (name?_append_call h _) <|
    Text.bind_eq_some (Text.after?_append _ _) ?_
  rw [hvia]
  refine Text.bind_eq_some hread ?_
  rw [String.ofList_toList, String.ofList_toList, untagged, htype]
  rfl

/-- The parts of a line that ends in any blanks: the two cases above put together. That the list is
a permutation of the tags is used for lines without a return type, whose list is empty. -/
theorem parts?_text (h : line.IsWritable) (hperm : written.Perm line.tags)
    (hpieces : ∀ tag ∈ written.map (·.text), Text.IsPiece tag.toList) {back : List Char}
    (hback : ∀ c ∈ back, Text.isBlank c = true) :
    ∃ left, (∀ c ∈ left, Text.isBlank c = true) ∧
      parts? ((line.text written).toList ++ back) = some (line.untagged,
        [',', ' '].intercalate ((written.map (·.text)).map (·.toList)) ++ left) := by
  cases htype : line.returnType with
  | none =>
    obtain rfl : written = [] := List.perm_nil.1 (h.untagged htype ▸ hperm)
    exact ⟨[], List.forall_mem_nil _, parts?_untyped h htype hback⟩
  | some type =>
    obtain ⟨left, hleft, hparts⟩ :=
      parts?_typed h htype (fun tag htag => (hpieces tag htag).isListed) hback
    rw [text_eq]
    exact ⟨left, fun c hc => hback c (hleft.subset hc), hparts⟩

/-- **Method lines are read as they are written**, whatever blanks stand behind them. What is left
of those blanks in the list is trimmed with its last tag. -/
theorem read_text_of_perm (h : line.IsWritable) (hperm : written.Perm line.tags) {back : String}
    (hback : ∀ c ∈ back.toList, Text.isBlank c = true) (owner : String) :
    read owner (line.text written ++ back) = .ok (some line) := by
  have hwritten : ∀ tag ∈ written, tag.IsWritable :=
    fun tag htag => h.tags tag (hperm.mem_iff.1 htag)
  have hpieces : ∀ tag ∈ written.map (·.text), Text.IsPiece tag.toList :=
    List.forall_mem_map.2 fun tag htag => MethodTag.isPiece_text (hwritten tag htag)
  obtain ⟨left, hleft, hparts⟩ := parts?_text h hperm hpieces hback
  have hsplit := splitTags_intercalate (List.forall_mem_map.2 hpieces) hleft
  have hadd := addTags_text (owner ++ "." ++ line.name ++ "()") hwritten line.untagged
  rw [foldl_addTo hperm] at hadd
  rw [read, String.toList_append, hparts]
  dsimp only
  -- without a return type no tag is added, and none had to be
  have hnone : line.returnType = none → line.untagged = line := by
    intro htype
    have hnil : written = [] := List.perm_nil.1 (h.untagged htype ▸ hperm)
    have hfold := foldl_addTo hperm
    rwa [hnil] at hfold
  split
  · next type htype =>
    rw [isUnionArray_eq_false (h.returnType type htype), if_neg Bool.false_ne_true, hsplit,
      List.map_map]
    exact (congrArg (·.map some) hadd).trans rfl
  · next htype => rw [hnone htype]

/-- A method with every kind of tag. -/
def roles : MethodLine where
  name := "roles"
  via := some "pivot()"
  returnType := some "Role[]"
  inverseOf := some "Role.users()"
  join := some
    { raw := "users.id = role_user.user_id AND role_user.role_id = roles.id"
      first := ⟨"users", "id", "role_user", "user_id"⟩
      second := some ⟨"role_user", "role_id", "roles", "id"⟩ }
  pivotAlias := some "grant"
  pivotWithTimestamps := true
  nullable := some true

/-- The tags of `roles` in another order than that of `tags`. -/
def rolesTags : List MethodTag :=
  roles.tags.reverse

/-- The example has every kind of tag and a `via` that names a method, its tags stand in the
opposite order, and a blank follows the line. -/
theorem read_text_roles :
    roles.IsWritable ∧ rolesTags.Perm roles.tags ∧
      roles.text rolesTags = "roles() via pivot(): Role[] Nullable, PivotWithTimestamps, " ++
        "As(\"grant\"), <- Role.users(), " ++
        "Join(users.id = role_user.user_id AND role_user.role_id = roles.id)" ∧
      read "User" (roles.text rolesTags ++ " ") = .ok (some roles) := by
  have hpointer : MethodTag.IsPointer "Role.users()".toList :=
    ⟨"Role.users".toList, rfl, by decide, List.all_eq_true.1 (by decide)⟩
  have halias : MethodTag.IsAlias "grant".toList := ⟨by decide, by decide, by decide, by decide⟩
  have hothers : ∀ tag ∈ [MethodTag.pivotWithTimestamps, .nullable true], tag.IsWritable := by
    simp [MethodTag.IsWritable]
  have hline : roles.IsWritable :=
    { name := by decide
      via := fun via hvia => Option.some.inj hvia ▸ ⟨by decide, List.all_eq_true.1 (by decide)⟩
      returnType := fun type htype =>
        Option.some.inj htype ▸
          @IsReturnType.array "Role".toList (by decide) (List.all_eq_true.1 (by decide))
      tags := List.forall_mem_cons.2 ⟨⟨eq_ok_of_toOption (by decide +kernel), by decide⟩,
        List.forall_mem_cons.2 ⟨hpointer, List.forall_mem_cons.2 ⟨halias, hothers⟩⟩⟩
      untagged := fun htype => nomatch htype }
  have hperm : rolesTags.Perm roles.tags := List.reverse_perm _
  exact ⟨hline, hperm, by decide +kernel,
    read_text_of_perm hline hperm (List.all_eq_true.1 (by decide)) "User"⟩

end MethodLine

end EntitySchema
