/-
Alter commands are read as they are written.

A command is a few words: `DELETE`, what it deletes and a source, or `RENAME`, what it renames, a
source, `TO` and a target. Any blanks may stand between two of them and behind the last one.
`AlterLine.read?_eq_some_iff` says that this is all: a text is read as a command if and only if it
does not start with a blank and its words are those of the command. A source or target may be called
`TO` or `FIELD` like anything else, since a word is told by its place.

The readers go through a text from left to right, and `Text.words` cuts it at once. The bridge
between the two is the pair `StartsPlain` and `Text.words`: a reader that stands at the start of a
word and knows which words are left knows what it will read next, and after each step the same can
be said of the rest. So every reader has a lemma in both directions, from what is read to the words
and from the words to what is read, and the statement about commands is an equivalence.

The four kinds of commands are tried one after the other, and fields and methods before any of them,
but nothing hangs on this order. The words of a command tell its kind, so no text is accepted by two
of the four, and behind the first word of a command there is a blank, where a field has its colon
and a method its parentheses (`Declaration.readNested_eq_ofAlter_iff`).

The last section is about the text that a command gives of itself. It is not the line that was read,
whose blanks are lost, but a line that is read as the same command (`readNested_text_iff`). A
command that was put together otherwise has such a text exactly if its source and target are names
and it has a target if and only if it renames.
-/
import EntitySchema.Declaration.Nested
import EntitySchema.Proofs.Join.Grammar
import EntitySchema.Proofs.Outcome
import EntitySchema.Schema.Basic

set_option autoImplicit false

namespace EntitySchema

open Outcome

/-! ## Words -/

namespace Text

variable {cs rest word : List Char} {more : List (List Char)}

/-- A text without blanks. -/
structure IsWord (word : List Char) : Prop where
  nonempty : word ≠ []
  nonblank : ∀ c ∈ word, isBlank c = false

/-- A text that does not go on with a word. -/
def EndsWord (rest : List Char) : Prop := ∀ c ∈ rest.head?, isBlank c = true

/-- Where a word ends a name ends, since no blank is a character of names. -/
theorem EndsWord.endsName (h : EndsWord rest) : EndsName rest := by
  intro c hc
  exact eq_false_of_isBlank isBlank_of_isNameChar (h c hc)

/-- A word does not start with a blank. -/
theorem IsWord.startsPlain (h : IsWord word) : StartsPlain word :=
  fun c hc => h.nonblank c (List.mem_of_mem_head? hc)

/-- Nor does a text that starts with a word. -/
theorem IsWord.startsPlain_append (h : IsWord word) (rest : List Char) :
    StartsPlain (word ++ rest) := by
  intro c hc
  rw [List.head?_append_of_ne_nil _ h.nonempty] at hc
  exact h.startsPlain c hc

/-- What has been read of a word is put in front of the rest of it. By induction on that rest, over
all that may have been read before; a blank or the end then closes the word. -/
theorem words_go_append {read : List Char} (hread : read ≠ [] ∨ word ≠ [])
    (hword : ∀ c ∈ word, isBlank c = false) (hrest : EndsWord rest) :
    words.go read (word ++ rest) = (read.reverse ++ word) :: words rest := by
  induction word generalizing read with
  | nil =>
    have hnonempty : read.isEmpty = false := by simpa using hread
    rw [List.nil_append, List.append_nil]
    cases rest with
    | nil =>
      rw [words.go, hnonempty, if_neg Bool.false_ne_true, words, words.go]
      rfl
    | cons c rest =>
      rw [words.go, if_pos (hrest c rfl), hnonempty, if_neg Bool.false_ne_true, words, words.go,
        if_pos (hrest c rfl)]
      rfl
  | cons c word ih =>
    have hc := hword c List.mem_cons_self
    rw [List.cons_append, words.go, if_neg (Bool.eq_false_iff.1 hc),
      ih (.inl (List.cons_ne_nil c read)) fun d hd => hword d (List.mem_cons_of_mem c hd),
      List.reverse_cons, List.append_assoc, List.singleton_append]

/-- **The first word** of a text ends where a blank follows or nothing. With the next lemma this
unfolds `words` for good: no later proof looks at the loop inside it. -/
theorem words_append (hword : IsWord word) (hrest : EndsWord rest) :
    words (word ++ rest) = word :: words rest :=
  words_go_append (.inr hword.nonempty) hword.nonblank hrest

/-- Blanks in front of a text are no part of its words. -/
theorem words_blanks_append {blanks : List Char} (h : IsBlanks blanks) (cs : List Char) :
    words (blanks ++ cs) = words cs := by
  induction blanks with
  | nil => rfl
  | cons c blanks ih =>
    rw [List.cons_append, words, words.go, if_pos (h c List.mem_cons_self)]
    exact ih fun d hd => h d (List.mem_cons_of_mem c hd)

/-- A text that does not start with a blank starts with a word: the characters up to the first
blank. -/
theorem exists_word (hstart : StartsPlain cs) (hnonempty : cs ≠ []) :
    ∃ word rest, IsWord word ∧ EndsWord rest ∧ cs = word ++ rest := by
  refine ⟨cs.takeWhile (!isBlank ·), cs.dropWhile (!isBlank ·), ⟨?_, ?_⟩, ?_,
    List.takeWhile_append_dropWhile.symm⟩
  · obtain ⟨c, cs, rfl⟩ := List.exists_cons_of_ne_nil hnonempty
    rw [List.takeWhile_cons_of_pos (by simp [hstart c rfl])]
    exact List.cons_ne_nil _ _
  · intro c hc
    simpa using List.mem_takeWhile_imp hc
  · intro c hc
    have hhead := List.head?_dropWhile_not (!isBlank ·) cs
    rw [Option.mem_def.1 hc] at hhead
    simpa using hhead

/-- A text has no words if and only if it is blank. -/
theorem words_eq_nil_iff : words cs = [] ↔ IsBlanks cs := by
  constructor
  · intro h
    obtain ⟨blanks, hblanks, hsplit, hstart⟩ := trimStart_eq_iff.1 (rfl : trimStart cs = _)
    by_cases hnil : trimStart cs = []
    · rwa [hsplit, hnil, List.append_nil]
    · obtain ⟨word, rest, hword, hrest, htrim⟩ := exists_word hstart hnil
      rw [hsplit, words_blanks_append hblanks, htrim, words_append hword hrest] at h
      cases h
  · intro h
    have hblank := words_blanks_append h []
    rwa [List.append_nil] at hblank

/-- The first word of a text stands at its start, unless a blank does. This is the way back from
words to the text. -/
theorem exists_of_words_eq_cons (hstart : StartsPlain cs) (h : words cs = word :: more) :
    ∃ rest, IsWord word ∧ EndsWord rest ∧ cs = word ++ rest ∧ words rest = more := by
  have hnonempty : cs ≠ [] := by
    rintro rfl
    cases h
  obtain ⟨first, rest, hfirst, hrest, rfl⟩ := exists_word hstart hnonempty
  rw [words_append hfirst hrest] at h
  obtain ⟨rfl, rfl⟩ := List.cons.inj h
  exact ⟨rest, hfirst, hrest, rfl, rfl⟩

/-- Blanks that are read end one word and leave the others. At least one blank is read, which is
what ends the word. -/
theorem words_of_blanks? (h : blanks? cs = some rest) : EndsWord cs ∧ words cs = words rest := by
  obtain ⟨blanks, hnonempty, hblanks, rfl, -⟩ := blanks?_eq_some_iff.1 h
  refine ⟨?_, words_blanks_append hblanks rest⟩
  intro c hc
  rw [List.head?_append_of_ne_nil _ hnonempty] at hc
  exact hblanks c (List.mem_of_mem_head? hc)

/-- Behind a word, and in front of another one, blanks are read. Without another word nothing might
stand there, and then no blank is found. -/
theorem exists_blanks? (h : EndsWord cs) (hwords : words cs ≠ []) :
    ∃ rest, blanks? cs = some rest ∧ StartsPlain rest ∧ words rest = words cs := by
  obtain ⟨blanks, hblanks, hsplit, hstart⟩ := trimStart_eq_iff.1 (rfl : trimStart cs = _)
  have hnonempty : blanks ≠ [] := by
    rintro rfl
    -- without blanks the text would be empty, as it starts with a blank or not at all
    cases cs with
    | nil => exact hwords rfl
    | cons c cs =>
      rw [List.nil_append] at hsplit
      have hplain := hstart c (hsplit ▸ rfl)
      rw [h c rfl] at hplain
      cases hplain
  refine ⟨trimStart cs, blanks?_eq_some_iff.2 ⟨blanks, hnonempty, hblanks, hsplit, hstart⟩, hstart,
    ?_⟩
  conv_rhs => rw [hsplit, words_blanks_append hblanks]

/-- Words with spaces between them start like their first word. -/
theorem startsPlain_intercalate (hword : IsWord word) (more : List (List Char)) :
    StartsPlain ([' '].intercalate (word :: more)) := by
  cases more with
  | nil =>
    rw [List.intercalate_singleton]
    exact hword.startsPlain
  | cons next more =>
    rw [List.intercalate_cons_cons, List.append_assoc]
    exact hword.startsPlain_append _

/-- Words with spaces between them are read back, by induction on the words. -/
theorem words_intercalate {all : List (List Char)} (h : ∀ word ∈ all, IsWord word) :
    words ([' '].intercalate all) = all := by
  induction all with
  | nil => rfl
  | cons word all ih =>
    have hword := h word List.mem_cons_self
    have hall := ih fun other hother => h other (List.mem_cons_of_mem word hother)
    cases all with
    | nil =>
      have hsingle : words (word ++ []) = [word] := words_append hword fun c hc => nomatch hc
      rw [List.intercalate_singleton]
      rwa [List.append_nil] at hsingle
    | cons next all =>
      have hspace : IsBlanks [' '] := by decide
      rw [List.intercalate_cons_cons, List.append_assoc, words_append hword,
        words_blanks_append hspace, hall]
      intro c hc
      obtain rfl : ' ' = c := Option.some.inj hc
      decide

end Text

/-- A name is a word. The converse fails: a word may hold any character that is not blank. -/
theorem IsName.isWord {name : List Char} (h : IsName name) : Text.IsWord name :=
  ⟨h.nonempty, fun c hc => Text.isBlank_of_isNameChar (h.nameChars c hc)⟩

/-! ## Commands -/

namespace AlterKind

/-- What a command does. -/
def verb (kind : AlterKind) : String := if kind.isRename then "RENAME" else "DELETE"

/-- What a command does it to. -/
def thing (kind : AlterKind) : String := if kind.actsOnIndex then "INDEX" else "FIELD"

/-- The words that commands start with are names, so they are read like names. -/
theorem isName_verb (kind : AlterKind) : IsName kind.verb.toList := by
  cases kind <;> decide

theorem isName_thing (kind : AlterKind) : IsName kind.thing.toList := by
  cases kind <;> decide

/-- The keywords are written with one space between them. -/
theorem keywords_eq (kind : AlterKind) : kind.keywords = kind.verb ++ " " ++ kind.thing := by
  cases kind <;> rfl

/-- The first two words of a command tell its kind. There are two verbs and two things, and four
kinds. -/
theorem eq_of_verb_of_thing {kind other : AlterKind} (hverb : kind.verb = other.verb)
    (hthing : kind.thing = other.thing) : kind = other := by
  revert hverb hthing
  cases kind <;> cases other <;> decide

end AlterKind

namespace AlterLine

open Text

/-- A command that may be written: a rename of one name to another, or a deletion of a name. -/
inductive IsWritable : AlterLine → Prop where
  | rename {kind : AlterKind} {source target : String} (hkind : kind.isRename = true)
      (hsource : IsName source.toList) (htarget : IsName target.toList) :
      IsWritable ⟨kind, source, some target⟩
  | delete {kind : AlterKind} {source : String} (hkind : kind.isRename = false)
      (hsource : IsName source.toList) : IsWritable ⟨kind, source, none⟩

/-- The words of a command. -/
def words (line : AlterLine) : List String :=
  line.kind.verb :: line.kind.thing :: line.source ::
    line.target.elim [] fun target => ["TO", target]

variable {kind : AlterKind} {line : AlterLine} {thing : String} {keywords : List String}
  {cs rest : List Char}

/-- The words of a command are names, the fixed ones among them. -/
theorem IsWritable.isName_of_mem (h : line.IsWritable) :
    ∀ word ∈ line.words, IsName word.toList := by
  have hnames : ∀ {more : List String}, IsName line.source.toList →
      (∀ word ∈ more, IsName word.toList) →
        ∀ word ∈ line.kind.verb :: line.kind.thing :: line.source :: more, IsName word.toList := by
    intro more hsource hmore
    exact List.forall_mem_cons.2 ⟨line.kind.isName_verb, List.forall_mem_cons.2
      ⟨line.kind.isName_thing, List.forall_mem_cons.2 ⟨hsource, hmore⟩⟩⟩
  cases h with
  | rename hkind hsource htarget =>
    exact hnames hsource <| List.forall_mem_cons.2 ⟨by decide, List.forall_mem_singleton.2 htarget⟩
  | delete hkind hsource => exact hnames hsource (List.forall_mem_nil _)

/-- Commands with the same words are of the same kind. -/
theorem kind_eq_of_words {other : AlterLine} (h : line.words = other.words) :
    line.kind = other.kind := by
  obtain ⟨hverb, h⟩ := List.cons.inj h
  obtain ⟨hthing, -⟩ := List.cons.inj h
  exact AlterKind.eq_of_verb_of_thing hverb hthing

/-! ### Fixed words -/

/-- Fixed words that are read are the first words of a text, by induction on them. The blanks behind
each of them are what makes it a word and not the start of one. -/
theorem words_of_afterWords? (hnames : ∀ keyword ∈ keywords, IsName keyword.toList)
    (h : afterWords? keywords cs = some rest) :
    Text.words cs = keywords.map (·.toList) ++ Text.words rest := by
  induction keywords generalizing cs with
  | nil =>
    obtain rfl := Option.some.inj h
    rfl
  | cons keyword keywords ih =>
    obtain ⟨left, hleft, h⟩ := Option.bind_eq_some_iff.1 h
    obtain ⟨next, hnext, hrest⟩ := Option.bind_eq_some_iff.1 h
    obtain rfl := after?_eq_some_iff.1 hleft
    obtain ⟨hends, hwords⟩ := words_of_blanks? hnext
    rw [words_append (hnames keyword List.mem_cons_self).isWord hends, hwords,
      ih (fun other hother => hnames other (List.mem_cons_of_mem keyword hother)) hrest,
      List.map_cons, List.cons_append]

/-- A reader of fixed words does not skip blanks in front of the first one, so a command is not
recognised behind a blank. -/
theorem startsPlain_of_afterWords? {keyword : String} (hname : IsName keyword.toList)
    (h : afterWords? (keyword :: keywords) cs = some rest) : StartsPlain cs := by
  obtain ⟨left, hleft, -⟩ := Option.bind_eq_some_iff.1 h
  obtain rfl := after?_eq_some_iff.1 hleft
  exact hname.startsPlain_append left

/-- The first words of a text are read if others follow them. The reader asks for blanks behind each
word, also the last, so something has to follow. -/
theorem exists_afterWords? (keywords : List String) {more : List (List Char)}
    (hstart : StartsPlain cs) (hwords : Text.words cs = keywords.map (·.toList) ++ more)
    (hmore : more ≠ []) :
    ∃ rest, afterWords? keywords cs = some rest ∧ StartsPlain rest ∧ Text.words rest = more := by
  induction keywords generalizing cs with
  | nil => exact ⟨cs, rfl, hstart, hwords⟩
  | cons keyword keywords ih =>
    obtain ⟨left, -, hends, rfl, hleft⟩ := exists_of_words_eq_cons hstart hwords
    have hnonempty : Text.words left ≠ [] := by
      rw [hleft]
      exact List.append_ne_nil_of_right_ne_nil _ hmore
    obtain ⟨next, hnext, hplain, hsame⟩ := exists_blanks? hends hnonempty
    obtain ⟨rest, hrest, hresult⟩ := ih hplain (hsame.trans hleft)
    exact ⟨rest, bind_eq_some (after?_append _ _) (bind_eq_some hnext hrest), hresult⟩

/-- A name is read if it is the first word. -/
theorem exists_name? {name : List Char} {more : List (List Char)} (hname : IsName name)
    (hstart : StartsPlain cs) (hwords : Text.words cs = name :: more) :
    ∃ rest, name? cs = some (name, rest) ∧ EndsWord rest ∧ Text.words rest = more := by
  obtain ⟨rest, -, hends, rfl, hrest⟩ := exists_of_words_eq_cons hstart hwords
  exact ⟨rest, name?_eq_some_iff.2 ⟨hname, rfl, hends.endsName⟩, hends, hrest⟩

/-- A name with nothing but blanks behind it is the only word. Every command ends like this. -/
theorem exists_lastName?_iff {name : List Char} :
    (∃ rest, name? cs = some (name, rest) ∧ rest.all isBlank = true) ↔
      IsName name ∧ StartsPlain cs ∧ Text.words cs = [name] := by
  constructor
  · rintro ⟨rest, hread, hall⟩
    obtain ⟨hname, rfl, -⟩ := name?_eq_some_iff.1 hread
    have hback : IsBlanks rest := List.all_eq_true.1 hall
    have hends : EndsWord rest := fun c hc => hback c (List.mem_of_mem_head? hc)
    refine ⟨hname, hname.startsPlain_append rest, ?_⟩
    rw [words_append hname.isWord hends, words_eq_nil_iff.2 hback]
  · rintro ⟨hname, hstart, hwords⟩
    obtain ⟨rest, hread, -, hrest⟩ := exists_name? hname hstart hwords
    exact ⟨rest, hread, List.all_eq_true.2 (words_eq_nil_iff.1 hrest)⟩

/-! ### The two readers -/

section Readers

variable (hthing : IsName thing.toList)
include hthing

/-- **A deletion** is three words. From left to right the steps of the reader are taken apart, from
right to left they are found again by the words that are left. -/
theorem readDelete?_eq_some_iff :
    readDelete? kind thing cs = some line ↔
      ∃ source : String, IsName source.toList ∧ line = ⟨kind, source, none⟩ ∧ StartsPlain cs ∧
        Text.words cs = ["DELETE", thing, source].map (·.toList) := by
  have hverb : IsName "DELETE".toList := by decide
  have hkeywords : ∀ keyword ∈ ["DELETE", thing], IsName keyword.toList :=
    List.forall_mem_cons.2 ⟨hverb, List.forall_mem_singleton.2 hthing⟩
  constructor
  · intro h
    obtain ⟨start, hstart, h⟩ := Option.bind_eq_some_iff.1 h
    obtain ⟨⟨source, rest⟩, hsource, h⟩ := Option.bind_eq_some_iff.1 h
    obtain ⟨hblank, rfl⟩ : rest.all isBlank = true ∧
        (⟨kind, String.ofList source, none⟩ : AlterLine) = line := by
      simpa only [Option.ite_none_right_eq_some, Option.some.injEq] using h
    obtain ⟨hname, -, hlast⟩ := exists_lastName?_iff.1 ⟨rest, hsource, hblank⟩
    rw [← String.toList_ofList (l := source)] at hname hlast
    refine ⟨_, hname, rfl, startsPlain_of_afterWords? hverb hstart, ?_⟩
    rw [words_of_afterWords? hkeywords hstart, hlast]
    rfl
  · rintro ⟨source, hname, rfl, hplain, hwords⟩
    obtain ⟨start, hstart, hplain, hwords⟩ :=
      exists_afterWords? ["DELETE", thing] hplain hwords (List.cons_ne_nil _ _)
    obtain ⟨rest, hsource, hblank⟩ := exists_lastName?_iff.2 ⟨hname, hplain, hwords⟩
    refine bind_eq_some hstart (bind_eq_some hsource ?_)
    dsimp only
    rw [if_pos hblank, String.ofList_toList]

/-- **A rename** is five words. Its reader looks for the blanks behind the source apart from the
word `TO`, so there is one step more than there are words. -/
theorem readRename?_eq_some_iff :
    readRename? kind thing cs = some line ↔
      ∃ source target : String, IsName source.toList ∧ IsName target.toList ∧
        line = ⟨kind, source, some target⟩ ∧ StartsPlain cs ∧
        Text.words cs = ["RENAME", thing, source, "TO", target].map (·.toList) := by
  have hverb : IsName "RENAME".toList := by decide
  have hto : ∀ keyword ∈ ["TO"], IsName keyword.toList := List.forall_mem_singleton.2 (by decide)
  have hkeywords : ∀ keyword ∈ ["RENAME", thing], IsName keyword.toList :=
    List.forall_mem_cons.2 ⟨hverb, List.forall_mem_singleton.2 hthing⟩
  constructor
  · intro h
    obtain ⟨start, hstart, h⟩ := Option.bind_eq_some_iff.1 h
    obtain ⟨⟨source, afterSource⟩, hsource, h⟩ := Option.bind_eq_some_iff.1 h
    obtain ⟨next, hnext, h⟩ := Option.bind_eq_some_iff.1 h
    obtain ⟨afterTo, hafterTo, h⟩ := Option.bind_eq_some_iff.1 h
    obtain ⟨⟨target, rest⟩, htarget, h⟩ := Option.bind_eq_some_iff.1 h
    obtain ⟨hblank, rfl⟩ : rest.all isBlank = true ∧
        (⟨kind, String.ofList source, some (String.ofList target)⟩ : AlterLine) = line := by
      simpa only [Option.ite_none_right_eq_some, Option.some.injEq] using h
    obtain ⟨hname, rfl, -⟩ := name?_eq_some_iff.1 hsource
    obtain ⟨hends, hsame⟩ := words_of_blanks? hnext
    obtain ⟨htargetName, -, hlast⟩ := exists_lastName?_iff.1 ⟨rest, htarget, hblank⟩
    -- the words are gathered from left to right, one reader at a time
    have hwords : Text.words cs = "RENAME".toList :: thing.toList :: source :: "TO".toList ::
        [target] := by
      rw [words_of_afterWords? hkeywords hstart, words_append hname.isWord hends, hsame,
        words_of_afterWords? hto hafterTo, hlast]
      rfl
    rw [← String.toList_ofList (l := source)] at hname hwords
    rw [← String.toList_ofList (l := target)] at htargetName hwords
    exact ⟨_, _, hname, htargetName, rfl, startsPlain_of_afterWords? hverb hstart, hwords⟩
  · rintro ⟨source, target, hname, htargetName, rfl, hplain, hwords⟩
    obtain ⟨start, hstart, hplain, hwords⟩ :=
      exists_afterWords? ["RENAME", thing] hplain hwords (List.cons_ne_nil _ _)
    obtain ⟨afterSource, hsource, hends, hwords⟩ := exists_name? hname hplain hwords
    obtain ⟨next, hnext, hplain, hsame⟩ := exists_blanks? hends (by rw [hwords]; simp)
    obtain ⟨afterTo, hafterTo, hplain, hlast⟩ :=
      exists_afterWords? ["TO"] hplain (hsame.trans hwords) (List.cons_ne_nil _ _)
    obtain ⟨rest, htarget, hblank⟩ := exists_lastName?_iff.2 ⟨htargetName, hplain, hlast⟩
    refine bind_eq_some hstart (bind_eq_some hsource ?_)
    refine bind_eq_some hnext (bind_eq_some hafterTo (bind_eq_some htarget ?_))
    dsimp only
    rw [if_pos hblank, String.ofList_toList, String.ofList_toList]

end Readers

/-! ### The four kinds -/

/-- Reads a command of one kind. -/
def readAs? (kind : AlterKind) (cs : List Char) : Option AlterLine :=
  if kind.isRename then readRename? kind kind.thing cs else readDelete? kind kind.thing cs

/-- A command of one kind is read if and only if the words are those of such a command. Here the two
readers become one, whose kind is a parameter. -/
theorem readAs?_eq_some_iff :
    readAs? kind cs = some line ↔
      line.kind = kind ∧ line.IsWritable ∧ StartsPlain cs ∧
        Text.words cs = line.words.map (·.toList) := by
  rw [readAs?]
  cases hkind : kind.isRename with
  | true =>
    have hverb : kind.verb = "RENAME" := if_pos hkind
    rw [if_pos rfl, readRename?_eq_some_iff kind.isName_thing]
    constructor
    · rintro ⟨source, target, hsource, htarget, rfl, hplain, hwords⟩
      refine ⟨rfl, .rename hkind hsource htarget, hplain, ?_⟩
      rw [hwords, words, hverb]
      rfl
    · rintro ⟨rfl, hwritable, hplain, hwords⟩
      cases hwritable with
      | rename _ hsource htarget =>
        rw [words, hverb] at hwords
        exact ⟨_, _, hsource, htarget, rfl, hplain, hwords⟩
      | delete hdelete => exact absurd hkind (by simp [hdelete])
  | false =>
    have hverb : kind.verb = "DELETE" := if_neg (by simp [hkind])
    rw [if_neg Bool.false_ne_true, readDelete?_eq_some_iff kind.isName_thing]
    constructor
    · rintro ⟨source, hsource, rfl, hplain, hwords⟩
      refine ⟨rfl, .delete hkind hsource, hplain, ?_⟩
      rw [hwords, words, hverb]
      rfl
    · rintro ⟨rfl, hwritable, hplain, hwords⟩
      cases hwritable with
      | rename hrename => exact absurd hrename (by simp [hkind])
      | delete _ hsource =>
        rw [words, hverb] at hwords
        exact ⟨_, hsource, rfl, hplain, hwords⟩

/-- The words of a command are read by the reader of its kind and by no other, since they determine
the kind. -/
theorem readAs?_eq_ite (hwritable : line.IsWritable) (hplain : StartsPlain cs)
    (hwords : Text.words cs = line.words.map (·.toList)) (kind : AlterKind) :
    readAs? kind cs = if kind = line.kind then some line else none := by
  split
  · next hkind => exact readAs?_eq_some_iff.2 ⟨hkind.symm, hwritable, hplain, hwords⟩
  · next hkind =>
    rw [Option.eq_none_iff_forall_ne_some]
    intro other hother
    obtain ⟨rfl, -, -, hsame⟩ := readAs?_eq_some_iff.1 hother
    have hequal : other.words = line.words :=
      List.map_injective_iff.2 (fun _ _ => String.toList_inj.1) (hsame.symm.trans hwords)
    exact hkind (kind_eq_of_words hequal)

/-- The four kinds are tried in this order. -/
theorem read?_eq (text : String) :
    read? text = (((readAs? .renameIndex text.toList).or (readAs? .deleteIndex text.toList)).or
      (readAs? .renameField text.toList)).or (readAs? .deleteField text.toList) := rfl

/-- **The texts that are commands.** A text is read as a command if and only if it does not start
with a blank and its words are those of the command. That the four kinds are tried in some order has
no effect: at most one of them takes the text. -/
theorem read?_eq_some_iff {text : String} :
    read? text = some line ↔
      line.IsWritable ∧ StartsPlain text.toList ∧
        Text.words text.toList = line.words.map (·.toList) := by
  constructor
  · intro h
    have hread : ∃ kind, readAs? kind text.toList = some line := by
      simp only [read?_eq, Option.or_eq_some_iff] at h
      rcases h with ((h | ⟨-, h⟩) | ⟨-, h⟩) | ⟨-, h⟩ <;> exact ⟨_, h⟩
    obtain ⟨kind, hread⟩ := hread
    exact (readAs?_eq_some_iff.1 hread).2
  · rintro ⟨hwritable, hplain, hwords⟩
    have hkinds := readAs?_eq_ite hwritable hplain hwords
    rw [read?_eq, hkinds, hkinds, hkinds, hkinds]
    cases line.kind <;> rfl

end AlterLine

/-! ## Commands among the other lines -/

section Nested

variable {owner text : String} {name rest : List Char} {c : Char}

/-- A mark that is no blank does not stand where a blank stands. The colon of a field and the
parentheses of a method are such marks. -/
theorem after?_eq_none_of_isBlank {mark : Char} (hmark : Text.isBlank mark = false)
    (marks : List Char) (hc : Text.isBlank c = true) :
    Text.after? (mark :: marks) (c :: rest) = none := by
  refine Text.after?_cons_of_ne ?_ _ _
  rintro rfl
  rw [hc] at hmark
  cases hmark

/-- Where a blank follows the first word, a line of an entity can only be a command: behind the
name of a field its colon follows, and behind that of a method its parentheses. -/
theorem Declaration.readNested_of_isBlank
    (hname : Text.name? text.toList = some (name, c :: rest)) (hc : Text.isBlank c = true) :
    readNested owner text = .ok ((AlterLine.read? text).map .ofAlter) := by
  have hfield : FieldLine.parts? text.toList = none := by
    rw [FieldLine.parts?, hname]
    exact congrArg (Option.bind · _) (after?_eq_none_of_isBlank (by decide) [] hc)
  have hmethod : MethodLine.parts? text.toList = none := by
    rw [MethodLine.parts?, hname]
    exact congrArg (Option.bind · _) (after?_eq_none_of_isBlank (by decide) [')'] hc)
  rw [readNested, FieldLine.read, hfield, MethodLine.read, hmethod]
  rfl

/-- Behind the first word of a command a blank follows, because other words do. -/
theorem AlterLine.exists_blank_of_read? {line : AlterLine} (h : read? text = some line) :
    ∃ c rest, Text.name? text.toList = some (line.kind.verb.toList, c :: rest) ∧
      Text.isBlank c = true := by
  obtain ⟨-, hplain, hwords⟩ := read?_eq_some_iff.1 h
  obtain ⟨rest, hread, hends, hrest⟩ := exists_name? line.kind.isName_verb hplain hwords
  obtain ⟨c, rest, rfl⟩ : ∃ c more, rest = c :: more := by
    refine List.exists_cons_of_ne_nil ?_
    rintro rfl
    cases hrest
  exact ⟨c, rest, hread, hends c rfl⟩

/-- **Commands exclude fields and methods.** What is read as a command is one inside every entity,
and nothing else is. Fields and methods are tried first and could fail with an error; with a blank
behind the first word they do neither. -/
theorem Declaration.readNested_eq_ofAlter_iff {line : AlterLine} :
    readNested owner text = .ok (some (.ofAlter line)) ↔ AlterLine.read? text = some line := by
  constructor
  · intro h
    obtain ⟨field, -, h⟩ := bind_eq_ok.1 h
    cases field with
    | some field => cases h
    | none =>
      obtain ⟨method, -, h⟩ := bind_eq_ok.1 h
      cases method with
      | some method => cases h
      | none =>
        obtain ⟨read, hread, hsame⟩ := Option.map_eq_some_iff.1 (Except.ok.inj h)
        rw [hread, Declaration.ofAlter.inj hsame]
  · intro h
    obtain ⟨c, rest, hname, hc⟩ := AlterLine.exists_blank_of_read? h
    rw [readNested_of_isBlank hname hc, h, Option.map_some]

end Nested

/-! ## The text of a command -/

namespace AlterCommand

variable {command : AlterCommand}

/-- The line that declares a command. -/
def toLine (command : AlterCommand) : AlterLine where
  kind := command.kind
  source := command.source
  target := command.target

/-- The text of a command is its words with spaces between them. -/
theorem toList_text (h : command.toLine.IsWritable) :
    command.text.toList = [' '].intercalate (command.toLine.words.map (·.toList)) := by
  obtain ⟨kind, source, target, owner⟩ := command
  cases h with
  | delete hkind hsource => simp [text, toLine, AlterLine.words, AlterKind.keywords_eq]
  | @rename _ _ target hkind hsource htarget =>
    -- an empty target would not be written
    have hnonempty : target ≠ "" := by
      rintro rfl
      exact htarget.nonempty rfl
    simp [text, toLine, AlterLine.words, AlterKind.keywords_eq]

/-- A command that may be written is read from its text, by way of its words. -/
theorem read?_text (h : command.toLine.IsWritable) :
    AlterLine.read? command.text = some command.toLine := by
  have hwords : ∀ word ∈ command.toLine.words.map (·.toList), Text.IsWord word :=
    List.forall_mem_map.2 fun word hword => (h.isName_of_mem word hword).isWord
  rw [AlterLine.read?_eq_some_iff, toList_text h]
  exact ⟨h, Text.startsPlain_intercalate command.kind.isName_verb.isWord _,
    Text.words_intercalate hwords⟩

/-- **Commands are read back from their text.** The text of a command, among the other lines of an
entity, is read as that command exactly if it is a rename of one name to another or a deletion of a
name. Whatever text has been read as a command, the text of that command is read as the same. -/
theorem readNested_text_iff :
    (∀ (command : AlterCommand) (owner : String),
      Declaration.readNested owner command.text = .ok (some (.ofAlter command.toLine)) ↔
        command.toLine.IsWritable) ∧
    ∀ (text : String) (line : AlterLine), AlterLine.read? text = some line →
      AlterLine.read? (ofLine line).text = some line ∧
        ∀ owner, Declaration.readNested owner (ofLine line).text = .ok (some (.ofAlter line)) := by
  constructor
  · intro command owner
    rw [Declaration.readNested_eq_ofAlter_iff]
    exact ⟨fun h => (AlterLine.read?_eq_some_iff.1 h).1, read?_text⟩
  · intro text line h
    have hwritable : (ofLine line).toLine.IsWritable := (AlterLine.read?_eq_some_iff.1 h).1
    have hread : AlterLine.read? (ofLine line).text = some line := read?_text hwritable
    exact ⟨hread, fun owner => Declaration.readNested_eq_ofAlter_iff.2 hread⟩

/-- A command whose source and target are words of commands, and a line with other blanks than a
space between its words. A word is told by its place, so neither is a difficulty. -/
theorem readNested_text_keywords :
    let command : AlterCommand := { kind := .renameIndex, source := "TO", target := some "FIELD" }
    command.text = "RENAME INDEX TO TO FIELD" ∧ command.toLine.IsWritable ∧
      Declaration.readNested "User" command.text = .ok (some (.ofAlter command.toLine)) ∧
      AlterLine.read? "DELETE\tFIELD  RENAME " = some ⟨.deleteField, "RENAME", none⟩ ∧
      (ofLine ⟨.deleteField, "RENAME", none⟩).text = "DELETE FIELD RENAME" ∧
      AlterLine.read? (ofLine ⟨.deleteField, "RENAME", none⟩).text =
        some ⟨.deleteField, "RENAME", none⟩ := by
  have hwritable : AlterLine.IsWritable ⟨.renameIndex, "TO", some "FIELD"⟩ :=
    .rename rfl (by decide) (by decide)
  have hread : AlterLine.read? "DELETE\tFIELD  RENAME " = some ⟨.deleteField, "RENAME", none⟩ := by
    decide +kernel
  obtain ⟨hcommands, hlines⟩ := readNested_text_iff
  exact ⟨by decide, hwritable, (hcommands _ "User").2 hwritable, hread, by decide,
    (hlines _ _ hread).1⟩

end AlterCommand

end EntitySchema
