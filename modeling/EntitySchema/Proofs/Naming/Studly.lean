/-
Studly and snake case of names of ASCII.

Snake case puts an underscore in front of every capital but the first and lower-cases it; studly
case drops the underscores and capitalizes what follows them. On a name that starts with a capital
and goes on with letters and digits nothing is lost on the way, which is `studly_snake`.

The case mappings are tables for all scripts. What they say about ASCII is read off the tables once
for each fact, over the 128 characters (`Text.forall_ascii`), so no later proof looks at a table.
The facts are chosen so that the two mappings can be followed: a capital has exactly one small
letter, whose capital it is, and that small letter is no separator; a character that is no capital
stays.

Two kinds of names are defined here that the whole development speaks of. An entity is called by an
`IsStudly` name; a field, a method, a table or an index by an `IsName`, any characters of names in
any number but none. The second is much weaker. What is proved of reading and of the database needs
no more than that, and studly names come in only where one name is made from another.
-/
import EntitySchema.Naming
import Mathlib.Data.List.Basic

set_option autoImplicit false

namespace EntitySchema

/-! ## Characters of ASCII -/

namespace Text

variable {c : Char}

/-- What holds for the first 128 characters holds for every character of ASCII. The hypothesis is
decided by going through them, the conclusion is used without. -/
theorem forall_ascii {P : Char → Prop} (h : ∀ n : Fin 128, P (Char.ofNat n)) (hc : c.toNat < 128) :
    P c := by
  have hP := h ⟨c.toNat, hc⟩
  rwa [Char.ofNat_toNat] at hP

/-- Characters of names are of ASCII, so what is known of ASCII applies to them. -/
theorem toNat_lt_of_isNameChar (h : isNameChar c = true) : c.toNat < 128 := by
  have hlt : ∀ last : Char, c.val ≤ last.val → last.toNat < 128 → c.toNat < 128 :=
    fun _ hle hlast => Nat.lt_of_le_of_lt (UInt32.le_iff_toNat_le.1 hle) hlast
  rw [isNameChar, isAlphanumeric, Bool.or_eq_true, Bool.or_eq_true] at h
  rcases h with (halpha | hdigit) | hunderscore
  · rcases Bool.or_eq_true_iff.1 halpha with hupper | hlower
    · exact hlt 'Z' (of_decide_eq_true hupper).2 (by decide)
    · exact hlt 'z' (of_decide_eq_true (Bool.and_eq_true_iff.1 hlower).2) (by decide)
  · exact hlt '9' (of_decide_eq_true (Bool.and_eq_true_iff.1 hdigit).2) (by decide)
  · rw [of_decide_eq_true hunderscore]
    decide

theorem isNameChar_of_isAlphanumeric (h : isAlphanumeric c = true) : isNameChar c = true := by
  rw [isNameChar, h, Bool.true_or]

/-- Characters of names have other characters of names as their lower and upper case. -/
theorem isNameChar_of_mem_case (h : isNameChar c = true) :
    (∀ d ∈ lowerChar c, isNameChar d = true) ∧ ∀ d ∈ upperChar c, isNameChar d = true :=
  (forall_ascii (P := fun c => isNameChar c = true →
      (lowerChar c).all isNameChar = true ∧ (upperChar c).all isNameChar = true)
    (by decide +kernel) (toNat_lt_of_isNameChar h) h).imp List.all_eq_true.1 List.all_eq_true.1

/-- A capital has a small letter, and its own upper case is that of the small letter. The tables
answer with a list of characters, which here has one element. -/
theorem exists_lowerChar (h : isAlphanumeric c = true) (hupper : isUpper c = true) :
    ∃ d, lowerChar c = [d] ∧ upperChar d = [c] ∧ d.isLower = true ∧
      Naming.isSeparator d = false := by
  have hcase : lowerChar c = [(lowerChar c).headD c] ∧ upperChar ((lowerChar c).headD c) = [c] ∧
      ((lowerChar c).headD c).isLower = true ∧
      Naming.isSeparator ((lowerChar c).headD c) = false :=
    forall_ascii (P := fun c => isAlphanumeric c = true → isUpper c = true →
        lowerChar c = [(lowerChar c).headD c] ∧ upperChar ((lowerChar c).headD c) = [c] ∧
          ((lowerChar c).headD c).isLower = true ∧
          Naming.isSeparator ((lowerChar c).headD c) = false)
      (by decide +kernel) (toNat_lt_of_isNameChar (isNameChar_of_isAlphanumeric h)) h hupper
  exact ⟨_, hcase⟩

/-- A letter or digit that is no capital stays, and it is not taken for a separator. -/
theorem lowerChar_of_not_isUpper (h : isAlphanumeric c = true) (hupper : isUpper c = false) :
    lowerChar c = [c] ∧ Naming.isSeparator c = false :=
  forall_ascii (P := fun c => isAlphanumeric c = true → isUpper c = false →
      lowerChar c = [c] ∧ Naming.isSeparator c = false)
    (by decide +kernel) (toNat_lt_of_isNameChar (isNameChar_of_isAlphanumeric h)) h hupper

/-- What is a capital of ASCII is one by the tables. -/
theorem isUpper_of_isUpper (h : c.isUpper = true) : isUpper c = true := by
  have halpha : c.isAlpha = true := Bool.or_eq_true_iff.2 (.inl h)
  have halphanumeric : isAlphanumeric c = true := Bool.or_eq_true_iff.2 (.inl halpha)
  have hname := isNameChar_of_isAlphanumeric halphanumeric
  exact forall_ascii (P := fun c => c.isUpper = true → isUpper c = true) (by decide +kernel)
    (toNat_lt_of_isNameChar hname) h

end Text

/-- A name that starts with a capital and goes on with letters and digits, all of ASCII. -/
structure IsStudly (name : String) : Prop where
  capital : ∃ c ∈ name.toList.head?, c.isUpper = true
  alphanumeric : ∀ c ∈ name.toList, Text.isAlphanumeric c = true

/-- A text that may stand for a field, a method or a table. -/
structure IsName (name : List Char) : Prop where
  nonempty : name ≠ []
  nameChars : ∀ c ∈ name, Text.isNameChar c = true

instance (name : String) : Decidable (IsStudly name) :=
  decidable_of_iff (name.toList.head?.any Char.isUpper = true ∧
      name.toList.all Text.isAlphanumeric = true)
    ⟨fun h => ⟨(Option.any_eq_true _ _).1 h.1, List.all_eq_true.1 h.2⟩,
      fun h => ⟨(Option.any_eq_true _ _).2 h.capital, List.all_eq_true.2 h.alphanumeric⟩⟩

/-- A studly name may stand where any name may. -/
theorem IsStudly.isName {name : String} (h : IsStudly name) : IsName name.toList := by
  obtain ⟨c, hc, -⟩ := h.capital
  refine ⟨fun hnil => ?_, fun d hd => Text.isNameChar_of_isAlphanumeric (h.alphanumeric d hd)⟩
  rw [hnil] at hc
  cases hc

/-- A studly name holds no namespace. -/
theorem IsStudly.backslash_not_mem {name : String} (h : IsStudly name) : '\\' ∉ name.toList := by
  intro hmem
  exact absurd (h.alphanumeric '\\' hmem) (by decide)

/-! ## There and back -/

namespace Naming

/-- What comes before is no separator, so it is the capital alone that starts a word. -/
theorem snakeAfter_cons {previous : Char} (hprevious : Text.isAlphanumeric previous = true)
    (c : Char) (rest : List Char) :
    snakeAfter (some previous) (c :: rest) =
      (if Text.isUpper c then ['_'] else []) ++ Text.lowerChar c ++ snakeAfter (some c) rest := by
  have hne : ∀ separator, Text.isAlphanumeric separator = false → previous ≠ separator := by
    intro separator hnot heq
    rw [heq, hnot] at hprevious
    cases hprevious
  have hjoined : (some previous).any (fun p => p != '_' && p != '-') = true := by
    simp [hne '_' (by decide), hne '-' (by decide)]
  rw [snakeAfter, hjoined, Bool.and_true]

/-- At the start nothing is put in front of a capital. -/
theorem snakeAfter_none (c : Char) (rest : List Char) :
    snakeAfter none (c :: rest) = Text.lowerChar c ++ snakeAfter (some c) rest := by
  rw [snakeAfter, Option.any_none, Bool.and_false, if_neg Bool.false_ne_true, List.nil_append]

/-- Inside a word snake case is undone by studly case. By induction on the name, over any letter or
digit that may stand in front. A capital goes through three steps: an underscore and a small letter
are made of it, the underscore is dropped, and the letter behind it is capitalized. -/
theorem studlyAfter_snakeAfter {previous : Char} (hprevious : Text.isAlphanumeric previous = true)
    {cs : List Char} (h : ∀ c ∈ cs, Text.isAlphanumeric c = true) :
    studlyAfter false (snakeAfter (some previous) cs) = cs := by
  induction cs generalizing previous with
  | nil => rfl
  | cons c cs ih =>
    have hc := h c List.mem_cons_self
    have hrest := ih hc fun d hd => h d (List.mem_cons_of_mem c hd)
    rw [snakeAfter_cons hprevious]
    cases hupper : Text.isUpper c with
    | true =>
      obtain ⟨d, hlower, hupperChar, -, hseparator⟩ := Text.exists_lowerChar hc hupper
      rw [hlower, if_pos rfl, List.singleton_append, List.cons_append, studlyAfter,
        if_pos (by decide), List.singleton_append, studlyAfter, hseparator,
        if_neg Bool.false_ne_true, if_pos rfl, hupperChar, hrest, List.singleton_append]
    | false =>
      obtain ⟨hlower, hseparator⟩ := Text.lowerChar_of_not_isUpper hc hupper
      rw [hlower, if_neg Bool.false_ne_true, List.nil_append, List.singleton_append, studlyAfter,
        hseparator, if_neg Bool.false_ne_true, if_neg Bool.false_ne_true, hrest,
        List.singleton_append]

/-- Characters of names stay characters of names, whatever stands in front: the underscore that is
put in is one as well. -/
theorem isNameChar_of_mem_snakeAfter {previous : Option Char} {cs : List Char}
    (h : ∀ c ∈ cs, Text.isNameChar c = true) :
    ∀ d ∈ snakeAfter previous cs, Text.isNameChar d = true := by
  induction cs generalizing previous with
  | nil => exact fun d hd => nomatch hd
  | cons c cs ih =>
    intro d hd
    rw [snakeAfter, List.mem_append, List.mem_append] at hd
    rcases hd with (hd | hd) | hd
    · split at hd
      · rw [List.mem_singleton.1 hd]
        decide
      · cases hd
    · exact (Text.isNameChar_of_mem_case (h c List.mem_cons_self)).1 d hd
    · exact ih (fun e he => h e (List.mem_cons_of_mem c he)) d hd

end Naming

/-- **Studly case undoes snake case.** The first capital is a case of its own, since no underscore
is put in front of it. -/
theorem studly_snake {name : String} (h : IsStudly name) : studly (snake name) = name := by
  obtain ⟨c, hc, hupper⟩ := h.capital
  obtain ⟨rest, hname⟩ := List.head?_eq_some_iff.1 hc
  have hall := h.alphanumeric
  rw [hname] at hall
  have hfirst := hall c List.mem_cons_self
  obtain ⟨d, hlower, hupperChar, -, hseparator⟩ :=
    Text.exists_lowerChar hfirst (Text.isUpper_of_isUpper hupper)
  have hsnake : Naming.snakeAfter none (c :: rest) = d :: Naming.snakeAfter (some c) rest := by
    rw [Naming.snakeAfter_none, hlower, List.singleton_append]
  rw [studly, snake, String.toList_ofList, hname, hsnake, Naming.studlyAfter, hseparator,
    if_neg Bool.false_ne_true, if_pos rfl, hupperChar,
    Naming.studlyAfter_snakeAfter hfirst fun e he => hall e (List.mem_cons_of_mem c he),
    List.singleton_append, ← hname, String.ofList_toList]

/-- The snake case of a studly name is a name, so an entity's name can be made into one of a
column. -/
theorem IsStudly.isName_snake {name : String} (h : IsStudly name) : IsName (snake name).toList := by
  have hback := studly_snake h
  rw [studly] at hback
  constructor
  case nonempty =>
    -- nothing but the empty name has the empty snake case
    intro hnil
    rw [hnil] at hback
    exact h.isName.nonempty (congrArg String.toList hback).symm
  case nameChars =>
    rw [snake, String.toList_ofList]
    exact Naming.isNameChar_of_mem_snakeAfter h.isName.nameChars

end EntitySchema
