/-
The plural of a name is a name.

The plural of a noun may be anything that the vocabulary says, and a compound is put together again
with blanks. A name has no hyphens, so it is never taken for a compound, and all words and endings
in the vocabulary that may come out are made of letters. So `pluralize` leaves a name one that may
stand for a field, a method or a table (`IsName.pluralize`).

The theory uses the vocabulary for nothing else. No later proof asks what the plural of a certain
word is, or opens the rules: where a plural has to be one again, or a singular to lead back, that is
a hypothesis about the names in question. So another release of the word lists would leave all
results as they are, as long as the words in it are made of letters, digits and underscores; this is
what the two evaluations below check, of the irregular plurals and of the endings of the rules.

The lemmas follow the functions from the inside out, one for each of them, since every step either
keeps its word, takes a part of it, puts an ending behind it or looks it up in a list.
-/
import EntitySchema.Proofs.Naming.Studly

set_option autoImplicit false

namespace EntitySchema

namespace Inflection

open Text (isNameChar)

/-- A word whose characters may all stand in a name. -/
def IsNameWord (w : Word) : Prop := ∀ c ∈ w, isNameChar c = true

instance (w : Word) : Decidable (IsNameWord w) :=
  decidable_of_iff (w.all isNameChar = true) List.all_eq_true

variable {w : Word}

namespace IsNameWord

/-- Two words that are put together are made of the characters of both. -/
theorem append {rest : Word} (h : IsNameWord w) (hrest : IsNameWord rest) :
    IsNameWord (w ++ rest) := by
  intro c hc
  rcases List.mem_append.1 hc with hc | hc
  · exact h c hc
  · exact hrest c hc

/-- A part of a word is made of characters of the word. -/
theorem of_subset {part : Word} (h : IsNameWord w) (hpart : part ⊆ w) : IsNameWord part :=
  fun c hc => h c (hpart hc)

/-- The lower case of a name is one. The definition looks at what stands in front for the sake of
one letter, which is no character of names. -/
theorem lower (h : IsNameWord w) : IsNameWord (Text.lower w) := by
  have hafter : ∀ before : Word, IsNameWord (Text.lowerAfter before w) := by
    induction w with
    | nil => exact fun _ c hc => nomatch hc
    | cons c rest ih =>
      intro before
      have hc := h c List.mem_cons_self
      -- the one letter whose lower case depends on its place is not of ASCII
      have hsigma : c ≠ 'Σ' := by
        rintro rfl
        exact absurd hc (by decide)
      rw [Text.lowerAfter]
      simp only [if_neg hsigma]
      exact IsNameWord.append (Text.isNameChar_of_mem_case hc).1
        (ih (fun d hd => h d (List.mem_cons_of_mem c hd)) (c :: before))
  exact hafter []

/-- The upper case of a name is one. -/
theorem upper (h : IsNameWord w) : IsNameWord (Text.upper w) := by
  intro d hd
  obtain ⟨c, hc, hd⟩ := List.mem_flatMap.1 hd
  exact (Text.isNameChar_of_mem_case (h c hc)).2 d hd

/-- A name is no compound: a hyphen is no character of names. -/
theorem hyphen_not_mem (h : IsNameWord w) : '-' ∉ w := by
  intro hmem
  exact absurd (h '-' hmem) (by decide)

end IsNameWord

/-! ## Compounds -/

/-- Without a hyphen a word is one part. -/
theorem hyphenParts_of_not_mem (h : '-' ∉ w) : hyphenParts w = [w] := by
  induction w with
  | nil => rfl
  | cons c rest ih =>
    rw [hyphenParts, ih fun hmem => h (List.mem_cons_of_mem c hmem)]
    dsimp only
    rw [if_neg]
    rintro rfl
    exact h List.mem_cons_self

/-- Without a hyphen there is no preposition between two parts, so nothing is put together with
blanks. -/
theorem prepositional?_of_not_mem (h : '-' ∉ w) (inflect : Word → Word) :
    prepositional? inflect w = none := by
  rw [prepositional?, hyphenParts_of_not_mem h]
  rfl

/-- Every adjective that may follow a noun starts with a hyphen, so none follows a name. -/
theorem splitAdjective?_of_not_mem (h : '-' ∉ w) : splitAdjective? w = none := by
  rw [splitAdjective?, List.find?_eq_none]
  intro parts hparts
  obtain ⟨place, -, rfl⟩ := List.mem_map.1 hparts
  have hnot : ∀ adjective : String, '-' ∈ adjective.toList →
      adjective.toList.isPrefixOf (w.drop place) = false := by
    intro adjective hhyphen
    rw [Bool.eq_false_iff]
    intro hstarts
    have hmem := (List.isPrefixOf_iff_prefix.1 hstarts).subset hhyphen
    exact h (List.mem_of_mem_drop hmem)
  rw [endsInAdjective, hnot "-general" (by decide), hnot "-martial" (by decide),
    hnot "-force" (by decide)]
  exact Bool.false_ne_true

/-! ## Plurals -/

/-- What is found in a list is one of its words. -/
theorem isNameWord_of_lookup {pairs : List (Word × Word)} (h : ∀ pair ∈ pairs, IsNameWord pair.2)
    {plural : Word} (hlookup : pairs.lookup w = some plural) : IsNameWord plural := by
  obtain ⟨before, after, hpairs, -⟩ := List.lookup_eq_some_iff.1 hlookup
  exact h (w, plural) (by rw [hpairs]; simp)

/-- Every rule of the plural gives a name for a name: it takes a start of the word and puts an
ending behind it, and all of the endings are made of letters. -/
theorem IsNameWord.firstResult? (h : IsNameWord w) {plural : Word}
    (hplural : Rule.firstResult? pluralRules w = some plural) : IsNameWord plural := by
  have hendings : ∀ rule ∈ pluralRules, IsNameWord rule.ending.toList := by decide +kernel
  obtain ⟨rule, hrule, rfl⟩ := Option.map_eq_some_iff.1 hplural
  exact IsNameWord.append (h.of_subset (List.take_subset _ w))
    (hendings rule (List.mem_of_find?_eq_some hrule))

namespace IsNameWord

/-- A word is kept, looked up, or inflected by a rule. The lists are gone through by evaluation. -/
theorem simplePlural (h : IsNameWord w) : IsNameWord (simplePlural w) := by
  have hpronouns : ∀ pair ∈ pronounPlurals, IsNameWord pair.2 := by decide +kernel
  have hirregular : ∀ pair ∈ irregularPlurals, IsNameWord pair.2 := by decide +kernel
  rw [Inflection.simplePlural]
  split
  · exact h
  cases hpronoun : pronounPlurals.lookup w with
  | some plural => exact isNameWord_of_lookup hpronouns hpronoun
  | none =>
    cases hword : irregularPlurals.lookup w with
    | some plural => exact isNameWord_of_lookup hirregular hword
    | none =>
      cases hrule : Rule.firstResult? pluralRules w with
      | some plural => exact h.firstResult? hrule
      | none => exact h

/-- A name is no compound, so its plural is the simple one. -/
theorem compoundPlural (h : IsNameWord w) : IsNameWord (compoundPlural w) := by
  rw [Inflection.compoundPlural]
  split
  · exact h
  · rw [prepositional?_of_not_mem h.hyphen_not_mem]
    exact h.simplePlural

theorem plainPlural (h : IsNameWord w) : IsNameWord (plainPlural w) := by
  rw [Inflection.plainPlural]
  split
  · exact h
  · rw [splitAdjective?_of_not_mem h.hyphen_not_mem]
    exact h.compoundPlural

/-- The pronoun of one letter and words without a letter are taken apart before; both give names. -/
theorem pluralNoun (h : IsNameWord w) : IsNameWord (pluralNoun w) := by
  rw [Inflection.pluralNoun]
  split
  · decide
  · rw [recase]
    split
    · exact h.plainPlural.upper
    · exact h.plainPlural

theorem pluralWord (h : IsNameWord w) : IsNameWord (pluralWord w) := by
  have hhouse : ∀ pair ∈ houseNouns, IsNameWord pair.2 := by decide +kernel
  rw [Inflection.pluralWord]
  cases hnoun : houseNouns.lookup w with
  | some plural => exact isNameWord_of_lookup hhouse hnoun
  | none => exact h.pluralNoun

/-- The spelling of a name is kept with characters of the name. -/
theorem respell {result : Word} (h : IsNameWord w) (hresult : IsNameWord result) :
    IsNameWord (respell w result) :=
  (h.of_subset (List.take_subset _ w)).append (hresult.of_subset (List.drop_subset _ result))

end IsNameWord

end Inflection

open Inflection

/-- The plural of a name is made of characters of names. It may be empty as far as this goes. -/
theorem isNameChar_of_mem_pluralize {name : String} (h : IsName name.toList) :
    ∀ c ∈ (pluralize name).toList, Text.isNameChar c = true := by
  have hword : IsNameWord name.toList := h.nameChars
  rw [pluralize]
  split
  · exact hword
  · rw [String.toList_ofList]
    exact hword.respell hword.lower.pluralWord

/-- A plural ends in a letter, so it is not empty. -/
theorem toList_ne_nil_of_isPlural {name : String} (h : isPlural name = true) :
    name.toList ≠ [] := by
  intro hnil
  rw [isPlural, hnil] at h
  cases h

/-- **The plural of a name is a name**, if it is one that is taken for a plural. The condition only
serves to exclude the empty name. -/
theorem IsName.pluralize {name : String} (h : IsName name.toList)
    (hplural : isPlural (pluralize name) = true) : IsName (EntitySchema.pluralize name).toList :=
  ⟨toList_ne_nil_of_isPlural hplural, isNameChar_of_mem_pluralize h⟩

end EntitySchema
