/-
Strings as they are written in JSON are read back.

A character is written in one of four ways, and `Json.escapeChar_cases` says which: as itself, with
a letter behind a backslash, as one code unit, or as two that make a surrogate pair. For each of
them there is one lemma about reading, and `Json.stringRest?_flatMap` goes over the characters with
these.

Reading a code unit looks at the next escape too, since that may be the second half of a pair. The
lemmas are therefore stated for a rest that is known to be readable: if an escape follows, it is a
code unit as well. This is what the induction over the text provides, which goes from its end to its
start.

No character is a half of a pair by itself, so a code unit that is written for a character is never
taken for one. The arithmetic of pairs is done once, in `stringRest?_escapeChar`: the two halves
hold the quotient and the remainder of what is beyond the first plane, and reading puts them
together again. All characters are covered, also those that no text would hold, such as control
characters, which are written as code units because a string may not hold them as they are.
-/
import EntitySchema.Json.Reader
import EntitySchema.Json.Writer

set_option autoImplicit false

namespace EntitySchema.Json

-- every lemma here unfolds it, so its equations are made once, before the first of them
attribute [local simp] stringRest?

/-! ## Code units -/

/-- A digit has its value. By evaluation over the sixteen digits. -/
theorem hexValue?_hexDigit {n : Nat} (h : n < 16) : hexValue? (Text.hexDigit n) = some n := by
  have hall : ∀ digit : Fin 16, hexValue? (Text.hexDigit digit) = some digit.val := by decide
  exact hall ⟨n, h⟩

/-- The four digits that a code unit is written with, and that reading them gives the unit. -/
theorem exists_escapeUnit {unit : Nat} (h : unit < 0x10000) :
    ∃ a b c d, escapeUnit unit = ['\\', 'u', a, b, c, d] ∧ codeUnit? a b c d = some unit := by
  refine ⟨_, _, _, _, rfl, ?_⟩
  rw [codeUnit?, hexValue?_hexDigit (Nat.mod_lt _ (by decide)),
    hexValue?_hexDigit (Nat.mod_lt _ (by decide)), hexValue?_hexDigit (Nat.mod_lt _ (by decide)),
    hexValue?_hexDigit (Nat.mod_lt _ (by decide))]
  refine congrArg some ?_
  omega

/-- An escape with four digits that can be read is that of a code unit. The reader has two rules for
such an escape, one with another escape behind it and one without, and both ask for a code unit. -/
theorem exists_codeUnit_of_stringRest? {a b c d : Char} {rest text left : List Char}
    (h : stringRest? ('\\' :: 'u' :: a :: b :: c :: d :: rest) = some (text, left)) :
    ∃ unit, codeUnit? a b c d = some unit := by
  cases hunit : codeUnit? a b c d with
  | some unit => exact ⟨unit, rfl⟩
  | none =>
    by_cases hnext : ∃ e f g h' more, rest = '\\' :: 'u' :: e :: f :: g :: h' :: more
    · obtain ⟨e, f, g, h', more, rfl⟩ := hnext
      rw [stringRest?, hunit] at h
      cases h
    · rw [stringRest?, hunit] at h
      · cases h
      · intro e f g h' more hrest
        exact hnext ⟨e, f, g, h', more, hrest⟩

/-! ## The shapes of an escape -/

section Shapes

variable {c : Char} {rest text left : List Char}

/-- A character that is written as itself: none that ends the string, starts an escape or is a
control character. -/
theorem stringRest?_plain (hquote : c ≠ '"') (hbackslash : c ≠ '\\') (hcontrol : ¬ c.toNat < 0x20)
    (h : stringRest? rest = some (text, left)) :
    stringRest? (c :: rest) = some (c :: text, left) := by
  rw [stringRest?]
  · rw [if_neg (by simp [hbackslash, hcontrol]), h]
    rfl
  · exact hquote
  · exact fun _ _ _ _ _ _ _ _ _ hc => absurd hc hbackslash
  · exact fun _ _ _ _ _ hc => absurd hc hbackslash
  · exact fun _ _ hc => absurd hc hbackslash

/-- An escape of one letter. The letter for code units is excluded, since that one has digits behind
it. -/
theorem stringRest?_letter {letter : Char} (hletter : letter ≠ 'u')
    (hmeant : shortEscape? letter = some c) (h : stringRest? rest = some (text, left)) :
    stringRest? ('\\' :: letter :: rest) = some (c :: text, left) := by
  rw [stringRest?]
  · rw [hmeant, h]
    rfl
  · exact fun _ _ _ _ _ _ _ _ _ hu => absurd hu hletter
  · exact fun _ _ _ _ _ hu => absurd hu hletter

/-- A code unit that is no half of a pair. Whether another escape follows decides which rule reads
it, but the outcome is the same. -/
theorem stringRest?_unit {unit : Nat} (hunit : unit < 0x10000)
    (hhigh : isHighSurrogate unit = false) (hlow : isLowSurrogate unit = false)
    (h : stringRest? rest = some (text, left)) :
    stringRest? (escapeUnit unit ++ rest) = some (Char.ofNat unit :: text, left) := by
  obtain ⟨a, b, c, d, hescape, hcode⟩ := exists_escapeUnit hunit
  simp only [hescape, List.cons_append, List.nil_append]
  by_cases hnext : ∃ e f g h' more, rest = '\\' :: 'u' :: e :: f :: g :: h' :: more
  · -- the escape that follows is a code unit, but it is read on its own
    obtain ⟨e, f, g, h', more, rfl⟩ := hnext
    obtain ⟨next, hnextCode⟩ := exists_codeUnit_of_stringRest? h
    rw [stringRest?, hcode, hnextCode]
    simp only [hhigh, hlow, h, Bool.false_eq_true, if_false]
    rfl
  · rw [stringRest?, hcode]
    · simp only [hhigh, hlow, h, Bool.or_self, Bool.false_eq_true, if_false]
      rfl
    · intro e f g h' more hrest
      exact hnext ⟨e, f, g, h', more, hrest⟩

/-- Two code units that are the halves of a pair are read as one character. -/
theorem stringRest?_pair (high low : Nat) (hhighUnit : high < 0x10000) (hlowUnit : low < 0x10000)
    (hhigh : isHighSurrogate high = true) (hlow : isLowSurrogate low = true)
    (h : stringRest? rest = some (text, left)) :
    stringRest? (escapeUnit high ++ escapeUnit low ++ rest) =
      some (pairChar high low :: text, left) := by
  obtain ⟨a, b, c, d, hescape, hcode⟩ := exists_escapeUnit hhighUnit
  obtain ⟨e, f, g, h', hescapeLow, hcodeLow⟩ := exists_escapeUnit hlowUnit
  simp only [hescape, hescapeLow, List.cons_append, List.nil_append]
  rw [stringRest?, hcode, hcodeLow]
  simp only [hhigh, hlow, h, if_true]
  rfl

end Shapes

/-! ## Characters -/

/-- A character that no string may hold as it is has a letter, or it is a control character. -/
theorem specialEscape?_cases (c : Char) :
    (specialEscape? c = none ∧ c ≠ '"' ∧ c ≠ '\\' ∧ ¬ c.toNat < 0x20) ∨
      (∃ letter, specialEscape? c = some ['\\', letter] ∧ letter ≠ 'u' ∧
        shortEscape? letter = some c) ∨
      (specialEscape? c = some (escapeUnit c.toNat) ∧ c.toNat < 0x20) := by
  rw [specialEscape?]
  split
  · next hc => exact .inr (.inl ⟨'"', rfl, by decide, by rw [hc]; rfl⟩)
  next hquote =>
  split
  · next hc => exact .inr (.inl ⟨'\\', rfl, by decide, by rw [hc]; rfl⟩)
  next hbackslash =>
  split
  · next hc => exact .inr (.inl ⟨'n', rfl, by decide, by rw [hc]; rfl⟩)
  split
  · next hc => exact .inr (.inl ⟨'r', rfl, by decide, by rw [hc]; rfl⟩)
  split
  · next hc => exact .inr (.inl ⟨'t', rfl, by decide, by rw [hc]; rfl⟩)
  split
  · next hc => exact .inr (.inl ⟨'b', rfl, by decide, by rw [hc]; rfl⟩)
  split
  · next hc => exact .inr (.inl ⟨'f', rfl, by decide, by rw [hc]; rfl⟩)
  split
  · next hcontrol => exact .inr (.inr ⟨rfl, hcontrol⟩)
  · next hcontrol => exact .inl ⟨rfl, hquote, hbackslash, hcontrol⟩

/-- **How a character is written.** -/
theorem escapeChar_cases (c : Char) :
    (escapeChar c = [c] ∧ c ≠ '"' ∧ c ≠ '\\' ∧ ¬ c.toNat < 0x20) ∨
      (∃ letter, escapeChar c = ['\\', letter] ∧ letter ≠ 'u' ∧ shortEscape? letter = some c) ∨
      (escapeChar c = escapeUnit c.toNat ∧ c.toNat < 0x10000) ∨
      (escapeChar c = escapeUnit (0xd800 + (c.toNat - 0x10000) / 0x400) ++
          escapeUnit (0xdc00 + (c.toNat - 0x10000) % 0x400) ∧ 0x10000 ≤ c.toNat) := by
  rcases specialEscape?_cases c with ⟨hescape, hquote, hbackslash, hcontrol⟩ |
    ⟨letter, hescape, hletter, hmeant⟩ | ⟨hescape, hcontrol⟩
  · rw [escapeChar, hescape]
    dsimp only
    split
    · exact .inl ⟨rfl, hquote, hbackslash, hcontrol⟩
    split
    · next hplane => exact .inr (.inr (.inl ⟨rfl, hplane⟩))
    · next hplane => exact .inr (.inr (.inr ⟨rfl, Nat.le_of_not_lt hplane⟩))
  · rw [escapeChar, hescape]
    exact .inr (.inl ⟨letter, rfl, hletter, hmeant⟩)
  · rw [escapeChar, hescape]
    exact .inr (.inr (.inl ⟨rfl, by omega⟩))

/-- No character is half of a surrogate pair, and none is beyond the last plane. That is how
characters are defined. -/
theorem not_isSurrogate_toNat (c : Char) :
    isHighSurrogate c.toNat = false ∧ isLowSurrogate c.toNat = false ∧ c.toNat < 0x110000 := by
  have hvalid : c.toNat < 0xd800 ∨ 0xdfff < c.toNat ∧ c.toNat < 0x110000 := c.valid
  simp only [isHighSurrogate, isLowSurrogate, Bool.and_eq_false_iff, decide_eq_false_iff_not]
  omega

/-- A character is read back, whatever follows, as long as that can be read itself. -/
theorem stringRest?_escapeChar (c : Char) {rest text left : List Char}
    (h : stringRest? rest = some (text, left)) :
    stringRest? (escapeChar c ++ rest) = some (c :: text, left) := by
  obtain ⟨hhigh, hlow, hlimit⟩ := not_isSurrogate_toNat c
  rcases escapeChar_cases c with ⟨hescape, hquote, hbackslash, hcontrol⟩ |
    ⟨letter, hescape, hletter, hmeant⟩ | ⟨hescape, hplane⟩ | ⟨hescape, hplane⟩
  · rw [hescape]
    exact stringRest?_plain hquote hbackslash hcontrol h
  · rw [hescape]
    exact stringRest?_letter hletter hmeant h
  · rw [hescape, stringRest?_unit hplane hhigh hlow h, Char.ofNat_toNat]
  · have hpair : pairChar (0xd800 + (c.toNat - 0x10000) / 0x400)
        (0xdc00 + (c.toNat - 0x10000) % 0x400) = c := by
      have hcode : 0x10000 + (0xd800 + (c.toNat - 0x10000) / 0x400 - 0xd800) * 0x400 +
          (0xdc00 + (c.toNat - 0x10000) % 0x400 - 0xdc00) = c.toNat := by omega
      rw [pairChar, hcode, Char.ofNat_toNat]
    have hread := stringRest?_pair (0xd800 + (c.toNat - 0x10000) / 0x400)
      (0xdc00 + (c.toNat - 0x10000) % 0x400) (by omega) (by omega)
      (by simp only [isHighSurrogate, Bool.and_eq_true, decide_eq_true_eq]; omega)
      (by simp only [isLowSurrogate, Bool.and_eq_true, decide_eq_true_eq]; omega) h
    rw [hescape, hread, hpair]

/-- **Strings are read back.** After the opening quote the text is read up to the closing one, and
what stands behind it is left. By induction on the text. -/
theorem stringRest?_flatMap (text left : List Char) :
    stringRest? (text.flatMap escapeChar ++ '"' :: left) = some (text, left) := by
  induction text with
  | nil => rw [List.flatMap_nil, List.nil_append, stringRest?]
  | cons c text ih =>
    rw [List.flatMap_cons, List.append_assoc]
    exact stringRest?_escapeChar c ih

end EntitySchema.Json
