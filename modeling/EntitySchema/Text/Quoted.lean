/-
Texts between quotes, as they are told.

The quotes are single ones, unless the text holds some of those and no double ones. A quote of
the same kind and a backslash get a backslash before them, and what cannot be printed is written
as an escape, so that everything in the text can be seen.
-/
import EntitySchema.Text.Hex
import EntitySchema.Text.Printable

set_option autoImplicit false

namespace EntitySchema.Text

/-- The number of a character after a letter that tells how many digits there are. -/
def codeEscape (c : Char) : List Char :=
  if c.toNat < 0x100 then ['\\', 'x'] ++ hexDigits 2 c.toNat
  else if c.toNat < 0x10000 then ['\\', 'u'] ++ hexDigits 4 c.toNat
  else ['\\', 'U'] ++ hexDigits 8 c.toNat

/-- A character as it stands between quotes. -/
def quotedChar (quote c : Char) : List Char :=
  if c = '\\' then ['\\', '\\']
  else if c = quote then ['\\', c]
  else if c = '\n' then ['\\', 'n']
  else if c = '\r' then ['\\', 'r']
  else if c = '\t' then ['\\', 't']
  else if isPrintable c then [c]
  else codeEscape c

/-- The quotes around a text. -/
def quoteFor (cs : List Char) : Char :=
  if cs.contains '\'' && !cs.contains '"' then '"' else '\''

/-- A text between quotes. -/
def quoted (cs : List Char) : List Char :=
  quoteFor cs :: cs.flatMap (quotedChar (quoteFor cs)) ++ [quoteFor cs]

/-- A text whose characters can all be printed, none of them a backslash or the quote, stands
between its quotes as it is. -/
theorem quoted_of_plain {cs : List Char}
    (h : ∀ c ∈ cs, isPrintable c = true ∧ c ≠ '\\' ∧ c ≠ quoteFor cs ∧ c ≠ '\n' ∧ c ≠ '\r' ∧
      c ≠ '\t') :
    quoted cs = quoteFor cs :: cs ++ [quoteFor cs] := by
  have hmap : cs.map (quotedChar (quoteFor cs)) = cs.map fun c => [c] := by
    refine List.map_congr_left fun c hc => ?_
    obtain ⟨hp, hb, hq, hn, hr, ht⟩ := h c hc
    simp [quotedChar, hp, hb, hq, hn, hr, ht]
  have hsingle : cs.flatMap (fun c => [c]) = cs := by simp
  rw [quoted, List.flatMap_def, hmap, ← List.flatMap_def, hsingle]

end EntitySchema.Text
