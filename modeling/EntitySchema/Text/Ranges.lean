/-
Sets of characters as runs.

A property of characters is kept as a list of its runs, each with its first and its last
character.
-/

set_option autoImplicit false

namespace EntitySchema.Text

/-- Whether a character lies in one of the runs. -/
def inRanges (ranges : List (Nat × Nat)) (c : Char) : Bool :=
  ranges.any fun range => range.1 ≤ c.toNat && c.toNat ≤ range.2

/-- A character lies in the runs if and only if it lies in one of them. -/
theorem inRanges_iff {ranges : List (Nat × Nat)} {c : Char} :
    inRanges ranges c = true ↔ ∃ range ∈ ranges, range.1 ≤ c.toNat ∧ c.toNat ≤ range.2 := by
  simp [inRanges]

end EntitySchema.Text
