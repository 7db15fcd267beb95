/-
Rounding quotients to integers.
-/

set_option autoImplicit false

namespace EntitySchema

/-- The integer that is nearest to a quotient, the even one of two that are equally near. -/
def nearestQuotient (num den : Nat) : Nat :=
  let quotient := num / den
  let twiceRest := 2 * (num % den)
  if den < twiceRest ∨ (twiceRest = den ∧ quotient % 2 = 1) then quotient + 1 else quotient

/-- A quotient that is an integer is rounded to itself. -/
theorem nearestQuotient_mul (n : Nat) {den : Nat} (h : 0 < den) :
    nearestQuotient (n * den) den = n := by
  unfold nearestQuotient
  simp only [Nat.mul_div_cancel n h, Nat.mul_mod_left]
  split <;> omega

/-- Rounding is off by half a unit at most. -/
theorem nearestQuotient_near (num : Nat) {den : Nat} (h : 0 < den) :
    2 * num ≤ 2 * (nearestQuotient num den * den) + den ∧
      2 * (nearestQuotient num den * den) ≤ 2 * num + den := by
  have hsum := Nat.div_add_mod num den
  have hlt := Nat.mod_lt num h
  rw [Nat.mul_comm] at hsum
  unfold nearestQuotient
  simp only
  split
  · rw [Nat.add_mul, Nat.one_mul]; omega
  · omega

end EntitySchema
