/-
Decimals as numbers of 64 bits.

A decimal stands for the nearest number that 53 bits and a bounded exponent can write. Nothing is
computed in between: the decimal is taken as a quotient of two integers, which is rounded once.
Of two numbers that are equally near, the one with the even significand is taken. So a decimal
may be equal to an integer although it is not written as one, such as `0.99999999999999999999`.
-/
import EntitySchema.Rounding

set_option autoImplicit false

namespace EntitySchema

/-- A finite number of 64 bits, which is `significand * 2 ^ exponent`. -/
structure Binary64 where
  significand : Int
  exponent : Int
  deriving DecidableEq, Repr, Inhabited

namespace Binary64

/-! ## Rounding -/

/-- The exponent of the smallest numbers. -/
def lowestExponent : Int := -1074

/-- The exponent of the last of the 53 bits of a quotient. Small quotients have fewer bits. -/
def lastPlace (num den : Nat) : Int :=
  let length : Int := num.log2 - den.log2
  let isShort : Bool :=
    num * Nat.pow 2 (-length).toNat < den * Nat.pow 2 length.toNat
  max (if isShort then length - 53 else length - 52) lowestExponent

/-- The number that is nearest to a quotient, without regard to the highest exponent. -/
def ofQuotient (num den : Nat) : Binary64 :=
  let exponent := lastPlace num den
  { significand :=
      nearestQuotient (num * Nat.pow 2 (-exponent).toNat) (den * Nat.pow 2 exponent.toNat)
    exponent }

/-- Whether a number is too large for 64 bits. -/
def isTooLarge (number : Binary64) : Bool :=
  Nat.pow 2 1024 ≤ number.significand.natAbs * Nat.pow 2 number.exponent.toNat

/-- The number with the sign of an integer. -/
def withSignOf (sign : Int) (number : Binary64) : Binary64 :=
  if sign < 0 then { number with significand := -number.significand } else number

/-- The number that is nearest to `mantissa * 10 ^ exponent`, unless it is too large. Since ten
has more than three bits, the length of the mantissa and the exponent often tell at once that a
decimal is too large, or so small that zero is nearest. -/
def ofDecimal? (mantissa exponent : Int) : Option Binary64 :=
  let bits : Int := mantissa.natAbs.log2
  if mantissa = 0 then some ⟨0, 0⟩
  else if 1100 < bits + 3 * exponent ∧ 0 < exponent then none
  else if bits + 3 * exponent < -1100 ∧ exponent < 0 then some ⟨0, 0⟩
  else
    let number := ofQuotient (mantissa.natAbs * Nat.pow 10 exponent.toNat)
      (Nat.pow 10 (-exponent).toNat)
    if number.isTooLarge then none else some (number.withSignOf mantissa)

/-! ## Integers -/

/-- The integer that a number is equal to, unless it has a fraction. -/
def integral? (number : Binary64) : Option Int :=
  let scale := Int.ofNat (Nat.pow 2 number.exponent.natAbs)
  if 0 ≤ number.exponent then some (number.significand * scale)
  else if number.significand % scale = 0 then some (number.significand / scale)
  else none

end Binary64

end EntitySchema
