/-
Integers in texts that people write.

Such a text may have spaces around it, a sign, zeros in front, single underscores between its
digits and a fraction of zeros: ` +1_000.0 ` is a thousand. Only the digits of ASCII count, and
`Text.integer?` reads nothing else.
-/
import EntitySchema.Text.Blank
import EntitySchema.Text.Digit
import EntitySchema.Text.Scan

set_option autoImplicit false

namespace EntitySchema.Text

/-- Whether a character may stand around an integer: a blank, but no separator of ASCII. -/
def isPadding (c : Char) : Bool := isBlank c && !(0x1c ≤ c.toNat && c.toNat < 0x20)

/-- Drops the padding at both ends. -/
def withoutPadding (cs : List Char) : List Char :=
  (((cs.dropWhile isPadding).reverse).dropWhile isPadding).reverse

/-- Drops the zeros in front, among which underscores may stand. If no digit follows, the last of
them is kept. -/
def withoutLeadingZeros (cs : List Char) : List Char :=
  if cs.head? = some '0' then
    let isZero (c : Char) : Bool := c = '0' || c = '_'
    match cs.dropWhile isZero with
    | [] => (cs.getLast?).toList
    | '.' :: rest => (cs.takeWhile isZero).getLast?.toList ++ '.' :: rest
    | rest => rest
  else cs

/-- Drops a fraction that consists of zeros, at least one. -/
def withoutZeroFraction (cs : List Char) : List Char :=
  match cs.dropWhile (· != '.') with
  | '.' :: '0' :: rest => if rest.all (· = '0') then cs.takeWhile (· != '.') else cs
  | _ => cs

/-- The number that digits write, with single underscores between them. -/
def natural? (signs : Nat) (cs : List Char) : Option Nat :=
  let groups := splitOn '_' (withoutZeroFraction (withoutLeadingZeros cs))
  if groups.all (fun group => !group.isEmpty && group.all Char.isDigit) &&
      signs + groups.flatten.length ≤ digitLimit then
    some (numberOfDigits groups.flatten)
  else none

/-- The integer that a text writes. Its sign counts as a digit when it is too long. -/
def integer? (cs : List Char) : Option Int :=
  match withoutPadding cs with
  | '-' :: digits => (natural? 1 digits).map fun n => -(n : Int)
  | '+' :: digits => (natural? 0 digits).map Int.ofNat
  | digits => (natural? 0 digits).map Int.ofNat

end EntitySchema.Text
