/-
JSON values.

Objects keep their members in the order in which they are written, since the order of tables
and columns is part of what a snapshot says. A repeated key is kept here as well; whoever reads
an object as a map decides what it means.
-/

import EntitySchema.Binary64

set_option autoImplicit false

namespace EntitySchema

/-- A JSON number: an integer, a number written with a fraction or an exponent, which is
`mantissa * 10 ^ exponent`, or one of the three words for what is no number. -/
inductive JsonNumber where
  | integer (value : Int)
  | decimal (mantissa : Int) (exponent : Int)
  | infinite (negative : Bool)
  | notANumber
  deriving DecidableEq, Repr, Inhabited

/-- The integer that a number is equal to, unless it has a fraction. An integer counts as it is
written, while a decimal stands for the nearest number of 64 bits. -/
def JsonNumber.integral? : JsonNumber → Option Int
  | integer value => some value
  | decimal mantissa exponent => (Binary64.ofDecimal? mantissa exponent).bind (·.integral?)
  | infinite _ | notANumber => none

/-- A JSON value. -/
inductive Json where
  | null
  | bool (value : Bool)
  | number (value : JsonNumber)
  | string (value : String)
  | array (items : List Json)
  | object (members : List (String × Json))
  deriving Repr, Inhabited

namespace Json

/-! ## Equality -/

mutual

/-- Compares two values. -/
def decideEq : (a b : Json) → Decidable (a = b)
  | .null, b => match b with
    | .null => isTrue rfl
    | .bool _ | .number _ | .string _ | .array _ | .object _ => isFalse nofun
  | .bool x, b => match b with
    | .bool y => decidable_of_iff (x = y) ⟨fun h => h ▸ rfl, fun h => by injection h⟩
    | .null | .number _ | .string _ | .array _ | .object _ => isFalse nofun
  | .number x, b => match b with
    | .number y => decidable_of_iff (x = y) ⟨fun h => h ▸ rfl, fun h => by injection h⟩
    | .null | .bool _ | .string _ | .array _ | .object _ => isFalse nofun
  | .string x, b => match b with
    | .string y => decidable_of_iff (x = y) ⟨fun h => h ▸ rfl, fun h => by injection h⟩
    | .null | .bool _ | .number _ | .array _ | .object _ => isFalse nofun
  | .array xs, b => match b with
    | .array ys =>
      match decideEqItems xs ys with
      | isTrue h => isTrue (h ▸ rfl)
      | isFalse h => isFalse fun e => h (by injection e)
    | .null | .bool _ | .number _ | .string _ | .object _ => isFalse nofun
  | .object xs, b => match b with
    | .object ys =>
      match decideEqMembers xs ys with
      | isTrue h => isTrue (h ▸ rfl)
      | isFalse h => isFalse fun e => h (by injection e)
    | .null | .bool _ | .number _ | .string _ | .array _ => isFalse nofun

/-- Compares the items of two arrays. -/
def decideEqItems : (xs ys : List Json) → Decidable (xs = ys)
  | [], [] => isTrue rfl
  | [], _ :: _ => isFalse nofun
  | _ :: _, [] => isFalse nofun
  | x :: xs, y :: ys =>
    match decideEq x y, decideEqItems xs ys with
    | isTrue hx, isTrue hxs => isTrue (by rw [hx, hxs])
    | isFalse h, _ => isFalse fun e => h (by injection e)
    | _, isFalse h => isFalse fun e => h (by injection e)

/-- Compares the members of two objects. -/
def decideEqMembers : (xs ys : List (String × Json)) → Decidable (xs = ys)
  | [], [] => isTrue rfl
  | [], _ :: _ => isFalse nofun
  | _ :: _, [] => isFalse nofun
  | (k, x) :: xs, (l, y) :: ys =>
    match decEq k l, decideEq x y, decideEqMembers xs ys with
    | isTrue hk, isTrue hx, isTrue hxs => isTrue (by rw [hk, hx, hxs])
    | isFalse h, _, _ => isFalse fun e => h (by injection e with e _; injection e)
    | _, isFalse h, _ => isFalse fun e => h (by injection e with e _; injection e)
    | _, _, isFalse h => isFalse fun e => h (by injection e)

end

instance : DecidableEq Json := decideEq

/-! ## Making values -/

/-- An integer as a value. -/
def int (value : Int) : Json := .number (.integer value)

/-- A natural number as a value. -/
def nat (value : Nat) : Json := .int value

/-- A list of texts as a value. -/
def strings (values : List String) : Json := .array (values.map .string)

/-- A text that may be absent. -/
def optString (value : Option String) : Json := value.elim .null .string

/-- A truth value that may be absent. -/
def optBool (value : Option Bool) : Json := value.elim .null .bool

/-! ## Reading members -/

/-- The member of an object with the given key: the last one, if there are several. -/
def get? (key : String) : Json → Option Json
  | .object members => (members.reverse.find? (·.1 = key)).map (·.2)
  | _ => none

/-- The text of a string. -/
def asString? : Json → Option String
  | .string value => some value
  | _ => none

/-- The value of a boolean. -/
def asBool? : Json → Option Bool
  | .bool value => some value
  | _ => none

/-- The items of an array. -/
def asArray? : Json → Option (List Json)
  | .array items => some items
  | _ => none

/-- The members of an object. -/
def asObject? : Json → Option (List (String × Json))
  | .object members => some members
  | _ => none

/-- The value of an integer. -/
def asInt? : Json → Option Int
  | .number (.integer value) => some value
  | _ => none

/-- The texts of an array of strings. -/
def asStrings? (value : Json) : Option (List String) :=
  value.asArray?.bind fun items => items.mapM asString?

end Json

end EntitySchema
