/-
Reading bytes as text.

Files are UTF-8. A byte that cannot be part of it is told with its place, together with the
bytes that were read with it. Line ends are unified, so that a carriage return, alone or before
a line feed, is a line feed.
-/
import EntitySchema.Error
import EntitySchema.Text.Hex

set_option autoImplicit false

namespace EntitySchema.Text.Utf8

/-- What is wrong with a sequence of bytes, and how many bytes of it are wrong together. -/
structure Fault where
  length : Nat
  reason : String
  deriving DecidableEq, Repr

/-- A byte that starts no character. -/
def invalidStart : Fault := ⟨1, "invalid start byte"⟩

/-- A sequence whose first `length` bytes do not go on as they should. -/
def invalidContinuation (length : Nat) : Fault := ⟨length, "invalid continuation byte"⟩

/-- A sequence of `length` bytes that breaks off. -/
def unexpectedEnd (length : Nat) : Fault := ⟨length, "unexpected end of data"⟩

/-- Whether a byte may continue a character. -/
def isContinuation (b : Nat) : Bool := 0x80 ≤ b && b < 0xc0

/-- Whether a byte may follow the first byte of a character. Some first bytes leave out a part
of the range, since no character is written longer than needed, none is a half of a surrogate
pair and none lies beyond the last one. -/
def isSecond (first b : Nat) : Bool :=
  isContinuation b && (first != 0xe0 || 0xa0 ≤ b) && (first != 0xed || b < 0xa0) &&
    (first != 0xf0 || 0x90 ≤ b) && (first != 0xf4 || b < 0x90)

/-- The first character of a sequence of bytes, and what follows it. -/
def first : List Nat → Except Fault (Option (Char × List Nat))
  | [] => .ok none
  | a :: rest =>
    if a < 0x80 then .ok (some (Char.ofNat a, rest))
    else if a < 0xc2 || 0xf4 < a then .error invalidStart
    else
      match rest with
      | [] => .error (unexpectedEnd 1)
      | b :: rest =>
        if !isSecond a b then .error (invalidContinuation 1)
        else if a < 0xe0 then .ok (some (Char.ofNat ((a - 0xc0) * 0x40 + (b - 0x80)), rest))
        else
          match rest with
          | [] => .error (unexpectedEnd 2)
          | c :: rest =>
            if !isContinuation c then .error (invalidContinuation 2)
            else if a < 0xf0 then
              .ok (some (Char.ofNat (((a - 0xe0) * 0x40 + (b - 0x80)) * 0x40 + (c - 0x80)), rest))
            else
              match rest with
              | [] => .error (unexpectedEnd 3)
              | d :: rest =>
                if !isContinuation d then .error (invalidContinuation 3)
                else
                  .ok (some (Char.ofNat ((((a - 0xf0) * 0x40 + (b - 0x80)) * 0x40 + (c - 0x80)) *
                    0x40 + (d - 0x80)), rest))

/-- A byte in hexadecimal digits. -/
def hexByte (b : Nat) : String := String.ofList (['0', 'x'] ++ hexDigits 2 b)

/-- A fault at a place, as it is told. -/
def describe (place : Nat) (byte : Nat) (fault : Fault) : String :=
  if fault.length = 1 then
    s!"'utf-8' codec can't decode byte {hexByte byte} in position {place}: {fault.reason}"
  else
    let last := place + fault.length - 1
    s!"'utf-8' codec can't decode bytes in position {place}-{last}: {fault.reason}"

/-- Reads bytes that start at a place of the file. At least one byte is read in each step, so
their number is fuel enough. -/
def decodeFrom (place : Nat) : Nat → List Nat → Except Error (List Char)
  | 0, _ => .ok []
  | fuel + 1, bytes =>
    match first bytes with
    | .ok none => .ok []
    | .ok (some (c, rest)) =>
      (decodeFrom (place + (bytes.length - rest.length)) fuel rest).map (c :: ·)
    | .error fault => .error (.undecodable (describe place (bytes.headD 0) fault))

/-- Reads bytes as text. -/
def decode (bytes : List Nat) : Except Error (List Char) := decodeFrom 0 bytes.length bytes

/-- Makes every line end a line feed. -/
def unifyLineEnds : List Char → List Char
  | '\r' :: '\n' :: rest => '\n' :: unifyLineEnds rest
  | '\r' :: rest => '\n' :: unifyLineEnds rest
  | c :: rest => c :: unifyLineEnds rest
  | [] => []

/-- Reads the bytes of a file as text. -/
def readFile (bytes : List Nat) : Except Error String := do
  return String.ofList (unifyLineEnds (← decode bytes))

end EntitySchema.Text.Utf8
