/-
Pictures by their names.

In a text on a terminal a name between colons stands for a picture, such as `:heart:`. The ending
`-text` or `-emoji` of a name asks for one of the two forms of the picture. A name that is not
known stays as it is, with both of its colons.
-/
import EntitySchema.Json.Reader
import EntitySchema.Report.EmojiTable
import EntitySchema.Text.Letter
import EntitySchema.Text.Scan

set_option autoImplicit false

namespace EntitySchema.Emoji

/-! ## Looking up names -/

/-- The number that hexadecimal digits write. -/
def hexNumber (digits : List Char) : Nat :=
  digits.foldl (fun n c => 16 * n + (Json.hexValue? c).getD 0) 0

/-- The characters that an entry gives. -/
def picture (codes : List Char) : List Char :=
  (Text.splitOn '-' codes).map fun code => Char.ofNat (hexNumber code)

/-- Finds a name among entries, the first of which follows an entry for `previous`. -/
def findAfter? (name previous : List Char) : List (List Char) → Option (List Char)
  | [] => none
  | entry :: rest =>
    match Text.splitOn ':' entry with
    | [shared, ending, codes] =>
      let found := previous.take (Json.digitsValue shared) ++ ending
      if found = name then some (picture codes) else findAfter? name found rest
    | _ => findAfter? name previous rest

/-- The picture of a name. -/
def find? (name : List Char) : Option (List Char) :=
  findAfter? name [] (Text.words table.toList)

/-! ## Names in texts -/

/-- Endings that ask for a form of a picture, and the characters that do. -/
def forms : List (List Char × Char) :=
  [("-text".toList, '\ufe0e'), ("-emoji".toList, '\ufe0f')]

/-- The picture that a name between colons stands for. -/
def named? (name : List Char) : Option (List Char) :=
  match forms.find? fun form => form.1.isSuffixOf name with
  | some (ending, form) =>
    (find? (Text.lower (name.take (name.length - ending.length)))).map (· ++ [form])
  | none => find? (Text.lower name)

/-- The name after a colon, if a colon follows it, and what follows that one. A name has no
blanks. -/
def name? (cs : List Char) : Option (List Char × List Char) :=
  let isPart (c : Char) : Bool := c != ':' && !Text.isBlank c
  match cs.dropWhile isPart with
  | ':' :: rest => some (cs.takeWhile isPart, rest)
  | _ => none

/-- What follows a name is shorter. -/
theorem length_lt_of_name? {cs name rest : List Char} (h : name? cs = some (name, rest)) :
    rest.length < cs.length := by
  unfold name? at h
  simp only at h
  split at h
  · next rest' hd =>
    simp only [Option.some.injEq, Prod.mk.injEq] at h
    obtain ⟨-, rfl⟩ := h
    have hle := (List.dropWhile_sublist (fun c => c != ':' && !Text.isBlank c) (l := cs)).length_le
    rw [hd] at hle
    simp only [List.length_cons] at hle
    omega
  · simp at h

/-- A text with pictures for the names that are known. -/
def replace (cs : List Char) : List Char :=
  match cs with
  | [] => []
  | c :: rest =>
    if c = ':' then
      match h : name? rest with
      | some (name, after) =>
        have := length_lt_of_name? h
        (named? name).getD (':' :: name ++ [':']) ++ replace after
      | none => c :: replace rest
    else c :: replace rest
termination_by cs.length
decreasing_by all_goals simp only [List.length_cons] at *; omega

/-- A text without colons stays as it is. -/
theorem replace_of_not_mem {cs : List Char} (h : ':' ∉ cs) : replace cs = cs := by
  induction cs with
  | nil => simp [replace]
  | cons c rest ih =>
    rw [List.mem_cons, not_or] at h
    unfold replace
    rw [if_neg (fun e => h.1 e.symm), ih h.2]

end EntitySchema.Emoji
