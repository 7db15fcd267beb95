/-
Tags in reports.

A terminal takes a word in brackets for a tag that sets a style, `[bold]` until `[/bold]` or
`[/]`. Without colours nothing is left of tags, so what is shown is the text between them, with
pictures for their names: `Markup.read`. A tag starts with a small letter, `#`, `@` or `/` and
holds no bracket, and a backslash before it makes it plain text. Everything else in brackets is
plain text anyway, such as the `[]` after the name of a model. A text that closes what it never
opened cannot be shown.
-/
import EntitySchema.Report.Emoji
import EntitySchema.Report.Literal
import EntitySchema.Report.Style
import EntitySchema.Text.Quoted

set_option autoImplicit false

namespace EntitySchema.Markup

/-! ## Pieces -/

/-- A part of a text with tags. -/
inductive Piece where
  | plain (text : List Char)
  | tag (inside : List Char)
  deriving DecidableEq, Repr, Inhabited

/-- Whether a bracket before this character may open a tag. -/
def startsTag (c : Char) : Bool := c.isLower || c = '#' || c = '/' || c = '@'

/-- Whether a character is no bracket. -/
def isInside (c : Char) : Bool := c != '[' && c != ']'

/-- The inside of the tag with which a text starts, and what follows the tag. -/
def tag? : List Char → Option (List Char × List Char)
  | '[' :: c :: rest =>
    match rest.dropWhile isInside with
    | ']' :: after => if startsTag c then some (c :: rest.takeWhile isInside, after) else none
    | _ => none
  | _ => none

/-- What follows a tag is shorter. -/
theorem length_lt_of_tag? {cs inside after : List Char} (h : tag? cs = some (inside, after)) :
    after.length < cs.length := by
  unfold tag? at h
  split at h
  · next c rest =>
    split at h
    · next after' hd =>
      split at h
      · simp only [Option.some.injEq, Prod.mk.injEq] at h
        obtain ⟨-, rfl⟩ := h
        have hle : (rest.dropWhile isInside).length ≤ rest.length :=
          (List.dropWhile_sublist _).length_le
        rw [hd] at hle
        simp only [List.length_cons] at hle ⊢
        omega
      · simp at h
    · simp at h
  · simp at h

/-- A tag starts with a bracket. -/
theorem tag?_of_ne_bracket {c : Char} (h : c ≠ '[') (rest : List Char) :
    tag? (c :: rest) = none := by
  unfold tag?
  split
  · next heq => exact absurd (List.cons.inj heq).1 h
  · rfl

/-- The backslashes that stand before a character. -/
def slashes (count : Nat) : List Char := List.replicate count '\\'

/-- Cuts a text into its pieces, after plain text, which is held in reverse, and `count`
backslashes. Two backslashes before a tag stand for one, and a single one makes the tag plain. One
before another bracket is left out. -/
def piecesAfter (plain : List Char) (count : Nat) (cs : List Char) : List Piece :=
  match cs with
  | [] => [.plain (plain.reverse ++ slashes count)]
  | c :: rest =>
    if c = '\\' then piecesAfter plain (count + 1) rest
    else
      match h : tag? (c :: rest) with
      | some (inside, after) =>
        have := length_lt_of_tag? h
        let piece := if count % 2 = 0 then .tag inside else .plain ('[' :: inside ++ [']'])
        .plain plain.reverse :: .plain (slashes (count / 2)) :: piece :: piecesAfter [] 0 after
      | none => piecesAfter (c :: slashes (if c = '[' then count - 1 else count) ++ plain) 0 rest
termination_by cs.length
decreasing_by all_goals simp only [List.length_cons] at *; omega

/-- The pieces of a text. -/
def pieces (cs : List Char) : List Piece := piecesAfter [] 0 cs

/-- A text without brackets is one piece. -/
theorem piecesAfter_of_not_mem {cs : List Char} (h : '[' ∉ cs) (plain : List Char)
    (count : Nat) :
    piecesAfter plain count cs = [.plain (plain.reverse ++ slashes count ++ cs)] := by
  induction cs generalizing plain count with
  | nil => simp [piecesAfter]
  | cons c rest ih =>
    rw [List.mem_cons, not_or] at h
    have hc : c ≠ '[' := fun e => h.1 e.symm
    unfold piecesAfter
    split
    · next hs => rw [ih h.2]; simp [slashes, List.replicate_succ', hs]
    · split
      · next ht => simp [tag?_of_ne_bracket hc] at ht
      · rw [ih h.2]
        simp [slashes]

/-! ## Faults -/

/-- Why a text with tags cannot be shown. -/
inductive Fault where
  /-- It closes what it never opened. -/
  | unopened
  /-- A part of a colour is not given. -/
  | emptyPart
  /-- The arguments of an action in the value of a tag are no literal. -/
  | action (arguments value : List Char)
  deriving DecidableEq, Repr, Inhabited

/-- The message for a fault. For a tag that was never opened there is none, since the message
would show the tag and so have the fault itself. -/
def Fault.message? : Fault → Option (List Char)
  | .unopened => none
  | .emptyPart => some "invalid literal for int() with base 10: ''".toList
  | .action arguments value =>
    let reason := if Literal.isUnclosed arguments then "'(' was never closed" else "invalid syntax"
    some ("error parsing ".toList ++ Text.quoted arguments ++ " in ".toList ++
      Text.quoted value ++ "; ".toList ++ reason.toList)

/-! ## Tags -/

/-- A tag: the normal form of its name, and the value after the name. -/
structure Tag where
  name : List Char
  value : List Char := []
  deriving DecidableEq, Repr, Inhabited

/-- The normal form of a name. -/
def normalName (name : List Char) : Except Fault (List Char) :=
  (Style.normalForm name).mapError fun _ => .emptyPart

namespace Tag

/-- Reads the inside of a tag. -/
def read (inside : List Char) : Except Fault Tag := do
  return {
    name := ← normalName (inside.takeWhile (· != '='))
    value := (inside.dropWhile (· != '=')).drop 1 }

/-- Whether a tag names an action. -/
def isAction (tag : Tag) : Bool := tag.name.head? = some '@'

/-- The fault in the style of a tag, if there is one. Styles are looked at only when a text is
printed, which is after all its tags have been read. -/
def styleFault? (tag : Tag) : Option Fault :=
  if tag.isAction then none
  else
    match Style.read (tag.name ++ ' ' :: tag.value) with
    | .error .emptyPart => some .emptyPart
    | _ => none

/-- Whether a character may stand in the name of a function. -/
def isFunctionChar (c : Char) : Bool := c = '.' || Text.isWordChar c

/-- Checks the value of an action: the name of a function, arguments, or both. -/
def checkAction (tag : Tag) : Except Fault Unit :=
  let action := Text.trim tag.value
  let call := action.dropWhile isFunctionChar
  if call.isEmpty then .ok ()
  else
    let isCall := call.head? = some '(' && call.getLast? = some ')' && !call.contains '\n'
    let arguments := if isCall then call else action
    if Literal.isLiteral (arguments.dropWhile fun c => c = ' ' || c = '\t') then .ok ()
    else .error (.action arguments tag.value)

end Tag

/-- Closes the tag of a name that was opened last, or the last one if no name is given. -/
def close (inside : List Char) (opened : List Tag) : Except Fault (List Tag) := do
  let name := Text.trim (inside.takeWhile (· != '='))
  let closed ←
    if name.isEmpty then pure opened.head?
    else do
      let name ← normalName name
      pure (opened.find? (·.name = name))
  match closed with
  | none => throw .unopened
  | some tag => do
    if tag.isAction then tag.checkAction
    return opened.eraseP (·.name = tag.name)

/-! ## What is shown -/

/-- What a text shows, and the fault in its styles, if there is one. -/
structure Shown where
  text : List Char
  styleFault : Option Fault := none
  deriving DecidableEq, Repr, Inhabited

/-- Reads pieces after the tags `opened`. Tags may stay open to the end. -/
def readAfter (opened : List Tag) : List Piece → Except Fault Shown
  | [] => .ok ⟨[], none⟩
  | .plain text :: rest => do
    let shown ← readAfter opened rest
    return { shown with text := Emoji.replace text ++ shown.text }
  | .tag ('/' :: inside) :: rest => do readAfter (← close inside opened) rest
  | .tag inside :: rest => do
    let tag ← Tag.read inside
    let shown ← readAfter (tag :: opened) rest
    return { shown with styleFault := tag.styleFault?.or shown.styleFault }

/-- Reads a text with tags. -/
def read (cs : List Char) : Except Fault Shown := readAfter [] (pieces cs)

/-- What a text shows when it is printed. -/
def shown (cs : List Char) : Except Fault (List Char) := do
  let shown ← read cs
  match shown.styleFault with
  | some fault => throw fault
  | none => return shown.text

/-- A text without brackets and colons shows itself. -/
theorem shown_of_not_mem {cs : List Char} (hb : '[' ∉ cs) (hc : ':' ∉ cs) :
    shown cs = .ok cs := by
  have hp : pieces cs = [.plain cs] := piecesAfter_of_not_mem hb [] 0
  have hr : read cs = .ok ⟨cs, none⟩ := by
    unfold read
    rw [hp]
    simp only [readAfter, Emoji.replace_of_not_mem hc, bind, Except.bind, pure, Except.pure,
      List.append_nil]
  simp only [shown, hr, bind, Except.bind, pure, Except.pure]

end EntitySchema.Markup
