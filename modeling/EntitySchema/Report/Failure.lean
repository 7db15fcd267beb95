/-
Reports of failures.

For readers a failure is shown in a box as wide as the terminal: the message, and below it the
data, one per line. For programs it is a JSON object. Tags in the text of a box are not shown, and
there is no box for a text whose tags do not fit together.
-/
import EntitySchema.Error
import EntitySchema.Json.Writer
import EntitySchema.Report.Markup
import EntitySchema.Report.Wrap
import EntitySchema.Text.Quoted

set_option autoImplicit false

namespace EntitySchema

/-! ## Boxes -/

/-- A text in a box, line by line. -/
def boxAround (text : List Char) : List (List Char) :=
  let inner := terminalWidth - 4
  let heading := " Error ".toList
  let dashes := terminalWidth - 2 - heading.length
  let rule (count : Nat) : List Char := List.replicate count '─'
  ['╭' :: rule (dashes / 2) ++ heading ++ rule (dashes - dashes / 2) ++ ['╮']] ++
    (wrap inner true text).map (fun line =>
      '│' :: ' ' :: padTo inner (cropTo inner line) ++ [' ', '│']) ++
    ['╰' :: rule (terminalWidth - 2) ++ ['╯']]

/-- The box of a message. There is none for one that cannot be shown. -/
def messageBox (message : List Char) : List (List Char) :=
  match Markup.shown message with
  | .ok text => boxAround text
  | .error _ => []

/-- The box of a fault in a report. -/
def Markup.Fault.box (fault : Markup.Fault) : List (List Char) :=
  (fault.message?.map messageBox).getD []

/-! ## Errors -/

namespace Error

/-- A datum as it is shown: texts as they are, lists of texts between brackets. -/
def showDatum : Json → String
  | .string text => text
  | .array items => "[" ++ ", ".intercalate (items.map fun
      | .string text => String.ofList (Text.quoted text.toList)
      | item => item.compress) ++ "]"
  | value => value.compress

/-- An error as JSON. One that belongs to no family is only its message. -/
def toReport (error : Error) : Json :=
  match error.category? with
  | some category =>
    .object [("error", .string category.name), ("message", .string error.message),
      ("context", .object error.context)]
  | none => .object [("error", .string error.message)]

/-- The text inside the box of an error. -/
def boxText (error : Error) : String :=
  let details := error.context.map fun (key, value) => key ++ ": " ++ showDatum value
  if details.isEmpty then error.message
  else error.message ++ "\n\n" ++ "\n".intercalate details

/-- The box of an error. -/
def box (error : Error) : List (List Char) := messageBox error.boxText.toList

end Error

end EntitySchema
