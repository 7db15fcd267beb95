/-
Styles of text.

A style is written in words: switches such as `bold` or `not italic`, a colour, `on` and the
colour behind the text, and `link` with an address. Several words may mean the same, and their
order does not matter, so two tags name one style if the styles have the same normal form.
-/
import EntitySchema.Text.Digit
import EntitySchema.Text.Letter
import EntitySchema.Text.Scan

set_option autoImplicit false

namespace EntitySchema

/-! ## Switches -/

/-- What a style can switch on and off. -/
inductive Switch where
  | bold
  | dim
  | italic
  | underline
  | blink
  | fastBlink
  | reverse
  | conceal
  | strike
  | doubleUnderline
  | frame
  | encircle
  | overline
  deriving DecidableEq, Repr, Inhabited

namespace Switch

/-- All switches, in the order in which a style lists them. -/
def all : List Switch :=
  [bold, dim, italic, underline, blink, fastBlink, reverse, conceal, strike, doubleUnderline, frame,
   encircle, overline]

/-- Every switch is listed. -/
theorem mem_all (switch : Switch) : switch ∈ all := by cases switch <;> simp [all]

/-- The name of a switch. -/
def name : Switch → String
  | bold => "bold"
  | dim => "dim"
  | italic => "italic"
  | underline => "underline"
  | blink => "blink"
  | fastBlink => "blink2"
  | reverse => "reverse"
  | conceal => "conceal"
  | strike => "strike"
  | doubleUnderline => "underline2"
  | frame => "frame"
  | encircle => "encircle"
  | overline => "overline"

/-- The short name of a switch, if it has one. -/
def shortName? : Switch → Option String
  | bold => some "b"
  | dim => some "d"
  | italic => some "i"
  | underline => some "u"
  | reverse => some "r"
  | conceal => some "c"
  | strike => some "s"
  | doubleUnderline => some "uu"
  | overline => some "o"
  | blink | fastBlink | frame | encircle => none

/-- The switch with a name. -/
def ofName? (name : String) : Option Switch :=
  all.find? fun switch => switch.name = name || switch.shortName? = some name

end Switch

/-! ## Colours -/

/-- The colours that have a name. -/
def colourNames : List String :=
  ["black", "red", "green", "yellow", "blue", "magenta", "cyan", "white", "bright_black",
   "bright_red", "bright_green", "bright_yellow", "bright_blue", "bright_magenta", "bright_cyan",
   "bright_white", "grey0", "gray0", "navy_blue", "dark_blue", "blue3", "blue1", "dark_green",
   "deep_sky_blue4", "dodger_blue3", "dodger_blue2", "green4", "spring_green4", "turquoise4",
   "deep_sky_blue3", "dodger_blue1", "green3", "spring_green3", "dark_cyan", "light_sea_green",
   "deep_sky_blue2", "deep_sky_blue1", "spring_green2", "cyan3", "dark_turquoise", "turquoise2",
   "green1", "spring_green1", "medium_spring_green", "cyan2", "cyan1", "dark_red", "deep_pink4",
   "purple4", "purple3", "blue_violet", "orange4", "grey37", "gray37", "medium_purple4",
   "slate_blue3", "royal_blue1", "chartreuse4", "dark_sea_green4", "pale_turquoise4",
   "steel_blue", "steel_blue3", "cornflower_blue", "chartreuse3", "cadet_blue", "sky_blue3",
   "steel_blue1", "pale_green3", "sea_green3", "aquamarine3", "medium_turquoise", "chartreuse2",
   "sea_green2", "sea_green1", "aquamarine1", "dark_slate_gray2", "dark_magenta", "dark_violet",
   "purple", "light_pink4", "plum4", "medium_purple3", "slate_blue1", "yellow4", "wheat4",
   "grey53", "gray53", "light_slate_grey", "light_slate_gray", "medium_purple",
   "light_slate_blue", "dark_olive_green3", "dark_sea_green", "light_sky_blue3", "sky_blue2",
   "dark_sea_green3", "dark_slate_gray3", "sky_blue1", "chartreuse1", "light_green",
   "pale_green1", "dark_slate_gray1", "red3", "medium_violet_red", "magenta3", "dark_orange3",
   "indian_red", "hot_pink3", "medium_orchid3", "medium_orchid", "medium_purple2",
   "dark_goldenrod", "light_salmon3", "rosy_brown", "grey63", "gray63", "medium_purple1", "gold3",
   "dark_khaki", "navajo_white3", "grey69", "gray69", "light_steel_blue3", "light_steel_blue",
   "yellow3", "dark_sea_green2", "light_cyan3", "light_sky_blue1", "green_yellow",
   "dark_olive_green2", "dark_sea_green1", "pale_turquoise1", "deep_pink3", "magenta2",
   "hot_pink2", "orchid", "medium_orchid1", "orange3", "light_pink3", "pink3", "plum3", "violet",
   "light_goldenrod3", "tan", "misty_rose3", "thistle3", "plum2", "khaki3", "light_goldenrod2",
   "light_yellow3", "grey84", "gray84", "light_steel_blue1", "yellow2", "dark_olive_green1",
   "honeydew2", "light_cyan1", "red1", "deep_pink2", "deep_pink1", "magenta1", "orange_red1",
   "indian_red1", "hot_pink", "dark_orange", "salmon1", "light_coral", "pale_violet_red1",
   "orchid2", "orchid1", "orange1", "sandy_brown", "light_salmon1", "light_pink1", "pink1",
   "plum1", "gold1", "navajo_white1", "misty_rose1", "thistle1", "yellow1", "light_goldenrod1",
   "khaki1", "wheat1", "cornsilk1", "grey100", "gray100", "grey3", "gray3", "grey7", "gray7",
   "grey11", "gray11", "grey15", "gray15", "grey19", "gray19", "grey23", "gray23", "grey27",
   "gray27", "grey30", "gray30", "grey35", "gray35", "grey39", "gray39", "grey42", "gray42",
   "grey46", "gray46", "grey50", "gray50", "grey54", "gray54", "grey58", "gray58", "grey62",
   "gray62", "grey66", "gray66", "grey70", "gray70", "grey74", "gray74", "grey78", "gray78",
   "grey82", "gray82", "grey85", "gray85", "grey89", "gray89", "grey93", "gray93"]

/-- Why words are no style. -/
inductive StyleFault where
  /-- A word is neither a switch nor a colour, or one is missing. -/
  | unknownWord
  /-- A part of a colour is not given. -/
  | emptyPart
  deriving DecidableEq, Repr, Inhabited

/-- Whether a character is a hexadecimal digit in lower case. -/
def isLowerHex (c : Char) : Bool := c.isDigit || ('a' ≤ c && c ≤ 'f')

/-- Whether digits write a number that a byte can hold. -/
def isByte (digits : List Char) : Bool := Text.numberOfDigits digits < 256

/-- Checks the parts of a colour that is given by red, green and blue. -/
def checkParts (parts : List (List Char)) : Except StyleFault Unit :=
  if parts.length ≠ 3 then .error .unknownWord
  else if parts.contains [] then .error .emptyPart
  else if parts.all isByte then .ok ()
  else .error .unknownWord

/-- Checks that a word in lower case is a colour. -/
def checkColour (word : List Char) : Except StyleFault Unit :=
  if word = "default".toList || colourNames.contains (String.ofList word) then .ok ()
  else
    match Text.after? ['#'] word, Text.between? "color(".toList [')'] word,
      Text.between? "rgb(".toList [')'] word with
    | some digits, _, _ =>
      if digits.length = 6 && digits.all isLowerHex then .ok () else .error .unknownWord
    | none, some digits, _ =>
      if 0 < digits.length && digits.length ≤ 3 && digits.all Char.isDigit && isByte digits then
        .ok ()
      else .error .unknownWord
    | none, none, some parts =>
      if !parts.isEmpty && parts.all (fun c => Text.isDigit c || c = ',') then
        checkParts (Text.splitOn ',' parts)
      else .error .unknownWord
    | none, none, none => .error .unknownWord

/-! ## Styles -/

/-- A style of text. Of a switch that is set twice the later setting counts. -/
structure Style where
  switches : List (Switch × Bool) := []
  colour : Option (List Char) := none
  background : Option (List Char) := none
  link : Option (List Char) := none
  deriving DecidableEq, Repr, Inhabited

namespace Style

/-- Sets a switch. -/
def set (style : Style) (switch : Switch) (on : Bool) : Style :=
  { style with switches := (switch, on) :: style.switches }

/-- Goes on reading a style. -/
def readAfter (style : Style) : List (List Char) → Except StyleFault Style
  | [] => .ok style
  | spelled :: rest =>
    let word := Text.lower spelled
    if word = "on".toList then
      match rest with
      | [] => .error .unknownWord
      | colour :: rest => do
        checkColour (Text.lower colour)
        readAfter { style with background := some (Text.lower colour) } rest
    else if word = "not".toList then
      match rest with
      | [] => .error .unknownWord
      | name :: rest =>
        match Switch.ofName? (String.ofList name) with
        | some switch => readAfter (style.set switch false) rest
        | none => .error .unknownWord
    else if word = "link".toList then
      match rest with
      | [] => .error .unknownWord
      | link :: rest => readAfter { style with link := some link } rest
    else
      match Switch.ofName? (String.ofList word) with
      | some switch => readAfter (style.set switch true) rest
      | none => do
        checkColour word
        readAfter { style with colour := some word } rest

/-- Reads a style. No words and the word `none` are the style that sets nothing. -/
def read (cs : List Char) : Except StyleFault Style :=
  let words := Text.words cs
  if words = ["none".toList] then .ok {} else readAfter {} words

/-- How a style sets a switch, if it does. -/
def switchText? (style : Style) (switch : Switch) : Option (List Char) :=
  (style.switches.lookup switch).map fun on =>
    if on then switch.name.toList else "not ".toList ++ switch.name.toList

/-- A style in words. -/
def toText (style : Style) : List Char :=
  let words := Switch.all.filterMap style.switchText? ++ style.colour.toList ++
    (style.background.map ("on ".toList ++ ·)).toList ++
    (style.link.map ("link ".toList ++ ·)).toList
  if words.isEmpty then "none".toList else List.intercalate [' '] words

/-- The normal form of the words for a style. Words that are no style stand for themselves. -/
def normalForm (cs : List Char) : Except StyleFault (List Char) :=
  match read cs with
  | .ok style => .ok style.toText
  | .error .unknownWord => .ok (Text.lower (Text.trim cs))
  | .error .emptyPart => .error .emptyPart

end Style

end EntitySchema
