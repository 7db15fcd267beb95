/-
The plural of a noun.

`pluralNoun` looks at the noun as a whole, then at compounds, then at the lists of irregular
nouns, and last at `pluralRules`, where the first rule that applies decides.
-/
import EntitySchema.Inflection.Rule

set_option autoImplicit false

namespace EntitySchema.Inflection

/-- Rules of the plural, in the order in which they are asked. -/
def pluralRules : List Rule :=
  [.onEnding "quy" 1 "ies",
   .onEnding "person" 4 "ople",
   ⟨fun w => endsWith "man" w && endsIn manMans w, 0, "s"⟩,
   .onEnding "man" 3 "men",
   -- nouns that change their vowel
   .onEnding "mouse" 5 "mice",
   .onWords lice 5 "lice",
   .onEnding "louse" 0 "s",
   .onEnding "goose" 5 "geese",
   .onEnding "tooth" 5 "teeth",
   .onEnding "foot" 4 "feet",
   .onEnding "taco" 5 "tacos",
   .onWords (wordList ["die"]) 3 "dice",
   -- nouns that keep the plural of Latin or Greek
   .onEnding "ceps" 0 "",
   .onEnding "zoon" 2 "a",
   .onEndings ["cis", "sis", "xis"] 2 "es",
   ⟨endsIn chChs, 0, "s"⟩,
   ⟨endsIn exIces, 2, "ices"⟩,
   ⟨endsIn ixIces, 2, "ices"⟩,
   ⟨endsIn umA, 2, "a"⟩,
   ⟨endsIn usI, 2, "i"⟩,
   ⟨endsIn onA, 2, "a"⟩,
   ⟨endsIn aAe, 0, "e"⟩,
   -- nouns in a hissing sound
   ⟨fun w => singularS.contains w || endsIn singularSEndings w, 0, "es"⟩,
   ⟨fun w => endsWith "es" w && startsCaseless w, 0, "es"⟩,
   .onEndings ["quartz", "topaz"] 0 "es",
   ⟨fun w => endsWith "z" w && fromEnd? 2 w != some 'z', 0, "zes"⟩,
   .onEnding "snooze" 0 "s",
   .onEndings ["ch", "sh", "zz", "ss", "x"] 0 "es",
   -- nouns in `-f` and `-fe`
   .onEndings ["elf", "alf", "olf"] 1 "ves",
   ⟨fun w => endsWith "eaf" w && fromEnd? 4 w != some 'd', 1, "ves"⟩,
   .onEndings ["nife", "life", "wife"] 2 "ves",
   .onEnding "arf" 1 "ves",
   -- nouns in `-y` and `-o`
   ⟨fun w => endsWith "y" w && ((fromEnd? 2 w).all isVowel || startsCaseless w), 0, "s"⟩,
   .onEnding "y" 1 "ies",
   ⟨fun w => oOs.contains w || endsIn oOsEndings w, 0, "s"⟩,
   .onEndings ["ao", "eo", "io", "oo", "uo"] 0 "s",
   .onEnding "o" 0 "es",
   .onEnding "" 0 "s"]

/-- Whether a noun has one form for both numbers. -/
def isUninflected (w : Word) : Bool := uninflected.contains w || endsIn uninflectedEndings w

/-- The plural of a noun that is no compound. -/
def simplePlural (w : Word) : Word :=
  if isUninflected w then w
  else
    ((pronounPlurals.lookup w).or (irregularPlurals.lookup w)).getD
      ((Rule.firstResult? pluralRules w).getD w)

/-- The plural of a noun that is not followed by an adjective. -/
def compoundPlural (w : Word) : Word :=
  if isUninflected w then w
  else (prepositional? simplePlural w).getD (simplePlural w)

/-- The plural of a noun, whatever its case. -/
def plainPlural (w : Word) : Word :=
  if isUninflected w then w
  else
    match splitAdjective? w with
    | some (noun, adjective) => compoundPlural noun ++ adjective
    | none => compoundPlural w

/-- A word without a letter that has case comes back in capitals. -/
def recase (w result : Word) : Word := if w = Text.upper w then Text.upper result else result

/-- The plural of a noun in lower case, or of the pronoun `I`. -/
def pluralNoun (w : Word) : Word :=
  if w = ['I'] then ['w', 'e'] else recase w (plainPlural w)

end EntitySchema.Inflection
