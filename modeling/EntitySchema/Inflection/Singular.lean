/-
The singular of a noun.

`singularNoun?` undoes the rules of the plural and answers nothing for a word that does not
look like a plural. It only proposes: whether the word is a plural is decided in
`EntitySchema.Inflection.Number`, by forming the plural of the proposal again.
-/
import EntitySchema.Inflection.Plural

set_option autoImplicit false

namespace EntitySchema.Inflection

/-- The endings that a family of nouns has in the plural. -/
def pluralEndings (family : List Word) (cut : Nat) (ending : String) : List Word :=
  family.map fun w => dropLast cut w ++ ending.toList

/-- Rules of the singular, in the order in which they are asked. -/
def singularRules : List Rule :=
  [.onEnding "quies" 3 "y",
   .onEnding "persons" 1 "",
   .onEnding "people" 4 "rson",
   ⟨fun w => endsWith "mans" w && endsIn manMans (dropLast 1 w), 1, ""⟩,
   .onEnding "men" 3 "man",
   -- nouns that change their vowel
   .onEnding "mice" 4 "mouse",
   ⟨fun w => endsWith "lice" w && lice.contains (dropLast 4 w ++ "louse".toList), 4, "louse"⟩,
   .onEnding "geese" 5 "goose",
   .onEnding "teeth" 5 "tooth",
   .onEnding "feet" 4 "foot",
   .onWords (wordList ["dice"]) 4 "die",
   -- nouns that keep the plural of Latin or Greek
   .onEnding "ceps" 0 "",
   .onEnding "zoa" 1 "on",
   ⟨endsIn (pluralEndings chChs 0 "s"), 1, ""⟩,
   ⟨endsIn (pluralEndings exIces 2 "ices"), 4, "ex"⟩,
   ⟨endsIn (pluralEndings ixIces 2 "ices"), 4, "ix"⟩,
   ⟨endsIn (pluralEndings umA 2 "a"), 1, "um"⟩,
   ⟨endsIn (pluralEndings usI 2 "i"), 1, "us"⟩,
   ⟨endsIn (pluralEndings onA 2 "a"), 1, "on"⟩,
   ⟨endsIn (pluralEndings aAe 0 "e"), 1, ""⟩,
   -- nouns in `-es` that lose only the `s`, or both letters
   ⟨fun w => endsWith "houses" w || usesUse.contains w, 1, ""⟩,
   .onWords iesIe 1 "",
   ⟨fun w => endsWith "shoes" w || oesOe.contains w, 1, ""⟩,
   .onWords ssesSse 1 "",
   ⟨fun w => endsWith "es" w
      && (singularS.contains (dropLast 2 w) || endsIn singularSEndings (dropLast 2 w)), 2, ""⟩,
   ⟨fun w => endsWith "eses" w && startsCaseless w, 2, ""⟩,
   ⟨fun w => (wordList ["quartzes", "topazes"]).contains w || zzesZz.contains w, 2, ""⟩,
   .onEnding "zzes" 3 "",
   .onWords chesChe 1 "",
   .onEndings ["ches", "shes"] 2 "",
   .onWords xesXe 1 "",
   .onEnding "xes" 2 "",
   .onWords vesVe 1 "",
   -- nouns in `-f` and `-fe`
   .onEndings ["elves", "alves", "olves", "arves"] 3 "f",
   ⟨fun w => endsWith "eaves" w && fromEnd? 6 w != some 'd', 3, "f"⟩,
   .onEndings ["nives", "lives", "wives"] 3 "fe",
   -- nouns in `-y` and `-o`
   .onEnding "ies" 3 "y",
   ⟨fun w => endsWith "os" w
      && (oOs.contains (dropLast 1 w) || endsIn oOsEndings (dropLast 1 w)), 1, ""⟩,
   .onEndings ["aos", "eos", "ios", "oos", "uos"] 1 "",
   .onEnding "oes" 2 "",
   .onWords esIs 2 "is",
   ⟨fun w => endsWith "s" w && !endsWith "ss" w, 1, ""⟩]

/-- The singular of a noun that is no compound. -/
def simpleSingular? (w : Word) : Option Word :=
  if isUninflected w then some w
  else if usUs.contains w then none
  else
    ((pronounSingulars.lookup w).or (irregularSingulars.lookup w)).or
      (Rule.firstResult? singularRules w)

/-- The singular of the noun in a compound: the noun itself where none is found. -/
def headSingular (w : Word) : Word :=
  match simpleSingular? w with
  | some (c :: rest) => c :: rest
  | _ => w

/-- The singular of a noun that is not followed by an adjective. -/
def compoundSingular? (w : Word) : Option Word :=
  if isUninflected w then some w
  else if usUs.contains w then none
  else (prepositional? headSingular w).or (simpleSingular? w)

/-- The singular of a noun, whatever its case. A noun that is followed by an adjective but is
no plural gives the word `False` before the adjective, which is the singular of nothing. -/
def plainSingular? (w : Word) : Option Word :=
  if isUninflected w then some w
  else if usUs.contains w then none
  else
    match splitAdjective? w with
    | some (noun, adjective) =>
      match compoundSingular? noun with
      | some (c :: rest) => some (c :: rest ++ adjective)
      | _ => some ("False".toList ++ adjective)
    | none => compoundSingular? w

/-- The singular of a noun in lower case, if it looks like a plural. -/
def singularNoun? (w : Word) : Option Word := (plainSingular? w).map (recase w)

end EntitySchema.Inflection
