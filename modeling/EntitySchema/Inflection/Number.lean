/-
Singular and plural of names.

The multiplicity of a relation without a declared type is read from the number of its name:
`roles` are many, a `boss` is one. A name is a plural when it singularizes to a word whose
plural is the name again, so a noun in `-s` such as `canvas` is not taken for one. A name whose
two forms coincide counts as a plural.

Inflection works in lower case. The result keeps the spelling of the stem it shares with the
name: `HomePhones` becomes `HomePhone`.
-/
import EntitySchema.Inflection.Singular

set_option autoImplicit false

namespace EntitySchema.Inflection

/-- Gives `result` the spelling that `name` has on the stem they share. -/
def respell (name result : Word) : Word :=
  let shared := ((Text.lower name).zip result).takeWhile fun pair => pair.1 = pair.2
  name.take shared.length ++ result.drop shared.length

/-- The plural of a word in lower case. -/
def pluralWord (w : Word) : Word := (houseNouns.lookup w).getD (pluralNoun w)

/-- The singular that the nouns with a fixed plural give. -/
def houseSingular? (w : Word) : Option Word :=
  (houseNouns.find? (·.2 = w)).map (·.1)

/-- Whether a word in lower case is a plural. -/
def isPluralWord (w : Word) : Bool :=
  if (houseSingular? w).isSome then true
  else if (houseNouns.lookup w).isSome then false
  else if endsIn (wordList ["sis", "cis", "xis"]) w then false
  else if endsWith "s" w && pluralNoun w = w ++ ['e', 's'] then false
  else
    match singularNoun? w with
    | none | some [] => false
    | some singular => singular = w || pluralWord singular = w

/-- Whether the letters of a name form a plural. -/
def isPluralLetters (name : Word) : Bool :=
  (name.getLast?).any Text.isLetter && isPluralWord (Text.lower name)

end EntitySchema.Inflection

namespace EntitySchema

open Inflection

/-- Whether a name is a plural noun. -/
def isPlural (name : String) : Bool := isPluralLetters name.toList

/-- The singular of a name, or the name itself if it is no plural. -/
def singularize (name : String) : String :=
  if isPlural name then
    let w := Text.lower name.toList
    let singular :=
      match (houseSingular? w).or (singularNoun? w) with
      | none | some [] => w
      | some singular => singular
    String.ofList (respell name.toList singular)
  else
    name

/-- The plural of a name, or the name itself if it is one already. -/
def pluralize (name : String) : String :=
  if name.isEmpty || isPlural name then name
  else String.ofList (respell name.toList (pluralWord (Text.lower name.toList)))

/-- A name that is no plural is its own singular. -/
theorem singularize_of_not_isPlural {name : String} (h : isPlural name = false) :
    singularize name = name := by
  simp [singularize, h]

/-- A plural is its own plural. -/
theorem pluralize_of_isPlural {name : String} (h : isPlural name = true) :
    pluralize name = name := by
  simp [pluralize, h]

end EntitySchema
