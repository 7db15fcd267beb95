/-
Rules that change the end of a word.

Most of English inflection is a list of rules "a word that looks like this loses so many letters and
gets that ending", of which the first that applies decides. The lists themselves are data in
`EntitySchema.Inflection.Plural` and `EntitySchema.Inflection.Singular`. Compounds are taken apart
here once for both directions.

A rule is a test, a number and an ending, so that a fact about inflection can be proved rule by
rule: what holds of the result of every single one holds of the first that applies.
-/
import EntitySchema.Inflection.Vocabulary
import EntitySchema.Text.Letter
import EntitySchema.Text.Scan

set_option autoImplicit false

namespace EntitySchema.Inflection

/-! ## Shapes of words -/

/-- Whether a word ends in the given letters. -/
def endsWith (ending : String) (w : Word) : Bool := ending.toList.isSuffixOf w

/-- Whether a word ends in one of the given ways. -/
def endsIn (endings : List Word) (w : Word) : Bool := endings.any (·.isSuffixOf w)

/-- A word without its last `n` letters. -/
def dropLast (n : Nat) (w : Word) : Word := w.take (w.length - n)

/-- The letter at place `n` from the end, counting from one. -/
def fromEnd? (n : Nat) (w : Word) : Option Char := w.reverse[n - 1]?

/-- Whether the first letter has no upper-case form of its own. -/
def startsCaseless (w : Word) : Bool :=
  w.head?.any fun c => Text.upperChar c = [c]

/-- Whether a letter is a vowel. -/
def isVowel (c : Char) : Bool := ['a', 'e', 'i', 'o', 'u'].contains c

/-! ## Rules -/

/-- Words that satisfy `applies` lose `cut` letters and get `ending`. -/
structure Rule where
  applies : Word → Bool
  cut : Nat
  ending : String

namespace Rule

/-- What a rule makes of a word. -/
def result (rule : Rule) (w : Word) : Word := dropLast rule.cut w ++ rule.ending.toList

/-- What the first rule that applies makes of a word. -/
def firstResult? (rules : List Rule) (w : Word) : Option Word :=
  (rules.find? (·.applies w)).map (·.result w)

/-- A rule about all words with one ending. -/
def onEnding (suffix : String) (cut : Nat) (ending : String) : Rule :=
  ⟨endsWith suffix, cut, ending⟩

/-- A rule about all words with one of several endings. -/
def onEndings (suffixes : List String) (cut : Nat) (ending : String) : Rule :=
  ⟨endsIn (wordList suffixes), cut, ending⟩

/-- A rule about the listed words. -/
def onWords (listed : List Word) (cut : Nat) (ending : String) : Rule :=
  ⟨listed.contains, cut, ending⟩

end Rule

/-! ## Compounds -/

/-- Splits a word at its hyphens. -/
def hyphenParts : Word → List Word
  | [] => [[]]
  | c :: rest =>
    match hyphenParts rest with
    | [] => [[c]]
    | part :: parts => if c = '-' then [] :: part :: parts else (c :: part) :: parts

/-- Inflects the noun before the first preposition that stands between two hyphens, as in
`mother-in-law`. Parts further to the left are set apart by blanks. -/
def prepositional? (inflect : Word → Word) (w : Word) : Option Word :=
  go [] (hyphenParts w)
where
  /-- Looks for the preposition right after the first part of `parts`; `done` holds the parts
  before that one. -/
  go (done : List Word) : List Word → Option Word
    | noun :: preposition :: next :: rest =>
      if prepositions.contains preposition then
        let head := inflect noun ++ ['-'] ++ preposition ++ ['-']
        some (List.intercalate [' '] (done ++ [head]) ++ List.intercalate [' '] (next :: rest))
      else
        go (done ++ [noun]) (preposition :: next :: rest)
    | _ => none

/-- Whether a noun before `-general` names a military rank, or holds a star. -/
def isRank (head : Word) : Bool :=
  ["major", "lieutenant", "brigadier", "adjutant"].any (fun rank => rank.toList.isPrefixOf head)
    || Text.occursIn "star".toList head

/-- Whether a word that continues with `rest` after `head` is a noun with a trailing adjective,
such as `attorney-general`. -/
def endsInAdjective (head rest : Word) : Bool :=
  ("-general".toList.isPrefixOf rest && !head.isEmpty && !isRank head)
    || ("-martial".toList.isPrefixOf rest && head == "court".toList)
    || ("-force".toList.isPrefixOf rest && head == "pound".toList)

/-- Splits a noun from the adjective that follows it, at the first place possible. -/
def splitAdjective? (w : Word) : Option (Word × Word) :=
  ((List.range w.length).map fun i => (w.take i, w.drop i)).find?
    fun parts => endsInAdjective parts.1 parts.2

end EntitySchema.Inflection
