/-
Method lines.

`name()`, optionally `via` something, and optionally a return type, after which tags may stand. The
return type is a name, a union of names with bars between them, or a name with `[]`.

As with fields, `MethodLine.parts?` decides whether a line is a method line at all, and errors can
only come after that: a union that is marked as an array, a tag that is not known, or a join that
cannot be read. Tags need a return type before them.

`via` is read without looking at what it names. It may be an entity, a method or a column, and which
of them it is can only be told when the whole schema is known.
-/
import EntitySchema.Declaration.Basic

set_option autoImplicit false

namespace EntitySchema

/-! ## Tags -/

/-- A tag of a method. -/
inductive MethodTag where
  | join (join : Join)
  | inverse (pointer : String)
  | pivotAlias (name : String)
  | pivotWithTimestamps
  | nullable (value : Bool)
  deriving DecidableEq, Repr, Inhabited

namespace MethodTag

/-- Whether a character may stand in a pointer to the inverse. -/
def isPointerChar (c : Char) : Bool := Text.isNameChar c || c = '.'

/-- The pointer `Model.method()` of a tag `<- Model.method()`. -/
def pointer? (tag : List Char) : Option String := do
  let rest ← Text.after? ['<', '-'] tag
  let start ← Text.blanks? rest
  let (_, afterName) ← Text.run? isPointerChar start
  if afterName = ['(', ')'] then some (String.ofList start) else none

/-- A text between two quotes, which holds none itself and is not empty. -/
def quoted? (quote : Char) (tag : List Char) : Option String :=
  (Text.between? ("As(".toList ++ [quote]) [quote, ')'] tag).bind fun name =>
    if !name.isEmpty && !name.contains quote then some (String.ofList name) else none

/-- Whether a character is the given letter in either case. The dotless and the dotted `i` and
the long `s` count as well. -/
def isLetterOf (letter c : Char) : Bool :=
  c.toLower = letter || (letter = 'i' && (c = 'İ' || c = 'ı')) || (letter = 's' && c = 'ſ')

/-- Whether a tag asks for timestamps in the pivot table. -/
def isPivotWithTimestamps (tag : List Char) : Bool :=
  let word := "pivotwithtimestamps".toList
  tag.length = word.length && (word.zip tag).all fun pair => isLetterOf pair.1 pair.2

/-- Reads a tag. -/
def read (tag : List Char) : Except Error (Option MethodTag) :=
  match Text.between? "Join(".toList [')'] tag with
  | some text => (Join.parse (String.ofList text)).map fun join => some (.join join)
  | none =>
    .ok <|
      if isPivotWithTimestamps tag then some .pivotWithTimestamps
      else if tag = "NotNull".toList then some (.nullable false)
      else if tag = "Null".toList ∨ tag = "Nullable".toList then some (.nullable true)
      else
        ((pointer? tag).map MethodTag.inverse).or
          (((quoted? '"' tag).or (quoted? '\'' tag)).map MethodTag.pivotAlias)

/-- The method with a tag added to it. A later tag overrides an earlier one. -/
def addTo (method : MethodLine) : MethodTag → MethodLine
  | join value => { method with join := some value }
  | inverse pointer => { method with inverseOf := some pointer }
  | pivotAlias name => { method with pivotAlias := some name }
  | pivotWithTimestamps => { method with pivotWithTimestamps := true }
  | nullable value => { method with nullable := some value }

end MethodTag

/-! ## Lines -/

namespace MethodLine

/-- Whether a character may stand after `via`. -/
def isViaChar (c : Char) : Bool := Text.isNameChar c || c = '.' || c = '(' || c = ')'

/-- Whether a character may stand in a return type. -/
def isTypeChar (c : Char) : Bool := Text.isAlphanumeric c || c = '|'

/-- What `via` names, if it is there, and the rest. -/
def readVia (cs : List Char) : Option String × List Char :=
  let read := do
    let start ← Text.after? "via".toList (Text.trimStart cs)
    Text.run? isViaChar (Text.trimStart start)
  match read with
  | some (name, rest) => (some (String.ofList name), rest)
  | none => (none, cs)

/-- The tags that follow a return type: nothing, or blanks and one line that may be followed by
blank ones. -/
def tags? (cs : List Char) : Option (List Char) :=
  if cs.all Text.isBlank then some []
  else
    (Text.blanks? cs).bind fun start =>
      if (start.dropWhile (· != '\n')).all Text.isBlank then some (start.takeWhile (· != '\n'))
      else none

/-- A return type with its array mark, and the tags. -/
def returnType? (cs : List Char) : Option (String × List Char) := do
  let start ← Text.blanks? cs
  let (name, afterName) ← Text.run? isTypeChar start
  match afterName with
  | '[' :: ']' :: rest => return (String.ofList (name ++ ['[', ']']), ← tags? rest)
  | rest => return (String.ofList name, ← tags? rest)

/-- The method of a line without its tags, and the tags. -/
def parts? (line : List Char) : Option (MethodLine × List Char) := do
  let (name, afterName) ← Text.name? line
  let afterCall ← Text.after? ['(', ')'] afterName
  let (via, rest) := readVia afterCall
  match rest with
  | ':' :: typed =>
    let (returnType, tags) ← returnType? typed
    return ({ name := String.ofList name, via, returnType := some returnType }, tags)
  | _ => if rest.all Text.isBlank then some ({ name := String.ofList name, via }, []) else none

/-- Whether a return type is a union that is marked as an array. -/
def isUnionArray (returnType : String) : Bool :=
  returnType.toList.contains '|' && "[]".toList.isSuffixOf returnType.toList

/-- Adds tags to a method, one after the other. The label of the method is told if one of them
is not known. -/
def addTags (label : String) (method : MethodLine) : List (List Char) → Except Error MethodLine
  | [] => .ok method
  | tag :: tags => do
    match ← MethodTag.read tag with
    | some known => addTags label (known.addTo method) tags
    | none => .error (.unknownTag "method" label (String.ofList tag))

/-- Reads a method line of an entity. -/
def read (owner line : String) : Except Error (Option MethodLine) :=
  match parts? line.toList with
  | none => .ok none
  | some (method, tags) =>
    let label := owner ++ "." ++ method.name ++ "()"
    match method.returnType with
    | some returnType =>
      if isUnionArray returnType then .error (.polymorphicArray label returnType)
      else (addTags label method (splitTags tags)).map some
    | none => .ok (some method)

end MethodLine

end EntitySchema
