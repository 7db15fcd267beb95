/-
Lines of the top level: policies, namespaces and entities.

A reader answers nothing for a line of another kind, and an error for a line of its own kind with a
content that is not allowed.

The kinds are told apart by the first word, and tried in a fixed order: a line that starts with
`default` and a blank is a policy, one that starts with `namespace` and a blank is a namespace, and
what is left may be an entity. The word `default` is read in any case, the word `namespace` is not.

The path of a namespace may be left out below the default one, where it is derived from the default
path and the rest of the name. The default path is taken as it stands in the settings.
-/
import EntitySchema.Config
import EntitySchema.Declaration.Basic
import EntitySchema.Naming

set_option autoImplicit false

namespace EntitySchema

/-! ## Policies -/

namespace DefaultLine

/-- The tags that a policy may have. -/
def knownTags : List String :=
  ["null", "nullable", "not null", "not nullable", "guarded", "unguarded"]

/-- The text after the word `default`, which is written in any case. -/
def tagsText? (line : List Char) : Option (List Char) :=
  if (line.take 8).map Char.toLower = "default ".toList then Text.oneLine? (line.drop 8)
  else none

/-- Reads a policy. -/
def read (line : String) : Except Error (Option DefaultLine) :=
  match tagsText? line.toList with
  | none => .ok none
  | some text =>
    let tags := (splitTags text).map fun tag => String.ofList (Text.lower tag)
    match tags.find? (!knownTags.contains ·) with
    | some tag => .error (.unknownTag "default" line tag)
    | none => .ok (some ⟨tags⟩)

end DefaultLine

/-! ## Namespaces -/

namespace NamespaceLine

/-- The name on a namespace line and the path, if one is given. Both are runs without blanks. -/
def parts? (line : List Char) : Option (String × Option String) := do
  let rest ← Text.after? "namespace".toList line
  let start ← Text.blanks? rest
  match Text.words start with
  | [] => some ("", none)
  | [name] => some (String.ofList name, none)
  | [name, path] => some (String.ofList name, some (String.ofList path))
  | _ => none

/-- The path of a namespace below the default one: the names of its parts become directories. -/
def derivedPath? (config : Config) (name : String) : Option String :=
  let root := normalizeNamespace config.defaultNamespace
  (Text.after? root.toList (normalizeNamespace name).toList).map fun rest =>
    normalizePath (config.defaultNamespacePath ++
      String.ofList (rest.map fun c => if c = '\\' then '/' else c))

/-- Reads a namespace line. -/
def read (config : Config) (line : String) : Except Error (Option NamespaceLine) :=
  match parts? line.toList with
  | none => .ok none
  | some (name, some path) => .ok (some ⟨normalizeNamespace name, normalizePath path⟩)
  | some (name, none) =>
    match derivedPath? config name with
    | some path => .ok (some ⟨normalizeNamespace name, path⟩)
    | none => .error (.namespacePath name)

end NamespaceLine

/-! ## Entities -/

namespace EntityLine

/-- Whether a character may stand in the name of an entity. -/
def isEntityChar (c : Char) : Bool := Text.isAlphanumeric c || c = '\\' || c = '-'

/-- The table in parentheses after the name of an entity. -/
def table? (cs : List Char) : Option String := do
  let start ← Text.after? ['('] (Text.trimStart cs)
  let (table, afterTable) ← Text.name? start
  let rest ← Text.after? [')'] afterTable
  if Text.isLineEnd rest then some (String.ofList table) else none

/-- Reads an entity line. -/
def read? (line : String) : Option EntityLine := do
  let (name, rest) ← Text.run? isEntityChar line.toList
  if Text.isLineEnd rest then return ⟨String.ofList name, none⟩
  else return ⟨String.ofList name, some (← table? rest)⟩

end EntityLine

/-- Reads a line of the top level as a policy, else as a namespace, else as an entity. -/
def Declaration.readTopLevel (config : Config) (line : String) :
    Except Error (Option Declaration) := do
  if let some policy ← DefaultLine.read line then
    return some (.ofDefault policy)
  if let some space ← NamespaceLine.read config line then
    return some (.ofNamespace space)
  return (EntityLine.read? line).map .ofEntity

end EntitySchema
