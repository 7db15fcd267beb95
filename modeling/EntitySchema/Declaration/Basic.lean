/-
What a line declares.

One type for each kind of line. A declaration holds what stands on its line and nothing that has to
be looked up elsewhere: an index without a name stays without one until its table is known, and a
nullability that is not written stays open until a policy decides it.

Lines of the top level are policies, namespaces and entities; nested lines are fields, methods and
commands. `Declaration` is their sum, which is all that the reader of documents has to know.

A list of tags is cut at its commas, wherever they stand. A comma between quotes or parentheses is
no exception, so a tag that holds one is cut in two.
-/
import EntitySchema.Join

set_option autoImplicit false

namespace EntitySchema

/-- A parameter of a column type: the length of a `string(120)`, or the text of an `enum(…)`. -/
inductive Parameter where
  | number (value : Int)
  | text (value : String)
  deriving DecidableEq, Repr, Inhabited

/-- The commands that change what a table already has. -/
inductive AlterKind where
  | renameField
  | deleteField
  | renameIndex
  | deleteIndex
  deriving DecidableEq, Repr, Inhabited

/-- `default <tags>`: the policy for the declarations that follow. -/
structure DefaultLine where
  tags : List String
  deriving DecidableEq, Repr, Inhabited

/-- `namespace <name> [<path>]`: where the entities that follow live. -/
structure NamespaceLine where
  name : String
  path : String
  deriving DecidableEq, Repr, Inhabited

/-- `Name [(table)]`: an entity. -/
structure EntityLine where
  name : String
  table : Option String := none
  deriving DecidableEq, Repr, Inhabited

/-- `name: type [tags]`: a field. An index or unique constraint without a name is `none`. -/
structure FieldLine where
  name : String
  type : String
  param1 : Option Parameter := none
  param2 : Option Int := none
  primaryKey : Bool := false
  nullable : Option Bool := none
  guarded : Option Bool := none
  default : Option String := none
  indexes : List (Option String) := []
  uniques : List (Option String) := []
  deriving DecidableEq, Repr, Inhabited

/-- `name() [via X][: Type [tags]]`: a relation. -/
structure MethodLine where
  name : String
  via : Option String := none
  returnType : Option String := none
  inverseOf : Option String := none
  join : Option Join := none
  pivotAlias : Option String := none
  pivotWithTimestamps : Bool := false
  nullable : Option Bool := none
  deriving DecidableEq, Repr, Inhabited

/-- `RENAME|DELETE FIELD|INDEX source [TO target]`: a change of what a table already has. -/
structure AlterLine where
  kind : AlterKind
  source : String
  target : Option String := none
  deriving DecidableEq, Repr, Inhabited

/-- What a line declares. -/
inductive Declaration where
  | ofDefault (line : DefaultLine)
  | ofNamespace (line : NamespaceLine)
  | ofEntity (line : EntityLine)
  | ofField (line : FieldLine)
  | ofMethod (line : MethodLine)
  | ofAlter (line : AlterLine)
  deriving DecidableEq, Repr, Inhabited

namespace AlterKind

/-- The name of a kind of command. -/
def name : AlterKind → String
  | renameField => "rename_field"
  | deleteField => "delete_field"
  | renameIndex => "rename_index"
  | deleteIndex => "delete_index"

/-- All kinds of commands. -/
def all : List AlterKind := [renameField, deleteField, renameIndex, deleteIndex]

/-- Every kind is listed. -/
theorem mem_all (kind : AlterKind) : kind ∈ all := by cases kind <;> simp [all]

/-- The kind with a name. -/
def ofName? (name : String) : Option AlterKind := all.find? (·.name = name)

/-- Whether a command acts on an index. -/
def actsOnIndex : AlterKind → Bool
  | renameIndex | deleteIndex => true
  | renameField | deleteField => false

/-- Whether a command renames. -/
def isRename : AlterKind → Bool
  | renameField | renameIndex => true
  | deleteField | deleteIndex => false

/-- The words that a command starts with. -/
def keywords : AlterKind → String
  | renameField => "RENAME FIELD"
  | deleteField => "DELETE FIELD"
  | renameIndex => "RENAME INDEX"
  | deleteIndex => "DELETE INDEX"

end AlterKind

namespace EntityLine

/-- Whether the name of the entity holds its namespace. -/
def holdsNamespace (line : EntityLine) : Bool := line.name.toList.contains '\\'

/-- The namespace in the name of the entity, if it holds one, and the short name: the name is
cut at its last backslash. -/
def nameParts (line : EntityLine) : Option String × String :=
  if line.holdsNamespace then
    let reversed := line.name.toList.reverse
    (some (String.ofList ((reversed.dropWhile (· != '\\')).drop 1).reverse),
      String.ofList (reversed.takeWhile (· != '\\')).reverse)
  else
    (none, line.name)

end EntityLine

/-- Splits a list of tags at its commas and drops what is blank. -/
def splitTags (tags : List Char) : List (List Char) :=
  ((Text.splitOn ',' tags).map Text.trim).filter (!·.isEmpty)

/-- No tag is empty. -/
theorem ne_nil_of_mem_splitTags {tags tag : List Char} (h : tag ∈ splitTags tags) : tag ≠ [] := by
  have := (List.mem_filter.1 h).2
  intro hnil
  simp [hnil] at this

end EntitySchema
