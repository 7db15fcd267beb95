/-
Lines inside an entity: fields, methods and alter commands.

A nested line is tried as a field, then as a method, then as an alter command. The three shapes
exclude each other, since a colon, a pair of parentheses or a blank follows the first word.

A command is a fixed list of words with blanks between them and one name or two. The four kinds
differ in their words, and share one reader for those that delete and one for those that rename. A
keyword may serve as a name, as in `RENAME FIELD TO TO INDEX`, since names are read where names are
expected and nothing is looked for ahead.
-/
import EntitySchema.Declaration.Field
import EntitySchema.Declaration.Method

set_option autoImplicit false

namespace EntitySchema

namespace AlterLine

/-- The words of a command with blanks between and after them. -/
def afterWords? : List String → List Char → Option (List Char)
  | [], cs => some cs
  | word :: words, cs => do
    let rest ← Text.after? word.toList cs
    afterWords? words (← Text.blanks? rest)

/-- Reads a command that deletes. -/
def readDelete? (kind : AlterKind) (thing : String) (cs : List Char) : Option AlterLine := do
  let (source, rest) ← Text.name? (← afterWords? ["DELETE", thing] cs)
  if rest.all Text.isBlank then some ⟨kind, String.ofList source, none⟩ else none

/-- Reads a command that renames. -/
def readRename? (kind : AlterKind) (thing : String) (cs : List Char) : Option AlterLine := do
  let (source, afterSource) ← Text.name? (← afterWords? ["RENAME", thing] cs)
  let start ← afterWords? ["TO"] (← Text.blanks? afterSource)
  let (target, rest) ← Text.name? start
  if rest.all Text.isBlank then
    some ⟨kind, String.ofList source, some (String.ofList target)⟩
  else
    none

/-- Reads an alter command. -/
def read? (line : String) : Option AlterLine :=
  let cs := line.toList
  (((readRename? .renameIndex "INDEX" cs).or (readDelete? .deleteIndex "INDEX" cs)).or
    (readRename? .renameField "FIELD" cs)).or (readDelete? .deleteField "FIELD" cs)

end AlterLine

/-- Reads a line inside the entity with the given short name. -/
def Declaration.readNested (owner line : String) : Except Error (Option Declaration) := do
  if let some field ← FieldLine.read owner line then
    return some (.ofField field)
  if let some method ← MethodLine.read owner line then
    return some (.ofMethod method)
  return (AlterLine.read? line).map .ofAlter

end EntitySchema
