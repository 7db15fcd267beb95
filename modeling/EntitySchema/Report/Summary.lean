/-
Reports of schemas, relations and change sets.

Each report has a form for programs, in JSON, and one for readers, in blocks of text.
-/
import EntitySchema.ChangeSet.Json
import EntitySchema.Relation.Description
import EntitySchema.Report.Block

set_option autoImplicit false

namespace EntitySchema

/-! ## Tables -/

/-- The tables of a schema and the models that are stored in them. -/
def tableGrid (schema : Schema) (names : List String) : Grid where
  title := some s!"Tables ({names.length} total)"
  header := ["Table", "Model"]
  rows := names.map fun name =>
    [name, ((schema.entityStoredIn? name).map (·.shortName)).getD "(pivot)"]

/-! ## Entities -/

/-- A relation in the summary of an entity. -/
structure RelationSummary where
  method : String
  returns : String
  kind : RelationKind
  deriving DecidableEq, Repr, Inhabited

/-- What is reported about an entity. -/
structure EntitySummary where
  entity : Entity
  isPivot : Bool
  relations : List RelationSummary
  deriving DecidableEq, Inhabited

namespace EntitySummary

/-- Collects what is reported about an entity. -/
def of {m : Type → Type} [LookupMonad m] (schema : Schema) (entity : Entity) :
    m EntitySummary := do
  let isPivot ← Relation.isStoredAsPivot schema entity
  let relations ← entity.methods.mapM fun method => do
    return ⟨method.name ++ "()", method.returnType, ← Relation.kind schema method⟩
  return { entity, isPivot, relations }

/-- A field as JSON. -/
def fieldJson (field : Field) : Json :=
  .object [("name", .string field.name), ("type", .string field.type),
    ("nullable", .bool field.mayBeNull), ("primary_key", .bool field.primaryKey),
    ("implicit", .bool field.implied)]

/-- A relation as JSON. -/
def relationJson (relation : RelationSummary) : Json :=
  .object [("method", .string relation.method), ("returns", .string relation.returns),
    ("kind", .string relation.kind.name)]

/-- A summary as JSON. -/
def toJson (summary : EntitySummary) : Json :=
  .object [("name", .string summary.entity.fullName), ("table", .string summary.entity.table),
    ("pivot", .bool summary.isPivot),
    ("fields", .array (summary.entity.fields.map fieldJson)),
    ("relations", .array (summary.relations.map relationJson))]

/-- A mark for what holds. -/
def mark (holds : Bool) : String := if holds then "✓" else ""

/-- The fields of an entity. -/
def fieldGrid (entity : Entity) : Grid where
  header := ["Name", "Type", "Nullable", "Primary", "Implicit"]
  rows := entity.fields.map fun field =>
    [field.name, field.type, mark field.mayBeNull, mark field.primaryKey,
      mark field.implied]

/-- The relations of an entity. -/
def relationGrid (relations : List RelationSummary) : Grid where
  header := ["Method", "Returns", "Kind"]
  rows := relations.map fun relation => [relation.method, relation.returns, relation.kind.name]

/-- A summary, block by block. -/
def blocks (summary : EntitySummary) : List Block :=
  let entity := summary.entity
  let pivot := if summary.isPivot then " (pivot)" else ""
  let relations := summary.relations
  [.text ("\nEntity: " ++ entity.fullName), .text s!"Table: {entity.table}{pivot}",
    .text s!"\nFields ({entity.fields.length}):", .grid (fieldGrid entity)] ++
  if relations.isEmpty then []
  else [.text s!"\nRelations ({relations.length}):", .grid (relationGrid relations)]

end EntitySummary

/-! ## Relations -/

namespace RelationDescription

/-- Whether a detail is shown among the keys of a relation. -/
def isKeyDetail (key : String) : Bool :=
  "_key".toList.isSuffixOf key.toList || key == "pivot_table" || key == "morph_name"

/-- The keys of a relation in one text. -/
def keysText (description : RelationDescription) : String :=
  ", ".intercalate <| description.details.filterMap fun (key, value) =>
    match value with
    | .string text => if isKeyDetail key then some (key ++ "=" ++ text) else none
    | _ => none

/-- The relations of a schema. -/
def grid (descriptions : List RelationDescription) : Grid where
  title := some s!"Relations ({descriptions.length} total)"
  header := ["Entity", "Method", "Kind", "Related", "Keys"]
  rows := descriptions.map fun description =>
    [description.entity, description.method ++ "()", description.kind.name,
      description.related.getD "", description.keysText]

end RelationDescription

/-! ## Change sets -/

/-- A command as a line. -/
def CommandChange.line (command : CommandChange) : String :=
  let target := match command.target with
    | none | some "" => ""
    | some target => " -> " ++ target
  "  " ++ command.kind.name ++ " " ++ command.source ++ target

/-- A column as a line. -/
def ColumnChange.line (column : ColumnChange) : String :=
  let marker := if column.alreadyThere then "~" else "+"
  let nullable := if column.nullable then "nullable" else "not null"
  s!"  {marker} {column.name}: {column.type} ({nullable})"

/-- An index or unique constraint as a line. -/
def IndexChange.line (word : String) (index : IndexChange) : String :=
  s!"  + {word} {index.name} (" ++ ", ".intercalate index.columns ++ ")"

/-- A change of a table, block by block. -/
def TableChange.blocks (change : TableChange) : List Block :=
  (["\n" ++ change.kind.name ++ " " ++ change.table] ++ change.commands.map (·.line) ++
    change.columns.map (·.line) ++ change.indexes.map (·.line "index") ++
    change.uniques.map (·.line "unique")).map .text

/-- A change set, block by block. -/
def ChangeSet.blocks (changeSet : ChangeSet) : List Block :=
  if changeSet.isEmpty then [.text "✓ Nothing to change"]
  else changeSet.changes.flatMap (·.blocks)

end EntitySchema
