/-
Schema documents.

A document is read line by line into a schema, and the first line that cannot be read is told. At
the end the implied fields are added.

What a line means depends on what was read before it by the namespace in force, the policy in force
and the entity whose lines are being read. `Document` holds these together with the schema so far,
`declarationOf` says what a line declares, and `declare` is the step. A nested line before any
entity declares nothing and is thus an error.

A policy is put into each field when it is declared, and not looked up later, so that a line changes
only what comes after it. The policy that is in force at the end is the one that implied fields get.
-/
import EntitySchema.Declaration.Nested
import EntitySchema.Declaration.TopLevel
import EntitySchema.Line
import EntitySchema.Schema.Implied

set_option autoImplicit false

namespace EntitySchema

namespace FieldLine

/-- The field that a line declares, for an entity and under a policy. An index or unique
constraint without a name gets one from the table and the field. -/
def toField (line : FieldLine) (entity : Entity) (policy : Policy) : Field where
  name := line.name
  type := line.type
  param1 := line.param1
  param2 := line.param2
  nullable := line.nullable
  primaryKey := line.primaryKey
  indexNames := line.indexes.map (·.getD (entity.table ++ "_" ++ line.name ++ "_idx"))
  uniqueNames := line.uniques.map (·.getD (entity.table ++ "_" ++ line.name ++ "_unique_idx"))
  default := line.default
  guarded := line.guarded
  policy := policy

end FieldLine

namespace EntityLine

/-- The entity that a line declares in a namespace. A plural name is refused. -/
def toEntity (line : EntityLine) (namespaceName : String) : Except Error Entity :=
  let (qualified, shortName) := line.nameParts
  if isPlural shortName then .error (.pluralEntityName shortName)
  else .ok {
    shortName
    namespaceName := normalizeNamespace (qualified.getD namespaceName)
    table := line.table.getD (conventionalTable shortName) }

end EntityLine

/-- A document that has been read up to some line. -/
structure Document where
  schema : Schema
  /-- The namespace of the entities that follow. -/
  namespaceName : String
  /-- Place of the entity whose lines are being read. -/
  current : Option Nat := none
  deriving DecidableEq, Inhabited

namespace Document

/-- A document of which nothing has been read. -/
def start (config : Config) : Document where
  schema := { config : Schema }.addNamespace config.defaultNamespace config.defaultNamespacePath
  namespaceName := normalizeNamespace config.defaultNamespace

/-- The entity whose lines are being read. -/
def currentEntity? (document : Document) : Option Entity :=
  document.current.bind document.schema.entityAt?

/-- What a line declares where it stands. A nested line before any entity declares nothing. -/
def declarationOf (document : Document) (line : Line) : Except Error (Option Declaration) :=
  if line.topLevel then Declaration.readTopLevel document.schema.config line.text
  else
    match document.currentEntity? with
    | none => .ok none
    | some entity => Declaration.readNested entity.shortName line.text

/-- Changes the entity whose lines are being read. -/
def modifyCurrent (document : Document) (change : Entity → Entity) : Document :=
  match document.current with
  | none => document
  | some index => { document with schema := document.schema.modifyEntity index change }

/-- The document after a declaration. -/
def declare (document : Document) : Declaration → Except Error Document
  | .ofDefault line =>
    .ok { document with
      schema := { document.schema with policy := document.schema.policy.update line.tags } }
  | .ofNamespace line =>
    .ok { document with
      schema := document.schema.addNamespace line.name line.path
      namespaceName := line.name }
  | .ofEntity line => do
    let entity ← line.toEntity document.namespaceName
    let schema ← document.schema.addEntity entity
    return { document with schema, current := some document.schema.entities.length }
  | .ofField line =>
    .ok (document.modifyCurrent fun entity =>
      entity.addField (line.toField entity document.schema.policy))
  | .ofMethod line => .ok (document.modifyCurrent (·.addMethod (.ofLine line)))
  | .ofAlter line => .ok (document.modifyCurrent (·.addCommand (.ofLine line)))

/-- The document after one more line. -/
def readLine (document : Document) (line : Line) : Except Error Document := do
  match ← document.declarationOf line with
  | some declaration => document.declare declaration
  | none => throw (.ofLine line.number line.text)

/-- Reads all lines of a text. A failure of the lines themselves is told last, since it comes
after all lines that were completed. -/
def readText (config : Config) (text : String) : Except Error Document := do
  let read := Lines.ofText text
  let document ← read.lines.foldlM readLine (start config)
  match read.failure with
  | some error => throw error
  | none => return document

end Document

/-- The schema of a document, implied fields included. -/
def Schema.parse (config : Config) (text : String) : Except Error Schema := do
  let document ← Document.readText config text
  document.schema.addImpliedFields.mapError (·.cause)

end EntitySchema
