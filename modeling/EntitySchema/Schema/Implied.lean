/-
Implied fields.

The lines of a document imply columns that they do not spell out: a primary key `id`, the columns
that `via` or a join names, the pair of columns of a polymorphic relation, and the foreign key of
each belongs-to. They are added entity by entity, and for each method in order, to what is there
already; a field with the same name is never added twice.

Whether a method is a belongs-to depends on the fields, so each question is asked of the schema as
it has become so far. A relation that cannot be resolved ends the work; what was added before stays.

A method is treated in four steps, each of which adds one field, two, or none, and each sees what
the ones before it have added. The methods of an entity are those it had at the start, which makes
no difference, since no step adds a method. All implied fields stand after the declared ones, except
for the primary key, which stands before them.

The methods of an entity are looked at before the entities after it have got their fields. So doing
the work a second time may find another answer and add a field, and
`EntitySchema.Proofs.Implied.Idempotence` says when it does.
-/
import EntitySchema.Relation.Classification

set_option autoImplicit false

namespace EntitySchema

/-- A schema that has got only a part of its implied fields, and the reason. -/
structure Unfinished where
  schema : Schema
  cause : Error
  deriving DecidableEq, Inhabited

namespace Schema

/-- An implied field under the policy in force. A primary key is not null. -/
def impliedField (schema : Schema) (name type : String) (primaryKey : Bool) : Field where
  name := name
  type := type
  primaryKey := primaryKey
  nullable := if primaryKey then some false else none
  implied := true
  policy := schema.policy

/-- Adds an implied field at the end of an entity, unless it has one of that name. -/
def addImplied (schema : Schema) (place : Nat) (name type : String) : Schema :=
  schema.modifyEntity place fun entity =>
    if entity.hasField name then entity
    else entity.addField (schema.impliedField name type false)

/-- Adds an implied field to the entity of a method. -/
def addImpliedOf (schema : Schema) (method : Method) (name type : String) : Schema :=
  schema.addImplied (schema.placeOf method.owner?) name type

/-- Adds the primary key `id` at the start of an entity that has none, unless it has a field of
that name. -/
def addPrimaryKey (schema : Schema) (place : Nat) : Schema :=
  schema.modifyEntity place fun entity =>
    if entity.primaryKeys.isEmpty && !entity.hasField "id" then
      entity.prependField (schema.impliedField "id" schema.config.primaryKeyType true)
    else
      entity

/-- Adds the column that a method goes `via`. -/
def addViaColumn (schema : Schema) (method : Method) : Except Error Schema := do
  match method.viaName?, ← schema.goesViaColumn method with
  | some column, true =>
    return schema.addImpliedOf method column schema.config.foreignKeyType
  | _, _ => return schema

/-- Adds the column that the join of a method mentions. -/
def addJoinKey (schema : Schema) (method : Method) : Except Error Schema := do
  match ← Relation.ownJoinKey schema method with
  | some column => return schema.addImpliedOf method column schema.config.foreignKeyType
  | none => return schema

/-- Adds the pair of columns of a polymorphic method. -/
def addMorphFields (schema : Schema) (method : Method) : Schema :=
  if method.isPolymorphic then
    (schema.addImpliedOf method (method.name ++ "_id") schema.config.foreignKeyType).addImpliedOf
      method (method.name ++ "_type") schema.config.morphTypeType
  else
    schema

/-- Adds the foreign key of a belongs-to. -/
def addForeignKey (schema : Schema) (method : Method) : Except Error Schema := do
  if ← Relation.isBelongsTo schema method then
    let column ← Relation.foreignKeyName schema method
    return schema.addImpliedOf method column schema.config.foreignKeyType
  else
    return schema

/-- Adds the columns that a method implies. -/
def addMethodFields (schema : Schema) (method : Method) : Except Unfinished Schema := do
  let schema ← (schema.addViaColumn method).mapError (⟨schema, ·⟩)
  let schema ← (schema.addJoinKey method).mapError (⟨schema, ·⟩)
  let schema := schema.addMorphFields method
  (schema.addForeignKey method).mapError (⟨schema, ·⟩)

/-- Adds the columns that the declarations of one entity imply. -/
def addEntityFields (schema : Schema) (place : Nat) : Except Unfinished Schema :=
  match schema.entityAt? place with
  | none => .ok schema
  | some entity => entity.methods.foldlM addMethodFields (schema.addPrimaryKey place)

/-- Adds all columns that the declarations imply. -/
def addImpliedFields (schema : Schema) : Except Unfinished Schema :=
  (List.range schema.entities.length).foldlM addEntityFields schema

end Schema

end EntitySchema
