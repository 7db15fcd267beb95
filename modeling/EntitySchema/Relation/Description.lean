/-
Descriptions of relations.

A description says everything that is needed to write a relation down for some framework: its kind,
the related entity, and the keys, tables and names that the kind calls for. Only those are filled
in.

There is a function for each kind that needs more than names, and one for two kinds where they
differ in nothing else. Each asks for what it needs in a fixed order, so the first thing that cannot
be found is the error that is told. Most kinds need a primary key of one column on one side or on
both, and the error names the relation that needs it.

A description is not stored: describing a relation twice asks everything twice, though with a memory
the lookups behind it are made once.
-/
import EntitySchema.Relation.Pivot

set_option autoImplicit false

namespace EntitySchema

/-- The description of a relation. -/
structure RelationDescription where
  /-- Full name of the entity that declares the relation. -/
  entity : String
  method : String
  kind : RelationKind
  /-- Full name of the related entity. -/
  related : Option String := none
  foreignKey : Option String := none
  ownerKey : Option String := none
  localKey : Option String := none
  pivotTable : Option String := none
  pivotEntity : Option String := none
  pivotFields : List String := []
  foreignPivotKey : Option String := none
  relatedPivotKey : Option String := none
  throughEntity : Option String := none
  firstKey : Option String := none
  secondKey : Option String := none
  secondLocalKey : Option String := none
  morphName : Option String := none
  morphType : Option String := none
  morphId : Option String := none
  pivotAlias : Option String := none
  withTimestamps : Bool := false
  deriving DecidableEq, Repr, Inhabited

namespace RelationDescription

/-- The names of a polymorphic relation, which are formed from the name of its method. -/
def withMorph (description : RelationDescription) (name : String) : RelationDescription :=
  { description with
    morphName := some name, morphType := some (name ++ "_type"), morphId := some (name ++ "_id") }

/-- What is filled in besides the entity, the method and the kind, in order. -/
def details (description : RelationDescription) : List (String × Json) :=
  let text (key : String) (value : Option String) : List (String × Json) :=
    (value.map fun text => (key, Json.string text)).toList
  text "related" description.related ++ text "foreign_key" description.foreignKey ++
  text "owner_key" description.ownerKey ++ text "local_key" description.localKey ++
  text "pivot_table" description.pivotTable ++ text "pivot_entity" description.pivotEntity ++
  (if description.pivotFields.isEmpty then []
    else [("pivot_fields", Json.strings description.pivotFields)]) ++
  text "foreign_pivot_key" description.foreignPivotKey ++
  text "related_pivot_key" description.relatedPivotKey ++
  text "through_entity" description.throughEntity ++ text "first_key" description.firstKey ++
  text "second_key" description.secondKey ++
  text "second_local_key" description.secondLocalKey ++
  text "morph_name" description.morphName ++ text "morph_type" description.morphType ++
  text "morph_id" description.morphId ++ text "alias" description.pivotAlias ++
  (if description.withTimestamps then [("with_timestamps", Json.bool true)] else [])

/-- The entity, the method and what is filled in, with the kind at the end. -/
def toMembers (description : RelationDescription) : List (String × Json) :=
  [("entity", .string description.entity), ("method", .string description.method)] ++
    description.details ++ [("kind", .string description.kind.name)]

/-- A description as JSON. -/
def toJson (description : RelationDescription) : Json := .object description.toMembers

end RelationDescription

/-- The only primary key of an entity. The reason why one is needed is told if there is none, or
more than one. -/
def Entity.onlyPrimaryKey (entity : Entity) (reason : String) : Except Error String :=
  match entity.primaryKeys with
  | [key] => .ok key
  | [] => .error (.noPrimaryKey entity.shortName reason)
  | keys => .error (.compositePrimaryKey entity.shortName reason keys)

namespace Relation

open LookupMonad (lift)

variable {m : Type → Type} [LookupMonad m] (schema : Schema)

/-- Why a relation needs a primary key of one column on an entity. -/
def keyReason (relation : String) (method : Method) (entity : Entity) : String :=
  s!"{relation} {schema.label method} requires simple one-field primary key " ++
    s!"on {entity.shortName}"

/-- The only primary key of an entity that a relation needs. -/
def requireKey (relation : String) (method : Method) (entity : Entity) : m String :=
  lift (entity.onlyPrimaryKey (keyReason schema relation method entity))

/-- The entity that a method returns, which has to be known. -/
def knownEntity (method : Method) : m Entity := do
  match ← returnedEntity schema method with
  | some entity => return entity
  | none => throw (.unknownRelated (schema.label method) method.singleType)

variable (base : RelationDescription)

/-- Describes a belongs-to. -/
def describeBelongsTo (method : Method) : m RelationDescription := do
  let related ← knownEntity schema method
  let foreignKey ← foreignKeyName schema method
  let ownerKey ← requireKey schema "belongsTo" method related
  return { base with
    related := some related.fullName, foreignKey := some foreignKey, ownerKey := some ownerKey }

/-- Describes a has-one or has-many. -/
def describeHas (method : Method) : m RelationDescription := do
  let inverse ← inverse schema method
  let foreignKey ← foreignKeyName schema inverse
  let localKey ← requireKey schema base.kind.name method (schema.owner method)
  return { base with
    related := some (schema.owner inverse).fullName
    foreignKey := some foreignKey
    localKey := some localKey }

/-- Describes a many-to-many. -/
def describeBelongsToMany (method : Method) : m RelationDescription := do
  let owner := schema.owner method
  let inverse ← inverse schema method
  let related := schema.owner inverse
  let pivotEntity ← pivotEntityOf schema method
  let pivotTable ← pivotTableOf schema method
  let foreignPivotKey ← pivotKey schema inverse
  let relatedPivotKey ← pivotKey schema method
  let localKey ← requireKey schema "Many to Many" method owner
  let ownerKey ← requireKey schema "Many to Many" inverse related
  return { base with
    related := some related.fullName
    pivotTable := some pivotTable
    foreignPivotKey := some foreignPivotKey
    relatedPivotKey := some relatedPivotKey
    localKey := some localKey
    ownerKey := some ownerKey
    pivotEntity := pivotEntity.map (·.fullName)
    pivotFields := (pivotEntity.map (·.fieldNames)).getD []
    pivotAlias := method.pivotAlias
    withTimestamps := method.pivotWithTimestamps }

/-- Describes a has-many-through. `Country.posts()` via `User` has the inverse
`User.country()` and goes through `User.posts()`. -/
def describeHasManyThrough (method : Method) : m RelationDescription := do
  let owner := schema.owner method
  let inverseMethod ← inverse schema method
  match ← onwardMethod schema method with
  | none => throw (.noThroughEntity (schema.label method))
  | some through =>
    let between := schema.owner through
    let endMethod ← inverse schema through
    let firstKey ← foreignKeyName schema inverseMethod
    let secondKey ← foreignKeyName schema endMethod
    let localKey ← requireKey schema "Many to Many" method owner
    let secondLocalKey ← requireKey schema "Many to Many" method between
    return { base with
      related := some (schema.owner endMethod).fullName
      throughEntity := some between.fullName
      firstKey := some firstKey
      secondKey := some secondKey
      localKey := some localKey
      secondLocalKey := some secondLocalKey }

/-- Describes a polymorphic has-many. -/
def describeMorphMany (method : Method) : m RelationDescription := do
  let inverse ← inverse schema method
  let localKey ← requireKey schema "MorphMany" method (schema.owner method)
  return { base with
    related := some (schema.owner inverse).fullName
    localKey := some localKey
    : RelationDescription }.withMorph inverse.name

/-- Describes a polymorphic many-to-many from the side whose type is stored. -/
def describeMorphToMany (method : Method) : m RelationDescription := do
  let related ← knownEntity schema method
  let inverse ← inverse schema method
  return { base with
    related := some related.fullName
    pivotTable := some (schema.owner inverse).table
    : RelationDescription }.withMorph inverse.name

/-- Describes a polymorphic many-to-many from the other side. -/
def describeMorphedByMany (method : Method) : m RelationDescription := do
  let related ← knownEntity schema method
  let through := schema.owner (← inverse schema method)
  if through.primaryKeys ≠ ["id"] then
    throw (.customMorphKey (schema.label method) through.shortName)
  match through.methodsReturning method.singleType with
  | morph :: _ =>
    return { base with
      related := some related.fullName
      pivotTable := some through.table
      : RelationDescription }.withMorph morph.name
  | [] => throw .noMorphMethod

/-- Describes a relation. -/
def describe (method : Method) : m RelationDescription := do
  let kind ← kind schema method
  let base : RelationDescription :=
    { entity := (schema.owner method).fullName, method := method.name, kind }
  match kind with
  | .belongsTo => describeBelongsTo schema base method
  | .hasOne | .hasMany => describeHas schema base method
  | .belongsToMany => describeBelongsToMany schema base method
  | .hasManyThrough => describeHasManyThrough schema base method
  | .morphTo => return base.withMorph method.name
  | .morphMany => describeMorphMany schema base method
  | .morphToMany => describeMorphToMany schema base method
  | .morphedByMany => describeMorphedByMany schema base method

/-- Describes all relations in the order of their declaration. -/
def descriptions : m (List RelationDescription) := schema.methods.mapM (describe schema)

end Relation

end EntitySchema
