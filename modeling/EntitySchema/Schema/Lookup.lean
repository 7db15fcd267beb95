/-
Finding and adding things in a schema.

Entities are found by short or full name, or by table. A short name may belong to entities of
several namespaces, and then it is ambiguous. No two entities share a table.

There are two kinds of finding. To ask whether there is an entity of a name is answered by nothing
if there is none (`findEntity`), while to ask for the entity itself fails then, and the error lists
the names that there are (`getEntity`). A name that several entities have is an error either way.

An entity is added at the end, and the place it gets there is what its fields, methods and commands
will refer to. As entities are never taken away or moved, places stay valid while a schema grows,
and `modifyEntity` changes an entity in its place. An item that was added to no entity counts to the
last one.
-/
import EntitySchema.Schema.Basic

set_option autoImplicit false

namespace EntitySchema

namespace Schema

/-! ## Namespaces -/

/-- Registers a namespace. One that is registered already gets the new path. -/
def addNamespace (schema : Schema) (name path : String) : Schema :=
  { schema with
    namespaces := schema.namespaces.insert (normalizeNamespace name) (normalizePath path) }

/-- The path of a namespace. -/
def pathOfNamespace (schema : Schema) (name : String) : Except Error String :=
  match schema.namespaces.get? (normalizeNamespace name) with
  | some path => .ok path
  | none => .error (.namespaceNotFound name schema.namespaces.keys)

/-! ## Entities -/

/-- The entity that is stored in a table. -/
def entityStoredIn? (schema : Schema) (table : String) : Option Entity :=
  schema.entities.find? (·.table == table)

/-- The entity with a short or full name, if there is one. -/
def findEntity (schema : Schema) (name : String) : Except Error (Option Entity) :=
  match schema.entities.filter (·.isNamed name) with
  | [] => .ok none
  | [entity] => .ok (some entity)
  | entities => .error (.ambiguousShortName name (entities.map (·.fullName)))

/-- The entity with a short or full name, or the reason why there is none. -/
def getEntity (schema : Schema) (name : String) : Except Error Entity := do
  match ← schema.findEntity name with
  | some entity => return entity
  | none => throw (.entityNotFound name (schema.entities.map (·.shortName)))

/-- Adds an entity, which gets the next place. -/
def addEntity (schema : Schema) (entity : Entity) : Except Error Schema :=
  match schema.entityStoredIn? entity.table with
  | some other => .error (.duplicateTable entity.table other.shortName entity.shortName)
  | none =>
    .ok { schema with
      entities := schema.entities ++ [{ entity with index? := schema.entities.length }] }

/-- The entity at a place. -/
def entityAt? (schema : Schema) (place : Nat) : Option Entity := schema.entities[place]?

/-- The place of the entity that an item counts to. An item that was added to no entity counts to
the last one. -/
def placeOf (schema : Schema) (owner? : Option Nat) : Nat :=
  owner?.getD (schema.entities.length - 1)

/-- The entity that an item counts to. -/
def entityOf? (schema : Schema) (owner? : Option Nat) : Option Entity :=
  schema.entityAt? (schema.placeOf owner?)

@[simp] theorem placeOf_some (schema : Schema) (place : Nat) :
    schema.placeOf (some place) = place := rfl

@[simp] theorem entityOf?_some (schema : Schema) (place : Nat) :
    schema.entityOf? (some place) = schema.entityAt? place := rfl

/-- An item that was added to no entity counts to the last one. -/
theorem entityOf?_none (schema : Schema) : schema.entityOf? none = schema.entities.getLast? :=
  List.getLast?_eq_getElem?.symm

/-- Where items count to depends on how many entities there are, and on nothing else. -/
theorem placeOf_eq {before after : Schema} (h : before.entities.length = after.entities.length)
    (owner? : Option Nat) : before.placeOf owner? = after.placeOf owner? := by
  rw [placeOf, placeOf, h]

/-- Changes the entity at a place. -/
def modifyEntity (schema : Schema) (place : Nat) (change : Entity → Entity) : Schema :=
  { schema with entities := schema.entities.modify place change }

/-! ## Methods -/

/-- The entity that a method belongs to. -/
def owner (schema : Schema) (method : Method) : Entity :=
  (schema.entityOf? method.owner?).getD default

/-- How a method is called in messages, such as `User.roles()`. -/
def label (schema : Schema) (method : Method) : String :=
  (schema.owner method).shortName ++ "." ++ method.name ++ "()"

/-- The method with a key. -/
def methodAt? (schema : Schema) (key : MethodKey) : Option Method :=
  (schema.entityOf? key.owner?).bind fun entity => entity.methods[key.position]?

/-- All methods in the order of their declaration, entity by entity. -/
def methods (schema : Schema) : List Method := schema.entities.flatMap (·.methods)

end Schema

/-! ## Policies -/

/-- The policy after a line with the given tags. Of two contrary tags the one for not null, and
the one for unguarded, wins. -/
def Policy.update (policy : Policy) (tags : List String) : Policy where
  nullable :=
    if tags.contains "not null" || tags.contains "not nullable" then false
    else if tags.contains "null" || tags.contains "nullable" then true
    else policy.nullable
  guarded :=
    if tags.contains "unguarded" then false
    else if tags.contains "guarded" then true
    else policy.guarded

end EntitySchema
