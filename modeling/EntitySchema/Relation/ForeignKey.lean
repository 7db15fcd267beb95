/-
Joins and foreign keys.

The two sides of a relation share one join, written on either of them, and one foreign key. The
column of the key is found from what is written: the column that a method goes `via`, the column
that the join of the other side mentions, and only then the one that convention asks for.

The rules are written over `LookupMonad`, so that one text serves the plain reading and the one with
tracked lookups. They only read the schema.

Two kinds of failure are expected here and are no errors. A method whose inverse cannot be found has
simply no join of the other side, and a foreign key without an inverse falls back on convention;
`attempt` turns these failures into the absence of an answer. Any other failure is passed on. The
two are not the same: for the join every failed lookup is expected, for the key only a missing
inverse.

A join speaks of tables and fields. The field that belongs to an entity is the one that stands
beside its short name, in the first condition. Whether `id` counts as a key is decided differently
in the two places where it matters, by its name in `joinKeyIn` and by the primary keys of the entity
in `ownJoinKey`.
-/
import EntitySchema.Relation.Inverse
import EntitySchema.Relation.Tracking

set_option autoImplicit false

namespace EntitySchema.Relation

open LookupMonad (lift attempt)

variable {m : Type → Type} [LookupMonad m] (schema : Schema)

/-- The method on the other side of a relation. -/
def inverse (method : Method) : m Method :=
  recallInverse schema method.key <|
    during .inverse method.key (schema.label method) <| lift (schema.lookUpInverse method)

/-! ## Joins -/

/-- The join of a method, or else the one that is declared on its inverse. -/
def joinOfEitherSide (method : Method) : m (Option Join) := do
  match method.join with
  | some join => return some join
  | none => return (← attempt Error.isFailedLookup (inverse schema method)).bind (·.join)

/-- Whether the relation goes through the pivot table of a join. -/
def isJoinedByPivot (method : Method) : m Bool := do
  return (← joinOfEitherSide schema method).any (·.isPivot)

/-- The field that the join mentions of the entity itself. -/
def ownJoinColumn (method : Method) : m (Option String) := do
  return (← joinOfEitherSide schema method).bind (·.fieldOf? (schema.owner method).shortName)

/-- The field that the join mentions of the entity itself, unless it is a primary key. -/
def ownJoinKey (method : Method) : m (Option String) := do
  return (← ownJoinColumn schema method).filter
    (!(schema.owner method).primaryKeys.contains ·)

/-- The field that the join mentions of the entity with a short name, unless it is `id`. -/
def joinKeyIn (method : Method) (shortName : String) : m (Option String) := do
  return (← joinOfEitherSide schema method).bind (·.keyOf? shortName)

/-! ## Foreign keys -/

/-- The field that the join of the inverse mentions of the entity itself, unless it is `id`. -/
def keyFromInverse (method : Method) : m (Option String) := do
  joinKeyIn schema (← inverse schema method) (schema.owner method).shortName

/-- The column that holds the foreign key of a belongs-to: the column that the method goes
`via`, else the one that the join of the inverse mentions, else the one that is named after the
method. -/
def foreignKeyName (method : Method) : m String :=
  during .foreignKey method.key (schema.label method) do
    match method.viaName?, ← lift (schema.goesViaColumn method) with
    | some column, true => return column
    | _, _ =>
      match ← attempt Error.isMissingInverse (keyFromInverse schema method) with
      | some (some column) => return column
      | _ => return singularize method.name ++ "_id"

/-- Whether the foreign key is named after the method. -/
def hasConventionalKey (method : Method) : m Bool := do
  return (← foreignKeyName schema method) == method.name ++ "_id"

/-- Whether the entity has the column of the foreign key. -/
def foreignKeyExists (method : Method) : m Bool := do
  return (schema.owner method).hasField (← foreignKeyName schema method)

end EntitySchema.Relation
