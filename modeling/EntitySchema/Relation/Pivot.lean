/-
Related entities and pivot tables.

A relation leads to an entity, perhaps through another one. The two sides of a many-to-many meet in
a pivot table, which is named by a join, or by convention after the tables of both sides; it may be
the table of a declared entity.

A side without a join of its own finds that of the other side, so that one join serves both. The
convention does not depend on the side either: the singular names of both tables are put in
alphabetical order. Each side contributes one column. If a join says which, it is the one across
from a mention of the entity, under any of the names by which a join may mention it; otherwise it is
named after the method.

Of the two sides only the one whose entity comes first by name owns the implied table. The
comparison is strict, so a relation of an entity with itself has no first side.
-/
import EntitySchema.Relation.Classification

set_option autoImplicit false

namespace EntitySchema.Relation

open LookupMonad (lift attempt)

variable {m : Type → Type} [LookupMonad m] (schema : Schema)

/-! ## Related entities -/

/-- The entity that a method returns, unless it returns one of several types. -/
def returnedEntity (method : Method) : m (Option Entity) := do
  if method.isPolymorphic then return none
  match ← lift (schema.findEntity method.singleType) with
  | some entity => return some entity
  | none => return (← attempt Error.isFailedLookup (inverse schema method)).map schema.owner

/-- The method of the entity in between that returns what a method returns. There has to be
exactly one. -/
def onwardMethod (method : Method) : m (Option Method) := do
  match ← lift (schema.entityBetween method) with
  | none => return none
  | some through =>
    match through.methodsReturning method.returnType with
    | [found] => return some found
    | [] =>
      throw (.noThroughMethod (schema.label method) method.returnType through.shortName)
    | _ =>
      throw (.severalThroughMethods (schema.label method) method.returnType through.shortName)

/-! ## Pivot tables -/

/-- Whether the side of a method owns the implied pivot table: its entity is the first of the
two by name. -/
def isFirstSide (method : Method) : m Bool := do
  let other := schema.owner (← inverse schema method)
  return decide ((schema.owner method).shortName < other.shortName)

/-- The pivot table that a join names, as a table or as the entity that is stored in it. -/
def pivotTableOfJoin (join : Join) : m String := do
  match ← lift (schema.findEntity join.pivotTable) with
  | some entity => return entity.table
  | none => return join.pivotTable

/-- The name of an implied pivot table: the singular names of both tables in alphabetical
order. -/
def conventionalPivotTable (table other : String) : String :=
  let first := singularize table
  let second := singularize other
  if second < first then second ++ "_" ++ first else first ++ "_" ++ second

/-- The pivot table of a many-to-many. -/
def pivotTableOf (method : Method) : m String := do
  match (← joinOfEitherSide schema method).filter (·.isPivot) with
  | some join => pivotTableOfJoin schema join
  | none =>
    let inverse ← inverse schema method
    match (← joinOfEitherSide schema inverse).filter (·.isPivot) with
    | some join => pivotTableOfJoin schema join
    | none =>
      return conventionalPivotTable (schema.owner method).table (schema.owner inverse).table

/-- The declared entity that is stored in the pivot table. -/
def pivotEntityOf (method : Method) : m (Option Entity) := do
  return schema.entityStoredIn? (← pivotTableOf schema method)

/-- The names under which a join may mention an entity. -/
def namesInJoin (entity : Entity) : List String :=
  [entity.shortName, entity.table] ++
    ((schema.entityStoredIn? entity.shortName).map (·.shortName)).toList

/-- The column of the pivot table that the side of a method contributes. -/
def pivotKey (method : Method) : m String := do
  match (← joinOfEitherSide schema method).filter (·.isPivot) with
  | none => return singularize method.name ++ "_id"
  | some join =>
    let owner := schema.owner method
    let names := namesInJoin schema owner
    match join.directed.find? (names.contains ·.leftTable) with
    | some condition => return condition.rightField
    | none => throw (.pivotJoinWithoutOwner join.raw owner.shortName)

/-- The columns of an implied pivot table, and whether they may be null. -/
def pivotColumns (method : Method) : m (List (String × Bool)) := do
  let inverse ← inverse schema method
  let own ← pivotKey schema method
  let other ← pivotKey schema inverse
  return [(own, method.nullable.getD false), (other, inverse.nullable.getD false)]

/-- Whether a method is a many-to-many with the given pivot table. -/
def pivotsThrough (table : String) (method : Method) : m Bool := do
  if ← isManyToMany schema method then return (← pivotTableOf schema method) == table
  else return false

/-- Whether one of the methods is a many-to-many with the given pivot table. A method whose
lookups fail is none. -/
def anyPivotsThrough (table : String) : List Method → m Bool
  | [] => return false
  | method :: methods => do
    match ← attempt Error.isFailedLookup (pivotsThrough schema table method) with
    | some true => return true
    | _ => anyPivotsThrough table methods

/-- Whether an entity is stored in the pivot table of a many-to-many. -/
def isStoredAsPivot (entity : Entity) : m Bool :=
  anyPivotsThrough schema entity.table schema.methods

end EntitySchema.Relation
