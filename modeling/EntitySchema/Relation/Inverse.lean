/-
The method on the other side of a relation.

An explicit pointer `<- Model.method()` names it. Without one, the entity on the other side is
guessed from what the method goes `via`, its return type or its name, and there a method is looked
for that is named after this entity or is the only one to return it.

The inverse of the inverse need not be the method itself. A pointer may name any method, and a guess
on either side is made without regard to the other. Proofs that need the two to be inverse to each
other have to say so.

What is written here is the plain lookup, which fails if there is nothing to be found. It does not
look at the kinds of relations, so it cannot come back to itself; the tracking is added where it is
used, in `EntitySchema.Relation.ForeignKey`.
-/
import EntitySchema.Schema.Lookup

set_option autoImplicit false

namespace EntitySchema

/-! ## Pointers -/

/-- Removes every `()`. -/
def dropCalls : List Char → List Char
  | '(' :: ')' :: rest => dropCalls rest
  | c :: rest => c :: dropCalls rest
  | [] => []

/-- The entity and the method that a pointer `Model.method()` names. -/
def splitPointer (pointer : String) : Except Error (String × String) :=
  match Text.splitOn '.' (dropCalls pointer.toList) with
  | [entity, method] =>
    if entity.isEmpty || method.isEmpty then .error (.inverseFormat pointer)
    else .ok (String.ofList entity, String.ofList method)
  | _ => .error (.inverseFormat pointer)

namespace Schema

variable (schema : Schema)

/-! ## What a method goes via -/

/-- The entity that a method goes `via`, if it names one. -/
def entityBetween (method : Method) : Except Error (Option Entity) :=
  match method.viaName? with
  | none => .ok none
  | some name => schema.findEntity name

/-- Whether `via` names a column: neither an entity nor a method. -/
def goesViaColumn (method : Method) : Except Error Bool := do
  match method.viaName? with
  | none => return false
  | some name =>
    match ← schema.entityBetween method with
    | some _ => return false
    | none => return !"()".toList.isSuffixOf name.toList

/-! ## The inverse -/

/-- The name of the entity on the other side, as far as it can be guessed. -/
def otherSideName (method : Method) : Except Error String := do
  match method.viaName?, ← schema.entityBetween method with
  | some name, some _ => return name
  | _, _ =>
    match ← schema.findEntity method.singleType with
    | some _ => return method.singleType
    | none => return singularize (studly method.name)

/-- The method of another entity that looks back at the entity with the given short name: one
that is named after it, or the only one to return it, or the only one to return many of it. -/
def backMethod? (other : Entity) (shortName : String) : Option Method :=
  let own := snake shortName
  let only (type : String) : Option Method :=
    match other.methodsReturning type with
    | [method] => some method
    | _ => none
  (((other.findMethod? (pluralize own)).or (other.findMethod? (singularize own))).or
    (only shortName)).or (only (shortName ++ "[]"))

/-- The method on the other side. -/
def lookUpInverse (method : Method) : Except Error Method := do
  match method.inverseOf.filter (· ≠ "") with
  | some pointer =>
    let (entityName, methodName) ← splitPointer pointer
    (← schema.getEntity entityName).getMethod methodName
  | none =>
    let shortName := (schema.owner method).shortName
    let otherName ← schema.otherSideName method
    match ← schema.findEntity otherName with
    | none =>
      throw (.inverseNotFound (schema.label method)
        (s!"we tried to guess it was in the model `{otherName}`, " ++
          "but the model was not found"))
    | some other =>
      match backMethod? other shortName with
      | some inverse => return inverse
      | none =>
        let own := snake shortName
        throw (.inverseNotFound (schema.label method)
          (s!"we tried to look for methods `{other.shortName}.{singularize own}()` and " ++
            s!"`{other.shortName}.{pluralize own}()`, but neither was there."))

end Schema

end EntitySchema
