/-
What does not depend on the joins.

A join is written on a method and is read where the two sides of a relation are put together.
Finding entities and finding the method on the other side come before that and look at names, return
types and pointers only. This file replaces the joins of a schema by others and says of each such
rule that it finds the same entity or the same method, which then carries the join that it has been
given. It is to joins what the outline of a schema is to fields.

All of it leads up to `Opposite.rejoin`: two methods that are each other's inverse are so with
whatever joins.

The joins are given by a function from methods to joins. It is applied to the methods as they were,
so that giving one method a join and leaving the others alone is an instance of it, and so is taking
all joins away. The methods that are asked about are changed together with the schema: a method
carries its join itself, and one with the old join would be no method of the new schema. What is
compared of errors is everything, since an error names entities and methods and no joins.
-/
import EntitySchema.Proofs.Relation.Opposite

set_option autoImplicit false

namespace EntitySchema

open Outcome

/-! ## Methods and entities -/

/-- A method with another join. Its key is as before. -/
def Method.rejoin (joins : Method → Option Join) (method : Method) : Method :=
  { method with join := joins method }

/-- An entity whose methods have other joins. Its names, its table and its fields are as before. -/
def Entity.rejoin (joins : Method → Option Join) (entity : Entity) : Entity :=
  { entity with methods := entity.methods.map (Method.rejoin joins) }

namespace Entity

variable (joins : Method → Option Join) (entity : Entity)

/-- A method is found by its name. -/
theorem findMethod?_rejoin (name : String) :
    (entity.rejoin joins).findMethod? name =
      (entity.findMethod? name).map (Method.rejoin joins) :=
  List.find?_map

/-- Methods are told apart by what they return. -/
theorem methodsReturning_rejoin (type : String) :
    (entity.rejoin joins).methodsReturning type =
      (entity.methodsReturning type).map (Method.rejoin joins) :=
  List.filter_map

/-- If a method is missing, the error is the same. -/
theorem getMethod_rejoin (name : String) :
    (entity.rejoin joins).getMethod name =
      (entity.getMethod name).map (Method.rejoin joins) := by
  rw [getMethod, getMethod, findMethod?_rejoin]
  cases entity.findMethod? name <;> rfl

/-- The places of the items are as before. -/
theorem isPlacedAt_rejoin {entity : Entity} {place : Nat} (h : entity.IsPlacedAt place) :
    (entity.rejoin joins).IsPlacedAt place := by
  refine ⟨h.index_eq, h.owner_of_field, fun position method hat => ?_, h.owner_of_command⟩
  have hmap : (entity.methods.map (Method.rejoin joins))[position]? = some method := hat
  rw [List.getElem?_map] at hmap
  obtain ⟨old, hold, rfl⟩ := Option.map_eq_some_iff.1 hmap
  exact h.key_of_method position old hold

end Entity

namespace Schema

/-- A schema whose methods have other joins. -/
def rejoin (joins : Method → Option Join) (schema : Schema) : Schema :=
  { schema with entities := schema.entities.map (Entity.rejoin joins) }

variable (joins : Method → Option Join) (schema : Schema) (method : Method)

/-- The entities stand where they stood. -/
theorem entityAt?_rejoin (place : Nat) :
    (schema.rejoin joins).entityAt? place = (schema.entityAt? place).map (Entity.rejoin joins) :=
  List.getElem?_map

/-- An item leads to the same entity, with an owner or without one. -/
theorem entityOf?_rejoin (owner? : Option Nat) :
    (schema.rejoin joins).entityOf? owner? =
      (schema.entityOf? owner?).map (Entity.rejoin joins) := by
  rw [entityOf?, placeOf_eq (List.length_map _), entityAt?_rejoin, entityOf?]

/-- So does a method. -/
theorem owner_rejoin : (schema.rejoin joins).owner method = (schema.owner method).rejoin joins := by
  rw [owner, owner, entityOf?_rejoin]
  cases schema.entityOf? method.owner? <;> rfl

/-- The label of a method is made of names. -/
theorem label_rejoin : (schema.rejoin joins).label method = schema.label method := by
  rw [label, label, owner_rejoin]
  rfl

/-- A placed schema stays placed, and so what is known of placed schemas is known of it with other
joins. -/
theorem isPlaced_rejoin {schema : Schema} (h : schema.IsPlaced) :
    (schema.rejoin joins).IsPlaced := by
  constructor
  · intro place entity hat
    rw [entityAt?_rejoin] at hat
    obtain ⟨old, hold, rfl⟩ := Option.map_eq_some_iff.1 hat
    exact Entity.isPlacedAt_rejoin joins (h.entity place old hold)
  · have htables : (schema.rejoin joins).entities.map (·.table) = schema.entities.map (·.table) :=
      List.map_map
    rw [htables]
    exact h.tables

/-! ## Finding entities -/

/-- An entity is found by its name, or the name is ambiguous in the same way. -/
theorem findEntity_rejoin (name : String) :
    (schema.rejoin joins).findEntity name =
      (schema.findEntity name).map (Option.map (Entity.rejoin joins)) := by
  have hfilter : (schema.rejoin joins).entities.filter (·.isNamed name) =
      (schema.entities.filter (·.isNamed name)).map (Entity.rejoin joins) := List.filter_map
  rw [findEntity, findEntity, hfilter]
  generalize schema.entities.filter (·.isNamed name) = found
  rcases found with _ | ⟨entity, _ | ⟨other, others⟩⟩
  · rfl
  · rfl
  · have hnames : ((entity :: other :: others).map (Entity.rejoin joins)).map (·.fullName) =
        (entity :: other :: others).map (·.fullName) := List.map_map
    exact congrArg (Except.error ∘ Error.ambiguousShortName name) hnames

/-- The same where an entity has to be found. -/
theorem getEntity_rejoin (name : String) :
    (schema.rejoin joins).getEntity name = (schema.getEntity name).map (Entity.rejoin joins) := by
  have hnames : (schema.rejoin joins).entities.map (·.shortName) =
      schema.entities.map (·.shortName) := List.map_map
  rw [getEntity, getEntity, findEntity_rejoin, hnames]
  rcases schema.findEntity name with error | _ | entity <;> rfl

/-- An entity is found by its table. -/
theorem entityStoredIn?_rejoin (table : String) :
    (schema.rejoin joins).entityStoredIn? table =
      (schema.entityStoredIn? table).map (Entity.rejoin joins) :=
  List.find?_map

/-- What a method goes `via` is written on its line beside the join. -/
theorem entityBetween_rejoin :
    (schema.rejoin joins).entityBetween (method.rejoin joins) =
      (schema.entityBetween method).map (Option.map (Entity.rejoin joins)) := by
  have hvia : (method.rejoin joins).viaName? = method.viaName? := rfl
  rw [entityBetween, entityBetween, hvia]
  cases method.viaName? with
  | none => rfl
  | some name => exact findEntity_rejoin joins schema name

/-! ## Finding inverses -/

/-- The entity on the other side is guessed from what the method goes `via`, returns or is
called. -/
theorem otherSideName_rejoin :
    (schema.rejoin joins).otherSideName (method.rejoin joins) = schema.otherSideName method := by
  have hvia : (method.rejoin joins).viaName? = method.viaName? := rfl
  have htype : (method.rejoin joins).singleType = method.singleType := rfl
  rw [otherSideName, otherSideName, entityBetween_rejoin, hvia, htype, findEntity_rejoin]
  rcases schema.entityBetween method with error | _ | between
  · rfl
  · cases method.viaName? <;>
      rcases schema.findEntity method.singleType with error | _ | entity <;> rfl
  · cases method.viaName? <;>
      rcases schema.findEntity method.singleType with error | _ | entity <;> rfl

/-- The method that looks back is found by its name or as the only one to return a type. -/
theorem backMethod?_rejoin (other : Entity) (shortName : String) :
    backMethod? (other.rejoin joins) shortName =
      (backMethod? other shortName).map (Method.rejoin joins) := by
  simp only [backMethod?, Entity.findMethod?_rejoin, Entity.methodsReturning_rejoin, Option.map_or]
  -- a method is the only one to return a type whether it has been given a join or not
  refine congrArg₂ Option.or (congrArg₂ Option.or rfl ?_) ?_
  · rcases other.methodsReturning shortName with _ | ⟨first, _ | ⟨second, rest⟩⟩ <;> rfl
  · rcases other.methodsReturning (shortName ++ "[]") with _ | ⟨first, _ | ⟨second, rest⟩⟩ <;> rfl

/-- **An inverse does not depend on the joins.** The two ways to find it, by a pointer and by
guessing, use only the lookups above. -/
theorem lookUpInverse_rejoin :
    (schema.rejoin joins).lookUpInverse (method.rejoin joins) =
      (schema.lookUpInverse method).map (Method.rejoin joins) := by
  have hpointer : (method.rejoin joins).inverseOf = method.inverseOf := rfl
  have howner : (schema.rejoin joins).owner (method.rejoin joins) =
      (schema.owner method).rejoin joins := owner_rejoin joins schema method
  have hlabel : (schema.rejoin joins).label (method.rejoin joins) = schema.label method :=
    label_rejoin joins schema method
  rw [lookUpInverse, lookUpInverse, hpointer, otherSideName_rejoin, howner, hlabel]
  split
  · next pointer _ =>
    rcases splitPointer pointer with error | ⟨entityName, methodName⟩
    · rfl
    · rw [ok_bind, ok_bind]
      dsimp only
      rw [getEntity_rejoin]
      rcases schema.getEntity entityName with error | entity
      · rfl
      · exact Entity.getMethod_rejoin joins entity methodName
  · rcases schema.otherSideName method with error | otherName
    · rfl
    · rw [ok_bind, ok_bind, findEntity_rejoin]
      rcases schema.findEntity otherName with error | _ | other
      · rfl
      · rfl
      · have hshort : ((schema.owner method).rejoin joins).shortName =
            (schema.owner method).shortName := rfl
        simp only [Except.map, Option.map, ok_bind, hshort, backMethod?_rejoin]
        cases backMethod? other (schema.owner method).shortName <;> rfl

end Schema

/-! ## Opposite methods -/

namespace Relation

variable {schema : Schema} {method other : Method}

/-- The same for the rule, read plainly, if an inverse is found. -/
theorem inverse_rejoin (joins : Method → Option Join)
    (h : inverse (m := Except Error) schema method = .ok other) :
    inverse (m := Except Error) (schema.rejoin joins) (method.rejoin joins) =
      .ok (other.rejoin joins) := by
  rw [inverse_plain] at h ⊢
  rw [Schema.lookUpInverse_rejoin, h]
  rfl

/-- **Opposite methods stay opposite with other joins.** -/
theorem Opposite.rejoin (joins : Method → Option Join) (h : Opposite schema method other) :
    Opposite (schema.rejoin joins) (method.rejoin joins) (other.rejoin joins) :=
  ⟨inverse_rejoin joins h.inverse_eq, inverse_rejoin joins h.inverse_other⟩

end Relation

end EntitySchema
