/-
What does not depend on the fields.

While the implied fields are added, the rules are asked again and again of a schema that has become
larger. Most of them cannot tell the difference: how an entity is found, what the inverse of a
method is, which join a relation has and how its foreign key is named all follow from the lines of
the entities and methods, and no field is looked at. The outline of a schema is what is left when
the fields are erased, and this file says of each such rule that it gives the same answer, value or
error, on the outline.

Two schemas with the same outline therefore agree on all these answers. What remains, and is left to
the theory of growth, are the three questions that do look at fields: which primary keys an entity
has, whether it has a column, and the kinds that depend on these two.

There is one lemma a rule, and its proof follows the rule: the rules that it calls are rewritten by
their own lemmas, and what is left is the same on both sides after the outcomes of the calls have
been told apart. A rule that answers an entity answers the outline of it, a rule that answers a
name, a method or a join answers the same. Errors are part of the statements, and for the two errors
that list entities this is not by definition: an ambiguous name lists full names, and an unknown
name lists short names, which the outlines have too.

The lemmas speak of the plain reading of the rules. That the memory of lookups gives the same
answers is the theory of `Tracking`, and needs no outline.
-/
import EntitySchema.Proofs.Inverse

set_option autoImplicit false

namespace EntitySchema

open Outcome

/-! ## Outlines -/

/-- An entity without its fields. Its names, its table, its methods and its commands are kept. -/
def Entity.outline (entity : Entity) : Entity := { entity with fields := [] }

namespace Schema

/-- A schema without its fields. The configuration, the namespaces and the policy are kept. -/
def outline (schema : Schema) : Schema :=
  { schema with entities := schema.entities.map Entity.outline }

variable (schema : Schema) (method : Method)

/-- The places of the entities are the same. -/
theorem entityAt?_outline (place : Nat) :
    schema.outline.entityAt? place = (schema.entityAt? place).map Entity.outline :=
  List.getElem?_map

/-- An item leads to the same entity. Without an owner it leads to the last one, and there are as
many. -/
theorem entityOf?_outline (owner? : Option Nat) :
    schema.outline.entityOf? owner? = (schema.entityOf? owner?).map Entity.outline := by
  rw [entityOf?, placeOf_eq (List.length_map _), entityAt?_outline, entityOf?]

/-- The owner of a method, erased. If there is none, the default is its own outline. -/
theorem owner_outline : schema.outline.owner method = (schema.owner method).outline := by
  rw [owner, owner, entityOf?_outline]
  cases schema.entityOf? method.owner? <;> rfl

/-- The label of a method, by which errors name it, is made of names. -/
theorem label_outline : schema.outline.label method = schema.label method := by
  rw [label, label, owner_outline]
  rfl

/-- Methods are kept as they are. -/
theorem methods_outline : schema.outline.methods = schema.methods :=
  List.flatMap_map Entity.outline (·.methods) schema.entities

/-! ## Finding entities -/

/-- An entity is found by its name, or its name is ambiguous, and then the error lists the same full
names. -/
theorem findEntity_outline (name : String) :
    schema.outline.findEntity name = (schema.findEntity name).map (Option.map Entity.outline) := by
  have hfilter : schema.outline.entities.filter (·.isNamed name) =
      (schema.entities.filter (·.isNamed name)).map Entity.outline := List.filter_map
  rw [findEntity, findEntity, hfilter]
  generalize schema.entities.filter (·.isNamed name) = found
  rcases found with _ | ⟨entity, _ | ⟨other, others⟩⟩
  · rfl
  · rfl
  · have hnames : ((entity :: other :: others).map Entity.outline).map (·.fullName) =
        (entity :: other :: others).map (·.fullName) := List.map_map
    exact congrArg (Except.error ∘ Error.ambiguousShortName name) hnames

/-- The same where an entity has to be found. The error lists the short names there are. -/
theorem getEntity_outline (name : String) :
    schema.outline.getEntity name = (schema.getEntity name).map Entity.outline := by
  have hnames : schema.outline.entities.map (·.shortName) =
      schema.entities.map (·.shortName) := List.map_map
  rw [getEntity, getEntity, findEntity_outline, hnames]
  rcases schema.findEntity name with error | _ | entity <;> rfl

/-- The entity that a method goes `via`, if what it names is one. -/
theorem entityBetween_outline :
    schema.outline.entityBetween method =
      (schema.entityBetween method).map (Option.map Entity.outline) := by
  rw [entityBetween, entityBetween]
  cases method.viaName? with
  | none => rfl
  | some name => exact findEntity_outline schema name

/-- Whether `via` names a column. No field is looked for: what is neither an entity nor a call is a
column. -/
theorem goesViaColumn_outline :
    schema.outline.goesViaColumn method = schema.goesViaColumn method := by
  rw [goesViaColumn, goesViaColumn, entityBetween_outline]
  cases method.viaName? with
  | none => rfl
  | some name => rcases schema.entityBetween method with error | _ | entity <;> rfl

/-! ## Finding inverses -/

/-- The name of the entity on the other side is guessed from what the method goes `via`, from its
type or from its own name. No case looks at a field. -/
theorem otherSideName_outline :
    schema.outline.otherSideName method = schema.otherSideName method := by
  rw [otherSideName, otherSideName, entityBetween_outline, findEntity_outline]
  rcases schema.entityBetween method with error | _ | between
  · rfl
  · cases method.viaName? <;>
      rcases schema.findEntity method.singleType with error | _ | entity <;> rfl
  · cases method.viaName? <;>
      rcases schema.findEntity method.singleType with error | _ | entity <;> rfl

/-- **An inverse does not depend on the fields.** It is found by the pointer of the method, or among
the methods of the other entity, and those are in the outline. -/
theorem lookUpInverse_outline :
    schema.outline.lookUpInverse method = schema.lookUpInverse method := by
  rw [lookUpInverse, lookUpInverse, otherSideName_outline, owner_outline, label_outline]
  split
  · refine bind_congr fun names => ?_
    obtain ⟨entityName, methodName⟩ := names
    dsimp only
    rw [getEntity_outline]
    rcases schema.getEntity entityName with error | entity <;> rfl
  · refine bind_congr fun otherName => ?_
    rw [findEntity_outline]
    rcases schema.findEntity otherName with error | _ | entity <;> rfl

end Schema

/-! ## Joins and foreign keys -/

namespace Relation

variable (schema : Schema) (method : Method)

/-- The rule for inverses is the lookup, read plainly. -/
theorem inverse_outline :
    inverse (m := Except Error) schema.outline method = inverse schema method := by
  rw [inverse_plain, inverse_plain, Schema.lookUpInverse_outline]

/-- A join is that of the method or that of its inverse. -/
theorem joinOfEitherSide_outline :
    joinOfEitherSide (m := Except Error) schema.outline method =
      joinOfEitherSide schema method := by
  unfold joinOfEitherSide
  rw [inverse_outline]

/-- Whether the join of either side is one through a pivot table. -/
theorem isJoinedByPivot_outline :
    isJoinedByPivot (m := Except Error) schema.outline method = isJoinedByPivot schema method := by
  unfold isJoinedByPivot
  rw [joinOfEitherSide_outline]

/-- The column that the join mentions of the owner, by the short name of the owner. -/
theorem ownJoinColumn_outline :
    ownJoinColumn (m := Except Error) schema.outline method = ownJoinColumn schema method := by
  unfold ownJoinColumn
  rw [joinOfEitherSide_outline, Schema.owner_outline]
  rfl

/-- The same for an entity of a given name. -/
theorem joinKeyIn_outline (shortName : String) :
    joinKeyIn (m := Except Error) schema.outline method shortName =
      joinKeyIn schema method shortName := by
  unfold joinKeyIn
  rw [joinOfEitherSide_outline]

/-- The key that the join of the inverse mentions of the owner. -/
theorem keyFromInverse_outline :
    keyFromInverse (m := Except Error) schema.outline method = keyFromInverse schema method := by
  unfold keyFromInverse
  rw [inverse_outline]
  refine bind_congr fun inverse => ?_
  rw [Schema.owner_outline]
  exact joinKeyIn_outline schema inverse _

/-- **The name of a foreign key does not depend on the fields.** It comes from `via` or from the
join of the inverse, and else from the name of the method. So it may be asked for before the fields
are known, and the answer is final. -/
theorem foreignKeyName_outline :
    foreignKeyName (m := Except Error) schema.outline method = foreignKeyName schema method := by
  unfold foreignKeyName
  rw [Schema.label_outline, Schema.goesViaColumn_outline, keyFromInverse_outline]

end Relation

end EntitySchema
