/-
The other side of a relation, read plainly.

Without tracking a lookup of an inverse is `Schema.lookUpInverse` and nothing more. What it finds is
always a method of the schema, whichever way it was found: by a pointer, by its name or as the only
one to return a type. The rules that ask for an inverse therefore never leave the schema, and their
answers about one method are made of their answers about others.

Most of what follows says that a search finds nothing that was not there, for entities first, then
for the methods of one entity, and then for the two together. It looks like little. But the theorems
about a placed schema are about its methods, and an inverse that a rule asks further questions about
is only covered by them because it is one (`Relation.mem_of_inverse`).

The last part is on reading plainly. The rules are written once, over `LookupMonad`, and in the
reading without memory a lift is what is lifted, an attempt is a success with the value or with
nothing, and a lookup is what is looked up. Proofs about the plain reading begin with these lemmas
and then go on with the outcomes of chains.
-/
import EntitySchema.Proofs.Outcome
import EntitySchema.Proofs.Placement
import EntitySchema.Relation.Classification

set_option autoImplicit false

namespace EntitySchema

open Outcome

namespace Schema

variable {schema : Schema} {name : String} {entity : Entity} {method inverse : Method}

/-! ## What is found belongs to the schema -/

/-- An entity that is found by its name is one of the schema. -/
theorem mem_of_findEntity (h : schema.findEntity name = .ok (some entity)) :
    entity ∈ schema.entities := by
  rw [findEntity] at h
  split at h
  · cases h
  · next found hfound =>
    obtain rfl : found = entity := by simpa using h
    have hmem : found ∈ schema.entities.filter (·.isNamed name) := by simp [hfound]
    exact (List.mem_filter.1 hmem).1
  · cases h

/-- The same where an entity has to be found. -/
theorem mem_of_getEntity (h : schema.getEntity name = .ok entity) : entity ∈ schema.entities := by
  rw [getEntity, bind_eq_ok] at h
  obtain ⟨found, hfound, h⟩ := h
  cases found with
  | none => cases h
  | some other =>
    obtain rfl := Except.ok.inj h
    exact mem_of_findEntity hfound

/-- No entity is stored in a table if and only if none has it as its table. -/
theorem entityStoredIn?_eq_none_iff :
    schema.entityStoredIn? name = none ↔ ∀ entity ∈ schema.entities, entity.table ≠ name := by
  simp [entityStoredIn?, List.find?_eq_none]

/-- The entity that a method goes `via` is one of the schema. -/
theorem mem_of_entityBetween (h : schema.entityBetween method = .ok (some entity)) :
    entity ∈ schema.entities := by
  rw [entityBetween] at h
  split at h
  · cases h
  · exact mem_of_findEntity h

end Schema

namespace Entity

variable {entity : Entity} {method : Method}

/-- A method that is found by its name is one of the entity. -/
theorem mem_of_findMethod? {name : String} (h : entity.findMethod? name = some method) :
    method ∈ entity.methods :=
  List.mem_of_find?_eq_some h

/-- The same where a method has to be found. -/
theorem mem_of_getMethod {name : String} (h : entity.getMethod name = .ok method) :
    method ∈ entity.methods := by
  rw [getMethod] at h
  split at h
  · next hfound =>
    obtain rfl := Except.ok.inj h
    exact mem_of_findMethod? hfound
  · cases h

/-- The methods that return a type are methods of the entity. -/
theorem mem_of_mem_methodsReturning {type : String} (h : method ∈ entity.methodsReturning type) :
    method ∈ entity.methods :=
  (List.mem_filter.1 h).1

end Entity

namespace Schema

variable {schema : Schema} {method inverse : Method}

/-- The method that looks back is one of the other entity. There are four ways to find it, two by
its name and two as the only one to return a type. -/
theorem mem_of_backMethod? {other : Entity} {shortName : String}
    (h : backMethod? other shortName = some inverse) : inverse ∈ other.methods := by
  -- the only method to return a type
  have honly : ∀ {type : String} {found : Method},
      other.methodsReturning type = [found] → found ∈ other.methods := by
    intro type found hfound
    refine @Entity.mem_of_mem_methodsReturning _ _ type ?_
    rw [hfound]
    exact List.mem_singleton_self _
  simp only [backMethod?, Option.or_eq_some_iff] at h
  rcases h with ((hplural | ⟨-, hsingular⟩) | ⟨-, hone⟩) | ⟨-, hmany⟩
  · exact Entity.mem_of_findMethod? hplural
  · exact Entity.mem_of_findMethod? hsingular
  · split at hone
    · next found hfound =>
      obtain rfl := Option.some.inj hone
      exact honly hfound
    · cases hone
  · split at hmany
    · next found hfound =>
      obtain rfl := Option.some.inj hmany
      exact honly hfound
    · cases hmany

/-- **The method on the other side is a method of the schema.** With a pointer it is found in the
entity that the pointer names, and without one in the entity that is guessed. -/
theorem mem_of_lookUpInverse (h : schema.lookUpInverse method = .ok inverse) :
    inverse ∈ schema.methods := by
  rw [lookUpInverse] at h
  split at h
  · obtain ⟨⟨entityName, methodName⟩, -, h⟩ := bind_eq_ok.1 h
    obtain ⟨entity, hentity, h⟩ := bind_eq_ok.1 h
    exact mem_methods_of_mem (mem_of_getEntity hentity) (Entity.mem_of_getMethod h)
  · obtain ⟨otherName, -, h⟩ := bind_eq_ok.1 h
    obtain ⟨found, hfound, h⟩ := bind_eq_ok.1 h
    split at h
    · cases h
    · next other =>
      split at h
      · next back hback =>
        obtain rfl := Except.ok.inj h
        exact mem_methods_of_mem (mem_of_findEntity hfound) (mem_of_backMethod? hback)
      · cases h

end Schema

/-! ## The plain reading -/

namespace LookupMonad

variable {α : Type} {outcome : Except Error α} {isExpected : Error → Bool}

/-- Read plainly, an outcome is lifted to itself. -/
theorem lift_plain (outcome : Except Error α) : lift (m := Except Error) outcome = outcome := by
  cases outcome <;> rfl

/-- An attempt finds what the action finds. An expected error counts as nothing found, and no error
is turned into a value. -/
theorem attempt_eq_some {value : α} :
    attempt isExpected outcome = .ok (some value) ↔ outcome = .ok value := by
  cases outcome with
  | ok found =>
    constructor
    · intro h
      exact congrArg Except.ok (Option.some.inj (Except.ok.inj h))
    · intro h
      rw [Except.ok.inj h]
      rfl
  | error error =>
    change (if isExpected error then Except.ok none else Except.error error) = _ ↔ _
    constructor
    · intro h
      split at h <;> cases h
    · rintro ⟨⟩

end LookupMonad

namespace Relation

variable {schema : Schema} {method found : Method}

/-- Read plainly, the inverse is what is looked up: nothing is remembered, and nothing is marked. -/
theorem inverse_plain (schema : Schema) (method : Method) :
    inverse (m := Except Error) schema method = schema.lookUpInverse method := by
  exact LookupMonad.lift_plain _

/-- An inverse is a method of the schema. -/
theorem mem_of_inverse (h : inverse (m := Except Error) schema method = .ok found) :
    found ∈ schema.methods := by
  rw [inverse_plain] at h
  exact Schema.mem_of_lookUpInverse h

end Relation

end EntitySchema
