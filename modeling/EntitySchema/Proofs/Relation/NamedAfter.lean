/-
Methods that are named after an entity.

A line that has nothing but the name of a method leaves everything to convention. If the name is
that of an entity, in the singular or in the plural, then convention answers with that entity: the
method returns it or many of it, its key is called after it, and if the entity has a single method
which is named after the owner in turn, that method is the inverse. What is asked of the inflection
of the name is `IsConventional`. Where the number of the method does not matter, both numbers are
treated at once: the singular of the name is the snake case of the entity either way.

`IsConventional` is about a single name and can be decided, so that a reader may try it on a name of
his own. Its clauses are the facts on inflection that the rest of the proof goes by; no rule of the
vocabulary is used besides, apart from the one that a plural of a name is a name. A name such as
`News`, which is its own plural, does not satisfy them: its two numbers cannot be told apart.

The way there and the way back are the two halves. From the name of a method to the entity: studly
case of its singular, which undoes snake case (`studly_snake`). From the entity to the method: the
plural and then the singular of the name of the owner are looked up among the methods, and then
those are looked for that return it; for an entity with one method the search ends at the names.
-/
import EntitySchema.Proofs.Naming.Plurals
import EntitySchema.Proofs.Relation.HasSides

set_option autoImplicit false

namespace EntitySchema

open Outcome

/-- A name in the singular whose inflection leads there and back: its snake case is a singular, the
plural of that is a plural, and the singular of the plural is what it was made from. -/
structure IsConventional (name : String) : Prop where
  studly : IsStudly name
  singular : isPlural name = false
  singular_snake : isPlural (snake name) = false
  plural : isPlural (pluralize (snake name)) = true
  singularize_plural : singularize (pluralize (snake name)) = snake name

instance (name : String) : Decidable (IsConventional name) :=
  decidable_of_iff (IsStudly name ∧ isPlural name = false ∧ isPlural (snake name) = false ∧
      isPlural (pluralize (snake name)) = true ∧
      singularize (pluralize (snake name)) = snake name)
    ⟨fun ⟨studly, singular, singular_snake, plural, back⟩ =>
        ⟨studly, singular, singular_snake, plural, back⟩,
      fun h => ⟨h.studly, h.singular, h.singular_snake, h.plural, h.singularize_plural⟩⟩

/-- A method of which nothing is given but a name, which is that of an entity in the singular or in
the plural. So its line is the name and a pair of parentheses. -/
structure Method.IsNamedAfter (method : Method) (name : String) : Prop where
  named : method.name = snake name ∨ method.name = pluralize (snake name)
  noType : method.declaredType = none
  noVia : method.via = none
  noPointer : method.inverseOf = none
  noJoin : method.join = none

/-! ## What such a method returns -/

namespace Method.IsNamedAfter

variable {method : Method} {name : String}

/-- No type is written, so convention gives it. -/
theorem writtenType?_eq (h : method.IsNamedAfter name) : method.writtenType? = none := by
  rw [writtenType?, h.noType]
  rfl

/-- The method goes by no other entity or column. -/
theorem viaName?_eq (h : method.IsNamedAfter name) : method.viaName? = none := by
  rw [viaName?, h.noVia]
  rfl

/-- Whether many are returned is told by the name. -/
theorem returnsMany_eq (h : method.IsNamedAfter name) :
    method.returnsMany = isPlural method.name := by
  rw [returnsMany, h.writtenType?_eq]

variable (hname : IsConventional name) (h : method.IsNamedAfter name)
include hname h

/-- The singular of the name is the snake case of the entity, in either number. -/
theorem singularize_name : singularize method.name = snake name := by
  rcases h.named with hnamed | hnamed
  · rw [hnamed, singularize_of_not_isPlural hname.singular_snake]
  · rw [hnamed, hname.singularize_plural]

/-- The method returns the entity, with the mark of an array if it is named in the plural. -/
theorem returnType_eq :
    method.returnType = if isPlural method.name then name ++ "[]" else name := by
  -- a name in the singular is its own singular, so one way back serves for both
  have hback : EntitySchema.studly (singularize method.name) = name := by
    rw [h.singularize_name hname, studly_snake hname.studly]
  rw [returnType, h.writtenType?_eq]
  dsimp only
  split
  · rw [hback]
  · next hsingular =>
    rw [← singularize_of_not_isPlural (Bool.eq_false_iff.2 hsingular), hback]

/-- Nothing in the return type is taken for the bar of a union. -/
theorem bar_not_mem_returnType : '|' ∉ method.returnType.toList := by
  have hchars : '|' ∉ name.toList := by
    intro hmem
    exact absurd (hname.studly.alphanumeric '|' hmem) (by decide)
  rw [h.returnType_eq hname]
  split
  · rw [String.toList_append, List.mem_append, not_or]
    exact ⟨hchars, by decide⟩
  · exact hchars

/-- Such a method is plain in the sense of `Relation.Plain`: nothing on its line says how the
relation is held. -/
theorem plain : Relation.Plain method := by
  refine ⟨?_, h.viaName?_eq, h.noJoin⟩
  rw [isPolymorphic, List.contains_eq_mem, decide_eq_false_iff_not]
  exact h.bar_not_mem_returnType hname

/-- What the method returns, one or many, is the entity. -/
theorem singleType_eq : method.singleType = name := by
  rw [singleType, h.returnType_eq hname]
  cases isPlural method.name with
  | true =>
    have harray : isArrayType (name ++ "[]") = true := by
      rw [isArrayType, String.toList_append, List.isSuffixOf_iff_suffix]
      exact List.suffix_append _ _
    simp [harray, String.toList_append]
  | false =>
    have hnot : isArrayType name = false := by
      rw [isArrayType, Bool.eq_false_iff]
      intro hsuffix
      have hmem := (List.isSuffixOf_iff_suffix.1 hsuffix).subset (List.mem_cons_self)
      exact absurd (hname.studly.alphanumeric '[' hmem) (by decide)
    simp [hnot]

/-- The name of the method can be read as one. In the plural this needs that inflection keeps the
characters of names. -/
theorem isName : IsName method.name.toList := by
  rcases h.named with hnamed | hnamed
  · rw [hnamed]
    exact hname.studly.isName_snake
  · rw [hnamed]
    exact hname.studly.isName_snake.pluralize hname.plural

/-- The key of the method is called after the entity. -/
theorem conventionalKey_eq : Relation.conventionalKey method = snake name ++ "_id" := by
  rw [Relation.conventionalKey, h.singularize_name hname]

/-- So its column is looked for under this name. -/
theorem hasConventionalColumn_eq (schema : Schema) :
    Relation.hasConventionalColumn schema method =
      (schema.owner method).hasField (snake name ++ "_id") := by
  rw [Relation.hasConventionalColumn, h.conventionalKey_eq hname]

/-- A name in the plural returns many. -/
theorem returnsMany_of_plural (hnamed : method.name = pluralize (snake name)) :
    method.returnsMany = true := by
  rw [h.returnsMany_eq, hnamed, hname.plural]

/-- A name in the singular returns one. -/
theorem returnsMany_of_singular (hnamed : method.name = snake name) :
    method.returnsMany = false := by
  rw [h.returnsMany_eq, hnamed, hname.singular_snake]

end Method.IsNamedAfter

/-- The two numbers of the name differ, so that a method has one of them and not both. -/
theorem IsConventional.plural_ne {name : String} (h : IsConventional name) :
    pluralize (snake name) ≠ snake name := by
  intro heq
  have hplural := h.plural
  rw [heq, h.singular_snake] at hplural
  cases hplural

/-! ## Names of entities -/

/-- A name without a backslash is that of an entity only if it is its short name: the full name
holds a namespace. -/
theorem Entity.isNamed_eq {entity : Entity} {name : String} (hname : '\\' ∉ name.toList)
    (hnamespace : '\\' ∈ entity.namespaceName.toList) :
    entity.isNamed name = (name == entity.shortName) := by
  have hfull : name ≠ entity.fullName := by
    rintro rfl
    rw [fullName, String.toList_append, List.mem_append, not_or] at hname
    exact hname.1 hnamespace
  simp [isNamed, hfull, hname]

/-- Every namespace begins with a backslash, and so every full name has one. -/
theorem backslash_mem_normalizeNamespace (name : String) :
    '\\' ∈ (normalizeNamespace name).toList := by
  rw [normalizeNamespace, String.toList_ofList]
  exact List.mem_append_left _ List.mem_cons_self

/-! ## The way back -/

namespace Schema

variable {schema : Schema} {method inverse : Method} {name : String}

/-- An entity with one method, which is named after another entity, looks back by it. The search by
names comes first, and either name is found by it. -/
theorem backMethod?_of_isNamedAfter {other : Entity} (hname : IsConventional name)
    (h : inverse.IsNamedAfter name) (honly : other.methods = [inverse]) :
    backMethod? other name = some inverse := by
  -- the plural and then the singular are asked for, and the method has one of these names
  have hfind : ∀ asked : String,
      other.findMethod? asked = if inverse.name = asked then some inverse else none := by
    intro asked
    rw [Entity.findMethod?, honly, List.find?_singleton]
    simp
  simp only [backMethod?, hfind, singularize_of_not_isPlural hname.singular_snake]
  rcases h.named with hnamed | hnamed
  · simp [hnamed, Ne.symm hname.plural_ne]
  · simp [hnamed]

/-- **The inverse by convention.** A method that is named after an entity is answered by the single
method of that entity, if that is named after the owner of the first. -/
theorem lookUpInverse_of_isNamedAfter (hname : IsConventional name)
    (h : method.IsNamedAfter name) {other : Entity}
    (hother : schema.findEntity name = .ok (some other))
    (hback : backMethod? other (schema.owner method).shortName = some inverse) :
    schema.lookUpInverse method = .ok inverse := by
  have hguess : schema.otherSideName method = .ok name := by
    rw [otherSideName, entityBetween, h.viaName?_eq, ok_bind, h.singleType_eq hname, hother,
      ok_bind]
    rfl
  rw [lookUpInverse, h.noPointer, Option.filter_none]
  dsimp only
  rw [hguess, ok_bind, hother, ok_bind]
  dsimp only
  rw [hback]
  rfl

end Schema

end EntitySchema
