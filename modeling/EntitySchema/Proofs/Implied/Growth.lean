/-
Growth of a schema.

The implied fields are added one after the other, and the rules are asked in between. `Grows`
relates an earlier schema to a later one: the outline is the same, no field is lost, every new field
is implied, and the primary keys of an entity only change once, from nothing to `id`. It is
reflexive and transitive, and every step of the work is an instance of it, so that any two moments
of the work are related by it.

The last clause is the delicate one. An entity `LacksKey` while it has neither a primary key nor a
field `id`, and then the answers about it are provisional: they are given before the implied `id` is
there. As soon as the turn of an entity has come it is settled, and from then on its primary keys
are what they will be in the end. The clause is stated as a disjunction and not as an equation
because the entities have their turns one after the other: at the turn of an early entity the later
ones may still lack a key, and a rule that looks at one of them gets an answer that may be taken
back.

The file has three parts. The first is about one entity, the second about a schema, and there all
the steps of `Implied.Steps` are shown to be growth. The third lists the answers that stay: whatever
hangs on the outline alone, the inverse, the joins and the name of a foreign key, is answered in the
later schema as in the earlier one. The answers that need not stay, which are whether a column
exists and which kind a relation has, are the subject of `Implied.Kinds`.

To see that the relation is not too wide, a reader may look at `eq_of_fields_eq` and `antisymm`.
They say that growth which adds no field changes nothing at all, and that growth in both directions
is equality. The question whether a second run adds anything is answered through them.
-/
import EntitySchema.Proofs.Implied.Outline

set_option autoImplicit false

namespace EntitySchema

open Outcome

/-! ## Growth of an entity -/

namespace Entity

/-- Whether an entity has neither a primary key nor a field `id`. These are just the entities that
are given an implied primary key. -/
def LacksKey (entity : Entity) : Prop :=
  entity.primaryKeys = [] ∧ entity.hasField "id" = false

/-- The fields that some line declares. Growth leaves them as they are. -/
def declaredFields (entity : Entity) : List Field := entity.fields.filter (!·.implied)

/-- What an entity may have become while implied fields were added. The fields are a sublist and not
a prefix, since the implied primary key is put in front. -/
structure Grows (before after : Entity) : Prop where
  outline_eq : after.outline = before.outline
  fields : before.fields.Sublist after.fields
  declared_eq : after.declaredFields = before.declaredFields
  primaryKeys : after.primaryKeys = before.primaryKeys ∨
    before.LacksKey ∧ after.primaryKeys = ["id"]

variable {entity before middle after : Entity} {name : String}

/-- A column is there if and only if a field has its name. -/
theorem hasField_iff :
    entity.hasField name = true ↔ ∃ field ∈ entity.fields, field.name = name := by
  rw [hasField, List.contains_iff_mem, fieldNames, List.mem_map]

namespace Grows

/-- An entity to which nothing happened. -/
theorem refl (entity : Entity) : entity.Grows entity :=
  ⟨rfl, List.Sublist.refl _, rfl, .inl rfl⟩

/-- No column is lost. So a foreign key that was there is there at the end. -/
theorem hasField (h : before.Grows after) (hname : before.hasField name = true) :
    after.hasField name = true := by
  obtain ⟨field, hfield, hname⟩ := hasField_iff.1 hname
  exact hasField_iff.2 ⟨field, h.fields.subset hfield, hname⟩

/-- An entity that lacks a key lacked it before. In the other direction this fails, and that is why
answers can change. -/
theorem lacksKey (h : before.Grows after) (hlacks : after.LacksKey) : before.LacksKey := by
  rcases h.primaryKeys with heq | ⟨hbefore, -⟩
  · refine ⟨by rw [← heq]; exact hlacks.1, ?_⟩
    cases hid : before.hasField "id" with
    | false => rfl
    | true => rw [← h.hasField hid, hlacks.2]
  · exact hbefore

/-- Growth in two steps. The first three clauses compose one by one, the primary keys need an
argument. -/
theorem trans (h : before.Grows middle) (h' : middle.Grows after) : before.Grows after := by
  refine ⟨h'.outline_eq.trans h.outline_eq, h.fields.trans h'.fields,
    h'.declared_eq.trans h.declared_eq, ?_⟩
  -- the primary keys change at most once, since whoever lacks a key in between lacked it before
  rcases h'.primaryKeys with heq | ⟨hmiddle, hid⟩
  · rw [heq]
    exact h.primaryKeys
  · exact .inr ⟨h.lacksKey hmiddle, hid⟩

/-- The primary keys of an entity that does not lack a key stay as they are. This is the form in
which the last clause of `Grows` is used: after the turn of an entity its keys can be relied on. -/
theorem primaryKeys_eq (h : before.Grows after) (hkey : ¬ before.LacksKey) :
    after.primaryKeys = before.primaryKeys := by
  rcases h.primaryKeys with heq | ⟨hbefore, -⟩
  · exact heq
  · exact absurd hbefore hkey

/-- Growth that ends with the same fields has not begun. All else belongs to the outline. -/
theorem eq_of_fields_eq (h : before.Grows after) (heq : after.fields = before.fields) :
    after = before := by
  have houtline : after.outline = before.outline := h.outline_eq
  cases before
  cases after
  simp only [outline, Entity.mk.injEq] at houtline
  simp only [Entity.mk.injEq]
  exact ⟨houtline.1, houtline.2.1, houtline.2.2.1, houtline.2.2.2.1, heq, houtline.2.2.2.2.2⟩

/-- A field that is implied and no primary key may be added at the end. The columns of the methods
are of this kind. -/
theorem addField (entity : Entity) {field : Field} (himplied : field.implied = true)
    (hkey : field.primaryKey = false) : entity.Grows (entity.addField field) := by
  refine ⟨rfl, List.sublist_append_left _ _, ?_, .inl ?_⟩
  · simp [declaredFields, Entity.addField, List.filter_append, himplied]
  · simp [Entity.primaryKeys, Entity.addField, List.filter_append, hkey]

/-- The implied primary key `id` may be added to an entity that lacks a key. It is here that the
primary keys change. -/
theorem prependField {field : Field} (hlacks : entity.LacksKey)
    (himplied : field.implied = true) (hkey : field.primaryKey = true)
    (hname : field.name = "id") : entity.Grows (entity.prependField field) := by
  have hnone : entity.fields.filter (·.primaryKey) = [] := List.map_eq_nil_iff.1 hlacks.1
  refine ⟨rfl, List.sublist_cons_self _ _, ?_, .inr ⟨hlacks, ?_⟩⟩
  · simp [declaredFields, Entity.prependField, himplied]
  · simp [Entity.primaryKeys, Entity.prependField, hkey, hname, hnone]

end Grows

end Entity

/-! ## Growth of a schema -/

namespace Schema

/-- What a schema may have become while implied fields were added. Entities are compared by their
places; where there is none, both sides are the default. -/
structure Grows (before after : Schema) : Prop where
  outline_eq : after.outline = before.outline
  entity : ∀ place,
    ((before.entityAt? place).getD default).Grows ((after.entityAt? place).getD default)

variable {schema before middle after : Schema} {method : Method}

namespace Grows

/-- A schema to which nothing happened. -/
theorem refl (schema : Schema) : schema.Grows schema := ⟨rfl, fun _ => .refl _⟩

/-- Growth in two steps, entity by entity. -/
theorem trans (h : before.Grows middle) (h' : middle.Grows after) : before.Grows after :=
  ⟨h'.outline_eq.trans h.outline_eq, fun place => (h.entity place).trans (h'.entity place)⟩

/-- Entities are neither added nor lost. -/
theorem length_eq (h : before.Grows after) : after.entities.length = before.entities.length := by
  have hlength := congrArg (·.entities.length) h.outline_eq
  simpa only [outline, List.length_map] using hlength

/-- Items count to the same places as before. This is for items without an owner, which count to the
last entity: there are as many entities as there were. -/
theorem placeOf_eq (h : before.Grows after) (owner? : Option Nat) :
    after.placeOf owner? = before.placeOf owner? :=
  Schema.placeOf_eq h.length_eq owner?

/-- The owner of a method grows. It is looked for at the same place, also if the method was added
to no entity and counts to the last one. -/
theorem owner (h : before.Grows after) (method : Method) :
    (before.owner method).Grows (after.owner method) := by
  rw [Schema.owner, Schema.owner, entityOf?, entityOf?, h.placeOf_eq]
  exact h.entity _

/-- The entity at a place grows. The outlines say that there is an entity at this place later. -/
theorem exists_entityAt? (h : before.Grows after) {place : Nat} {entity : Entity}
    (hat : before.entityAt? place = some entity) :
    ∃ grown, after.entityAt? place = some grown ∧ entity.Grows grown := by
  have hgrown := h.entity place
  have houtline := congrArg (·.entityAt? place) h.outline_eq
  simp only [entityAt?_outline, hat, Option.map_some] at houtline
  obtain ⟨grown, hat', -⟩ := Option.map_eq_some_iff.1 houtline
  rw [hat, hat'] at hgrown
  exact ⟨grown, hat', hgrown⟩

/-- No entity is new. A proof about the entities of a finished schema begins with this, to go back
to the entity that was read. -/
theorem exists_entityAt?_before (h : before.Grows after) {place : Nat} {grown : Entity}
    (hat : after.entityAt? place = some grown) :
    ∃ entity, before.entityAt? place = some entity ∧ entity.Grows grown := by
  have houtline := congrArg (·.entityAt? place) h.outline_eq
  simp only [entityAt?_outline, hat, Option.map_some] at houtline
  obtain ⟨entity, hat', -⟩ := Option.map_eq_some_iff.1 houtline.symm
  obtain ⟨other, hother, hgrows⟩ := h.exists_entityAt? hat'
  obtain rfl : other = grown := Option.some.inj (hother.symm.trans hat)
  exact ⟨entity, hat', hgrows⟩

/-- Methods are neither added nor lost, and none is changed: a method of the finished schema is one
of the document. -/
theorem methods_eq (h : before.Grows after) : after.methods = before.methods := by
  rw [← methods_outline after, h.outline_eq, methods_outline]

/-- Growth that ends with the same fields has not begun. This lifts the statement about one entity
to the list of them, which is as long as before. -/
theorem eq_of_fields_eq (h : before.Grows after)
    (heq : after.entities.map (·.fields) = before.entities.map (·.fields)) : after = before := by
  have hentities : after.entities = before.entities := by
    refine List.ext_getElem? fun place => ?_
    cases hat : before.entityAt? place with
    | none =>
      have hlength := h.length_eq
      rw [entityAt?, List.getElem?_eq_none_iff] at hat
      rw [List.getElem?_eq_none_iff.2 hat, List.getElem?_eq_none_iff.2 (by omega)]
    | some entity =>
      obtain ⟨grown, hat', hgrows⟩ := h.exists_entityAt? hat
      rw [entityAt?] at hat hat'
      have hfields := congrArg (·[place]?) heq
      simp only [List.getElem?_map, hat, hat', Option.map_some, Option.some.injEq] at hfields
      rw [hat, hat', hgrows.eq_of_fields_eq hfields]
  have houtline := h.outline_eq
  cases before
  cases after
  simp only [outline, Schema.mk.injEq] at houtline
  simp only [Schema.mk.injEq]
  exact ⟨houtline.1, hentities, houtline.2.2.1, houtline.2.2.2⟩

/-- Growth that is taken back has not begun. It is enough that the fields are sublists of each
other, since then they are equal. -/
theorem antisymm (h : before.Grows after) (h' : after.Grows before) : after = before := by
  refine h.eq_of_fields_eq (List.ext_getElem? fun place => ?_)
  simp only [List.getElem?_map]
  cases hat : before.entityAt? place with
  | none =>
    have hlength := h.length_eq
    rw [entityAt?, List.getElem?_eq_none_iff] at hat
    rw [List.getElem?_eq_none_iff.2 hat, List.getElem?_eq_none_iff.2 (by omega)]
  | some entity =>
    obtain ⟨grown, hgrown, hgrows⟩ := h.exists_entityAt? hat
    obtain ⟨again, hagain, hgrows'⟩ := h'.exists_entityAt? hgrown
    -- each list of fields is a sublist of the other, so they are equally long
    obtain rfl : again = entity := Option.some.inj (hagain.symm.trans hat)
    rw [entityAt?] at hat hgrown
    rw [hat, hgrown, Option.map_some, Option.map_some,
      hgrows'.fields.eq_of_length_le hgrows.fields.length_le]

end Grows

/-- A change of one entity that leaves its outline leaves that of the schema. -/
theorem outline_modifyEntity (schema : Schema) (index : Nat) {change : Entity → Entity}
    (hchange : ∀ entity, (change entity).outline = entity.outline) :
    (schema.modifyEntity index change).outline = schema.outline := by
  rw [outline, outline, map_modifyEntity Entity.outline schema index hchange]
  rfl

/-- A change that makes an entity grow, whichever it is, makes the schema grow. -/
theorem grows_modifyEntity (schema : Schema) (index : Nat) {change : Entity → Entity}
    (hchange : ∀ entity : Entity, entity.Grows (change entity)) :
    schema.Grows (schema.modifyEntity index change) := by
  refine ⟨outline_modifyEntity schema index fun entity => (hchange entity).outline_eq, ?_⟩
  intro place
  rw [entityAt?_modifyEntity]
  split
  · cases schema.entityAt? place with
    | none => exact .refl _
    | some entity => exact hchange entity
  · exact .refl _

/-! ## Every step is growth -/

/-- Adding a column is growth, also if it is there already and nothing is added. -/
theorem grows_addImplied (schema : Schema) (index : Nat) (name type : String) :
    schema.Grows (schema.addImplied index name type) := by
  refine grows_modifyEntity schema index fun entity => ?_
  split
  · exact .refl _
  · exact .addField _ rfl rfl

/-- The same for a column that is added to the owner of a method. -/
theorem grows_addImpliedOf (schema : Schema) (method : Method) (name type : String) :
    schema.Grows (schema.addImpliedOf method name type) :=
  grows_addImplied schema _ name type

/-- Adding the implied primary key is growth. The test of the step is `LacksKey`, in the form of a
`Bool`. -/
theorem grows_addPrimaryKey (schema : Schema) (index : Nat) :
    schema.Grows (schema.addPrimaryKey index) := by
  refine grows_modifyEntity schema index fun entity => ?_
  split
  · next hlacks =>
    rw [Bool.and_eq_true, List.isEmpty_iff, Bool.not_eq_true'] at hlacks
    exact .prependField hlacks rfl rfl rfl
  · exact .refl _

/-- The steps of a method are growth. These are instances of the inductions in `Implied.Steps`, with
growth from the schema at the start as the property. -/
theorem grows_addViaColumn (h : schema.addViaColumn method = .ok after) : schema.Grows after :=
  addViaColumn_induction (P := fun reached => schema.Grows reached)
    (fun _ _ _ _ hgrows => hgrows.trans (grows_addImplied _ _ _ _)) (.refl _) h

theorem grows_addJoinKey (h : schema.addJoinKey method = .ok after) : schema.Grows after :=
  addJoinKey_induction (P := fun reached => schema.Grows reached)
    (fun _ _ _ _ hgrows => hgrows.trans (grows_addImplied _ _ _ _)) (.refl _) h

theorem grows_addMorphFields (schema : Schema) (method : Method) :
    schema.Grows (schema.addMorphFields method) :=
  addMorphFields_induction (P := fun reached => schema.Grows reached)
    (fun _ _ _ _ hgrows => hgrows.trans (grows_addImplied _ _ _ _)) (.refl _)

theorem grows_addForeignKey (h : schema.addForeignKey method = .ok after) : schema.Grows after :=
  addForeignKey_induction (P := fun reached => schema.Grows reached)
    (fun _ _ _ _ hgrows => hgrows.trans (grows_addImplied _ _ _ _)) (.refl _) h

/-- The turn of a method is growth. -/
theorem grows_addMethodFields (h : schema.addMethodFields method = .ok after) :
    schema.Grows after :=
  addMethodFields_induction (P := fun reached => schema.Grows reached)
    (fun _ _ _ _ hgrows => hgrows.trans (grows_addImplied _ _ _ _)) (.refl _) h

/-- The turn of an entity is growth. -/
theorem grows_addEntityFields {index : Nat} (h : schema.addEntityFields index = .ok after) :
    schema.Grows after :=
  addEntityFields_induction (P := fun reached => schema.Grows reached)
    (fun _ _ _ _ hgrows => hgrows.trans (grows_addImplied _ _ _ _))
    (fun _ _ hgrows => hgrows.trans (grows_addPrimaryKey _ _)) (.refl _) h

/-- **Adding the implied fields is growth.** What was read is related to what is finished by this,
and by transitivity each moment of the work to each later one. -/
theorem grows_addImpliedFields (h : schema.addImpliedFields = .ok after) : schema.Grows after :=
  addImpliedFields_induction (P := fun reached => schema.Grows reached)
    (fun _ _ _ _ hgrows => hgrows.trans (grows_addImplied _ _ _ _))
    (fun _ _ hgrows => hgrows.trans (grows_addPrimaryKey _ _)) (.refl _) h

/-! ## Answers that stay

Each answer below is one that the outline determines, so it is carried over by going to the outline
and back. The answers are equal as outcomes: a question that failed earlier fails later, and with
the same error. -/

namespace Grows

variable (h : before.Grows after) (method : Method)

include h

/-- Whether `via` names a column hangs on the names of the entities, and these stay. -/
theorem goesViaColumn_eq : after.goesViaColumn method = before.goesViaColumn method := by
  rw [← goesViaColumn_outline after, h.outline_eq, goesViaColumn_outline]

/-- The inverse of a method stays what it was, although inverses are looked up again each time. -/
theorem inverse_eq :
    Relation.inverse (m := Except Error) after method = Relation.inverse before method := by
  rw [← Relation.inverse_outline after, h.outline_eq, Relation.inverse_outline]

theorem isJoinedByPivot_eq :
    Relation.isJoinedByPivot (m := Except Error) after method =
      Relation.isJoinedByPivot before method := by
  rw [← Relation.isJoinedByPivot_outline after, h.outline_eq, Relation.isJoinedByPivot_outline]

/-- The column that a join mentions of the owner. Whether it is a key of the owner may change. -/
theorem ownJoinColumn_eq :
    Relation.ownJoinColumn (m := Except Error) after method =
      Relation.ownJoinColumn before method := by
  rw [← Relation.ownJoinColumn_outline after, h.outline_eq, Relation.ownJoinColumn_outline]

/-- The column that a join mentions of an entity with a given name. -/
theorem joinKeyIn_eq (shortName : String) :
    Relation.joinKeyIn (m := Except Error) after method shortName =
      Relation.joinKeyIn before method shortName := by
  rw [← Relation.joinKeyIn_outline after, h.outline_eq, Relation.joinKeyIn_outline]

/-- The name of a foreign key stays. Only because of this can one say that a foreign key is there
later: the column is asked for by the same name. -/
theorem foreignKeyName_eq :
    Relation.foreignKeyName (m := Except Error) after method =
      Relation.foreignKeyName before method := by
  rw [← Relation.foreignKeyName_outline after, h.outline_eq, Relation.foreignKeyName_outline]

/-- Growing entities keep their names. -/
theorem shortName_eq : (after.owner method).shortName = (before.owner method).shortName := by
  have houtline := congrArg (·.owner method) h.outline_eq
  simp only [owner_outline] at houtline
  exact congrArg (·.shortName) houtline

end Grows

end Schema

end EntitySchema
