/-
What names identify.

Pointers, foreign keys and the comparison with a database all find entities, fields and methods by
their names. A name leads back to what bears it exactly if nothing else bears it, and reading a
document does not see to that: `Schema.addEntity` asks for the table of an entity and not for its
name, and a field or a method is added whatever is there. So two lines may give two entities one
full name, or one entity two fields of one name. `Schema.namesIdentify_iff` says that nothing else
goes wrong.

For entities this is more than it seems, since a name is compared in three ways: with the short
name, with the full name, and with the full name after its backslashes have been counted anew. That
the last two come to the same for the full name of an entity hangs on how namespaces are normalized
(`Entity.IsSpelled`), and this is an invariant of reading: `Document.isSpelled_declare` is its step,
`Schema.isSpelled_of_parse` its run.

For fields the work is in the implied ones, each of which is new when it is added; a field that is
found in the place of another is always one that a line declares. So the condition for fields can be
stated of the declared ones alone, which are those that the author of a document sees.

Methods are told apart by their place in the schema and never repeated, and entities by their table.
Fields may be equal in all that is stored of them, so what is asked of a field is that its name
leads to its place. With items that are not repeated, being found by name and having a name of one's
own are the same (`nodup_map_iff_find?`); with places the same holds without that condition
(`nodup_map_iff_findIdx?`).
-/
import EntitySchema.Proofs.Implied.Justified
import EntitySchema.Proofs.Naming.Namespaces
import Mathlib.Data.List.TakeWhile

set_option autoImplicit false

namespace EntitySchema

open Outcome

/-! ## Full names -/

/-- An entity as reading gives it: its short name is cut at backslashes, and its namespace is
normalized. -/
structure Entity.IsSpelled (entity : Entity) : Prop where
  shortName : '\\' ∉ entity.shortName.toList
  namespaceName : ∃ name, entity.namespaceName = normalizeNamespace name

namespace Entity.IsSpelled

variable {entity other : Entity}

/-- The full name, cut in front of the short one. What stands before it is a namespace between
backslashes, of which the inner part does not start with one. -/
theorem exists_fullName_eq (h : entity.IsSpelled) :
    ∃ inner, inner.head? ≠ some '\\' ∧
      entity.fullName.toList = '\\' :: (inner ++ '\\' :: entity.shortName.toList) := by
  obtain ⟨name, hname⟩ := h.namespaceName
  refine ⟨Naming.strip '\\' name.toList, Naming.head?_strip_ne _ _, ?_⟩
  rw [fullName, hname, String.toList_append, normalizeNamespace, String.toList_ofList]
  simp

/-- Counting the backslashes of a full name anew gives no other full name. One backslash is left in
front, which is how a full name starts; in the namespace without a name two would be needed. -/
theorem fullName_eq_of_dropWhile (h : entity.IsSpelled) (hother : other.IsSpelled)
    (heq : '\\' :: entity.fullName.toList.dropWhile (· == '\\') = other.fullName.toList) :
    other.fullName = entity.fullName := by
  obtain ⟨inner, hinner, hfull⟩ := h.exists_fullName_eq
  obtain ⟨otherInner, -, hotherFull⟩ := hother.exists_fullName_eq
  rw [← String.toList_inj, ← heq, hfull]
  cases inner with
  | cons c inner =>
    have hc : (c == '\\') = false := by
      rw [beq_eq_false_iff_ne]
      exact fun hc => hinner (congrArg some hc)
    simp [hc]
  | nil =>
    -- only one backslash would be left in front, and every full name has a second one
    have hshort : entity.shortName.toList.dropWhile (· == '\\') = entity.shortName.toList :=
      Naming.dropWhile_eq_self fun hc => h.shortName (List.mem_of_mem_head? hc)
    rw [hfull, hotherFull] at heq
    simp only [List.nil_append, List.dropWhile_cons, beq_self_eq_true, if_true, hshort] at heq
    have hmem : '\\' ∈ entity.shortName.toList := by
      rw [(List.cons.inj heq).2]
      simp
    exact absurd hmem h.shortName

/-- An entity bears the full name of another one exactly if that is its own full name. A short name
is never a full one, since it holds no backslash. -/
theorem isNamed_fullName_iff (h : entity.IsSpelled) (hother : other.IsSpelled) :
    other.isNamed entity.fullName = true ↔ other.fullName = entity.fullName := by
  have hne : entity.fullName ≠ other.shortName := by
    obtain ⟨inner, -, hfull⟩ := h.exists_fullName_eq
    intro heq
    refine hother.shortName ?_
    rw [← heq, hfull]
    exact List.mem_cons_self
  rw [isNamed, Bool.or_eq_true, Bool.or_eq_true, beq_iff_eq, beq_iff_eq, Bool.and_eq_true,
    beq_iff_eq]
  constructor
  · rintro ((hshort | hfull) | ⟨-, hcounted⟩)
    · exact absurd hshort hne
    · exact hfull.symm
    · exact h.fullName_eq_of_dropWhile hother hcounted
  · exact fun heq => .inl (.inr heq.symm)

end Entity.IsSpelled

/-- The entity of a line is spelled as reading gives it: the short name is what stands behind the
last backslash, and whatever stands before it is normalized. -/
theorem EntityLine.isSpelled_toEntity {line : EntityLine} {name : String} {entity : Entity}
    (h : line.toEntity name = .ok entity) : entity.IsSpelled := by
  simp only [toEntity] at h
  split at h
  · cases h
  obtain rfl := Except.ok.inj h
  refine ⟨?_, _, rfl⟩
  -- what stands after the last backslash holds none
  simp only [nameParts]
  split
  · rw [String.toList_ofList, List.mem_reverse]
    intro hmem
    simpa using List.mem_takeWhile_imp hmem
  · next hplain => simpa [holdsNamespace] using hplain

/-- Every entity is spelled as reading gives it. -/
def Schema.IsSpelled (schema : Schema) : Prop := ∀ entity ∈ schema.entities, entity.IsSpelled

namespace Document

variable {document after : Document} {declaration : Declaration}

/-- A change that leaves the names of an entity alone leaves all entities spelled as they are. -/
theorem isSpelled_modifyCurrent {change : Entity → Entity} (h : document.schema.IsSpelled)
    (hchange : ∀ entity : Entity, entity.IsSpelled → (change entity).IsSpelled) :
    (document.modifyCurrent change).schema.IsSpelled := by
  rw [modifyCurrent]
  split
  · exact h
  · intro entity hentity
    rcases Schema.mem_entities_of_modifyEntity hentity with hold | ⟨before, hbefore, rfl⟩
    · exact h entity hold
    · exact hchange before (h before hbefore)

/-- No declaration spells an entity otherwise. One case each; only an entity line adds an entity,
and the others change one at most in its fields, methods and commands. -/
theorem isSpelled_declare (h : document.schema.IsSpelled)
    (hafter : document.declare declaration = .ok after) : after.schema.IsSpelled := by
  cases declaration with
  | ofDefault line => exact Except.ok.inj hafter ▸ h
  | ofNamespace line => exact Except.ok.inj hafter ▸ h
  | ofEntity line =>
    obtain ⟨entity, schema, hentity, hschema, rfl⟩ := exists_of_declare_ofEntity hafter
    obtain ⟨-, rfl⟩ := Schema.addEntity_eq_ok.1 hschema
    intro other hother
    rcases List.mem_append.1 hother with hold | hnew
    · exact h other hold
    · have hspelled := EntityLine.isSpelled_toEntity hentity
      obtain rfl := List.mem_singleton.1 hnew
      exact ⟨hspelled.shortName, hspelled.namespaceName⟩
  | ofField line =>
    exact Except.ok.inj hafter ▸ isSpelled_modifyCurrent h fun _ h => ⟨h.shortName, h.namespaceName⟩
  | ofMethod line =>
    exact Except.ok.inj hafter ▸ isSpelled_modifyCurrent h fun _ h => ⟨h.shortName, h.namespaceName⟩
  | ofAlter line =>
    exact Except.ok.inj hafter ▸ isSpelled_modifyCurrent h fun _ h => ⟨h.shortName, h.namespaceName⟩

end Document

namespace Schema

variable {schema : Schema} {config : Config} {text : String}

/-- **Every entity of a document is spelled as reading gives it.** By induction over the lines, and
then through the implied fields, which change no entity but in its fields. -/
theorem isSpelled_of_parse (hparse : parse config text = .ok schema) : schema.IsSpelled := by
  obtain ⟨document, hread, himplied⟩ := parse_eq_ok.1 hparse
  have hspelled : document.schema.IsSpelled :=
    Document.readText_induction (P := fun document => document.schema.IsSpelled)
      (fun _ hmem => nomatch hmem) (fun _ _ _ hbefore hafter =>
        Document.isSpelled_declare hbefore hafter) hread
  intro entity hentity
  obtain ⟨place, hat⟩ := exists_entityAt?_of_mem hentity
  obtain ⟨before, hbefore, hgrown⟩ := (grows_addImpliedFields himplied).exists_entityAt?_before hat
  obtain ⟨hshort, name, hname⟩ := hspelled before (mem_entities_of_entityAt? hbefore)
  have hshortName : entity.shortName = before.shortName :=
    congrArg (·.shortName) hgrown.outline_eq
  have hnamespaceName : entity.namespaceName = before.namespaceName :=
    congrArg (·.namespaceName) hgrown.outline_eq
  exact ⟨hshortName ▸ hshort, name, hnamespaceName.trans hname⟩

end Schema

/-! ## Found by name -/

section Found

variable {α : Type} {key : α → String} {items : List α}

/-- Keys tell apart the places of a list exactly if each place is the first one with its key.
Nothing is asked of the items, which may be repeated. -/
theorem nodup_map_iff_findIdx? :
    (items.map key).Nodup ↔ ∀ place item, items[place]? = some item →
      items.findIdx? (key · == key item) = some place := by
  rw [List.Nodup, List.pairwise_map, List.pairwise_iff_getElem]
  constructor
  · intro hkeys place item hitem
    obtain ⟨hplace, rfl⟩ := List.getElem?_eq_some_iff.1 hitem
    rw [List.findIdx?_eq_some_iff_getElem]
    refine ⟨hplace, beq_self_eq_true _, ?_⟩
    intro before hbefore
    rw [beq_iff_eq]
    exact hkeys before place _ hplace hbefore
  · intro hfirst before place hbefore hplace hlt
    obtain ⟨_, -, hnone⟩ := List.findIdx?_eq_some_iff_getElem.1
      (hfirst place _ (List.getElem?_eq_getElem hplace))
    have hne := hnone before hlt
    rwa [beq_iff_eq] at hne

/-- Keys tell apart items, none of which is repeated, exactly if each is found by its key. -/
theorem nodup_map_iff_find? (hitems : items.Nodup) :
    (items.map key).Nodup ↔ ∀ item ∈ items, items.find? (key · == key item) = some item := by
  constructor
  · intro hkeys item hitem
    cases hfound : items.find? (key · == key item) with
    | none => exact absurd (List.find?_eq_none.1 hfound item hitem) (by simp)
    | some other =>
      have hkey : key other = key item := by simpa using List.find?_some hfound
      rw [List.inj_on_of_nodup_map hkeys (List.mem_of_find?_eq_some hfound) hitem hkey]
  · intro hfound
    refine hitems.map_on ?_
    intro item hitem other hother hkey
    have hsame := hfound item hitem
    rw [hkey, hfound other hother] at hsame
    exact (Option.some.inj hsame).symm

end Found

namespace Entity

/-- The names of an entity lead back to what bears them. A field is told from its like by its place
alone, so what is asked is that its name leads there. -/
structure NamesIdentify (entity : Entity) : Prop where
  field : ∀ place field, entity.fields[place]? = some field →
    entity.getField field.name = .ok field ∧
      entity.fields.findIdx? (·.name == field.name) = some place
  method : ∀ method ∈ entity.methods, entity.getMethod method.name = .ok method

variable {entity : Entity} {field : Field} {method : Method}

/-- A field is found by name if it is the first one of that name. -/
theorem getField_eq_ok {name : String} :
    entity.getField name = .ok field ↔ entity.fields.find? (·.name == name) = some field := by
  rw [getField, findField?]
  cases entity.fields.find? (·.name == name) with
  | none => simp
  | some other => simp

/-- A method is found by name if it is the first one of that name. -/
theorem getMethod_eq_ok {name : String} :
    entity.getMethod name = .ok method ↔ entity.methods.find? (·.name == name) = some method := by
  rw [getMethod, findMethod?]
  cases entity.methods.find? (·.name == name) with
  | none => simp
  | some other => simp

/-- The names of an entity lead back to what bears them exactly if no field shares its name with
another one, and no method does. -/
theorem namesIdentify_iff_nodup (hmethods : entity.methods.Nodup) :
    entity.NamesIdentify ↔
      (entity.fields.map (·.name)).Nodup ∧ (entity.methods.map (·.name)).Nodup := by
  constructor
  · intro h
    refine ⟨nodup_map_iff_findIdx?.2 fun place field hat => (h.field place field hat).2, ?_⟩
    exact (nodup_map_iff_find? hmethods).2 fun method hmethod =>
      getMethod_eq_ok.1 (h.method method hmethod)
  · rintro ⟨hfieldNames, hmethodNames⟩
    refine ⟨?_, fun method hmethod =>
      getMethod_eq_ok.2 ((nodup_map_iff_find? hmethods).1 hmethodNames method hmethod)⟩
    intro place field hat
    have hplace := nodup_map_iff_findIdx?.1 hfieldNames place field hat
    obtain ⟨hlt, rfl⟩ := List.getElem?_eq_some_iff.1 hat
    obtain ⟨_, hname, hnone⟩ := List.findIdx?_eq_some_iff_getElem.1 hplace
    refine ⟨getField_eq_ok.2 ?_, hplace⟩
    exact List.find?_eq_some_iff_getElem.2 ⟨hname, place, hlt, rfl, fun before hbefore => by
      simpa using hnone before hbefore⟩

end Entity

namespace Schema

variable {schema : Schema} {config : Config} {text : String}

/-- A full name leads to its entity exactly if no other entity bears it. No two entities of a placed
schema are equal, since they differ in their tables, so there is no more than one to be found. -/
theorem findEntity_fullName_iff (hspelled : schema.IsSpelled) (hplaced : schema.IsPlaced)
    {entity : Entity} (hentity : entity ∈ schema.entities) :
    schema.findEntity entity.fullName = .ok (some entity) ↔
      ∀ other ∈ schema.entities, other.fullName = entity.fullName → other = entity := by
  have hnamed : ∀ other ∈ schema.entities,
      (other.isNamed entity.fullName = true ↔ other.fullName = entity.fullName) :=
    fun other hother => (hspelled entity hentity).isNamed_fullName_iff (hspelled other hother)
  have hself : entity ∈ schema.entities.filter (·.isNamed entity.fullName) :=
    List.mem_filter.2 ⟨hentity, (hnamed entity hentity).2 rfl⟩
  constructor
  · intro hfound other hother hname
    have hmem : other ∈ schema.entities.filter (·.isNamed entity.fullName) :=
      List.mem_filter.2 ⟨hother, (hnamed other hother).2 hname⟩
    rw [findEntity] at hfound
    split at hfound
    · cases hfound
    · next hone =>
      rw [hone] at hmem hself
      rw [List.mem_singleton.1 hmem, List.mem_singleton.1 hself]
    · cases hfound
  · intro halone
    have hone : schema.entities.filter (·.isNamed entity.fullName) = [entity] := by
      refine List.perm_singleton.1 ((List.perm_ext_iff_of_nodup
        (hplaced.tables.of_map _ |>.filter _) (List.nodup_singleton _)).2 fun other => ?_)
      rw [List.mem_filter, List.mem_singleton]
      constructor
      · rintro ⟨hother, hisNamed⟩
        exact halone other hother ((hnamed other hother).1 hisNamed)
      · rintro rfl
        exact ⟨hentity, (hnamed other hentity).2 rfl⟩
    rw [findEntity, hone]

/-- The implied primary key is `id`, and it is there only if no field declares that name. It is put
in front of the declared fields, the others behind them. -/
theorem nodup_keyFor_append {policy : Policy} {place : Nat} {declared : List Field}
    (h : (declared.map (·.name)).Nodup) :
    ((keyFor config policy place declared ++ declared).map (·.name)).Nodup := by
  rw [keyFor]
  split
  · exact h
  · next hnone =>
    rw [List.singleton_append, List.map_cons, List.nodup_cons]
    refine ⟨fun hmem => ?_, h⟩
    obtain ⟨field, hfield, hname⟩ := List.mem_map.1 hmem
    refine hnone (Bool.or_eq_true_iff.2 (.inr (List.any_eq_true.2 ⟨field, hfield, ?_⟩)))
    exact beq_iff_eq.2 hname

/-- **An implied field is never mistaken for another one**: no two fields of an entity share a name
exactly if no two of those that its lines declare do. The implied ones are new with respect to all
that was there when they were added, declared or implied. -/
theorem nodup_fieldNames_iff (hparse : parse config text = .ok schema) {entity : Entity}
    (hentity : entity ∈ schema.entities) :
    (entity.fields.map (·.name)).Nodup ↔ (entity.declaredFields.map (·.name)).Nodup := by
  constructor
  · exact fun hnodup => hnodup.sublist (List.filter_sublist.map _)
  intro hnodup
  obtain ⟨document, hread, himplied⟩ := parse_eq_ok.1 hparse
  obtain ⟨place, hat⟩ := exists_entityAt?_of_mem hentity
  obtain ⟨before, hbefore, hgrown⟩ := (grows_addImpliedFields himplied).exists_entityAt?_before hat
  obtain ⟨implied, hfills⟩ := exists_fillsUp_addImpliedFields
    (Document.isPlaced_of_readText hread) hbefore himplied
  have hdeclared : entity.declaredFields = before.fields := by
    rw [hgrown.declared_eq, Entity.declaredFields, ← fieldsAt_of_entityAt? hbefore,
      Document.filter_fieldsAt place hread]
  rw [hdeclared] at hnodup
  rw [← fieldsAt_of_entityAt? hat, hfills.fields_eq, List.map_append, List.nodup_append]
  refine ⟨nodup_keyFor_append hnodup, hfills.nodup, ?_⟩
  intro name hname other hother
  obtain ⟨field, hfield, rfl⟩ := List.mem_map.1 hname
  obtain ⟨new, hnew, rfl⟩ := List.mem_map.1 hother
  exact hfills.isNew new hnew field hfield

/-- The names of a schema lead back to what bears them. -/
structure NamesIdentify (schema : Schema) : Prop where
  entity : ∀ entity ∈ schema.entities, schema.findEntity entity.fullName = .ok (some entity)
  part : ∀ entity ∈ schema.entities, entity.NamesIdentify

/-- **The names of a document identify** the entities, fields and methods that bear them exactly if
no two entities have one full name, and no two fields that lines declare in one entity, and no two
of its methods, have one name. Every document that is read is covered, also with namespaces that are
empty or spelled with any number of backslashes. -/
theorem namesIdentify_iff (hparse : parse config text = .ok schema) :
    schema.NamesIdentify ↔
      (schema.entities.map (·.fullName)).Nodup ∧
      ∀ entity ∈ schema.entities,
        (entity.declaredFields.map (·.name)).Nodup ∧ (entity.methods.map (·.name)).Nodup := by
  have hplaced : schema.IsPlaced := isPlaced_of_parse hparse
  have hspelled : schema.IsSpelled := isSpelled_of_parse hparse
  have hentities : (schema.entities.map (·.fullName)).Nodup ↔ ∀ entity ∈ schema.entities,
      schema.findEntity entity.fullName = .ok (some entity) := by
    rw [List.nodup_map_iff_inj_on (hplaced.tables.of_map _)]
    constructor
    · exact fun h entity hentity => (findEntity_fullName_iff hspelled hplaced hentity).2
        fun other hother hname => h other hother entity hentity hname
    · exact fun h other hother entity hentity hname =>
        (findEntity_fullName_iff hspelled hplaced hentity).1 (h entity hentity) other hother hname
  have hparts : ∀ entity ∈ schema.entities, (entity.NamesIdentify ↔
      (entity.declaredFields.map (·.name)).Nodup ∧ (entity.methods.map (·.name)).Nodup) := by
    intro entity hentity
    rw [Entity.namesIdentify_iff_nodup ((List.nodup_flatMap.1 hplaced.nodup_methods).1 entity
      hentity), nodup_fieldNames_iff hparse hentity]
  constructor
  · exact fun h => ⟨hentities.2 h.entity, fun entity hentity =>
      (hparts entity hentity).1 (h.part entity hentity)⟩
  · exact fun h => ⟨hentities.1 h.1, fun entity hentity =>
      (hparts entity hentity).2 (h.2 entity hentity)⟩

/-- In a document without repeated names they identify, those of the implied fields included. The
three conditions are decided on its schema. -/
theorem namesIdentify_players : parse {} playersText = .ok players ∧ players.NamesIdentify :=
  ⟨parse_playersText, (namesIdentify_iff parse_playersText).2 (by decide +kernel)⟩

/-- Two entities of one name in two tables, one of them with two fields of one name. -/
def twinsText : String :=
  "User1 (users)\n  name: string\n  name: integer\nUser1 (people)\n"

/-- The implied primary key of the twins. -/
def twinKey (place : Nat) : Field where
  name := "id"
  type := "increments"
  owner? := some place
  nullable := some false
  primaryKey := true
  implied := true

/-- The user who has two names. -/
def twinUser : Entity where
  shortName := "User1"
  namespaceName := "\\App\\"
  table := "users"
  index? := some 0
  fields := [
    twinKey 0,
    { name := "name", type := "string", owner? := some 0 },
    { name := "name", type := "integer", owner? := some 0 }]

/-- What the document says. -/
def twins : Schema where
  entities := [twinUser,
    { shortName := "User1", namespaceName := "\\App\\", table := "people", index? := some 1
      fields := [twinKey 1] }]
  namespaces := OrderedMap.insert ∅ "\\App\\" "app/"

/-- Nothing refuses a full name, or the name of a field, that is taken. The fully qualified name is
then ambiguous, and of the two fields only the first one is ever found. -/
theorem not_namesIdentify_twins :
    parse {} twinsText = .ok twins ∧ ¬ twins.NamesIdentify ∧
      twins.findEntity twinUser.fullName =
        .error (.ambiguousShortName "\\App\\User1" ["\\App\\User1", "\\App\\User1"]) ∧
      ¬ twinUser.NamesIdentify ∧ twinUser.findField? "name" = twinUser.fields[1]? := by
  refine ⟨eq_ok_of_toOption (by decide +kernel), ?_, by rfl, ?_, by decide⟩
  · intro h
    cases h.entity twinUser List.mem_cons_self
  · intro h
    exact absurd (h.field 2 _ rfl).2 (by decide)

end Schema

end EntitySchema
