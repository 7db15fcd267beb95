/-
The fields that lines declare.

Before any column is implied, an entity has the fields of its own field lines and no others.
`Document.fieldsDeclared` reads them off the lines, each with the table of its entity and under the
policy in force where it stands, and `Document.fieldsAt_of_foldlM` says that they are what the
entity has after the lines were read: nothing that is declared later, in another entity or of
another kind, touches them.

The entity is given by its place, and the place need not be taken yet. That is what makes the
induction go through: the statement is about a place and about lines, the lines are taken one after
the other, and an entity that has not been met so far has no fields. One declaration adds to a place
what `fieldDeclared?` says, which is nothing unless it is a field line of the entity that stands
there, and it is the case split over declarations that has to be read to believe this
(`fieldsAt_declare`).

The second part says what a declaration leaves alone. There is one lemma on it,
`exists_schema_declare_eq`, with the schema after a declaration written out, and the statements
about the configuration and about the policy are read off from it.
-/
import EntitySchema.Proofs.Placement

set_option autoImplicit false

namespace EntitySchema

open Outcome

/-! ## Fields at a place -/

namespace Schema

/-- The fields of the entity at a place. Where no entity stands there are none. -/
def fieldsAt (schema : Schema) (place : Nat) : List Field :=
  (schema.entityAt? place).elim [] (·.fields)

variable {schema : Schema} {place : Nat} {entity : Entity}

/-- If an entity stands at the place they are its fields. -/
theorem fieldsAt_of_entityAt? (h : schema.entityAt? place = some entity) :
    schema.fieldsAt place = entity.fields := by
  rw [fieldsAt, h, Option.elim_some]

/-- A change of another entity leaves the fields alone. -/
theorem fieldsAt_modifyEntity_of_ne {index : Nat} (h : index ≠ place) (change : Entity → Entity) :
    (schema.modifyEntity index change).fieldsAt place = schema.fieldsAt place := by
  rw [fieldsAt, entityAt?_modifyEntity, if_neg h, fieldsAt]

/-- A change that is not about fields leaves them alone. -/
theorem fieldsAt_modifyEntity_of_fields_eq (index : Nat) {change : Entity → Entity}
    (h : ∀ entity, (change entity).fields = entity.fields) :
    (schema.modifyEntity index change).fieldsAt place = schema.fieldsAt place := by
  rw [fieldsAt, entityAt?_modifyEntity, fieldsAt]
  split
  · cases schema.entityAt? place with
    | none => rfl
    | some entity => exact h entity
  · rfl

end Schema

/-! ## Fields of lines -/

namespace Document

/-- The field that a declaration adds to the entity at a place. It is a field line that does this,
if the entity is the one whose lines are being read, and the field takes the policy of this
moment. -/
def fieldDeclared? (document : Document) (place : Nat) : Declaration → Option Field
  | .ofField line =>
    if document.current = some place then
      (document.schema.entityAt? place).map fun entity =>
        { line.toField entity document.schema.policy with owner? := entity.index? }
    else
      none
  | _ => none

/-- The fields that lines declare in the entity at a place, in their order. The document is carried
along, since it knows which entity is the current one and which policy is in force. Lines that
cannot be read declare nothing. -/
def fieldsDeclared (place : Nat) : Document → List Line → List Field
  | _, [] => []
  | document, line :: rest =>
    match document.declarationOf line with
    | .ok (some declaration) =>
      (document.fieldDeclared? place declaration).toList ++
        match document.declare declaration with
        | .ok next => next.fieldsDeclared place rest
        | .error _ => []
    | _ => []

variable {document after : Document} {declaration : Declaration} (place : Nat)

/-- A change of the current entity that is not about fields: a method or a command is added. -/
theorem fieldsAt_modifyCurrent_of_fields_eq (change : Entity → Entity)
    (hchange : ∀ entity, (change entity).fields = entity.fields) :
    (document.modifyCurrent change).schema.fieldsAt place = document.schema.fieldsAt place := by
  rw [modifyCurrent]
  split
  · rfl
  · exact Schema.fieldsAt_modifyEntity_of_fields_eq _ hchange

/-- A field goes to the entity whose lines are being read. It is added behind the fields that are
there, and the other places keep theirs. -/
theorem fieldsAt_modifyCurrent_addField (line : FieldLine) :
    (document.modifyCurrent fun entity =>
        entity.addField (line.toField entity document.schema.policy)).schema.fieldsAt place =
      document.schema.fieldsAt place ++ (document.fieldDeclared? place (.ofField line)).toList := by
  rw [modifyCurrent, fieldDeclared?]
  split
  · next hnone => simp [hnone]
  · next index hcurrent =>
    rw [hcurrent]
    by_cases hplace : index = place
    · subst hplace
      rw [if_pos rfl, Schema.fieldsAt, Schema.entityAt?_modifyEntity, if_pos rfl, Schema.fieldsAt]
      cases document.schema.entityAt? index with
      | none => rfl
      | some entity => rfl
    · rw [if_neg fun heq => hplace (Option.some.inj heq),
        Schema.fieldsAt_modifyEntity_of_ne hplace]
      exact (List.append_nil _).symm

/-- A new entity has no field yet. Its place had none before, as there was no entity. -/
theorem fieldsAt_addEntity {schema after : Schema} {entity : Entity} (hfields : entity.fields = [])
    (h : schema.addEntity entity = .ok after) : after.fieldsAt place = schema.fieldsAt place := by
  obtain ⟨-, rfl⟩ := Schema.addEntity_eq_ok.1 h
  simp only [Schema.fieldsAt, Schema.entityAt?]
  rcases Nat.lt_trichotomy place schema.entities.length with hlt | rfl | hgt
  · rw [List.getElem?_append_left hlt]
  · rw [List.getElem?_concat_length, List.getElem?_eq_none (Nat.le_refl _)]
    exact hfields
  · rw [List.getElem?_eq_none (by simp; omega), List.getElem?_eq_none (Nat.le_of_lt hgt)]

/-- A declaration adds to an entity what it declares there. One case a declaration: only the case of
a field line adds something. -/
theorem fieldsAt_declare (h : document.declare declaration = .ok after) :
    after.schema.fieldsAt place =
      document.schema.fieldsAt place ++ (document.fieldDeclared? place declaration).toList := by
  cases declaration with
  | ofDefault line =>
    obtain rfl := Except.ok.inj h
    exact (List.append_nil _).symm
  | ofNamespace line =>
    obtain rfl := Except.ok.inj h
    exact (List.append_nil _).symm
  | ofEntity line =>
    obtain ⟨entity, schema, hentity, hschema, rfl⟩ := exists_of_declare_ofEntity h
    rw [fieldsAt_addEntity place (EntityLine.toEntity_eq_ok hentity).1 hschema]
    exact (List.append_nil _).symm
  | ofField line =>
    obtain rfl := Except.ok.inj h
    exact fieldsAt_modifyCurrent_addField place line
  | ofMethod line =>
    obtain rfl := Except.ok.inj h
    exact (fieldsAt_modifyCurrent_of_fields_eq place (·.addMethod (.ofLine line))
      fun _ => rfl).trans (List.append_nil _).symm
  | ofAlter line =>
    obtain rfl := Except.ok.inj h
    exact (fieldsAt_modifyCurrent_of_fields_eq place (·.addCommand (.ofLine line))
      fun _ => rfl).trans (List.append_nil _).symm

/-- **What the lines declare is what the entity has.** The induction is on the lines, for any
document at the start, because the rest of the lines is read from a document that has changed. -/
theorem fieldsAt_of_foldlM {lines : List Line} (h : lines.foldlM readLine document = .ok after) :
    after.schema.fieldsAt place =
      document.schema.fieldsAt place ++ document.fieldsDeclared place lines := by
  induction lines generalizing document with
  | nil =>
    obtain rfl := Except.ok.inj h
    exact (List.append_nil _).symm
  | cons line lines ih =>
    rw [List.foldlM_cons, bind_eq_ok] at h
    obtain ⟨next, hnext, hrest⟩ := h
    rw [readLine, bind_eq_ok] at hnext
    obtain ⟨declared, hdeclared, hnext⟩ := hnext
    cases declared with
    | none => cases hnext
    | some declaration =>
      have hdeclare : document.declare declaration = .ok next := hnext
      rw [ih hrest, fieldsAt_declare place hdeclare, List.append_assoc]
      simp only [fieldsDeclared, hdeclared, hdeclare]

/-- The fields of a document are those that its lines declare. -/
theorem fieldsAt_of_readText {config : Config} {text : String}
    (h : readText config text = .ok document) :
    document.schema.fieldsAt place =
      (start config).fieldsDeclared place (Lines.ofText text).lines := by
  have hstart : (start config).schema.fieldsAt place = [] := rfl
  rw [fieldsAt_of_foldlM place (foldlM_of_readText h), hstart, List.nil_append]

/-- No field that a line declares is an implied one. -/
theorem implied_of_fieldDeclared? {field : Field}
    (h : document.fieldDeclared? place declaration = some field) : field.implied = false := by
  cases declaration with
  | ofField line =>
    rw [fieldDeclared?] at h
    split at h
    · obtain ⟨entity, -, rfl⟩ := Option.map_eq_some_iff.1 h
      rfl
    · cases h
  | _ => cases h

/-- Before any column is implied, no field is an implied one. This is an induction over the document
along the declarations. -/
theorem implied_of_mem_fieldsAt {config : Config} {text : String}
    (h : readText config text = .ok document) :
    ∀ field ∈ document.schema.fieldsAt place, field.implied = false := by
  refine readText_induction
    (P := fun document => ∀ field ∈ document.schema.fieldsAt place, field.implied = false)
    (fun _ hmem => nomatch hmem) ?_ h
  intro before declaration after hbefore hafter field hfield
  rw [fieldsAt_declare place hafter] at hfield
  rcases List.mem_append.1 hfield with hold | hnew
  · exact hbefore field hold
  · exact implied_of_fieldDeclared? place (Option.mem_toList.1 hnew)

/-- Before any column is implied, the fields that lines declare are all there are. -/
theorem filter_fieldsAt {config : Config} {text : String}
    (h : readText config text = .ok document) :
    (document.schema.fieldsAt place).filter (!·.implied) = document.schema.fieldsAt place := by
  rw [List.filter_eq_self]
  intro field hfield
  rw [implied_of_mem_fieldsAt place h field hfield, Bool.not_false]

/-- The policy behind a declaration. Only a `default` line changes it. -/
def policyBehind (policy : Policy) : Declaration → Policy
  | .ofDefault line => policy.update line.tags
  | _ => policy

/-- **What a declaration leaves alone.** It may change the entities and the namespaces of a schema,
and its policy if it is a `default` line. The configuration is never among what changes, and the
policy behind the declaration is given exactly. -/
theorem exists_schema_declare_eq (h : document.declare declaration = .ok after) :
    ∃ entities namespaces, after.schema = { document.schema with
      entities, namespaces, policy := policyBehind document.schema.policy declaration } := by
  have hmodify : ∀ change, ∃ entities,
      (document.modifyCurrent change).schema = { document.schema with entities } := by
    intro change
    obtain ⟨entities, -, heq⟩ := document.exists_modifyCurrent_eq change
    exact ⟨entities, by rw [heq]⟩
  cases declaration with
  | ofDefault line => exact ⟨_, _, (congrArg Document.schema (Except.ok.inj h)).symm⟩
  | ofNamespace line => exact ⟨_, _, (congrArg Document.schema (Except.ok.inj h)).symm⟩
  | ofEntity line =>
    obtain ⟨entity, schema, -, hschema, rfl⟩ := exists_of_declare_ofEntity h
    exact ⟨_, _, (Schema.addEntity_eq_ok.1 hschema).2⟩
  | ofField line | ofMethod line | ofAlter line =>
    obtain ⟨entities, heq⟩ := hmodify _
    exact ⟨entities, _, (congrArg Document.schema (Except.ok.inj h)).symm.trans heq⟩

/-- Nothing that a document says changes the configuration. -/
theorem config_declare (h : document.declare declaration = .ok after) :
    after.schema.config = document.schema.config := by
  obtain ⟨entities, namespaces, heq⟩ := exists_schema_declare_eq h
  rw [heq]

/-- The configuration of a schema that was read is the one that it was read with. -/
theorem config_of_readText {config : Config} {text : String}
    (h : readText config text = .ok document) : document.schema.config = config :=
  readText_induction (P := fun document => document.schema.config = config) rfl
    (fun _ _ _ hbefore hafter => (config_declare hafter).trans hbefore) h

end Document

end EntitySchema
