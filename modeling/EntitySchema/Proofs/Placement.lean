/-
The places of entities, methods and fields.

An entity is known by its place in the list of entities, a method by the place of its entity and its
own place there. Nothing in the types keeps these numbers in step with the lists, so it has to be
proved of the schemas that reading a document gives: `isPlaced_of_parse` says that every entity,
field, method and command of such a schema carries the number of the place where it stands, and that
no two entities share a table.

What the rest of the theory takes from it is short. A method is found again by its key, so the
memory of lookups, which is indexed by keys, never confuses two methods; and the owner of a method
is the entity that lists it.

Two inductions carry the proof: `Document.readText_induction`, for what holds while a document is
read, and `Schema.addImpliedFields_induction`, for what holds while the implied fields are added.
The first of them is stated here and serves other properties of documents as well. It is over the
lines, and its step is about a declaration and not about a line, so that no proof which uses it has
to know how a line is told to be a declaration.

The invariant is kept for simple reasons. Entities are only ever appended, and the number that an
entity gets is how many there were; items are added to an entity by the adders, which write its
number into them; and everything else that changes a schema changes an entity where it stands, and
changes neither its number nor its table. The numbers may look redundant, as they say nothing that
the lists do not say. They are what an item has in hand when it is asked for its entity.
-/
import EntitySchema.Document
import EntitySchema.Proofs.Implied.Steps
import Mathlib.Data.List.Nodup

set_option autoImplicit false

namespace EntitySchema

open Outcome

/-! ## Placed entities -/

/-- An entity and all that belongs to it carry the number of one place, and each of its methods the
number of its position. For fields and commands the position is not recorded. -/
structure Entity.IsPlacedAt (entity : Entity) (place : Nat) : Prop where
  index_eq : entity.index? = some place
  owner_of_field : ∀ field ∈ entity.fields, field.owner? = some place
  key_of_method : ∀ (position : Nat) (method : Method),
    entity.methods[position]? = some method → method.key = ⟨some place, position⟩
  owner_of_command : ∀ command ∈ entity.commands, command.owner? = some place

namespace Entity.IsPlacedAt

variable {entity : Entity} {place : Nat}

/-- A field that is added is given the number of its entity, whatever it comes with. -/
theorem addField (h : entity.IsPlacedAt place) (field : Field) :
    (entity.addField field).IsPlacedAt place := by
  refine ⟨h.index_eq, ?_, h.key_of_method, h.owner_of_command⟩
  intro other hother
  rcases List.mem_append.1 hother with hold | hnew
  · exact h.owner_of_field other hold
  · rw [List.mem_singleton.1 hnew]
    exact h.index_eq

/-- The same for a field that is put in front, where the implied primary key goes. -/
theorem prependField (h : entity.IsPlacedAt place) (field : Field) :
    (entity.prependField field).IsPlacedAt place := by
  refine ⟨h.index_eq, ?_, h.key_of_method, h.owner_of_command⟩
  intro other hother
  rcases List.mem_cons.1 hother with hnew | hold
  · rw [hnew]
    exact h.index_eq
  · exact h.owner_of_field other hold

/-- A method that is added is given the number of its entity, and as its position how many methods
there were. The methods before it keep their positions. -/
theorem addMethod (h : entity.IsPlacedAt place) (method : Method) :
    (entity.addMethod method).IsPlacedAt place := by
  refine ⟨h.index_eq, h.owner_of_field, ?_, h.owner_of_command⟩
  intro position other hother
  -- positions before the new method, its own, and those after it
  rcases Nat.lt_trichotomy position entity.methods.length with hlt | heq | hgt
  · refine h.key_of_method position other ?_
    rwa [Entity.addMethod, List.getElem?_append_left hlt] at hother
  · subst heq
    simp only [Entity.addMethod, List.getElem?_concat_length, Option.some.injEq] at hother
    subst hother
    simp [Method.key, h.index_eq]
  · rw [Entity.addMethod, List.getElem?_eq_none (by simp; omega)] at hother
    cases hother

/-- A command that is added is given the number of its entity. -/
theorem addCommand (h : entity.IsPlacedAt place) (command : AlterCommand) :
    (entity.addCommand command).IsPlacedAt place := by
  refine ⟨h.index_eq, h.owner_of_field, h.key_of_method, ?_⟩
  intro other hother
  rcases List.mem_append.1 hother with hold | hnew
  · exact h.owner_of_command other hold
  · rw [List.mem_singleton.1 hnew]
    exact h.index_eq

end Entity.IsPlacedAt

/-! ## Placed schemas -/

/-- Every entity is placed where it stands, and no two entities share a table. The two clauses are
kept together because an entity is given both when it is added. -/
structure Schema.IsPlaced (schema : Schema) : Prop where
  entity : ∀ (place : Nat) (entity : Entity),
    schema.entityAt? place = some entity → entity.IsPlacedAt place
  tables : (schema.entities.map (·.table)).Nodup

namespace Schema

variable {schema : Schema}

/-- A change of one entity is seen at its place and nowhere else. -/
theorem entityAt?_modifyEntity (schema : Schema) (index place : Nat) (change : Entity → Entity) :
    (schema.modifyEntity index change).entityAt? place =
      if index = place then (schema.entityAt? place).map change else schema.entityAt? place := by
  simp only [entityAt?, modifyEntity, List.getElem?_modify]
  split
  · rfl
  · cases schema.entities[place]? <;> rfl

/-- What a change keeps of each entity it keeps of all entities. With the table as the part, this
keeps the tables apart. -/
theorem map_modifyEntity {α : Type} (part : Entity → α) (schema : Schema) (index : Nat)
    {change : Entity → Entity} (hchange : ∀ entity, part (change entity) = part entity) :
    (schema.modifyEntity index change).entities.map part = schema.entities.map part := by
  refine List.ext_getElem? fun place => ?_
  simp only [modifyEntity, List.getElem?_map, List.getElem?_modify]
  cases schema.entities[place]? with
  | none => rfl
  | some entity => by_cases h : index = place <;> simp [h, hchange]

/-- An entity is added only if its table is free, and it gets the next place. -/
theorem addEntity_eq_ok {entity : Entity} {after : Schema} :
    schema.addEntity entity = .ok after ↔
      schema.entityStoredIn? entity.table = none ∧
      after = { schema with
        entities := schema.entities ++ [{ entity with index? := schema.entities.length }] } := by
  rw [Schema.addEntity]
  cases schema.entityStoredIn? entity.table with
  | none => simp [eq_comm]
  | some other => simp

namespace IsPlaced

/-- Only the entities count. A `default` line and a namespace line leave them alone. -/
theorem of_entities_eq {other : Schema} (h : schema.IsPlaced)
    (heq : other.entities = schema.entities) : other.IsPlaced := by
  refine ⟨fun place entity hat => h.entity place entity ?_, ?_⟩
  · rwa [entityAt?, heq] at hat
  · rw [heq]
    exact h.tables

/-- A change that keeps an entity at its place, and keeps its table, keeps the schema placed. The
change is asked to do so at every place, since it does not know where it is applied. -/
theorem modifyEntity (h : schema.IsPlaced) (index : Nat) {change : Entity → Entity}
    (hplaced : ∀ (place : Nat) (entity : Entity),
      entity.IsPlacedAt place → (change entity).IsPlacedAt place)
    (htable : ∀ entity, (change entity).table = entity.table) :
    (schema.modifyEntity index change).IsPlaced := by
  refine ⟨?_, by rw [map_modifyEntity (·.table) schema index htable]; exact h.tables⟩
  intro place entity hat
  rw [entityAt?_modifyEntity] at hat
  split at hat
  · obtain ⟨old, hold, rfl⟩ := Option.map_eq_some_iff.1 hat
    exact hplaced place old (h.entity place old hold)
  · exact h.entity place entity hat

/-- A new entity that has nothing yet gets the next place, and its table is new. -/
theorem addEntity (h : schema.IsPlaced) {entity : Entity} {after : Schema}
    (hfields : entity.fields = []) (hmethods : entity.methods = [])
    (hcommands : entity.commands = []) (hafter : schema.addEntity entity = .ok after) :
    after.IsPlaced := by
  obtain ⟨hfree, rfl⟩ := addEntity_eq_ok.1 hafter
  constructor
  · intro place other hat
    simp only [entityAt?] at hat
    rcases Nat.lt_trichotomy place schema.entities.length with hlt | heq | hgt
    · rw [List.getElem?_append_left hlt] at hat
      exact h.entity place other hat
    · subst heq
      rw [List.getElem?_concat_length] at hat
      obtain rfl := Option.some.inj hat
      exact ⟨rfl, by simp [hfields], by simp [hmethods], by simp [hcommands]⟩
    · rw [List.getElem?_eq_none (by simp; omega)] at hat
      cases hat
  · -- the table is new, since the search for it found nothing
    have hnew : entity.table ∉ schema.entities.map (·.table) := by
      intro hmem
      obtain ⟨other, hother, htable⟩ := List.mem_map.1 hmem
      have := List.find?_eq_none.1 hfree other hother
      simp [htable] at this
    simp only [List.map_append, List.map_cons, List.map_nil]
    refine List.nodup_append.2 ⟨h.tables, by simp, ?_⟩
    intro table htable other hother
    rw [List.mem_singleton.1 hother]
    rintro rfl
    exact hnew htable

end IsPlaced

/-! ## Methods and their entities -/

/-- The methods of a schema are those that its entities list. -/
theorem mem_methods {method : Method} :
    method ∈ schema.methods ↔ ∃ entity ∈ schema.entities, method ∈ entity.methods :=
  List.mem_flatMap

/-- A method of an entity is a method of the schema. -/
theorem mem_methods_of_mem {entity : Entity} {method : Method}
    (hentity : entity ∈ schema.entities) (hmethod : method ∈ entity.methods) :
    method ∈ schema.methods :=
  mem_methods.2 ⟨entity, hentity, hmethod⟩

/-- An entity stands at some place. Statements about places and statements about the list of
entities are turned into each other by this and the next lemma. -/
theorem exists_entityAt?_of_mem {entity : Entity} (h : entity ∈ schema.entities) :
    ∃ place, schema.entityAt? place = some entity :=
  List.mem_iff_getElem?.1 h

/-- What stands at a place is an entity of the schema. -/
theorem mem_entities_of_entityAt? {place : Nat} {entity : Entity}
    (h : schema.entityAt? place = some entity) : entity ∈ schema.entities :=
  List.mem_of_getElem? h

/-- An entity after a change was there before it, or is what the change makes of one. -/
theorem mem_entities_of_modifyEntity {index : Nat} {change : Entity → Entity} {entity : Entity}
    (h : entity ∈ (schema.modifyEntity index change).entities) :
    entity ∈ schema.entities ∨ ∃ before ∈ schema.entities, entity = change before := by
  obtain ⟨place, hat⟩ := exists_entityAt?_of_mem h
  rw [entityAt?_modifyEntity] at hat
  split at hat
  · obtain ⟨before, hbefore, rfl⟩ := Option.map_eq_some_iff.1 hat
    exact .inr ⟨before, mem_entities_of_entityAt? hbefore, rfl⟩
  · exact .inl (mem_entities_of_entityAt? hat)

namespace IsPlaced

variable {method : Method}

/-- The methods of an entity carry the number of its place. -/
theorem owner_of_mem_methods (h : schema.IsPlaced) {place : Nat} {entity : Entity}
    (hat : schema.entityAt? place = some entity) (hmethod : method ∈ entity.methods) :
    method.owner? = some place := by
  obtain ⟨position, hposition⟩ := List.mem_iff_getElem?.1 hmethod
  exact congrArg MethodKey.owner? ((h.entity place entity hat).key_of_method _ _ hposition)

/-- The owner of a method that an entity lists is that entity. Without this the owner could be
another entity, as it is found by a number. -/
theorem owner_eq (h : schema.IsPlaced) {place : Nat} {entity : Entity}
    (hat : schema.entityAt? place = some entity) (hmethod : method ∈ entity.methods) :
    schema.owner method = entity := by
  rw [owner, h.owner_of_mem_methods hat hmethod, entityOf?_some, hat, Option.getD_some]

/-- A method belongs to an entity, which lists it. -/
theorem exists_owner (h : schema.IsPlaced) (hmethod : method ∈ schema.methods) :
    ∃ place entity, method.owner? = some place ∧ schema.entityAt? place = some entity ∧
      method ∈ entity.methods := by
  obtain ⟨entity, hentity, hmem⟩ := mem_methods.1 hmethod
  obtain ⟨place, hat⟩ := exists_entityAt?_of_mem hentity
  exact ⟨place, entity, h.owner_of_mem_methods hat hmem, hat, hmem⟩

/-- **A method is found by its key.** The memory of lookups stores methods under their keys, and
here is why it may. -/
theorem methodAt?_key (h : schema.IsPlaced) (hmethod : method ∈ schema.methods) :
    schema.methodAt? method.key = some method := by
  obtain ⟨entity, hentity, hmem⟩ := mem_methods.1 hmethod
  obtain ⟨place, hat⟩ := exists_entityAt?_of_mem hentity
  obtain ⟨position, hposition⟩ := List.mem_iff_getElem?.1 hmem
  rw [(h.entity place entity hat).key_of_method position method hposition, methodAt?,
    entityOf?_some, hat]
  exact hposition

/-- Two methods with the same key are one. In particular two methods of one entity may have the same
name and are told apart. -/
theorem eq_of_key_eq (h : schema.IsPlaced) {other : Method} (hmethod : method ∈ schema.methods)
    (hother : other ∈ schema.methods) (hkey : method.key = other.key) : method = other := by
  have hfound := h.methodAt?_key hmethod
  rw [hkey, h.methodAt?_key hother] at hfound
  exact (Option.some.inj hfound).symm

/-- Two entities with the same table are one. -/
theorem eq_of_table_eq (h : schema.IsPlaced) {entity other : Entity}
    (hentity : entity ∈ schema.entities) (hother : other ∈ schema.entities)
    (htable : entity.table = other.table) : entity = other :=
  List.inj_on_of_nodup_map h.tables hentity hother htable

/-- No method is listed twice: its key says where it stands. Methods of one entity differ in
position, methods of different entities in their owner. -/
theorem nodup_methods (h : schema.IsPlaced) : schema.methods.Nodup := by
  rw [methods, List.nodup_flatMap]
  constructor
  · intro entity hentity
    obtain ⟨place, hat⟩ := exists_entityAt?_of_mem hentity
    rw [List.nodup_iff_getElem?_ne_getElem?]
    intro first second hlt hlength hsame
    have hsecond := List.getElem?_eq_getElem hlength
    rw [hsecond] at hsame
    have hkeys := ((h.entity place entity hat).key_of_method first _ hsame).symm.trans
      ((h.entity place entity hat).key_of_method second _ hsecond)
    exact Nat.ne_of_lt hlt (congrArg MethodKey.position hkeys)
  · rw [List.pairwise_iff_getElem]
    intro first second hfirst hsecond hlt method hmemFirst hmemSecond
    obtain ⟨position, hposition⟩ := List.mem_iff_getElem?.1 hmemFirst
    obtain ⟨other, hother⟩ := List.mem_iff_getElem?.1 hmemSecond
    have hkeys := ((h.entity first _ (List.getElem?_eq_getElem hfirst)).key_of_method position
      method hposition).symm.trans
      ((h.entity second _ (List.getElem?_eq_getElem hsecond)).key_of_method other method hother)
    exact Nat.ne_of_lt hlt (Option.some.inj (congrArg MethodKey.owner? hkeys))

end IsPlaced

end Schema

/-! ## Reading a document -/

/-- **Induction over lines.** What holds of the empty document and is kept by every declaration
holds of the document after any lines that could be read. -/
theorem Document.foldlM_readLine_induction {P : Document → Prop} {config : Config}
    {lines : List Line} {document : Document} (hstart : P (Document.start config))
    (hdeclare : ∀ before declaration after,
      P before → before.declare declaration = .ok after → P after)
    (hlines : lines.foldlM Document.readLine (Document.start config) = .ok document) :
    P document := by
  refine foldlM_induction hstart ?_ hlines
  intro before line after _ hbefore hline
  rw [Document.readLine, bind_eq_ok] at hline
  obtain ⟨declared, -, hdeclared⟩ := hline
  cases declared with
  | none => cases hdeclared
  | some declaration => exact hdeclare before declaration after hbefore hdeclared

/-- A document that was read is what its lines give. In addition no line was left open at the end,
which this lemma forgets. -/
theorem Document.foldlM_of_readText {config : Config} {text : String} {document : Document}
    (h : Document.readText config text = .ok document) :
    (Lines.ofText text).lines.foldlM Document.readLine (Document.start config) = .ok document := by
  rw [Document.readText, bind_eq_ok] at h
  obtain ⟨last, hlines, hrest⟩ := h
  split at hrest
  · cases hrest
  · obtain rfl : last = document := Except.ok.inj hrest
    exact hlines

/-- **Induction over a document.** What holds of the empty document and is kept by every
declaration holds of the document that was read. -/
theorem Document.readText_induction {P : Document → Prop} {config : Config} {text : String}
    {document : Document} (hstart : P (Document.start config))
    (hdeclare : ∀ before declaration after,
      P before → before.declare declaration = .ok after → P after)
    (hread : Document.readText config text = .ok document) : P document :=
  Document.foldlM_readLine_induction hstart hdeclare (Document.foldlM_of_readText hread)

/-- The entity of a line has no fields, methods or commands yet, so there is nothing to be placed
but the entity. -/
theorem EntityLine.toEntity_eq_ok {line : EntityLine} {name : String} {entity : Entity}
    (h : line.toEntity name = .ok entity) :
    entity.fields = [] ∧ entity.methods = [] ∧ entity.commands = [] := by
  simp only [EntityLine.toEntity] at h
  split at h
  · cases h
  · obtain rfl := Except.ok.inj h
    exact ⟨rfl, rfl, rfl⟩

/-- The line of an entity adds it, and it becomes the current one. -/
theorem Document.exists_of_declare_ofEntity {document after : Document} {line : EntityLine}
    (h : document.declare (.ofEntity line) = .ok after) :
    ∃ entity schema, line.toEntity document.namespaceName = .ok entity ∧
      document.schema.addEntity entity = .ok schema ∧
      after = { document with schema, current := some document.schema.entities.length } := by
  obtain ⟨entity, hentity, h⟩ := bind_eq_ok.1 h
  obtain ⟨schema, hschema, h⟩ := bind_eq_ok.1 h
  exact ⟨entity, schema, hentity, hschema, (Except.ok.inj h).symm⟩

/-- A change of the current entity touches the entities alone, and leaves as many as there were. -/
theorem Document.exists_modifyCurrent_eq (document : Document) (change : Entity → Entity) :
    ∃ entities, entities.length = document.schema.entities.length ∧
      document.modifyCurrent change = { document with schema.entities := entities } := by
  rw [Document.modifyCurrent]
  split
  · exact ⟨_, rfl, rfl⟩
  · exact ⟨_, List.length_modify .., rfl⟩

/-- A change of the current entity keeps all places. If no entity is current nothing is changed. -/
theorem Document.isPlaced_modifyCurrent {document : Document} {change : Entity → Entity}
    (h : document.schema.IsPlaced)
    (hplaced : ∀ (place : Nat) (entity : Entity),
      entity.IsPlacedAt place → (change entity).IsPlacedAt place)
    (htable : ∀ entity, (change entity).table = entity.table) :
    (document.modifyCurrent change).schema.IsPlaced := by
  rw [Document.modifyCurrent]
  split
  · exact h
  · exact h.modifyEntity _ hplaced htable

/-- A declaration keeps all places. One case a declaration, and in each of them one of the reasons
in the head of this file. -/
theorem Document.isPlaced_declare {document after : Document} {declaration : Declaration}
    (h : document.schema.IsPlaced) (hafter : document.declare declaration = .ok after) :
    after.schema.IsPlaced := by
  cases declaration with
  | ofDefault line =>
    obtain rfl := Except.ok.inj hafter
    exact h.of_entities_eq rfl
  | ofNamespace line =>
    obtain rfl := Except.ok.inj hafter
    exact h.of_entities_eq rfl
  | ofEntity line =>
    obtain ⟨entity, schema, hentity, hschema, rfl⟩ := exists_of_declare_ofEntity hafter
    obtain ⟨hfields, hmethods, hcommands⟩ := EntityLine.toEntity_eq_ok hentity
    exact h.addEntity hfields hmethods hcommands hschema
  | ofField line =>
    obtain rfl := Except.ok.inj hafter
    exact isPlaced_modifyCurrent h (fun _ _ hplaced => hplaced.addField _) fun _ => rfl
  | ofMethod line =>
    obtain rfl := Except.ok.inj hafter
    exact isPlaced_modifyCurrent h (fun _ _ hplaced => hplaced.addMethod _) fun _ => rfl
  | ofAlter line =>
    obtain rfl := Except.ok.inj hafter
    exact isPlaced_modifyCurrent h (fun _ _ hplaced => hplaced.addCommand _) fun _ => rfl

/-- What was read of some lines is placed, whether or not more lines follow. The error for a table
that is taken is about a document that has been read halfway. -/
theorem Document.isPlaced_of_foldlM {config : Config} {lines : List Line} {document : Document}
    (h : lines.foldlM Document.readLine (Document.start config) = .ok document) :
    document.schema.IsPlaced := by
  refine Document.foldlM_readLine_induction (P := fun document => document.schema.IsPlaced) ?_
    (fun _ _ _ hbefore hafter => Document.isPlaced_declare hbefore hafter) h
  refine ⟨?_, List.nodup_nil⟩
  intro place entity hat
  simp [Document.start, Schema.addNamespace, Schema.entityAt?] at hat

/-- What was read of a document is placed. -/
theorem Document.isPlaced_of_readText {config : Config} {text : String} {document : Document}
    (h : Document.readText config text = .ok document) : document.schema.IsPlaced :=
  Document.isPlaced_of_foldlM (Document.foldlM_of_readText h)

/-! ## The implied fields -/

namespace Schema

variable {schema : Schema}

namespace IsPlaced

/-- A column that is implied is added like a declared one. -/
theorem addImplied (h : schema.IsPlaced) (index : Nat) (name type : String) :
    (schema.addImplied index name type).IsPlaced := by
  refine h.modifyEntity index (fun place entity hplaced => ?_) (fun entity => ?_)
  · split
    · exact hplaced
    · exact hplaced.addField _
  · split <;> rfl

/-- So is the primary key, in front of the others. -/
theorem addPrimaryKey (h : schema.IsPlaced) (index : Nat) :
    (schema.addPrimaryKey index).IsPlaced := by
  refine h.modifyEntity index (fun place entity hplaced => ?_) (fun entity => ?_)
  · split
    · exact hplaced.prependField _
    · exact hplaced
  · split <;> rfl

end IsPlaced

/-- The schema of a document is what was read of it, with the implied fields added. -/
theorem parse_eq_ok {config : Config} {text : String} :
    Schema.parse config text = .ok schema ↔ ∃ document,
      Document.readText config text = .ok document ∧
        document.schema.addImpliedFields = .ok schema := by
  simp only [Schema.parse, bind_eq_ok, mapError_eq_ok]

/-- **The schema of a document is placed.** First while the document is read, then while the implied
fields are added. -/
theorem isPlaced_of_parse {config : Config} {text : String}
    (h : Schema.parse config text = .ok schema) : schema.IsPlaced := by
  obtain ⟨document, hread, himplied⟩ := parse_eq_ok.1 h
  exact addImpliedFields_induction (fun _ _ _ _ hplaced => hplaced.addImplied _ _ _)
    (fun _ _ hplaced => hplaced.addPrimaryKey _) (Document.isPlaced_of_readText hread) himplied

/-! ## An example -/

/-- A document with the two sides of one relation, which are joined by a declared primary key. -/
def playersText : String :=
  "Player1 (players)\n  team1(): Team1 <- Team1.players1()\n" ++
    "Team1 (teams)\n  id: increments PrimaryKey\n" ++
    "  players1(): Player1[] <- Player1.team1(), Join(Team1.id = Player1.id)\n"

/-- The side that returns one. -/
def team1 : Method where
  name := "team1"
  owner? := some 0
  position := 0
  declaredType := some "Team1"
  inverseOf := some "Team1.players1()"

/-- The side that returns many. -/
def players1 : Method where
  name := "players1"
  owner? := some 1
  position := 0
  declaredType := some "Player1[]"
  inverseOf := some "Player1.team1()"
  join := some ⟨"Team1.id = Player1.id", ⟨"Team1", "id", "Player1", "id"⟩, none⟩

/-- What the document says. The primary key of the players and their foreign key are implied. -/
def players : Schema where
  entities := [
    { shortName := "Player1", namespaceName := "\\App\\", table := "players", index? := some 0
      fields := [
        { name := "id", type := "increments", owner? := some 0, nullable := some false,
          primaryKey := true, implied := true },
        { name := "team1_id", type := "integer", owner? := some 0, implied := true }]
      methods := [team1] },
    { shortName := "Team1", namespaceName := "\\App\\", table := "teams", index? := some 1
      fields := [{ name := "id", type := "increments", owner? := some 1, primaryKey := true }]
      methods := [players1] }]
  namespaces := OrderedMap.insert ∅ "\\App\\" "app/"

/-- The relation gives the players the column `team1_id`, and they get an `id` of their own; the
teams have declared theirs. -/
theorem parse_playersText : Schema.parse {} playersText = .ok players :=
  eq_ok_of_toOption (by decide +kernel)

end Schema

end EntitySchema
