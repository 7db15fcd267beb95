/-
Owners and tables.

Fields, methods and commands name their entity by its place, and everything later finds the entity
through this number. It is missing until the item is added to an entity, and it is not checked when
it is read: an item without an owner counts to the last entity, silently. That this never happens is
a fact about reading a document, not about the types, and `owners_and_tables_of_parse` states it
with the place in full. The work was done with the places (`Schema.isPlaced_of_parse`); what is
added here is the way back from an item to its entity, and that the adders give an item its owner
whatever it comes with.

The statement would be easy to get wrong in one point. That every item leads to its entity is not
enough to say that it has an owner, because for the items of the last entity it holds without one.
`IsOwned` therefore says both, the number and where it leads, and the example at the end shows the
difference at a command of the first of two entities.

Entities are also found by their tables. `Schema.addEntity` refuses a table that is taken, and
`Document.parse_eq_error` carries the refusal to the whole document: the first line that fails
decides. The refusal is proved of a document that has been read up to a line, so the entity that has
the table already is one that was declared above it, and the error names both.
-/
import EntitySchema.Proofs.Placement

set_option autoImplicit false

namespace EntitySchema

open Outcome

/-! ## Owners and tables of a placed schema -/

namespace Schema

variable {schema : Schema} {entity other : Entity}

namespace IsPlaced

/-- An entity is found by its table. The search finds the first entity with this table, and no other
one has it. -/
theorem entityStoredIn?_table (h : schema.IsPlaced) (hentity : entity ∈ schema.entities) :
    schema.entityStoredIn? entity.table = some entity := by
  cases hstored : schema.entityStoredIn? entity.table with
  | none => exact absurd (List.find?_eq_none.1 hstored entity hentity) (by simp)
  | some other =>
    have htable : other.table = entity.table := by simpa using List.find?_some hstored
    rw [h.eq_of_table_eq (List.mem_of_find?_eq_some hstored) hentity htable]

/-- A table that is taken is refused. The error names the table, the entity that has it, and the one
that was to be added. -/
theorem addEntity_eq_error (h : schema.IsPlaced) (hother : other ∈ schema.entities)
    (htable : other.table = entity.table) :
    schema.addEntity entity =
      .error (.duplicateTable entity.table other.shortName entity.shortName) := by
  rw [Schema.addEntity, ← htable, h.entityStoredIn?_table hother]

end IsPlaced

/-- Every item leads back to the entity that holds it, and every entity is found by its place and
by its table. An owner is stated as `some place`: an item that was left without one would lead to
the last entity (`entityOf?_none`), so it is not enough that it leads to some entity. -/
structure IsOwned (schema : Schema) : Prop where
  index_eq : ∀ place entity, schema.entityAt? place = some entity → entity.index? = some place
  field : ∀ place entity, schema.entityAt? place = some entity → ∀ field ∈ entity.fields,
    field.owner? = some place ∧ schema.entityOf? field.owner? = some entity
  method : ∀ place entity, schema.entityAt? place = some entity → ∀ method ∈ entity.methods,
    method.owner? = some place ∧ schema.entityOf? method.owner? = some entity ∧
      schema.owner method = entity
  command : ∀ place entity, schema.entityAt? place = some entity → ∀ command ∈ entity.commands,
    command.owner? = some place ∧ schema.entityOf? command.owner? = some entity
  tables : (schema.entities.map (·.table)).Nodup
  stored : ∀ entity ∈ schema.entities, schema.entityStoredIn? entity.table = some entity

/-- The owner of an item leads to the entity at its place, whatever else is in the schema. -/
theorem entityOf?_of_owner {owner? : Option Nat} {place : Nat} (howner : owner? = some place)
    (hat : schema.entityAt? place = some entity) : schema.entityOf? owner? = some entity := by
  rw [howner, entityOf?_some, hat]

/-- A placed schema is owned. The places say which number an item carries, and the number leads back
to where it was read off. -/
theorem IsPlaced.isOwned (h : schema.IsPlaced) : schema.IsOwned where
  index_eq place entity hat := (h.entity place entity hat).index_eq
  field place entity hat field hfield := by
    have howner := (h.entity place entity hat).owner_of_field field hfield
    exact ⟨howner, entityOf?_of_owner howner hat⟩
  method place entity hat method hmethod := by
    have howner := h.owner_of_mem_methods hat hmethod
    exact ⟨howner, entityOf?_of_owner howner hat, h.owner_eq hat hmethod⟩
  command place entity hat command hcommand := by
    have howner := (h.entity place entity hat).owner_of_command command hcommand
    exact ⟨howner, entityOf?_of_owner howner hat⟩
  tables := h.tables
  stored _ hentity := h.entityStoredIn?_table hentity

/-- A change of one entity that keeps its place and its table leaves all items owned. The adders are
such changes, and this is said of them without asking what owner the item came with. -/
theorem IsPlaced.isOwned_modifyEntity (h : schema.IsPlaced) (place : Nat)
    {change : Entity → Entity}
    (hplaced : ∀ (place : Nat) (entity : Entity),
      entity.IsPlacedAt place → (change entity).IsPlacedAt place)
    (htable : ∀ entity, (change entity).table = entity.table) :
    (schema.modifyEntity place change).IsOwned :=
  (h.modifyEntity place hplaced htable).isOwned

end Schema

/-! ## The first line that fails -/

namespace Document

variable {config : Config} {text : String} {document : Document} {done rest : List Line}
  {line : Line} {error : Error}

/-- **The first line that fails decides**, whatever stands after it. -/
theorem parse_eq_error (hlines : (Lines.ofText text).lines = done ++ line :: rest)
    (hdone : done.foldlM readLine (start config) = .ok document)
    (hline : document.readLine line = .error error) : Schema.parse config text = .error error := by
  have hfold : (Lines.ofText text).lines.foldlM readLine (start config) = .error error := by
    rw [hlines, List.foldlM_append, hdone, ok_bind, List.foldlM_cons, hline, error_bind]
  have hread : readText config text = .error error := by
    simp only [readText, hfold, error_bind]
  rw [Schema.parse, hread, error_bind]

/-- The line of an entity whose table is taken fails. The lines above it have to be placed for this,
so that the entity which has the table is the one that the search finds. -/
theorem readLine_eq_error {entityLine : EntityLine} {entity other : Entity}
    (hplaced : document.schema.IsPlaced)
    (hdeclares : document.declarationOf line = .ok (some (.ofEntity entityLine)))
    (hentity : entityLine.toEntity document.namespaceName = .ok entity)
    (hother : other ∈ document.schema.entities) (htable : other.table = entity.table) :
    document.readLine line =
      .error (.duplicateTable entity.table other.shortName entity.shortName) := by
  rw [readLine, hdeclares, ok_bind]
  simp only [declare, hentity, ok_bind, hplaced.addEntity_eq_error hother htable, error_bind]

end Document

/-! ## Documents -/

namespace Schema

/-- **In the schema of a document every item is owned by the entity that holds it**, and no two
entities share a table. An item is given its owner when it is added, and whatever owner it comes
with, that of another entity or none, the schema stays owned. A document in which an entity would
share a table fails at that line, if no line before it fails. -/
theorem owners_and_tables_of_parse (config : Config) (text : String) :
    (∀ schema, parse config text = .ok schema → schema.IsOwned) ∧
    (∀ schema : Schema, schema.IsPlaced → ∀ place : Nat,
      (∀ field : Field, (schema.modifyEntity place (·.addField field)).IsOwned ∧
        (schema.modifyEntity place (·.prependField field)).IsOwned) ∧
      (∀ method : Method, (schema.modifyEntity place (·.addMethod method)).IsOwned) ∧
      ∀ command : AlterCommand, (schema.modifyEntity place (·.addCommand command)).IsOwned) ∧
    ∀ (done rest : List Line) (line : Line) (document : Document) (entityLine : EntityLine)
      (entity other : Entity),
      (Lines.ofText text).lines = done ++ line :: rest →
      done.foldlM Document.readLine (Document.start config) = .ok document →
      document.declarationOf line = .ok (some (.ofEntity entityLine)) →
      entityLine.toEntity document.namespaceName = .ok entity →
      other ∈ document.schema.entities → other.table = entity.table →
      parse config text =
        .error (.duplicateTable entity.table other.shortName entity.shortName) := by
  refine ⟨fun schema hparse => (isPlaced_of_parse hparse).isOwned, ?_, ?_⟩
  · intro schema hplaced place
    refine ⟨fun field => ⟨?_, ?_⟩, fun method => ?_, fun command => ?_⟩
    · exact hplaced.isOwned_modifyEntity place (fun _ _ h => h.addField field) fun _ => rfl
    · exact hplaced.isOwned_modifyEntity place (fun _ _ h => h.prependField field) fun _ => rfl
    · exact hplaced.isOwned_modifyEntity place (fun _ _ h => h.addMethod method) fun _ => rfl
    · exact hplaced.isOwned_modifyEntity place (fun _ _ h => h.addCommand command) fun _ => rfl
  · intro done rest line document entityLine entity other hlines hdone hdeclares hentity hother
      htable
    exact Document.parse_eq_error hlines hdone
      (Document.readLine_eq_error (Document.isPlaced_of_foldlM hdone) hdeclares hentity hother
        htable)

/-- A document with declared and implied fields, methods and a command. -/
def rostersText : String :=
  "Player1 (players)\n  name: string\n  RENAME FIELD nick TO name\n" ++
    "  team1(): Team1 <- Team1.players1()\n" ++
    "Team1 (teams)\n  players1(): Player1[] <- Player1.team1()\n"

/-- The command of the document. -/
def renameNick : AlterCommand where
  kind := .renameField
  source := "nick"
  target := some "name"
  owner? := some 0

/-- The entity that has the command. Two of its fields are implied. -/
def rosterPlayer : Entity where
  shortName := "Player1"
  namespaceName := "\\App\\"
  table := "players"
  index? := some 0
  fields := [
    { name := "id", type := "increments", owner? := some 0, nullable := some false,
      primaryKey := true, implied := true },
    { name := "name", type := "string", owner? := some 0 },
    { name := "team1_id", type := "integer", owner? := some 0, implied := true }]
  methods := [
    { name := "team1", owner? := some 0, position := 0, declaredType := some "Team1"
      inverseOf := some "Team1.players1()" }]
  commands := [renameNick]

/-- The last entity. -/
def rosterTeam : Entity where
  shortName := "Team1"
  namespaceName := "\\App\\"
  table := "teams"
  index? := some 1
  fields := [
    { name := "id", type := "increments", owner? := some 1, nullable := some false,
      primaryKey := true, implied := true }]
  methods := [
    { name := "players1", owner? := some 1, position := 0, declaredType := some "Player1[]"
      inverseOf := some "Player1.team1()" }]

/-- What the document says. -/
def rosters : Schema where
  entities := [rosterPlayer, rosterTeam]
  namespaces := OrderedMap.insert ∅ "\\App\\" "app/"

/-- Both methods belong to one relation; the column for it goes to the players. -/
theorem parse_rostersText : parse {} rostersText = .ok rosters :=
  eq_ok_of_toOption (by decide +kernel)

/-- A document that gives two entities one table. -/
def sharedTableText : String := "Player1 (players)\n  name: string\nMember1 (players)\n"

/-- What the lines before the second entity give. -/
def beforeShared : Document where
  schema :=
    { entities := [
        { shortName := "Player1", namespaceName := "\\App\\", table := "players", index? := some 0
          fields := [{ name := "name", type := "string", owner? := some 0 }] }]
      namespaces := OrderedMap.insert ∅ "\\App\\" "app/" }
  namespaceName := "\\App\\"
  current := some 0

/-- The command leads back to the first entity. Without its owner it would lead to the last one,
and it is given the owner again when it is added so. The second document is refused. -/
theorem owners_and_tables_of_rostersText :
    (parse {} rostersText = .ok rosters ∧ rosters.IsOwned ∧
      renameNick ∈ rosterPlayer.commands ∧ rosters.entityOf? renameNick.owner? = some rosterPlayer ∧
      rosters.entityOf? { renameNick with owner? := none }.owner? = some rosterTeam) ∧
    (rosters.IsPlaced ∧
      (rosters.modifyEntity 0 (·.addCommand { renameNick with owner? := none })).IsOwned) ∧
    parse {} sharedTableText = .error (.duplicateTable "players" "Player1" "Member1") := by
  obtain ⟨hdocument, hadd, -⟩ := owners_and_tables_of_parse {} rostersText
  have howned := hdocument rosters parse_rostersText
  have hplaced := isPlaced_of_parse parse_rostersText
  have hmem : renameNick ∈ rosterPlayer.commands := List.mem_singleton_self _
  refine ⟨⟨parse_rostersText, howned, hmem, ?_, entityOf?_none rosters⟩,
    ⟨hplaced, (hadd _ hplaced 0).2.2 _⟩, ?_⟩
  · exact (howned.command 0 rosterPlayer rfl renameNick hmem).2
  · exact (owners_and_tables_of_parse {} sharedTableText).2.2
      [⟨1, "Player1 (players)", true⟩, ⟨2, "name: string", false⟩] []
      ⟨3, "Member1 (players)", true⟩ beforeShared { name := "Member1", table := some "players" }
      { shortName := "Member1", namespaceName := "\\App\\", table := "players" }
      { shortName := "Player1", namespaceName := "\\App\\", table := "players", index? := some 0
        fields := [{ name := "name", type := "string", owner? := some 0 }] }
      (by decide +kernel) (eq_ok_of_toOption (by decide +kernel))
      (eq_ok_of_toOption (by decide +kernel)) (eq_ok_of_toOption (by decide +kernel))
      (by decide +kernel) (by decide +kernel)

end Schema

end EntitySchema
