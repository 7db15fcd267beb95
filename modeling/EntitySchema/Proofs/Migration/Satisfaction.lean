/-
What it means that there is nothing to do.

A change set is empty if the database satisfies the schema: every entity has its table, with a
column for each field that may be null if the field says so and with the indexes and unique
constraints of the fields, nothing is left of what the commands rename or delete, and every pivot
table is there. `Schema.IsSatisfiedBy` says this of a snapshot, in terms of what the snapshot can be
asked and without a word about changes.

`isEmpty_changesFrom_iff` is the comparison read both ways. An empty change set hides nothing: the
fields under the target of a pending rename, which a comparison leaves out, are no exception, since
the rename itself is a change. And nothing is asked for that is there.

For one entity the equivalence is that of `Entity.changeFrom?_eq_none_iff`, which speaks of the
state of a table; `Entity.isSatisfiedBy_iff` translates it into questions to the snapshot. For the
schema what remains is to see that a comparison goes through the entities one by one and that pivot
tables are asked for with the same answers on either side, although the definition asks each entity
on its own and the comparison asks all of them with one memory.

Names of fields have to be different. If an entity has two fields of one name, one of which may be
null and the other not, no column can serve both, while a comparison lets either settle the name.
-/
import EntitySchema.Proofs.Migration.Comparison
import EntitySchema.Proofs.Migration.Entities
import EntitySchema.Proofs.Tracking.Changes

set_option autoImplicit false

namespace EntitySchema

open Outcome

/-! ## Satisfaction -/

/-- A database has what an entity declares, and nothing that its commands act on. Both unique
constraints and plain indexes are looked up among the indexes of the snapshot, by name alone. -/
structure Entity.IsSatisfiedBy (entity : Entity) (snapshot : Snapshot) : Prop where
  table : snapshot.hasTable entity.table = true
  column : ∀ field ∈ entity.fields,
    snapshot.columnNullable? entity.table field.name = some field.mayBeNull
  index : ∀ field ∈ entity.fields, ∀ name,
    name ∈ field.indexNames ∨ name ∈ field.uniqueNames →
      snapshot.hasIndex entity.table name = true
  column_source : ∀ command ∈ entity.commands, command.kind.actsOnIndex = false →
    snapshot.hasColumn entity.table command.source = false
  index_source : ∀ command ∈ entity.commands, command.kind.actsOnIndex = true →
    snapshot.hasIndex entity.table command.source = false

/-- A database satisfies all entities of a schema and has the pivot tables of its relations. Of a
pivot table only the existence is asked: no comparison looks into one that is there. -/
structure Schema.IsSatisfiedBy (schema : Schema) (snapshot : Snapshot) : Prop where
  entity : ∀ entity ∈ schema.entities, entity.IsSatisfiedBy snapshot
  pivot : ∀ entity ∈ schema.entities, ∃ pivots,
    Tracked.evaluate (impliedPivotTables schema entity) = .ok pivots ∧
      ∀ pivot ∈ pivots, snapshot.hasTable pivot.name = true

/-! ## Nothing to do -/

/-- An entity is satisfied exactly when its table is there and serves it in all its fields, so that
none of them is left to a rename. -/
theorem Entity.isSatisfiedBy_iff {entity : Entity} {snapshot : Snapshot} :
    entity.IsSatisfiedBy snapshot ↔
      ∃ state, snapshot.tables.get? entity.table = some state ∧ entity.IsServedBy [] state := by
  constructor
  · intro h
    obtain ⟨state, hthere⟩ := Option.isSome_iff_exists.1 h.table
    refine ⟨state, hthere, fun field hfield _ => ?_, fun field hfield _ name hname => ?_,
      fun command hcommand hkind => ?_, fun command hcommand hkind => ?_⟩
    · rw [TableState.column?, ← h.column field hfield, Snapshot.columnNullable?, hthere]
      rfl
    · rw [← Snapshot.hasIndex_of_get? hthere]
      exact h.index field hfield name hname
    -- a column that is not there is one about which nothing is known
    · have hgone := h.column_source command hcommand hkind
      rwa [Snapshot.hasColumn, Snapshot.columnNullable?_of_get? hthere, Option.isSome_map,
        Option.isSome_eq_false_iff, Option.isNone_iff_eq_none] at hgone
    · rw [← Snapshot.hasIndex_of_get? hthere]
      exact h.index_source command hcommand hkind
  · rintro ⟨state, hthere, hserved⟩
    refine ⟨?_, fun field hfield => ?_, fun field hfield name hname => ?_,
      fun command hcommand hkind => ?_, fun command hcommand hkind => ?_⟩
    · rw [Snapshot.hasTable, OrderedMap.contains, hthere]
      rfl
    · rw [Snapshot.columnNullable?_of_get? hthere]
      exact hserved.column field hfield rfl
    · rw [Snapshot.hasIndex_of_get? hthere]
      exact hserved.index field hfield rfl name hname
    · rw [Snapshot.hasColumn, Snapshot.columnNullable?_of_get? hthere,
        hserved.column_source command hcommand hkind]
      rfl
    · rw [Snapshot.hasIndex_of_get? hthere]
      exact hserved.index_source command hcommand hkind

/-- Nothing comes of tables of which none asks for a change, if no pivot table is missing. A change
set is empty only if both of its halves are. -/
theorem ChangeSet.isEmpty_between_iff {snapshot : Snapshot} {tables pivots : List Table} :
    (ChangeSet.between snapshot tables pivots).isEmpty = true ↔
      (∀ table ∈ tables, table.changeFrom? snapshot = none) ∧
        ∀ pivot ∈ pivots, snapshot.hasTable pivot.name = true := by
  simp [isEmpty, between, List.filterMap_eq_nil_iff, List.filter_eq_nil_iff]

namespace Schema

/-- **Nothing to do.** The changes that come of comparing a schema with a snapshot are empty exactly
when the snapshot satisfies the schema. -/
theorem isEmpty_changesFrom_iff {config : Config} {text : String} {schema : Schema}
    {snapshot : Snapshot} {changeSet : ChangeSet}
    (hparse : Schema.parse config text = .ok schema)
    (hnames : ∀ entity ∈ schema.entities, entity.fieldNames.Nodup)
    (hchanges : Tracked.evaluate (changesFrom schema snapshot) = .ok changeSet) :
    changeSet.isEmpty = true ↔ schema.IsSatisfiedBy snapshot := by
  have hplaced : schema.IsPlaced := isPlaced_of_parse hparse
  rw [evaluate_changesFrom hplaced] at hchanges
  obtain ⟨_, ⟨-, ofEntities, hpivots, rfl⟩, tables, htables, rfl⟩ := changesFrom_eq_ok.1 hchanges
  -- tables and pivot tables are the results of the entities, one by one
  have hentity : ∀ entity ∈ schema.entities, ∀ table, entity.toTable snapshot = .ok table →
      (table.changeFrom? snapshot = none ↔ entity.IsSatisfiedBy snapshot) := by
    intro entity hmem table hmade
    rw [Entity.isSatisfiedBy_iff]
    exact Entity.changeFrom?_eq_none_iff (hnames entity hmem) hmade
  rw [ChangeSet.isEmpty_between_iff]
  constructor
  · rintro ⟨hnone, hthere⟩
    constructor
    · intro entity hmem
      obtain ⟨table, htable, hmade⟩ := exists_of_mapM htables hmem
      exact (hentity entity hmem table hmade).1 (hnone table htable)
    · intro entity hmem
      obtain ⟨asked, hasked, hmade⟩ := exists_of_mapM hpivots hmem
      refine ⟨asked, (evaluate_impliedPivotTables hplaced hmem).trans hmade, ?_⟩
      intro pivot hpivot
      exact hthere pivot (List.mem_flatten.2 ⟨asked, hasked, hpivot⟩)
  · intro hsatisfied
    constructor
    · intro table htable
      obtain ⟨entity, hmem, hmade⟩ := (mem_of_mapM htables).1 htable
      exact (hentity entity hmem table hmade).2 (hsatisfied.entity entity hmem)
    · intro pivot hpivot
      obtain ⟨asked, hasked, hpivot⟩ := List.mem_flatten.1 hpivot
      obtain ⟨entity, hmem, hmade⟩ := (mem_of_mapM hpivots).1 hasked
      obtain ⟨same, hsame, hthere⟩ := hsatisfied.pivot entity hmem
      rw [evaluate_impliedPivotTables hplaced hmem, hmade] at hsame
      obtain rfl := Except.ok.inj hsame
      exact hthere pivot hpivot

/-! ## An example -/

/-- A document with a rename, an index and a many-to-many. -/
def clubsText : String :=
  "Club1 (clubs1)\n  RENAME FIELD title TO name\n  name: string Index\n" ++
    "  members1(): Member1[] <- Member1.clubs1()\n" ++
    "Member1 (members1)\n  clubs1(): Club1[] <- Club1.members1()\n"

/-- What the document says. -/
def clubs : Schema where
  entities := [
    { shortName := "Club1", namespaceName := "\\App\\", table := "clubs1", index? := some 0
      fields := [
        { name := "id", type := "increments", owner? := some 0, nullable := some false,
          primaryKey := true, implied := true },
        { name := "name", type := "string", owner? := some 0, indexNames := ["clubs1_name_idx"] }]
      methods := [
        { name := "members1", owner? := some 0, position := 0, declaredType := some "Member1[]"
          inverseOf := some "Member1.clubs1()" }]
      commands := [
        { kind := .renameField, source := "title", target := some "name", owner? := some 0 }] },
    { shortName := "Member1", namespaceName := "\\App\\", table := "members1", index? := some 1
      fields := [
        { name := "id", type := "increments", owner? := some 1, nullable := some false,
          primaryKey := true, implied := true }]
      methods := [
        { name := "clubs1", owner? := some 1, position := 0, declaredType := some "Club1[]"
          inverseOf := some "Club1.members1()" }] }]
  namespaces := OrderedMap.insert ∅ "\\App\\" "app/"

/-- A database that has the tables of both entities, but not the pivot table. -/
def clubsBefore : Snapshot where
  tables := (OrderedMap.insert ∅ "clubs1"
    { columns := (OrderedMap.insert ∅ (some "id") { nullable := false }).insert (some "name") {}
      indexes := [some "clubs1_name_idx"] }).insert "members1"
    { columns := OrderedMap.insert ∅ (some "id") { nullable := false } }

/-- What it lacks. -/
def clubsChanges : ChangeSet where
  changes := [
    { kind := .createTable, table := "clubs1_members1", impliedPivot := true
      columns := [
        { name := "members1_id", type := "unsignedInteger", nullable := false },
        { name := "clubs1_id", type := "unsignedInteger", nullable := false }] }]

/-- What comes of it when the pivot table is created. -/
def clubsAfter : Snapshot where
  tables := clubsBefore.tables.insert "clubs1_members1" {
    columns := OrderedMap.ofList [
      (some "members1_id", { nullable := false, type := some "unsignedInteger" }),
      (some "clubs1_id", { nullable := false, type := some "unsignedInteger" })] }

/-- The database without the pivot table does not satisfy the schema, and the one that comes of its
changes does. The rename is no longer pending in either of them. -/
theorem isEmpty_changesFrom_clubs :
    Schema.parse {} clubsText = .ok clubs ∧ ¬ clubs.IsSatisfiedBy clubsBefore ∧
      clubsBefore.apply clubsChanges = .ok clubsAfter ∧ clubs.IsSatisfiedBy clubsAfter := by
  have hparse : Schema.parse {} clubsText = .ok clubs :=
    eq_ok_of_toOption (by decide +kernel)
  have hbefore : Tracked.evaluate (changesFrom clubs clubsBefore) = .ok clubsChanges :=
    eq_ok_of_toOption (by decide +kernel)
  have hafter : Tracked.evaluate (changesFrom clubs clubsAfter) = .ok {} :=
    eq_ok_of_toOption (by decide +kernel)
  have hnames : ∀ entity ∈ clubs.entities, entity.fieldNames.Nodup := by decide
  refine ⟨hparse, ?_, eq_ok_of_toOption (by decide +kernel), ?_⟩
  · rw [← isEmpty_changesFrom_iff hparse hnames hbefore]
    exact Bool.false_ne_true
  · rw [← isEmpty_changesFrom_iff hparse hnames hafter]
    rfl

end Schema

end EntitySchema
