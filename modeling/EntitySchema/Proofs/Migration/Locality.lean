/-
What the changes of one table depend on.

A comparison reads the snapshot in many places: which commands are pending, which fields and indexes
are left to them, what of a table is missing, which tables are created. One and the same run goes
through all tables. Still, the changes of one table depend on nothing but the entry of that table:
two snapshots that agree on a table give it the same changes, whatever else they say. So it does not
matter for the migration of one table what has become of the others.

Agreement is weaker than having the same entry. A snapshot is only asked for the nullability of a
column and for the presence of an index, so the order of columns and indexes does not matter, nor do
the types of columns or how often an index is listed.

The proof says of each question that is put to a snapshot about a table that it has the same answer
in both. These are three: whether the table is there, whether a column may be null, and whether
there is an index of some name. Everything that is done for a table or for an entity is a function
of them, and so it is the same. For the list of all changes one has to look at the changes of a
table only: an entity that is stored elsewhere contributes none of them in either snapshot, and a
pivot table of this name is created in both or in neither.

Both comparisons are assumed to succeed. They need not do so together, since another entity may be
refused against one snapshot and not against the other.
-/
import EntitySchema.Proofs.Migration.Entities
import EntitySchema.Proofs.Migration.PivotTables

set_option autoImplicit false

namespace EntitySchema

open Outcome

/-! ## Agreement -/

/-- Two tables have columns of the same names, which may be null alike, and indexes of the same
names. -/
structure TableState.IsAlike (first second : TableState) : Prop where
  column : ∀ name,
    (first.column? name).map (·.nullable) = (second.column? name).map (·.nullable)
  index : ∀ name, first.hasIndex name = second.hasIndex name

/-- Two snapshots agree on a table: both lack it, or both have it and it is alike. -/
inductive Snapshot.AgreeOn (first second : Snapshot) (table : String) : Prop where
  | missing (ofFirst : first.tables.get? table = none) (ofSecond : second.tables.get? table = none)
  | there {one other : TableState} (ofFirst : first.tables.get? table = some one)
      (ofSecond : second.tables.get? table = some other) (alike : one.IsAlike other)

namespace Snapshot.AgreeOn

variable {first second : Snapshot} {table : String}

/-- The table is there in both or in neither. -/
theorem hasTable_eq (h : first.AgreeOn second table) :
    first.hasTable table = second.hasTable table := by
  rw [hasTable, hasTable, OrderedMap.contains, OrderedMap.contains]
  cases h with
  | missing ofFirst ofSecond => rw [ofFirst, ofSecond]
  | there ofFirst ofSecond _ => rw [ofFirst, ofSecond]; rfl

/-- A column is there in both or in neither, and may be null alike. -/
theorem columnNullable?_eq (h : first.AgreeOn second table) :
    first.columnNullable? table = second.columnNullable? table := by
  funext name
  cases h with
  | missing ofFirst ofSecond => rw [columnNullable?, columnNullable?, ofFirst, ofSecond]
  | there ofFirst ofSecond alike =>
    rw [columnNullable?_of_get? ofFirst, columnNullable?_of_get? ofSecond, alike.column]

/-- An index is there in both or in neither. -/
theorem hasIndex_eq (h : first.AgreeOn second table) :
    first.hasIndex table = second.hasIndex table := by
  funext name
  cases h with
  | missing ofFirst ofSecond => rw [hasIndex, hasIndex, ofFirst, ofSecond]
  | there ofFirst ofSecond alike =>
    rw [hasIndex_of_get? ofFirst, hasIndex_of_get? ofSecond, alike.index]

end Snapshot.AgreeOn

/-! ## One table -/

section Agreeing

variable {first second : Snapshot}

/-- Both snapshots lack the same of a table. -/
theorem Table.missingFrom_eq_of_agreeOn {table : Table} (h : first.AgreeOn second table.name) :
    table.missingFrom first = table.missingFrom second := by
  have hmark : markColumn first table.name = markColumn second table.name := by
    funext column
    rw [markColumn, markColumn, h.columnNullable?_eq]
  have hsettled : isSettled first table.name = isSettled second table.name := by
    funext columns name
    rw [isSettled, isSettled, h.columnNullable?_eq]
  rw [missingFrom, missingFrom, hmark, hsettled, h.hasIndex_eq]

/-- So the change that comes of the table is the same, be it a creation or an update. -/
theorem Table.changeFrom?_eq_of_agreeOn {table : Table} (h : first.AgreeOn second table.name) :
    table.changeFrom? first = table.changeFrom? second := by
  rw [changeFrom?, changeFrom?, h.hasTable_eq, missingFrom_eq_of_agreeOn h]

namespace Entity

variable {entity : Entity}

/-- The same commands are pending, because each is asked for a column or an index of the table. -/
theorem pendingCommands_eq_of_agreeOn (h : first.AgreeOn second entity.table) :
    entity.pendingCommands first = entity.pendingCommands second := by
  have hpending : entity.isPending first = entity.isPending second := by
    funext command
    rw [isPending, isPending, Snapshot.hasColumn, Snapshot.hasColumn, h.columnNullable?_eq,
      h.hasIndex_eq]
  rw [pendingCommands, pendingCommands, hpending]

/-- The table of an entity depends on a snapshot only through the commands that are pending. If it
cannot be built, the error is the same. -/
theorem toTable_eq_of_agreeOn (h : first.AgreeOn second entity.table) :
    entity.toTable first = entity.toTable second := by
  rw [toTable, toTable, pendingCommands_eq_of_agreeOn h]

/-- An entity gets the same answer from both. -/
theorem answerFrom?_eq_of_agreeOn (h : first.AgreeOn second entity.table) :
    entity.answerFrom? first = entity.answerFrom? second := by
  have hsame : entity.toTable first = entity.toTable second := toTable_eq_of_agreeOn h
  cases htable : entity.toTable first with
  | error error =>
    rw [answerFrom?, answerFrom?, ← hsame, htable]
    rfl
  | ok table =>
    rw [answerFrom?_eq htable, answerFrom?_eq (hsame ▸ htable)]
    apply Table.changeFrom?_eq_of_agreeOn
    rwa [(isLaidOut_of_toTable htable).name_eq]

/-- What answers an entity is a change of its table. -/
theorem table_of_answerFrom? {snapshot : Snapshot} {change : TableChange}
    (h : entity.answerFrom? snapshot = some change) : change.table = entity.table := by
  obtain ⟨table, htable, hchange⟩ := Option.bind_eq_some_iff.1 h
  have hmade : entity.toTable snapshot = .ok table := eq_ok_of_toOption htable
  rw [Table.table_of_changeFrom? hchange, (isLaidOut_of_toTable hmade).name_eq]

end Entity

end Agreeing

/-! ## One table of a change set -/

/-- All changes of a table, in order. -/
def ChangeSet.changesFor (changeSet : ChangeSet) (table : String) : List TableChange :=
  changeSet.changes.filter (·.table == table)

namespace Schema

variable {schema : Schema} {first second : Snapshot} {table : String} {pivots : List Table}

/-- What answers the entities says the same about a table. -/
theorem filter_answers_eq_of_agreeOn (h : first.AgreeOn second table) (entities : List Entity) :
    (entities.filterMap (Entity.answerFrom? first)).filter (·.table == table) =
      (entities.filterMap (Entity.answerFrom? second)).filter (·.table == table) := by
  rw [List.filter_filterMap, List.filter_filterMap]
  refine List.filterMap_congr fun entity _ => ?_
  by_cases hsame : entity.table = table
  · rw [← hsame] at h
    rw [Entity.answerFrom?_eq_of_agreeOn h]
  · -- an entity that is stored elsewhere is answered elsewhere
    have helsewhere (snapshot : Snapshot) :
        (entity.answerFrom? snapshot).filter (·.table == table) = none := by
      refine Option.filter_eq_none_iff.2 fun change hchange => ?_
      rw [Entity.table_of_answerFrom? hchange, beq_iff_eq]
      exact hsame
    rw [helsewhere, helsewhere]

/-- So do the pivot tables that are missing. -/
theorem filter_created_eq_of_agreeOn (h : first.AgreeOn second table) (pivots : List Table) :
    ((pivots.filter (!first.hasTable ·.name)).map (·.toChange .createTable)).filter
        (·.table == table) =
      ((pivots.filter (!second.hasTable ·.name)).map (·.toChange .createTable)).filter
        (·.table == table) := by
  rw [List.filter_map, List.filter_map, List.filter_filter, List.filter_filter]
  refine congrArg _ (List.filter_congr fun pivot _ => ?_)
  by_cases hsame : pivot.name = table
  · rw [← hsame] at h
    rw [h.hasTable_eq]
  · have hother : (pivot.name == table) = false := beq_eq_false_iff_ne.2 hsame
    simp only [Function.comp_apply, Table.toChange, hother, Bool.false_and]

/-- The relations of a schema ask for one list of pivot tables only, whatever it is compared
with. -/
theorem AsksFor.unique {others : List Table} (h : schema.AsksFor pivots)
    (hothers : schema.AsksFor others) : pivots = others := by
  obtain ⟨-, ofEntities, hofEntities, rfl⟩ := h
  obtain ⟨-, ofOthers, hofOthers, rfl⟩ := hothers
  rw [hofEntities] at hofOthers
  rw [Except.ok.inj hofOthers]

/-- **The changes of a table depend on that table alone.** If two snapshots agree on a table and
both can be compared with a schema, the changes of the table are the same, in the same order. -/
theorem changesFor_eq_of_agreeOn {config : Config} {text : String}
    (hparse : Schema.parse config text = .ok schema) (hagree : first.AgreeOn second table)
    {ofFirst ofSecond : ChangeSet}
    (hfirst : Tracked.evaluate (changesFrom schema first) = .ok ofFirst)
    (hsecond : Tracked.evaluate (changesFrom schema second) = .ok ofSecond) :
    ofFirst.changesFor table = ofSecond.changesFor table := by
  have hplaced : schema.IsPlaced := isPlaced_of_parse hparse
  rw [evaluate_changesFrom hplaced] at hfirst hsecond
  obtain ⟨pivots, hasked, tables, htables, rfl⟩ := changesFrom_eq_ok.1 hfirst
  obtain ⟨others, hothers, otherTables, hotherTables, rfl⟩ := changesFrom_eq_ok.1 hsecond
  obtain rfl := hasked.unique hothers
  simp only [ChangeSet.changesFor, ChangeSet.between, List.filter_append,
    filterMap_changeFrom?_eq htables, filterMap_changeFrom?_eq hotherTables,
    filter_answers_eq_of_agreeOn hagree, filter_created_eq_of_agreeOn hagree]

/-! ## Two databases with one table of clubs -/

/-- A database with nothing but clubs. -/
def clubsAlone : Snapshot where
  tables := OrderedMap.insert ∅ "club1" {
    columns := (OrderedMap.insert ∅ (some "id") {}).insert (some "note") {}
    indexes := [some "by_note", some "by_id"] }

/-- A database with all tables, the same clubs among them: only the types of their columns are told,
and the order is another one. -/
def clubsAmongOthers : Snapshot where
  tables := ((OrderedMap.insert ∅ "member1" {}).insert "club1" {
    columns := (OrderedMap.insert ∅ (some "note") { type := some "text" }).insert (some "id")
      { type := some "bigint" }
    indexes := [some "by_id", some "by_note"] }).insert "club1_member1" {}

/-- The clubs have the same columns and indexes in both databases, in another order. -/
theorem agreeOn_club1 : clubsAlone.AgreeOn clubsAmongOthers "club1" := by
  refine .there rfl rfl ⟨fun name => ?_, fun name => ?_⟩
  · simp only [TableState.column?, OrderedMap.get?_insert]
    split <;> split <;> simp_all
  · simp [TableState.hasIndex, Bool.or_comm]

/-- What is to be done for the clubs. -/
def clubsChange : TableChange where
  kind := .updateTable
  table := "club1"
  columns := [{ name := "id", type := "increments", nullable := false, primaryKey := true,
                alreadyThere := true, currentNullable := some true }]

/-- What the first database lacks. -/
def clubsAloneChanges : ChangeSet where
  changes := clubsChange :: officersChanges.changes.tail

/-- What the second database lacks. -/
def clubsAmongOthersChanges : ChangeSet where
  changes := [clubsChange,
    { kind := .updateTable, table := "member1"
      columns := [{ name := "id", type := "increments", nullable := false, primaryKey := true }] }]

/-- Members and pivot tables are created in the one database and not in the other, but the clubs
change alike. -/
theorem changesFor_eq_of_agreeOn_club1 :
    Schema.parse {} officersText = .ok officers ∧ clubsAlone.AgreeOn clubsAmongOthers "club1" ∧
      Tracked.evaluate (changesFrom officers clubsAlone) = .ok clubsAloneChanges ∧
      Tracked.evaluate (changesFrom officers clubsAmongOthers) = .ok clubsAmongOthersChanges ∧
      clubsAloneChanges ≠ clubsAmongOthersChanges ∧
      clubsAloneChanges.changesFor "club1" = clubsAmongOthersChanges.changesFor "club1" := by
  have halone : Tracked.evaluate (changesFrom officers clubsAlone) = .ok clubsAloneChanges :=
    eq_ok_of_toOption (by decide +kernel)
  have hamongOthers :
      Tracked.evaluate (changesFrom officers clubsAmongOthers) = .ok clubsAmongOthersChanges :=
    eq_ok_of_toOption (by decide +kernel)
  exact ⟨parse_officersText, agreeOn_club1, halone, hamongOthers, by decide,
    changesFor_eq_of_agreeOn parse_officersText agreeOn_club1 halone hamongOthers⟩

end Schema

end EntitySchema
