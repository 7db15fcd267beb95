/-
Which columns an index gets.

An index or unique constraint covers the fields that carry its name. It is gathered field by field
while the table of an entity is built, and `columnsUnder` says what should come of it: the names of
the fields, in their order, each as often as it carries the name.

What does come of it leaves out the fields under the target of a pending rename. Their columns are
brought about by the rename, but their share of an index is by nobody: the index is created without
them, and since indexes are compared by name it is never looked at again. `columns_of_entries` says
that this is the only way in which an entry can lose a column: an entry is whole exactly when no
field that carries its name is left to a rename.

The work is an invariant of building the table. `IsGathered` speaks about the fields that have been
added so far, and has the columns of every index as `columnsUnder` of these fields; one more field
adds its name behind them, as often as it carries the name of the index. The list of columns is
compared as a list and not as a set, since the order of columns in an index matters.

Names of indexes that a pending rename brings about are left out of the table. That concerns whole
entries, and so an entry that is there has all its columns in this respect (`gathers_index`).

From the table to the change there is little to do: the entries of a change are entries of the
table, be it created or updated. Only for pivot tables it has to be seen that they are not tables of
the entity.
-/
import EntitySchema.Proofs.Migration.Entities
import EntitySchema.Proofs.Migration.PivotTables
import Mathlib.Data.List.Flatten

set_option autoImplicit false

namespace EntitySchema

open Outcome

/-! ## Gathering columns -/

/-- The fields that carry a name, in order and as often as they carry it. The way in which a field
carries names is a parameter, for indexes and for unique constraints. -/
def columnsUnder (names : Field → List String) (fields : List Field) (name : String) :
    List String :=
  fields.flatMap fun field => List.replicate ((names field).count name) field.name

section ColumnsUnder

variable {names : Field → List String} {fields : List Field} {name : String}

/-- One more field in front. -/
theorem columnsUnder_cons (field : Field) :
    columnsUnder names (field :: fields) name =
      List.replicate ((names field).count name) field.name ++ columnsUnder names fields name :=
  List.flatMap_cons

/-- One more field at the end, as the table is built. -/
theorem columnsUnder_append_singleton (field : Field) :
    columnsUnder names (fields ++ [field]) name =
      columnsUnder names fields name ++ List.replicate ((names field).count name) field.name := by
  rw [columnsUnder, List.flatMap_append, List.flatMap_singleton]
  rfl

/-- Leaving out fields leaves out columns, unless none of these fields carries the name. -/
theorem columnsUnder_filter_eq_iff {keep : Field → Bool} :
    columnsUnder names (fields.filter keep) name = columnsUnder names fields name ↔
      ∀ field ∈ fields, name ∈ names field → keep field = true := by
  induction fields with
  | nil => simp
  | cons field fields ih =>
    rw [List.forall_mem_cons, ← ih]
    cases hkeep : keep field with
    | true =>
      rw [List.filter_cons_of_pos hkeep, columnsUnder_cons, columnsUnder_cons,
        List.append_cancel_left_eq]
      simp
    | false =>
      rw [List.filter_cons_of_neg (Bool.eq_false_iff.1 hkeep), columnsUnder_cons]
      by_cases hcarries : name ∈ names field
      · -- the rest cannot make up for the columns of this field
        have hcount : 0 < (names field).count name := List.count_pos_iff.2 hcarries
        have hsub : (columnsUnder names (fields.filter keep) name).Sublist
            (columnsUnder names fields name) := List.filter_sublist.flatMap _
        have hlength := hsub.length_le
        constructor
        · intro heq
          have hsame := congrArg List.length heq
          rw [List.length_append, List.length_replicate] at hsame
          omega
        · rintro ⟨himpossible, -⟩
          cases himpossible hcarries
      · rw [List.count_eq_zero.2 hcarries]
        simp [hcarries]

end ColumnsUnder

/-- Names that collect a column collect it as often as they occur. -/
theorem Table.get?_foldl_addToIndex {column name : String} {names : List String}
    {indexes : OrderedMap String (List String)} :
    ((names.foldl (Table.addToIndex column) indexes).get? name).getD [] =
      (indexes.get? name).getD [] ++ List.replicate (names.count name) column := by
  induction names generalizing indexes with
  | nil => simp
  | cons first names ih =>
    rw [List.foldl_cons, ih, Table.addToIndex, OrderedMap.get?_insert]
    by_cases hfirst : name = first
    · subst hfirst
      rw [if_pos rfl, Option.getD_some, List.count_cons_self, Nat.add_comm, List.append_assoc,
        ← List.replicate_append_replicate]
      rfl
    · rw [if_neg hfirst, List.count_cons_of_ne (Ne.symm hfirst)]

/-! ## The entries of a table -/

namespace Entity

variable {entity : Entity} {pending : List AlterCommand} {fields : List Field}
  {snapshot : Snapshot} {table : Table} {change : TableChange} {entry : IndexChange}

/-- What some fields have put into the indexes and unique constraints of a table. -/
structure IsGathered (pending : List AlterCommand) (fields : List Field) (table : Table) :
    Prop where
  indexes : ∀ name, (table.indexes.get? name).getD [] =
    columnsUnder (·.indexNames.filter (!isRenamedTo pending .renameIndex ·))
      (fields.filter (!isHidden pending ·)) name
  uniques : ∀ name, (table.uniques.get? name).getD [] =
    columnsUnder (·.uniqueNames) (fields.filter (!isHidden pending ·)) name

/-- One more field puts its column where it belongs, or nowhere if it is left to a rename. -/
theorem IsGathered.addField (h : IsGathered pending fields table) {field : Field} {next : Table}
    (hnext : entity.addFieldToTable pending table field = .ok next) :
    IsGathered pending (fields ++ [field]) next := by
  rcases addFieldToTable_cases hnext with ⟨hhidden, rfl⟩ | ⟨hshown, rfl⟩
  · have hnone : [field].filter (!isHidden pending ·) = [] := by simp [hhidden]
    constructor
    · intro name
      rw [List.filter_append, hnone, List.append_nil, h.indexes]
    · intro name
      rw [List.filter_append, hnone, List.append_nil, h.uniques]
  · have hone : [field].filter (!isHidden pending ·) = [field] := by simp [hshown]
    constructor
    · intro name
      rw [List.filter_append, hone, columnsUnder_append_singleton, Table.get?_foldl_addToIndex,
        h.indexes]
    · intro name
      rw [List.filter_append, hone, columnsUnder_append_singleton, Table.get?_foldl_addToIndex,
        h.uniques]

/-- **The table of an entity** has gathered all its fields. -/
theorem isGathered_of_toTable (h : entity.toTable snapshot = .ok table) :
    IsGathered (entity.pendingCommands snapshot) entity.fields table := by
  refine foldlM_induction_done
    (P := fun done table => IsGathered (entity.pendingCommands snapshot) done table) ?_
    (fun _ _ _ _ _ htable hnext => htable.addField hnext) h
  exact ⟨fun _ => rfl, fun _ => rfl⟩

/-- What a change of an entity says about an index or unique constraint, given the names that a
field carries: its columns are those of the fields that are not left to a rename, and these are all
that carry the name if no rename is pending to any of the others. -/
structure Gathers (entity : Entity) (snapshot : Snapshot) (names : Field → List String)
    (entry : IndexChange) : Prop where
  columns_eq : entry.columns = columnsUnder names
    (entity.fields.filter (!isHidden (entity.pendingCommands snapshot) ·)) entry.name
  whole_iff : entry.columns = columnsUnder names entity.fields entry.name ↔
    ∀ field ∈ entity.fields, entry.name ∈ names field →
      ∀ command ∈ entity.pendingCommands snapshot, command.kind = .renameField →
        command.target ≠ some field.name

/-- The columns decide whether the entry is whole. A field that is left out and carries the name is
missing, and no other one can stand in for it. -/
theorem gathers_of_columns {names : Field → List String}
    (h : entry.columns = columnsUnder names
      (entity.fields.filter (!isHidden (entity.pendingCommands snapshot) ·)) entry.name) :
    entity.Gathers snapshot names entry := by
  refine ⟨h, ?_⟩
  rw [h, columnsUnder_filter_eq_iff]
  simp only [Bool.not_eq_true', isHidden_eq_false_iff]

/-- The indexes of the table of an entity. That the name is not brought about by a rename is known
from its being there. -/
theorem gathers_index (h : entity.toTable snapshot = .ok table)
    (hentry : (entry.name, entry.columns) ∈ table.indexes.entries) :
    entity.Gathers snapshot (·.indexNames) entry := by
  have hcolumns := (isGathered_of_toTable h).indexes entry.name
  rw [OrderedMap.get?_of_mem_entries hentry, Option.getD_some] at hcolumns
  -- an index that a rename brings about is not among the keys
  have hkey : entry.name ∈ table.indexes.keys := List.mem_map_of_mem hentry
  obtain ⟨-, -, -, -, hkept⟩ := ((isLaidOut_of_toTable h).indexes_iff entry.name).1 hkey
  apply gathers_of_columns
  rw [hcolumns]
  refine List.flatMap_congr fun field _ => ?_
  rw [List.count_filter (by rw [hkept]; rfl)]

/-- The unique constraints of the table of an entity. There is no rename for these that would be
looked at. -/
theorem gathers_unique (h : entity.toTable snapshot = .ok table)
    (hentry : (entry.name, entry.columns) ∈ table.uniques.entries) :
    entity.Gathers snapshot (·.uniqueNames) entry := by
  have hcolumns := (isGathered_of_toTable h).uniques entry.name
  rw [OrderedMap.get?_of_mem_entries hentry, Option.getD_some] at hcolumns
  exact gathers_of_columns hcolumns

end Entity

/-! ## The entries of a change -/

namespace Table

variable {snapshot : Snapshot} {table : Table} {change : TableChange} {entry : IndexChange}

/-- The entries of a map as changes. -/
theorem mem_indexChanges {indexes : OrderedMap String (List String)} :
    entry ∈ indexChanges indexes ↔ (entry.name, entry.columns) ∈ indexes.entries := by
  rw [indexChanges, List.mem_map]
  constructor
  · rintro ⟨pair, hpair, rfl⟩
    exact hpair
  · intro hentry
    exact ⟨_, hentry, rfl⟩

/-- The entries of a change are entries of its table. -/
theorem entries_of_changeFrom? (h : table.changeFrom? snapshot = some change) :
    (∀ entry ∈ change.indexes, (entry.name, entry.columns) ∈ table.indexes.entries) ∧
      ∀ entry ∈ change.uniques, (entry.name, entry.columns) ∈ table.uniques.entries := by
  rcases changeFrom?_eq_some h with ⟨-, rfl⟩ | ⟨-, rfl⟩
  · constructor
    · intro entry hentry
      exact List.mem_of_mem_filter (mem_indexChanges.1 hentry)
    · intro entry hentry
      exact List.mem_of_mem_filter (mem_indexChanges.1 hentry)
  · exact ⟨fun entry hentry => mem_indexChanges.1 hentry,
      fun entry hentry => mem_indexChanges.1 hentry⟩

end Table

namespace Schema

/-- **Composite indexes.** In the changes that come of a comparison every index and every unique
constraint of an entity's table has the columns of the fields that carry its name, in order and as
often as they carry it, except for the fields under the target of a pending rename. -/
theorem columns_of_entries {config : Config} {text : String} {schema : Schema}
    {snapshot : Snapshot} {changeSet : ChangeSet}
    (hparse : Schema.parse config text = .ok schema)
    (hchanges : Tracked.evaluate (changesFrom schema snapshot) = .ok changeSet)
    {change : TableChange} (hchange : change ∈ changeSet.changes) {entity : Entity}
    (hentity : entity ∈ schema.entities) (htable : change.table = entity.table) :
    (∀ entry ∈ change.indexes, entity.Gathers snapshot (·.indexNames) entry) ∧
      ∀ entry ∈ change.uniques, entity.Gathers snapshot (·.uniqueNames) entry := by
  have hplaced : schema.IsPlaced := isPlaced_of_parse hparse
  rw [evaluate_changesFrom hplaced] at hchanges
  obtain ⟨pivots, hasked, tables, htables, rfl⟩ := changesFrom_eq_ok.1 hchanges
  rcases ChangeSet.mem_between.1 hchange with ⟨table, hmem, hfrom⟩ | ⟨pivot, hpivot, _, rfl⟩
  · obtain ⟨owner, howner, hmade⟩ := (mem_of_mapM htables).1 hmem
    -- the change is that of the entity, since no other one has its table
    have hsame : owner.table = entity.table := by
      rw [← (Entity.isLaidOut_of_toTable hmade).name_eq, ← Table.table_of_changeFrom? hfrom, htable]
    obtain rfl := hplaced.eq_of_table_eq howner hentity hsame
    obtain ⟨hindexes, huniques⟩ := Table.entries_of_changeFrom? hfrom
    exact ⟨fun entry hentry => Entity.gathers_index hmade (hindexes entry hentry),
      fun entry hentry => Entity.gathers_unique hmade (huniques entry hentry)⟩
  · -- a pivot table is no entity's
    obtain ⟨hanswers, hnames⟩ := hasked.names_eq
    have hname : pivot.name ∈ schema.methods.filterMap schema.pivotName? := by
      rw [← hnames]
      exact List.mem_map_of_mem hpivot
    exact absurd htable.symm (ne_of_mem_pivotNames hanswers hname hentity)

/-! ## An index of two fields -/

/-- A document in which one of the fields of an index used to have another name. -/
def itemsText : String :=
  "Item1 (items1)\n  RENAME FIELD mame TO name\n  name: string Index(i)\n" ++
    "  email: string Index(i)\n"

/-- The entity of the document. -/
def item1 : Entity where
  shortName := "Item1"
  namespaceName := "\\App\\"
  table := "items1"
  index? := some 0
  fields := [
    { name := "id", type := "increments", owner? := some 0, nullable := some false,
      primaryKey := true, implied := true },
    { name := "name", type := "string", owner? := some 0, indexNames := ["i"] },
    { name := "email", type := "string", owner? := some 0, indexNames := ["i"] }]
  commands := [{ kind := .renameField, source := "mame", target := some "name", owner? := some 0 }]

/-- What the document says. -/
def items : Schema where
  entities := [item1]
  namespaces := OrderedMap.insert ∅ "\\App\\" "app/"

/-- The rename is a command of the entity, and both fields carry the name of the index. -/
theorem parse_itemsText : Schema.parse {} itemsText = .ok items :=
  eq_ok_of_toOption (by decide +kernel)

/-- What an empty database lacks. -/
def itemsCreated : ChangeSet where
  changes := [
    { kind := .createTable, table := "items1"
      columns := [
        { name := "id", type := "increments", nullable := false, primaryKey := true },
        { name := "name", type := "string", nullable := true },
        { name := "email", type := "string", nullable := true }]
      indexes := [{ name := "i", columns := ["name", "email"] }] }]

/-- In an empty database no rename is pending, and the index gets the columns of both fields. -/
theorem columns_of_entries_items :
    Schema.parse {} itemsText = .ok items ∧
      Tracked.evaluate (changesFrom items .empty) = .ok itemsCreated ∧
        ∀ change ∈ itemsCreated.changes, ∀ entry ∈ change.indexes,
          entry.columns = columnsUnder (·.indexNames) item1.fields entry.name := by
  have hchanges : Tracked.evaluate (changesFrom items .empty) = .ok itemsCreated :=
    eq_ok_of_toOption (by decide +kernel)
  refine ⟨parse_itemsText, hchanges, fun change hchange entry hentry => ?_⟩
  have htable : change.table = item1.table := by
    rw [List.mem_singleton.1 hchange]
    rfl
  obtain ⟨hindexes, -⟩ := columns_of_entries parse_itemsText hchanges hchange
    (List.mem_singleton.2 rfl) htable
  refine (hindexes entry hentry).whole_iff.2 fun field _ _ command hcommand => ?_
  rw [Entity.pendingCommands_of_get?_none rfl] at hcommand
  cases hcommand

/-- A database in which the field still has its old name. -/
def itemsBefore : Snapshot where
  tables := OrderedMap.insert ∅ "items1"
    { columns := OrderedMap.ofList [
        (some "id", { nullable := false }), (some "mame", {}), (some "email", {})] }

/-- What it lacks. -/
def itemsChanges : ChangeSet where
  changes := [
    { kind := .updateTable, table := "items1"
      indexes := [{ name := "i", columns := ["email"] }]
      commands := [{ kind := .renameField, source := "mame", target := some "name" }] }]

/-- What comes of it. -/
def itemsAfter : Snapshot where
  tables := OrderedMap.insert ∅ "items1"
    { columns := OrderedMap.ofList [
        (some "id", { nullable := false }), (some "email", {}), (some "name", {})]
      indexes := [some "i"] }

/-- While the rename is pending the index gets the column of one field only. Once it is there under
its name it stays as it is. -/
theorem not_whole_items :
    Schema.parse {} itemsText = .ok items ∧
      (Tracked.evaluate (changesFrom items itemsBefore) = .ok itemsChanges ∧
        ∃ change ∈ itemsChanges.changes, change.table = item1.table ∧
          ∃ entry ∈ change.indexes,
            entry.columns ≠ columnsUnder (·.indexNames) item1.fields entry.name) ∧
      itemsBefore.apply itemsChanges = .ok itemsAfter ∧
        Tracked.evaluate (changesFrom items itemsAfter) = .ok {} := by
  refine ⟨parse_itemsText, ⟨eq_ok_of_toOption (by decide +kernel), ?_⟩,
    eq_ok_of_toOption (by decide +kernel), eq_ok_of_toOption (by decide +kernel)⟩
  exact ⟨_, List.mem_singleton.2 rfl, rfl, _, List.mem_singleton.2 rfl, by decide⟩

end Schema

end EntitySchema
