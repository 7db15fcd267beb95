/-
The table of an entity, and what of it a snapshot lacks.

The table is built field by field, and a field may be refused: it must not be the source of a
rename, and its indexes must not be the source of a command on indexes. If nothing is refused the
table can be written down: `IsLaidOut` lists its columns and says which names its indexes and unique
constraints have. Two things are left out while a rename is pending, the field under its target and
the index under its target, since the rename brings them about. Of an entity with clear commands
nothing is ever refused, against any snapshot.

What a snapshot lacks of the table is again a matter of names. The lemmas at the end say it of the
change that is made from it.

`addFieldToTable_cases` is the one place where the construction is taken apart; `IsLaidOut.addField`
is the step and `isLaidOut_of_toTable` the run. The invariant speaks of the fields done so far,
which is why `IsLaidOut` has the list of fields as an argument of its own. Of indexes it tells only
the names. Which columns they have is told in `Migration.Indexes`, where it is needed.

Columns are compared by name and by whether they may be null, while the columns that are missing
carry a mark that tells a new column from a changed one. The mark changes neither of the two
(`name_markColumn`, `nullable_markColumn`), so that proofs can look through it.
-/
import EntitySchema.ChangeSet.Between
import EntitySchema.Proofs.Migration.Checks
import EntitySchema.Proofs.Migration.TableStates
import EntitySchema.Proofs.Placement
import Mathlib.Data.List.Nodup

set_option autoImplicit false

namespace EntitySchema

open Outcome

/-! ## Clear commands -/

/-- The commands of an entity do not get in each other's way: no two commands of one sort share a
source, and no source is a target of a command of the same sort. Nor do they act on what the
entity declares: no source is the name of a field, or of an index or unique constraint. -/
structure Entity.HasClearCommands (entity : Entity) : Prop where
  sources : entity.commands.Pairwise fun first second =>
    first.kind.actsOnIndex = second.kind.actsOnIndex → first.source ≠ second.source
  targets : ∀ first ∈ entity.commands, ∀ second ∈ entity.commands,
    first.kind.actsOnIndex = second.kind.actsOnIndex → first.target ≠ some second.source
  fields : ∀ command ∈ entity.commands, command.kind.actsOnIndex = false →
    ∀ field ∈ entity.fields, field.name ≠ command.source
  indexes : ∀ command ∈ entity.commands, command.kind.actsOnIndex = true →
    ∀ field ∈ entity.fields,
      command.source ∉ field.indexNames ∧ command.source ∉ field.uniqueNames

/-- Clear commands are no contradictions. The two conditions on declared names are what this rests
on, those among commands are for running them. -/
theorem Entity.HasClearCommands.not_contradicts {entity : Entity} (h : entity.HasClearCommands) :
    ¬ entity.Contradicts := by
  rintro ⟨field, hfield, command, hcommand, hacts⟩
  rw [AlterCommand.ActsOn] at hacts
  split at hacts
  · next hkind =>
    obtain ⟨hindex, hunique⟩ := h.indexes command hcommand hkind field hfield
    exact hacts.elim hindex hunique
  · next hkind =>
    rw [Bool.not_eq_true] at hkind
    exact h.fields command hcommand hkind field hfield hacts.symm

/-! ## The table of an entity -/

namespace OrderedMap

variable {κ α : Type} [DecidableEq κ] {m : OrderedMap κ α}

/-- An insertion adds its key, if it was not there. -/
theorem mem_keys_insert {key other : κ} {value : α} :
    other ∈ (m.insert key value).keys ↔ other = key ∨ other ∈ m.keys :=
  mem_keys_insertEntry

omit [DecidableEq κ] in
/-- A filter on keys keeps those that satisfy it. -/
theorem mem_keys_filterKeys {p : κ → Bool} {key : κ} :
    key ∈ (m.filterKeys p).keys ↔ key ∈ m.keys ∧ p key = true := by
  simp only [keys, filterKeys, List.mem_map, List.mem_filter]
  constructor
  · rintro ⟨entry, ⟨hentry, hp⟩, rfl⟩
    exact ⟨⟨entry, hentry, rfl⟩, hp⟩
  · rintro ⟨⟨entry, hentry, rfl⟩, hp⟩
    exact ⟨entry, ⟨hentry, hp⟩, rfl⟩

omit [DecidableEq κ] in
/-- Nothing is left by a filter on keys if none of them satisfies it. -/
theorem keys_filterKeys_eq_nil_iff {p : κ → Bool} :
    (m.filterKeys p).keys = [] ↔ ∀ key ∈ m.keys, p key = false := by
  simp [List.eq_nil_iff_forall_not_mem, mem_keys_filterKeys]

end OrderedMap

/-- Names that collect a column are added to those that are there. A name that is there collects one
column more. -/
theorem Table.mem_keys_foldl_addToIndex {column name : String} {names : List String}
    {indexes : OrderedMap String (List String)} :
    name ∈ (names.foldl (Table.addToIndex column) indexes).keys ↔
      name ∈ indexes.keys ∨ name ∈ names := by
  induction names generalizing indexes with
  | nil => simp
  | cons first names ih =>
    rw [List.foldl_cons, ih, Table.addToIndex, OrderedMap.mem_keys_insert, List.mem_cons,
      or_comm (a := name = first), or_assoc]

namespace Entity

variable {entity : Entity} {pending : List AlterCommand} {fields : List Field} {table : Table}

/-- Commands as a change carries them. -/
def commandChanges (pending : List AlterCommand) : List CommandChange :=
  pending.map fun command => ⟨command.kind, command.source, command.target⟩

/-- A command that a change carries is a pending one. It has lost its owner, which a change does not
need. -/
theorem mem_commandChanges {made : CommandChange} :
    made ∈ commandChanges pending ↔
      ∃ command ∈ pending, ⟨command.kind, command.source, command.target⟩ = made :=
  List.mem_map

/-- What some fields of an entity make of its table while commands are pending. Columns are listed
in the order of the fields, and may be listed twice if names are repeated. -/
structure IsLaidOut (entity : Entity) (pending : List AlterCommand) (fields : List Field)
    (table : Table) : Prop where
  name_eq : table.name = entity.table
  commands_eq : table.commands = pending
  columns_eq : table.columns = (fields.filter (!isHidden pending ·)).map (·.toColumn)
  indexes_iff : ∀ name, name ∈ table.indexes.keys ↔
    ∃ field ∈ fields, isHidden pending field = false ∧
      name ∈ field.indexNames ∧ isRenamedTo pending .renameIndex name = false
  uniques_iff : ∀ name, name ∈ table.uniques.keys ↔
    ∃ field ∈ fields, isHidden pending field = false ∧ name ∈ field.uniqueNames

/-- **One field.** If it is not refused it is left to a pending rename, or else its column is added
and its name is put under its indexes, those apart that are left to a rename, and its unique
constraints. -/
theorem addFieldToTable_cases {field : Field} {next : Table}
    (h : entity.addFieldToTable pending table field = .ok next) :
    (isHidden pending field = true ∧ next = table) ∨
      (isHidden pending field = false ∧ next = { table with
        columns := table.columns ++ [field.toColumn]
        indexes := (field.indexNames.filter (!isRenamedTo pending .renameIndex ·)).foldl
          (Table.addToIndex field.name) table.indexes
        uniques := field.uniqueNames.foldl (Table.addToIndex field.name) table.uniques }) := by
  rw [addFieldToTable, bind_eq_ok] at h
  obtain ⟨-, -, h⟩ := h
  cases hhidden : isRenamedTo pending .renameField field.name with
  | true =>
    rw [hhidden, if_pos rfl] at h
    exact .inl ⟨hhidden, (Except.ok.inj h).symm⟩
  | false =>
    rw [hhidden, if_neg Bool.false_ne_true, bind_eq_ok] at h
    obtain ⟨-, -, h⟩ := h
    exact .inr ⟨hhidden, (Except.ok.inj h).symm⟩

/-- One more field is laid out, unless it is refused. A hidden field changes nothing. -/
theorem IsLaidOut.addField (htable : entity.IsLaidOut pending fields table) {field : Field}
    {next : Table} (hnext : entity.addFieldToTable pending table field = .ok next) :
    entity.IsLaidOut pending (fields ++ [field]) next := by
  rcases addFieldToTable_cases hnext with ⟨hhidden, rfl⟩ | ⟨hshown, rfl⟩
  · refine ⟨htable.name_eq, htable.commands_eq, ?_, ?_, ?_⟩
    · simp [htable.columns_eq, List.filter_append, hhidden]
    · simp [htable.indexes_iff, hhidden]
    · simp [htable.uniques_iff, hhidden]
  · refine ⟨htable.name_eq, htable.commands_eq, ?_, ?_, ?_⟩
    · simp [htable.columns_eq, List.filter_append, hshown]
    · intro name
      rw [Table.mem_keys_foldl_addToIndex, htable.indexes_iff]
      simp [List.mem_filter, or_and_right, exists_or, hshown]
    · intro name
      rw [Table.mem_keys_foldl_addToIndex, htable.uniques_iff]
      simp [or_and_right, exists_or, hshown]

/-- **The table of an entity.** If no field is refused it is laid out. The commands that count are
the pending ones, those whose source the snapshot still has. -/
theorem isLaidOut_of_toTable {snapshot : Snapshot} (h : entity.toTable snapshot = .ok table) :
    entity.IsLaidOut (entity.pendingCommands snapshot) entity.fields table := by
  refine foldlM_induction_done
    (P := fun done table => entity.IsLaidOut (entity.pendingCommands snapshot) done table) ?_
    (fun _ _ _ _ _ htable hnext => htable.addField hnext) h
  refine ⟨rfl, rfl, rfl, ?_, ?_⟩
  · simp [OrderedMap.keys, EmptyCollection.emptyCollection, OrderedMap.empty]
  · simp [OrderedMap.keys, EmptyCollection.emptyCollection, OrderedMap.empty]

/-- An entity with clear commands has a table, whatever the snapshot. -/
theorem HasClearCommands.exists_toTable (h : entity.HasClearCommands) (snapshot : Snapshot) :
    ∃ table, entity.toTable snapshot = .ok table := by
  refine (entity.reports_toTable snapshot).exists_ok fun hrefused => ?_
  exact h.not_contradicts hrefused.contradicts

end Entity

/-! ## What a snapshot lacks -/

namespace Table

variable {snapshot : Snapshot} {table : Table} {column : ColumnChange}

/-- The mark of a missing column does not change its name. -/
theorem name_markColumn (snapshot : Snapshot) (table : String) (column : ColumnChange) :
    (markColumn snapshot table column).name = column.name := by
  rw [markColumn]
  split <;> rfl

/-- Nor does it change whether the column may be null. -/
theorem nullable_markColumn (snapshot : Snapshot) (table : String) (column : ColumnChange) :
    (markColumn snapshot table column).nullable = column.nullable := by
  rw [markColumn]
  split <;> rfl

/-- Of columns with different names each is settled if the snapshot has it as it is asked for.
Without the condition on names another column of the same name could settle it. -/
theorem isSettled_iff (hnodup : table.columnNames.Nodup) (hcolumn : column ∈ table.columns) :
    isSettled snapshot table.name table.columns column.name = true ↔
      snapshot.columnNullable? table.name column.name = some column.nullable := by
  rw [isSettled, List.any_eq_true]
  constructor
  · rintro ⟨other, hother, hsettled⟩
    simp only [Bool.and_eq_true, beq_iff_eq] at hsettled
    obtain rfl : other = column :=
      List.inj_on_of_nodup_map hnodup hother hcolumn hsettled.1
    exact hsettled.2
  · intro hsettled
    exact ⟨column, hcolumn, by simp [hsettled]⟩

/-- Each column is there as it is asked for, or it is among what is missing. In the first case its
name is not among the missing ones at all, so the update does not touch it. -/
theorem settled_or_missing (hnodup : table.columnNames.Nodup) (hcolumn : column ∈ table.columns) :
    (snapshot.columnNullable? table.name column.name = some column.nullable ∧
        column.name ∉ (table.missingFrom snapshot).columnNames) ∨
      ∃ other ∈ (table.missingFrom snapshot).columns,
        other.name = column.name ∧ other.nullable = column.nullable := by
  cases hsettled : isSettled snapshot table.name table.columns column.name with
  | true =>
    -- a settled name is filtered out
    refine .inl ⟨(isSettled_iff hnodup hcolumn).1 hsettled, fun hmem => ?_⟩
    obtain ⟨other, hother, hname⟩ := List.mem_map.1 hmem
    have hnot := (List.mem_filter.1 hother).2
    rw [hname, hsettled] at hnot
    cases hnot
  | false =>
    refine .inr ⟨markColumn snapshot table.name column, ?_, name_markColumn _ _ _,
      nullable_markColumn _ _ _⟩
    refine List.mem_filter.2 ⟨List.mem_map_of_mem hcolumn, ?_⟩
    rw [name_markColumn, hsettled]
    rfl

/-- What is missing has no columns but those of the table, and keeps their order. -/
theorem columnNames_missingFrom (snapshot : Snapshot) (table : Table) :
    (table.missingFrom snapshot).columnNames.Sublist table.columnNames := by
  have hnames : (table.columns.map (markColumn snapshot table.name)).map (·.name) =
      table.columnNames := by
    rw [List.map_map, columnNames]
    exact List.map_congr_left fun column _ => name_markColumn _ _ _
  rw [← hnames]
  exact List.filter_sublist.map _

/-- Of columns with different names none is missing if all of them are there as they are asked
for. -/
theorem columns_missingFrom_eq_nil_iff (hnodup : table.columnNames.Nodup) :
    (table.missingFrom snapshot).columns = [] ↔ ∀ column ∈ table.columns,
      snapshot.columnNullable? table.name column.name = some column.nullable := by
  rw [missingFrom, List.filter_eq_nil_iff]
  constructor
  · intro hsettled column hcolumn
    rw [← isSettled_iff hnodup hcolumn]
    simpa [name_markColumn] using hsettled _ (List.mem_map_of_mem hcolumn)
  · intro hthere marked hmarked
    obtain ⟨column, hcolumn, rfl⟩ := List.mem_map.1 hmarked
    rw [name_markColumn, (isSettled_iff hnodup hcolumn).2 (hthere column hcolumn)]
    exact Bool.false_ne_true

/-- Index changes have the names of the indexes that they come of, in order. -/
theorem names_indexChanges (indexes : OrderedMap String (List String)) :
    (indexChanges indexes).map (·.name) = indexes.keys := by
  rw [indexChanges, List.map_map]
  rfl

/-- Nothing is to be done for a table exactly when none of its four parts asks for anything. -/
theorem hasChanges_eq_false_iff : table.hasChanges = false ↔
    table.columns = [] ∧ table.indexes.keys = [] ∧ table.uniques.keys = [] ∧
      table.commands = [] := by
  simp [hasChanges, OrderedMap.isEmpty, OrderedMap.keys, and_assoc]

/-- A table that exists is updated with what is missing of it, any other one is created. Commands
are part of what is missing as long as they are pending. -/
theorem changeFrom?_eq_some {change : TableChange} (h : table.changeFrom? snapshot = some change) :
    (snapshot.hasTable table.name = true ∧
        change = (table.missingFrom snapshot).toChange .updateTable) ∨
      (snapshot.hasTable table.name = false ∧ change = table.toChange .createTable) := by
  rw [changeFrom?] at h
  split at h
  · next hthere =>
    split at h
    · exact .inl ⟨hthere, (Option.some.inj h).symm⟩
    · cases h
  · next hmissing =>
    rw [Bool.not_eq_true] at hmissing
    exact .inr ⟨hmissing, (Option.some.inj h).symm⟩

/-- No change comes of a table that exists and of which nothing is missing. -/
theorem changeFrom?_eq_none_iff : table.changeFrom? snapshot = none ↔
    snapshot.hasTable table.name = true ∧ (table.missingFrom snapshot).hasChanges = false := by
  rw [changeFrom?]
  cases snapshot.hasTable table.name <;>
    cases (table.missingFrom snapshot).hasChanges <;> simp

end Table

namespace Entity.IsLaidOut

variable {entity : Entity} {pending : List AlterCommand} {fields : List Field} {table : Table}

/-- The change that is made of what a snapshot lacks carries the pending commands, all of them and
in their order. -/
theorem commands_missing (h : entity.IsLaidOut pending fields table) (snapshot : Snapshot)
    (kind : ChangeKind) :
    ((table.missingFrom snapshot).toChange kind).commands = commandChanges pending := by
  rw [← h.commands_eq]
  rfl

/-- A missing column is that of a field, with its name and with what it says about null. The mark
that it carries is of no account here. -/
theorem exists_field_of_missing (h : entity.IsLaidOut pending fields table) {snapshot : Snapshot}
    {column : ColumnChange} (hcolumn : column ∈ (table.missingFrom snapshot).columns) :
    ∃ field ∈ fields, field.name = column.name ∧ field.mayBeNull = column.nullable := by
  obtain ⟨asked, hasked, rfl⟩ := List.mem_map.1 (List.mem_of_mem_filter hcolumn)
  rw [h.columns_eq] at hasked
  obtain ⟨field, hfield, rfl⟩ := List.mem_map.1 hasked
  refine ⟨field, List.mem_of_mem_filter hfield, ?_, ?_⟩
  · rw [Table.name_markColumn]
    rfl
  · rw [Table.nullable_markColumn]
    rfl

end Entity.IsLaidOut

end EntitySchema
