/-
What one round of migration does for an entity.

A round compares the table of an entity with a snapshot and makes the change that comes of it.
Comparing and changing are separate programs: the one decides by name what is missing, the other
adds what it is told to add. What they have in common is `Entity.IsServedBy`: every field that is
not left to a pending rename has its column, which may be null if the field says so, its indexes and
unique constraints are there, and what a command acts on is gone.

A round ends with a table that serves the entity, whether the table had to be created, had to be
updated or was left alone; this is `exists_round`. And no change is coming exactly when the table
serves the entity in all its fields; this is `changeFrom?_eq_none_iff`.

Pending renames are why one round need not be enough. A field under the target of a rename is left
out of the round in which the rename is made, since its column is not there before. But after a
round nothing is pending any more, so in the next one all fields count.

An update has two stages, and the proof has them too. First the commands run. What they leave behind
is `TableState.Altered`, which is proved in `Migration.TableStates` under the condition that they do
not get in each other's way; here it is read off for the fields and the commands of the entity. Then
columns and indexes are added, and `isServedBy_addAll` says what has to be known of the table in
between for the result to serve. For a table that is created the first stage is empty.
-/
import EntitySchema.Proofs.Migration.Apply
import EntitySchema.Proofs.Migration.Tables

set_option autoImplicit false

namespace EntitySchema

open Outcome

/-! ## One table of a snapshot -/

namespace Snapshot

variable {snapshot : Snapshot} {table : String} {state : TableState}

/-- Questions to a snapshot about a table are questions to the entry of the table. -/
theorem columnNullable?_of_get? (h : snapshot.tables.get? table = some state) (name : String) :
    snapshot.columnNullable? table name = (state.column? name).map (·.nullable) := by
  rw [columnNullable?, h]
  rfl

/-- The same for indexes. -/
theorem hasIndex_of_get? (h : snapshot.tables.get? table = some state) (name : String) :
    snapshot.hasIndex table name = state.hasIndex name := by
  rw [hasIndex, h]
  rfl

end Snapshot

namespace Entity

variable {entity : Entity} {pending : List AlterCommand} {snapshot : Snapshot} {table : Table}
  {state middle : TableState} {change : TableChange} {field : Field} {command : AlterCommand}

/-- A command is pending if it is one of the entity and there is something for it to act on. -/
theorem mem_pendingCommands :
    command ∈ entity.pendingCommands snapshot ↔
      command ∈ entity.commands ∧ entity.isPending snapshot command = true :=
  List.mem_filter

/-- A command on columns is pending if its source is a column. -/
theorem isPending_of_column (h : snapshot.tables.get? entity.table = some state)
    (hkind : command.kind.actsOnIndex = false) :
    entity.isPending snapshot command = (state.column? command.source).isSome := by
  rw [isPending, hkind, Snapshot.hasColumn, Snapshot.columnNullable?_of_get? h]
  exact Option.isSome_map

/-- A command on indexes is pending if its source is an index. -/
theorem isPending_of_index (h : snapshot.tables.get? entity.table = some state)
    (hkind : command.kind.actsOnIndex = true) :
    entity.isPending snapshot command = state.hasIndex command.source := by
  rw [isPending, hkind, Snapshot.hasIndex_of_get? h]
  rfl

/-- No command is pending against a table that does not exist. -/
theorem pendingCommands_of_get?_none (h : snapshot.tables.get? entity.table = none) :
    entity.pendingCommands snapshot = [] := by
  refine List.filter_eq_nil_iff.2 fun command _ => ?_
  rw [isPending, Snapshot.hasIndex, Snapshot.hasColumn, Snapshot.columnNullable?, h]
  cases command.kind.actsOnIndex <;> exact Bool.false_ne_true

/-! ## Serving an entity -/

/-- A table has what the fields of an entity ask for, apart from the fields that are left to pending
renames, and nothing that its commands act on. The second half is what keeps commands from being
pending again. -/
structure IsServedBy (entity : Entity) (pending : List AlterCommand) (state : TableState) :
    Prop where
  column : ∀ field ∈ entity.fields, isHidden pending field = false →
    (state.column? field.name).map (·.nullable) = some field.mayBeNull
  index : ∀ field ∈ entity.fields, isHidden pending field = false →
    ∀ name, name ∈ field.indexNames ∨ name ∈ field.uniqueNames → state.hasIndex name = true
  column_source : ∀ command ∈ entity.commands, command.kind.actsOnIndex = false →
    state.column? command.source = none
  index_source : ∀ command ∈ entity.commands, command.kind.actsOnIndex = true →
    state.hasIndex command.source = false

/-- A change adds only what an entity declares, and no column twice. So it brings nothing back that
a command has taken away. -/
structure Declares (entity : Entity) (change : TableChange) : Prop where
  nodup : change.columnNames.Nodup
  columns : ∀ name ∈ change.columnNames, ∃ field ∈ entity.fields, field.name = name
  indexes : ∀ name, name ∈ change.indexes.map (·.name) ∨ name ∈ change.uniques.map (·.name) →
    ∃ field ∈ entity.fields, name ∈ field.indexNames ∨ name ∈ field.uniqueNames

/-- A table serves an entity after a change if each field finds what it asks for in the table or
in the change, and if what the commands act on is gone from the table already. -/
theorem isServedBy_addAll (hclear : entity.HasClearCommands) (hdeclares : entity.Declares change)
    (hcolumn : ∀ field ∈ entity.fields, isHidden pending field = false →
      ((middle.column? field.name).map (·.nullable) = some field.mayBeNull ∧
          field.name ∉ change.columnNames) ∨
        ∃ column ∈ change.columns, column.name = field.name ∧ column.nullable = field.mayBeNull)
    (hindex : ∀ field ∈ entity.fields, isHidden pending field = false →
      ∀ name, name ∈ field.indexNames ∨ name ∈ field.uniqueNames →
        middle.hasIndex name = true ∨
          name ∈ change.indexes.map (·.name) ∨ name ∈ change.uniques.map (·.name))
    (hcolumnGone : ∀ command ∈ entity.commands, command.kind.actsOnIndex = false →
      middle.column? command.source = none)
    (hindexGone : ∀ command ∈ entity.commands, command.kind.actsOnIndex = true →
      middle.hasIndex command.source = false) :
    entity.IsServedBy pending (middle.addAll change) := by
  constructor
  · intro field hfield hshown
    -- the commands are over, so only the added columns can touch the column of a field
    rw [TableState.column?_addAll]
    rcases hcolumn field hfield hshown with ⟨hthere, hnew⟩ | ⟨column, hcolumn, hname, hnullable⟩
    · rw [TableState.column?_foldl_addColumn hnew, hthere]
    · rw [← hname, TableState.nullable_foldl_addColumn hdeclares.nodup hcolumn, hnullable]
  · intro field hfield hshown name hname
    exact (TableState.hasIndex_addAll _ _ _).2 (hindex field hfield hshown name hname)
  · intro command hcommand hkind
    rw [TableState.column?_addAll, TableState.column?_foldl_addColumn,
      hcolumnGone command hcommand hkind]
    intro hmem
    obtain ⟨field, hfield, hname⟩ := hdeclares.columns command.source hmem
    exact hclear.fields command hcommand hkind field hfield hname
  · intro command hcommand hkind
    rw [Bool.eq_false_iff, ne_eq, TableState.hasIndex_addAll, not_or,
      hindexGone command hcommand hkind]
    refine ⟨Bool.false_ne_true, fun hmem => ?_⟩
    obtain ⟨field, hfield, hname⟩ := hdeclares.indexes command.source hmem
    obtain ⟨hnotIndex, hnotUnique⟩ := hclear.indexes command hcommand hkind field hfield
    exact hname.elim hnotIndex hnotUnique

/-! ## The changes of an entity -/

namespace IsLaidOut

/-- The columns of the table are those of fields, in their order. -/
theorem columnNames_sublist (h : entity.IsLaidOut pending entity.fields table) :
    table.columnNames.Sublist entity.fieldNames := by
  have hnames : table.columnNames =
      (entity.fields.filter (!isHidden pending ·)).map (·.name) := by
    rw [Table.columnNames, h.columns_eq, List.map_map]
    rfl
  rw [hnames]
  exact List.filter_sublist.map _

/-- A field that is not left to a rename has its column in the table. -/
theorem toColumn_mem (h : entity.IsLaidOut pending entity.fields table)
    (hfield : field ∈ entity.fields) (hshown : isHidden pending field = false) :
    field.toColumn ∈ table.columns := by
  rw [h.columns_eq]
  refine List.mem_map_of_mem (List.mem_filter.2 ⟨hfield, ?_⟩)
  rw [hshown]
  rfl

/-- The whole table is nothing that the entity does not declare. -/
theorem declares_toChange (h : entity.IsLaidOut pending entity.fields table)
    (hnames : entity.fieldNames.Nodup) (kind : ChangeKind) :
    entity.Declares (table.toChange kind) := by
  constructor
  · exact h.columnNames_sublist.nodup hnames
  · intro name hname
    have hfield : name ∈ entity.fieldNames := h.columnNames_sublist.subset hname
    exact List.mem_map.1 hfield
  · intro name hname
    simp only [Table.toChange, Table.names_indexChanges] at hname
    rcases hname with hindex | hunique
    · obtain ⟨field, hfield, -, hindex, -⟩ := (h.indexes_iff name).1 hindex
      exact ⟨field, hfield, .inl hindex⟩
    · obtain ⟨field, hfield, -, hunique⟩ := (h.uniques_iff name).1 hunique
      exact ⟨field, hfield, .inr hunique⟩

/-- Nor is what a snapshot lacks of it. -/
theorem declares_missing (h : entity.IsLaidOut pending entity.fields table)
    (hnames : entity.fieldNames.Nodup) (snapshot : Snapshot) (kind : ChangeKind) :
    entity.Declares ((table.missingFrom snapshot).toChange kind) := by
  have hwhole := h.declares_toChange hnames kind
  have hsub : (table.missingFrom snapshot).columnNames.Sublist table.columnNames :=
    Table.columnNames_missingFrom snapshot table
  constructor
  · exact hsub.nodup hwhole.nodup
  · intro name hname
    exact hwhole.columns name (hsub.subset hname)
  · intro name hname
    apply hwhole.indexes name
    simp only [Table.toChange, Table.missingFrom, Table.names_indexChanges,
      OrderedMap.mem_keys_filterKeys] at hname ⊢
    exact hname.imp And.left And.left

end IsLaidOut

/-! ## Creating the table -/

/-- A table that is created serves its entity. -/
theorem IsLaidOut.isServedBy_create (h : entity.IsLaidOut [] entity.fields table)
    (hclear : entity.HasClearCommands) (hnames : entity.fieldNames.Nodup) :
    entity.IsServedBy [] (TableState.addAll {} (table.toChange .createTable)) := by
  refine isServedBy_addAll hclear (h.declares_toChange hnames _) ?_ ?_ (fun _ _ _ => rfl)
    fun _ _ _ => rfl
  · intro field hfield hshown
    exact .inr ⟨field.toColumn, h.toColumn_mem hfield hshown, rfl, rfl⟩
  · intro field hfield hshown name hname
    refine .inr ?_
    simp only [Table.toChange, Table.names_indexChanges]
    rcases hname with hindex | hunique
    · exact .inl ((h.indexes_iff name).2 ⟨field, hfield, hshown, hindex, rfl⟩)
    · exact .inr ((h.uniques_iff name).2 ⟨field, hfield, hshown, hunique⟩)

/-! ## Updating the table -/

/-- Pending commands do not get in each other's way, since the commands of the entity do not. -/
theorem HasClearCommands.areClear (h : entity.HasClearCommands) (snapshot : Snapshot) :
    CommandChange.AreClear (commandChanges (entity.pendingCommands snapshot)) := by
  constructor
  · rw [commandChanges, List.pairwise_map]
    exact h.sources.sublist List.filter_sublist
  · intro first hfirst second hsecond hkind
    obtain ⟨one, hone, rfl⟩ := mem_commandChanges.1 hfirst
    obtain ⟨two, htwo, rfl⟩ := mem_commandChanges.1 hsecond
    exact h.targets one (mem_pendingCommands.1 hone).1 two (mem_pendingCommands.1 htwo).1 hkind

/-- A table offers what the commands act on that are pending against it. For an index it is also
needed that it is not listed twice, since a command takes one away. -/
theorem offers_pending (h : snapshot.tables.get? entity.table = some state)
    (hcount : ∀ command ∈ entity.pendingCommands snapshot, command.kind.actsOnIndex = true →
      state.indexes.count (some command.source) ≤ 1) :
    ∀ made ∈ commandChanges (entity.pendingCommands snapshot), state.Offers made := by
  intro made hmade
  obtain ⟨command, hcommand, rfl⟩ := mem_commandChanges.1 hmade
  have hpending := (mem_pendingCommands.1 hcommand).2
  constructor
  · intro hkind
    rwa [isPending_of_column h hkind] at hpending
  · intro hkind
    rw [isPending_of_index h hkind] at hpending
    exact ⟨hpending, hcount command hcommand hkind⟩

section Altered

variable (h : snapshot.tables.get? entity.table = some state) (hclear : entity.HasClearCommands)
  (haltered : TableState.Altered (commandChanges (entity.pendingCommands snapshot)) state middle)
include h hclear haltered

/-- After the pending commands nothing is left for any command on columns. -/
theorem column?_source_of_altered (hcommand : command ∈ entity.commands)
    (hkind : command.kind.actsOnIndex = false) : middle.column? command.source = none := by
  cases hthere : state.column? command.source with
  | some column =>
    have hpending : command ∈ entity.pendingCommands snapshot :=
      mem_pendingCommands.2 ⟨hcommand, by rw [isPending_of_column h hkind, hthere]; rfl⟩
    exact haltered.column_source _ (mem_commandChanges.2 ⟨command, hpending, rfl⟩) hkind
  | none =>
    -- a command that was not pending: no other one has its source, and none brings it back
    rw [haltered.column_other command.source, hthere]
    intro made hmade hmadeKind
    obtain ⟨other, hother, rfl⟩ := mem_commandChanges.1 hmade
    obtain ⟨hmemOther, hpendingOther⟩ := mem_pendingCommands.1 hother
    rw [isPending_of_column h hmadeKind] at hpendingOther
    constructor
    · intro (hsame : other.source = command.source)
      rw [hsame, hthere] at hpendingOther
      cases hpendingOther
    · intro _
      exact hclear.targets other hmemOther command hcommand (hmadeKind.trans hkind.symm)

/-- After the pending commands nothing is left for any command on indexes. -/
theorem hasIndex_source_of_altered (hcommand : command ∈ entity.commands)
    (hkind : command.kind.actsOnIndex = true) : middle.hasIndex command.source = false := by
  cases hthere : state.hasIndex command.source with
  | true =>
    have hpending : command ∈ entity.pendingCommands snapshot :=
      mem_pendingCommands.2 ⟨hcommand, by rw [isPending_of_index h hkind, hthere]⟩
    exact haltered.index_source _ (mem_commandChanges.2 ⟨command, hpending, rfl⟩) hkind
  | false =>
    rw [TableState.hasIndex_eq_false_iff] at hthere ⊢
    refine Nat.le_zero.1 (hthere ▸ haltered.index_count command.source ?_)
    intro made hmade hmadeKind
    obtain ⟨other, hother, rfl⟩ := mem_commandChanges.1 hmade
    exact hclear.targets other (mem_pendingCommands.1 hother).1 command hcommand
      (hmadeKind.trans hkind.symm)

omit h in
/-- A field that is not left to a rename has the column that it had. -/
theorem column?_field_of_altered (hfield : field ∈ entity.fields)
    (hshown : isHidden (entity.pendingCommands snapshot) field = false) :
    middle.column? field.name = state.column? field.name := by
  apply haltered.column_other
  intro made hmade hmadeKind
  obtain ⟨command, hcommand, rfl⟩ := mem_commandChanges.1 hmade
  constructor
  · exact Ne.symm (hclear.fields command (mem_pendingCommands.1 hcommand).1 hmadeKind field hfield)
  · intro hrename
    exact isHidden_eq_false_iff.1 hshown command hcommand hrename

omit h in
/-- An index of a field is not lost. -/
theorem hasIndex_field_of_altered (hfield : field ∈ entity.fields) {name : String}
    (hname : name ∈ field.indexNames ∨ name ∈ field.uniqueNames)
    (hthere : state.hasIndex name = true) : middle.hasIndex name = true := by
  refine haltered.index_kept name ?_ hthere
  intro made hmade hmadeKind hsource
  obtain ⟨command, hcommand, rfl⟩ := mem_commandChanges.1 hmade
  obtain ⟨hnotIndex, hnotUnique⟩ :=
    hclear.indexes command (mem_pendingCommands.1 hcommand).1 hmadeKind field hfield
  rw [← hsource] at hname
  exact hname.elim hnotIndex hnotUnique

omit h hclear in
/-- What an index is renamed to is there. -/
theorem hasIndex_target_of_altered {name : String}
    (hrenamed : isRenamedTo (entity.pendingCommands snapshot) .renameIndex name = true) :
    middle.hasIndex name = true := by
  obtain ⟨command, hcommand, htarget⟩ := List.any_eq_true.1 hrenamed
  simp only [Bool.and_eq_true, beq_iff_eq] at htarget
  exact haltered.index_target _ (mem_commandChanges.2 ⟨command, hcommand, rfl⟩) htarget.1 name
    htarget.2

end Altered

/-- **Updating a table.** The change that comes of what a snapshot lacks can be made, and then the
table serves the entity. -/
theorem IsLaidOut.exists_result_update
    (hlaid : entity.IsLaidOut (entity.pendingCommands snapshot) entity.fields table)
    (h : snapshot.tables.get? entity.table = some state) (hclear : entity.HasClearCommands)
    (hnames : entity.fieldNames.Nodup)
    (hcount : ∀ command ∈ entity.pendingCommands snapshot, command.kind.actsOnIndex = true →
      state.indexes.count (some command.source) ≤ 1) :
    ∃ after, ((table.missingFrom snapshot).toChange .updateTable).result (some state) = .ok after ∧
      entity.IsServedBy (entity.pendingCommands snapshot) after := by
  -- first the commands run, then what is missing is added to what they have left
  obtain ⟨middle, hrun, haltered⟩ :=
    TableState.exists_run entity.table (hclear.areClear snapshot) (offers_pending h hcount)
  have htable : ((table.missingFrom snapshot).toChange .updateTable).table = entity.table :=
    hlaid.name_eq
  rw [← hlaid.commands_missing snapshot .updateTable, ← htable] at hrun
  refine ⟨_, TableChange.result_of_update rfl hrun, ?_⟩
  refine isServedBy_addAll hclear (hlaid.declares_missing hnames snapshot _) ?_ ?_
    (fun command hcommand hkind => column?_source_of_altered h hclear haltered hcommand hkind)
    (fun command hcommand hkind => hasIndex_source_of_altered h hclear haltered hcommand hkind)
  · intro field hfield hshown
    have hnodup : table.columnNames.Nodup := hlaid.columnNames_sublist.nodup hnames
    have hcolumn : field.toColumn ∈ table.columns := hlaid.toColumn_mem hfield hshown
    rcases Table.settled_or_missing hnodup hcolumn with ⟨hsettled, hnew⟩ | hmissing
    · left
      rw [hlaid.name_eq, Snapshot.columnNullable?_of_get? h] at hsettled
      rw [column?_field_of_altered hclear haltered hfield hshown]
      exact ⟨hsettled, hnew⟩
    · right
      exact hmissing
  · intro field hfield hshown name hname
    simp only [Table.toChange, Table.missingFrom, Table.names_indexChanges,
      OrderedMap.mem_keys_filterKeys, hlaid.name_eq, Snapshot.hasIndex_of_get? h]
    -- an index that a rename brings about is asked for by no change, any other one that is not
    -- there already is
    by_cases hrenamed : isRenamedTo (entity.pendingCommands snapshot) .renameIndex name = true
    · exact .inl (hasIndex_target_of_altered haltered hrenamed)
    · rw [Bool.not_eq_true] at hrenamed
      cases hthere : state.hasIndex name with
      | true => exact .inl (hasIndex_field_of_altered hclear haltered hfield hname hthere)
      | false =>
        right
        rcases hname with hindex | hunique
        · exact .inl ⟨(hlaid.indexes_iff name).2 ⟨field, hfield, hshown, hindex, hrenamed⟩, rfl⟩
        · exact .inr ⟨(hlaid.uniques_iff name).2 ⟨field, hfield, hshown, hunique⟩, rfl⟩

/-! ## Nothing to do -/

/-- Against a table that serves an entity no command is pending: the sources of all commands are
gone. -/
theorem IsServedBy.pendingCommands_eq_nil (h : entity.IsServedBy pending state)
    (hthere : snapshot.tables.get? entity.table = some state) :
    entity.pendingCommands snapshot = [] := by
  apply List.filter_eq_nil_iff.2
  intro command hcommand hpending
  cases hkind : command.kind.actsOnIndex with
  | true =>
    rw [isPending_of_index hthere hkind, h.index_source command hcommand hkind] at hpending
    cases hpending
  | false =>
    rw [isPending_of_column hthere hkind, h.column_source command hcommand hkind] at hpending
    cases hpending

/-- If no field was left to a rename all fields are served. -/
theorem IsServedBy.of_shown (h : entity.IsServedBy pending state)
    (hshown : ∀ field ∈ entity.fields, isHidden pending field = false) :
    entity.IsServedBy [] state :=
  ⟨fun field hfield _ => h.column field hfield (hshown field hfield),
    fun field hfield _ => h.index field hfield (hshown field hfield),
    h.column_source, h.index_source⟩

/-- If no command is pending, nothing is missing of the laid out table exactly when the columns and
indexes of all fields are there. -/
theorem IsLaidOut.hasChanges_missingFrom_iff (hlaid : entity.IsLaidOut [] entity.fields table)
    (hnames : entity.fieldNames.Nodup) (hthere : snapshot.tables.get? entity.table = some state) :
    (table.missingFrom snapshot).hasChanges = false ↔
      (∀ field ∈ entity.fields,
        (state.column? field.name).map (·.nullable) = some field.mayBeNull) ∧
      ∀ field ∈ entity.fields, ∀ name, name ∈ field.indexNames ∨ name ∈ field.uniqueNames →
        state.hasIndex name = true := by
  have hcolumns : table.columns = entity.fields.map (·.toColumn) := by
    have hall : entity.fields.filter (!isHidden [] ·) = entity.fields :=
      List.filter_eq_self.2 fun _ _ => rfl
    rw [hlaid.columns_eq, hall]
  have hlacks : ∀ asked : OrderedMap String (List String),
      (asked.filterKeys (!snapshot.hasIndex entity.table ·)).keys = [] ↔
        ∀ name ∈ asked.keys, state.hasIndex name = true := by
    intro asked
    simp only [OrderedMap.keys_filterKeys_eq_nil_iff, Snapshot.hasIndex_of_get? hthere,
      Bool.not_eq_false']
  rw [Table.hasChanges_eq_false_iff,
    Table.columns_missingFrom_eq_nil_iff (hlaid.columnNames_sublist.nodup hnames)]
  simp only [Table.missingFrom, hlaid.name_eq, hlaid.commands_eq, hcolumns, hlacks,
    List.forall_mem_map, Snapshot.columnNullable?_of_get? hthere, and_true]
  refine and_congr Iff.rfl ?_
  constructor
  · rintro ⟨hindexes, huniques⟩ field hfield name (hindex | hunique)
    · exact hindexes name ((hlaid.indexes_iff name).2 ⟨field, hfield, rfl, hindex, rfl⟩)
    · exact huniques name ((hlaid.uniques_iff name).2 ⟨field, hfield, rfl, hunique⟩)
  · intro hindex
    constructor
    · intro name hname
      obtain ⟨field, hfield, -, hmem, -⟩ := (hlaid.indexes_iff name).1 hname
      exact hindex field hfield name (.inl hmem)
    · intro name hname
      obtain ⟨field, hfield, -, hmem⟩ := (hlaid.uniques_iff name).1 hname
      exact hindex field hfield name (.inr hmem)

/-- **Nothing is missing.** No change comes of an entity exactly when its table is there and serves
it in all its fields. Commands count as something to be done, so that in this situation none is
pending. -/
theorem changeFrom?_eq_none_iff (hnames : entity.fieldNames.Nodup)
    (htable : entity.toTable snapshot = .ok table) :
    table.changeFrom? snapshot = none ↔
      ∃ state, snapshot.tables.get? entity.table = some state ∧ entity.IsServedBy [] state := by
  have hlaid := isLaidOut_of_toTable htable
  rw [Table.changeFrom?_eq_none_iff, hlaid.name_eq, Snapshot.hasTable, OrderedMap.contains,
    Option.isSome_iff_exists]
  constructor
  · rintro ⟨⟨state, hthere⟩, hnothing⟩
    -- if nothing is to be done, in particular no command is
    have hdone : entity.pendingCommands snapshot = [] := by
      rw [← hlaid.commands_eq]
      exact (Table.hasChanges_eq_false_iff.1 hnothing).2.2.2
    rw [hdone] at hlaid
    obtain ⟨hcolumns, hindexes⟩ := (hlaid.hasChanges_missingFrom_iff hnames hthere).1 hnothing
    have hnot : ∀ command ∈ entity.commands, entity.isPending snapshot command = false := by
      simpa [pendingCommands, List.filter_eq_nil_iff] using hdone
    refine ⟨state, hthere, fun field hfield _ => hcolumns field hfield,
      fun field hfield _ => hindexes field hfield, ?_, ?_⟩
    · intro command hcommand hkind
      have hgone := hnot command hcommand
      rwa [isPending_of_column hthere hkind, Option.isSome_eq_false_iff,
        Option.isNone_iff_eq_none] at hgone
    · intro command hcommand hkind
      rw [← isPending_of_index hthere hkind]
      exact hnot command hcommand
  · rintro ⟨state, hthere, hserved⟩
    rw [hserved.pendingCommands_eq_nil hthere] at hlaid
    refine ⟨⟨state, hthere⟩, (hlaid.hasChanges_missingFrom_iff hnames hthere).2 ⟨?_, ?_⟩⟩
    · intro field hfield
      exact hserved.column field hfield rfl
    · intro field hfield
      exact hserved.index field hfield rfl

/-! ## One round -/

/-- **One round for one entity.** The change that a comparison with a snapshot asks for can be made,
and then the table serves the entity; if it asks for none the table serves the entity already. -/
theorem exists_round (hclear : entity.HasClearCommands) (hnames : entity.fieldNames.Nodup)
    (htable : entity.toTable snapshot = .ok table)
    (hcount : ∀ state, snapshot.tables.get? entity.table = some state →
      ∀ command ∈ entity.pendingCommands snapshot, command.kind.actsOnIndex = true →
        state.indexes.count (some command.source) ≤ 1) :
    (∀ change, table.changeFrom? snapshot = some change → ∃ after,
        change.result (snapshot.tables.get? entity.table) = .ok after ∧
          entity.IsServedBy (entity.pendingCommands snapshot) after) ∧
      (table.changeFrom? snapshot = none → ∃ state,
        snapshot.tables.get? entity.table = some state ∧
          entity.IsServedBy (entity.pendingCommands snapshot) state) := by
  have hlaid := isLaidOut_of_toTable htable
  constructor
  · intro change hchange
    have hchanged := Table.changeFrom?_eq_some hchange
    rw [hlaid.name_eq, Snapshot.hasTable, OrderedMap.contains] at hchanged
    cases hthere : snapshot.tables.get? entity.table with
    | none =>
      -- the table is created, and there was nothing to be pending against
      rw [pendingCommands_of_get?_none hthere] at hlaid ⊢
      rw [hthere] at hchanged
      obtain ⟨hnot, -⟩ | ⟨-, rfl⟩ := hchanged
      · cases hnot
      · exact ⟨_, TableChange.result_of_create rfl, hlaid.isServedBy_create hclear hnames⟩
    | some state =>
      rw [hthere] at hchanged
      obtain ⟨-, rfl⟩ | ⟨hnot, -⟩ := hchanged
      · exact hlaid.exists_result_update hthere hclear hnames (hcount state hthere)
      · cases hnot
  · intro hnone
    obtain ⟨state, hthere, hserved⟩ := (changeFrom?_eq_none_iff hnames htable).1 hnone
    refine ⟨state, hthere, ?_⟩
    rw [hserved.pendingCommands_eq_nil hthere]
    exact hserved

end Entity

end EntitySchema
