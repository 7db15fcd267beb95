/-
What is renamed is not created.

An update carries out its commands before it adds what it has to add. A name that a rename produces
is thus taken by the time the additions are made, and an update should add nothing under it; this is
`TableChange.SparesTargets`.

Each part of a table has its own loop. Columns leave out the fields under the target of a pending
rename, and indexes leave out the targets of renamed indexes. Unique constraints leave out nothing
of their own, although an index that is renamed may well be one: a snapshot lists both under the
same names. So the targets are spared by columns and indexes in every update, and by unique
constraints unless one of them meets a rename, which is `Entity.UniqueMeetsRename`.

Everything rests on the description of the table by `IsLaidOut`: its columns are those of the fields
that are not hidden, and the names of its indexes and unique constraints are told field by field.
The three lemmas `isRenamedTo_column`, `isRenamedTo_index` and `exists_unique_missing_iff` read from
it what is missing in each of the parts, and `renamesTo_missing_iff` says that the change renames
what is pending. `sparesTargets_missing` puts them together for one entity, and the last section
takes it to the updates of a comparison.

A field that is hidden brings no unique constraint either. So the two can only meet when the column
of the field has its new name already while the index still has its old one, which is what the
example shows: the same document is harmless against one database and not against the other.
-/
import EntitySchema.Proofs.Migration.Indexes

set_option autoImplicit false

namespace EntitySchema

open Outcome

/-! ## Targets -/

namespace TableChange

/-- A command of a change renames something of a sort to a name. -/
def RenamesTo (change : TableChange) (kind : AlterKind) (name : String) : Prop :=
  ∃ command ∈ change.commands, command.kind = kind ∧ command.target = some name

/-- A change creates nothing under a name that one of its own renames produces. Columns are compared
with renamed fields, and both indexes and unique constraints with renamed indexes. -/
structure SparesTargets (change : TableChange) : Prop where
  columns : ∀ column ∈ change.columns, ¬ change.RenamesTo .renameField column.name
  indexes : ∀ entry ∈ change.indexes, ¬ change.RenamesTo .renameIndex entry.name
  uniques : ∀ entry ∈ change.uniques, ¬ change.RenamesTo .renameIndex entry.name

end TableChange

namespace Entity

variable {entity : Entity} {pending : List AlterCommand} {snapshot : Snapshot} {table : Table}
  {kind : AlterKind} {name : String}

/-- A unique constraint that a snapshot lacks is asked for under the target of a pending rename of
an index, by a field that is not left to a rename itself. -/
def UniqueMeetsRename (entity : Entity) (snapshot : Snapshot) : Prop :=
  ∃ field ∈ entity.fields, isHidden (entity.pendingCommands snapshot) field = false ∧
    ∃ name ∈ field.uniqueNames, snapshot.hasIndex entity.table name = false ∧
      isRenamedTo (entity.pendingCommands snapshot) .renameIndex name = true

/-- The test of the program, as a statement about commands. -/
theorem isRenamedTo_eq_true_iff :
    isRenamedTo pending kind name = true ↔
      ∃ command ∈ pending, command.kind = kind ∧ command.target = some name := by
  simp [isRenamedTo]

namespace IsLaidOut

variable (h : entity.IsLaidOut pending entity.fields table)
include h

/-- An update renames what the pending commands rename. All of them are carried, and nothing else
is. -/
theorem renamesTo_missing_iff :
    ((table.missingFrom snapshot).toChange .updateTable).RenamesTo kind name ↔
      isRenamedTo pending kind name = true := by
  rw [TableChange.RenamesTo, h.commands_missing, isRenamedTo_eq_true_iff]
  constructor
  · rintro ⟨made, hmade, hrenames⟩
    obtain ⟨command, hcommand, rfl⟩ := mem_commandChanges.1 hmade
    exact ⟨command, hcommand, hrenames⟩
  · rintro ⟨command, hcommand, hrenames⟩
    exact ⟨_, mem_commandChanges.2 ⟨command, hcommand, rfl⟩, hrenames⟩

/-- A missing column is that of a field which is not left to a rename. The loop over the fields
skips the others before it comes to their columns. -/
theorem isRenamedTo_column {column : ColumnChange}
    (hcolumn : column ∈ (table.missingFrom snapshot).columns) :
    isRenamedTo pending .renameField column.name = false := by
  obtain ⟨asked, hasked, rfl⟩ := List.mem_map.1 (List.mem_of_mem_filter hcolumn)
  rw [h.columns_eq] at hasked
  obtain ⟨field, hfield, rfl⟩ := List.mem_map.1 hasked
  have hshown : isHidden pending field = false := by simpa using (List.mem_filter.1 hfield).2
  -- the column is compared with the snapshot, which does not change its name
  rw [Table.name_markColumn]
  exact hshown

/-- A missing index is not the target of a rename. This is a test on the index, not on its field: a
field that is not hidden may have an index that is left to a rename. -/
theorem isRenamedTo_index {entry : IndexChange}
    (hentry : entry ∈ ((table.missingFrom snapshot).toChange .updateTable).indexes) :
    isRenamedTo pending .renameIndex entry.name = false := by
  have hmem := List.mem_of_mem_filter (Table.mem_indexChanges.1 hentry)
  have hkey : entry.name ∈ table.indexes.keys := List.mem_map_of_mem hmem
  obtain ⟨-, -, -, -, hkept⟩ := (h.indexes_iff entry.name).1 hkey
  exact hkept

/-- The names of the missing unique constraints. Compared with those of indexes, there is no
condition on renamed indexes, and this is the whole difference. -/
theorem exists_unique_missing_iff :
    (∃ entry ∈ ((table.missingFrom snapshot).toChange .updateTable).uniques, entry.name = name) ↔
      (∃ field ∈ entity.fields, isHidden pending field = false ∧ name ∈ field.uniqueNames) ∧
        snapshot.hasIndex entity.table name = false := by
  rw [← List.mem_map, ← h.uniques_iff]
  simp only [Table.toChange, Table.missingFrom, Table.names_indexChanges,
    OrderedMap.mem_keys_filterKeys, Bool.not_eq_true', h.name_eq]

end IsLaidOut

/-- **The update of an entity.** Its columns and indexes spare the targets of its renames, and all
of it does unless a unique constraint meets a rename. The table is any that is laid out, so nothing
is said about how it was come by. -/
theorem IsLaidOut.sparesTargets_missing
    (h : entity.IsLaidOut (entity.pendingCommands snapshot) entity.fields table)
    {change : TableChange} (hchange : change = (table.missingFrom snapshot).toChange .updateTable) :
    (∀ column ∈ change.columns, ¬ change.RenamesTo .renameField column.name) ∧
      (∀ entry ∈ change.indexes, ¬ change.RenamesTo .renameIndex entry.name) ∧
      (change.SparesTargets ↔ ¬ entity.UniqueMeetsRename snapshot) := by
  subst hchange
  have hcolumns : ∀ column ∈ ((table.missingFrom snapshot).toChange .updateTable).columns,
      ¬ ((table.missingFrom snapshot).toChange .updateTable).RenamesTo .renameField
        column.name := by
    intro column hcolumn
    rw [h.renamesTo_missing_iff, h.isRenamedTo_column hcolumn]
    exact Bool.false_ne_true
  have hindexes : ∀ entry ∈ ((table.missingFrom snapshot).toChange .updateTable).indexes,
      ¬ ((table.missingFrom snapshot).toChange .updateTable).RenamesTo .renameIndex
        entry.name := by
    intro entry hentry
    rw [h.renamesTo_missing_iff, h.isRenamedTo_index hentry]
    exact Bool.false_ne_true
  refine ⟨hcolumns, hindexes, ?_⟩
  constructor
  · rintro hspares ⟨field, hfield, hshown, name, hname, hlacks, htarget⟩
    obtain ⟨entry, hentry, rfl⟩ :=
      h.exists_unique_missing_iff.2 ⟨⟨field, hfield, hshown, hname⟩, hlacks⟩
    exact hspares.uniques entry hentry (h.renamesTo_missing_iff.2 htarget)
  · -- an entry under the target of a rename comes of a field that makes the two meet
    intro hmeets
    refine ⟨hcolumns, hindexes, fun entry hentry htarget => hmeets ?_⟩
    obtain ⟨⟨field, hfield, hshown, hname⟩, hlacks⟩ :=
      h.exists_unique_missing_iff.1 ⟨entry, hentry, rfl⟩
    exact ⟨field, hfield, hshown, entry.name, hname, hlacks, h.renamesTo_missing_iff.1 htarget⟩

end Entity

/-! ## The updates of a comparison -/

namespace Schema

/-- **Rename targets.** In the changes that come of a comparison no update adds a column or an index
under a name that one of its renames produces. It may do so with a unique constraint, and it does
exactly if one of its entity meets a rename. -/
theorem sparesTargets_iff {config : Config} {text : String} {schema : Schema}
    {snapshot : Snapshot} {changeSet : ChangeSet}
    (hparse : Schema.parse config text = .ok schema)
    (hchanges : Tracked.evaluate (changesFrom schema snapshot) = .ok changeSet)
    {change : TableChange} (hchange : change ∈ changeSet.changes)
    (hkind : change.kind = .updateTable) :
    (∀ column ∈ change.columns, ¬ change.RenamesTo .renameField column.name) ∧
      (∀ entry ∈ change.indexes, ¬ change.RenamesTo .renameIndex entry.name) ∧
      ∃ entity ∈ schema.entities, entity.table = change.table ∧
        (change.SparesTargets ↔ ¬ entity.UniqueMeetsRename snapshot) := by
  have hplaced : schema.IsPlaced := isPlaced_of_parse hparse
  rw [evaluate_changesFrom hplaced] at hchanges
  obtain ⟨pivots, -, tables, htables, rfl⟩ := changesFrom_eq_ok.1 hchanges
  rcases ChangeSet.mem_between.1 hchange with ⟨table, hmem, hfrom⟩ | ⟨pivot, -, -, rfl⟩
  · obtain ⟨entity, hentity, hmade⟩ := (mem_of_mapM htables).1 hmem
    have hlaid := Entity.isLaidOut_of_toTable hmade
    rcases Table.changeFrom?_eq_some hfrom with ⟨-, hupdate⟩ | ⟨-, rfl⟩
    · obtain ⟨hcolumns, hindexes, huniques⟩ := hlaid.sparesTargets_missing hupdate
      refine ⟨hcolumns, hindexes, entity, hentity, ?_, huniques⟩
      rw [hupdate]
      exact hlaid.name_eq.symm
    · cases hkind
  · -- pivot tables are only ever created
    cases hkind

/-! ## A renamed column with a renamed unique constraint -/

/-- A document in which a column and its unique constraint used to have other names. -/
def seatsText : String :=
  "Seat1 (seats)\n  RENAME FIELD kode TO code\n  RENAME INDEX by_kode TO by_code\n" ++
    "  code: string Unique(by_code)\n  label: string Index(by_label)\n"

/-- The entity of the document. -/
def seat1 : Entity where
  shortName := "Seat1"
  namespaceName := "\\App\\"
  table := "seats"
  index? := some 0
  fields := [
    { name := "id", type := "increments", owner? := some 0, nullable := some false,
      primaryKey := true, implied := true },
    { name := "code", type := "string", owner? := some 0, uniqueNames := ["by_code"] },
    { name := "label", type := "string", owner? := some 0, indexNames := ["by_label"] }]
  commands := [
    { kind := .renameField, source := "kode", target := some "code", owner? := some 0 },
    { kind := .renameIndex, source := "by_kode", target := some "by_code", owner? := some 0 }]

/-- What the document says. -/
def seats : Schema where
  entities := [seat1]
  namespaces := OrderedMap.insert ∅ "\\App\\" "app/"

/-- The document is accepted. Its field and its unique constraint are the targets of one rename
each. -/
theorem parse_seatsText : Schema.parse {} seatsText = .ok seats :=
  eq_ok_of_toOption (by decide +kernel)

/-- A database with seats that has the columns given and the index under its old name. -/
def seatsWith (columns : List String) : Snapshot where
  tables := OrderedMap.insert ∅ "seats"
    { columns := OrderedMap.ofList
        ((some "id", { nullable := false }) :: columns.map fun column => (some column, {}))
      indexes := [some "by_kode"] }

/-- What is to be done while both names are old. -/
def seatsChanges : ChangeSet where
  changes := [
    { kind := .updateTable, table := "seats"
      columns := [{ name := "label", type := "string", nullable := true }]
      indexes := [{ name := "by_label", columns := ["label"] }]
      commands := [
        { kind := .renameField, source := "kode", target := some "code" },
        { kind := .renameIndex, source := "by_kode", target := some "by_code" }] }]

/-- While the field is left to its rename, so is its unique constraint, and nothing is created under
either of the new names. -/
theorem sparesTargets_seats :
    Schema.parse {} seatsText = .ok seats ∧
      Tracked.evaluate (changesFrom seats (seatsWith ["kode"])) = .ok seatsChanges ∧
        ∀ change ∈ seatsChanges.changes, change.kind = .updateTable ∧ change.SparesTargets := by
  have hchanges : Tracked.evaluate (changesFrom seats (seatsWith ["kode"])) = .ok seatsChanges :=
    eq_ok_of_toOption (by decide +kernel)
  refine ⟨parse_seatsText, hchanges, fun change hchange => ?_⟩
  have hkind : change.kind = .updateTable := by
    rw [List.mem_singleton.1 hchange]
  refine ⟨hkind, ?_⟩
  obtain ⟨-, -, entity, hentity, -, hspares⟩ :=
    sparesTargets_iff parse_seatsText hchanges hchange hkind
  obtain rfl : entity = seat1 := List.mem_singleton.1 hentity
  -- the one field with a unique constraint is hidden
  rw [hspares]
  rintro ⟨field, hfield, hshown, name, hname, -⟩
  simp only [seat1, List.mem_cons, List.not_mem_nil, or_false] at hfield
  rcases hfield with rfl | rfl | rfl
  · cases hname
  · revert hshown
    decide +kernel
  · cases hname

/-- What is to be done when the column has its new name already. -/
def seatsChangesLater : ChangeSet where
  changes := [
    { kind := .updateTable, table := "seats"
      columns := [{ name := "label", type := "string", nullable := true }]
      indexes := [{ name := "by_label", columns := ["label"] }]
      uniques := [{ name := "by_code", columns := ["code"] }]
      commands := [{ kind := .renameIndex, source := "by_kode", target := some "by_code" }] }]

/-- Once the column has its new name, the unique constraint is renamed and created in one update. -/
theorem not_sparesTargets_seats :
    Schema.parse {} seatsText = .ok seats ∧
      Tracked.evaluate (changesFrom seats (seatsWith ["code"])) = .ok seatsChangesLater ∧
        ∃ change ∈ seatsChangesLater.changes,
          change.kind = .updateTable ∧ ¬ change.SparesTargets := by
  refine ⟨parse_seatsText, eq_ok_of_toOption (by decide +kernel), _, List.mem_singleton.2 rfl, rfl,
    fun hspares => ?_⟩
  exact hspares.uniques _ (List.mem_singleton.2 rfl) ⟨_, List.mem_singleton.2 rfl, rfl, rfl⟩

end Schema

end EntitySchema
