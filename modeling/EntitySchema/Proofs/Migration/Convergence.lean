/-
Migration converges.

A schema is compared with a snapshot, the changes are made, and the schema is compared with what has
come of them. `migration_converges` says that the second comparison finds nothing, except for the
fields that the first one left to pending renames, and that after a second round nothing is left in
any case. The comparisons in the statement are those of a resolver that remembers its lookups and
knows nothing at the start, as everywhere where the theory speaks about documents.

The two halves of a round are kept apart. What a schema asks for without looking at a snapshot is
that its relations are resolved, which gives its pivot tables; `AsksFor` collects this, and once one
comparison has succeeded it holds for all. The rest is decided entity by entity. A round makes one
change for each table, so the changes do not see each other, and what they lead to is
`Schema.IsServedBy`: every entity is served by its table and every pivot table is there.

That tables are not changed twice in one round has to be assumed, since two relations may ask for
the same pivot table, or one of them for the table of an entity. It need not be assumed of the
second round: by then all pivot tables exist, and entities have different tables.

The other hypotheses are about one entity each. Its fields have different names, its commands do not
get in each other's way and act on nothing that is declared, and no index that a command acts on is
listed twice in the snapshot. What these are needed for is in `Migration.Entities`, where a round is
followed for one entity. That the second comparison succeeds is not among them: it is proved, from
the commands being clear.
-/
import EntitySchema.Proofs.Migration.Comparison
import EntitySchema.Proofs.Migration.Entities
import EntitySchema.Proofs.Tracking.Changes

set_option autoImplicit false

namespace EntitySchema

open Outcome

/-! ## A round -/

namespace Schema

/-- A snapshot has what a schema asks for, apart from the fields that are left to pending renames.
Which commands are pending is given, because after a round it is those of the snapshot before it
that count. -/
structure IsServedBy (schema : Schema) (pending : Entity → List AlterCommand)
    (pivots : List Table) (snapshot : Snapshot) : Prop where
  entity : ∀ entity ∈ schema.entities, ∃ state,
    snapshot.tables.get? entity.table = some state ∧ entity.IsServedBy (pending entity) state
  pivot : ∀ pivot ∈ pivots, snapshot.hasTable pivot.name = true

variable {schema : Schema} {snapshot after : Snapshot} {tables pivots : List Table}
  {pending : Entity → List AlterCommand}

section Round

variable (hnames : ∀ entity ∈ schema.entities, entity.fieldNames.Nodup)
  (hclear : ∀ entity ∈ schema.entities, entity.HasClearCommands)
  (htables : schema.entities.mapM (·.toTable snapshot) = .ok tables)
  (hcount : ∀ entity ∈ schema.entities, ∀ state,
    snapshot.tables.get? entity.table = some state →
      ∀ command ∈ entity.pendingCommands snapshot, command.kind.actsOnIndex = true →
        state.indexes.count (some command.source) ≤ 1)
include hnames hclear htables hcount

/-- Each change could be made alone. For an entity this is one round, and a pivot table is only
created where there is none. -/
theorem exists_result_of_mem_between {change : TableChange}
    (hchange : change ∈ (ChangeSet.between snapshot tables pivots).changes) :
    ∃ state, change.result (snapshot.tables.get? change.table) = .ok state := by
  rcases ChangeSet.mem_between.1 hchange with ⟨table, htable, hfrom⟩ | ⟨pivot, _, hmissing, rfl⟩
  · -- the change of an entity
    obtain ⟨entity, hmem, hmade⟩ := (mem_of_mapM htables).1 htable
    obtain ⟨hround, -⟩ := Entity.exists_round (hclear entity hmem) (hnames entity hmem) hmade
      (hcount entity hmem)
    obtain ⟨state, hstate, -⟩ := hround change hfrom
    rw [Table.table_of_changeFrom? hfrom, (Entity.isLaidOut_of_toTable hmade).name_eq]
    exact ⟨state, hstate⟩
  · -- a pivot table that is created
    rw [show (pivot.toChange .createTable).table = pivot.name from rfl, hmissing]
    exact ⟨_, TableChange.result_of_create rfl⟩

/-- Once all changes are made every entity is served by its table. Either one of the changes is that
of the entity, and its result serves, or there is none and the table served before. -/
theorem exists_isServedBy_of_isAfter (hplaced : schema.IsPlaced)
    (hafter : snapshot.IsAfter (ChangeSet.between snapshot tables pivots).changes after)
    {entity : Entity} (hmem : entity ∈ schema.entities) :
    ∃ state, after.tables.get? entity.table = some state ∧
      entity.IsServedBy (entity.pendingCommands snapshot) state := by
  obtain ⟨table, hmade⟩ := (hclear entity hmem).exists_toTable snapshot
  have hlaid := Entity.isLaidOut_of_toTable hmade
  have htable : table ∈ tables := (mem_of_mapM htables).2 ⟨entity, hmem, hmade⟩
  have hround := Entity.exists_round (hclear entity hmem) (hnames entity hmem) hmade
    (hcount entity hmem)
  cases hfrom : table.changeFrom? snapshot with
  | some change =>
    obtain ⟨state, hstate, hserved⟩ := hround.1 change hfrom
    -- what is there now is the result of this change, which is the table that serves
    obtain ⟨made, hresult, hthere⟩ :=
      hafter.changed change (ChangeSet.mem_between.2 (.inl ⟨table, htable, hfrom⟩))
    rw [Table.table_of_changeFrom? hfrom, hlaid.name_eq] at hresult hthere
    rw [hstate] at hresult
    obtain rfl := Except.ok.inj hresult
    exact ⟨state, hthere, hserved⟩
  | none =>
    obtain ⟨state, hthere, hserved⟩ := hround.2 hfrom
    refine ⟨state, ?_, hserved⟩
    -- the table stays as it was, since no other change is of this table
    rw [hafter.kept entity.table ?_, hthere]
    intro hchanged
    obtain ⟨change, hchange, hsame⟩ := List.mem_map.1 hchanged
    rcases ChangeSet.mem_between.1 hchange with ⟨other, hother, hfromOther⟩ |
      ⟨pivot, _, hmissing, rfl⟩
    · obtain ⟨owner, howner, hmadeOther⟩ := (mem_of_mapM htables).1 hother
      have hname := (Entity.isLaidOut_of_toTable hmadeOther).name_eq
      rw [Table.table_of_changeFrom? hfromOther, hname] at hsame
      obtain rfl := hplaced.eq_of_table_eq howner hmem hsame
      rw [hmade] at hmadeOther
      obtain rfl := Except.ok.inj hmadeOther
      rw [hfrom] at hfromOther
      cases hfromOther
    · rw [show pivot.name = entity.table from hsame, hthere] at hmissing
      cases hmissing

/-- **A round.** The changes that come of a comparison can be made if they are of different
tables, and afterwards the schema is served. -/
theorem exists_apply_between (hplaced : schema.IsPlaced)
    (hnodup : (ChangeSet.between snapshot tables pivots).tables.Nodup) :
    ∃ after, snapshot.apply (ChangeSet.between snapshot tables pivots) = .ok after ∧
      schema.IsServedBy (·.pendingCommands snapshot) pivots after := by
  obtain ⟨after, happly, hafter⟩ := Snapshot.exists_apply hnodup fun change hchange =>
    exists_result_of_mem_between hnames hclear htables hcount hchange
  refine ⟨after, happly, fun entity hmem => ?_, fun pivot hpivot => ?_⟩
  · exact exists_isServedBy_of_isAfter hnames hclear htables hcount hplaced hafter hmem
  · apply hafter.hasTable
    cases hthere : snapshot.hasTable pivot.name with
    | true => exact .inl rfl
    | false =>
      have hcreated : pivot.toChange .createTable ∈
          (ChangeSet.between snapshot tables pivots).changes :=
        ChangeSet.mem_between.2
          (.inr ⟨pivot, hpivot, Snapshot.hasTable_eq_false_iff.1 hthere, rfl⟩)
      exact .inr (List.mem_map.2 ⟨_, hcreated, rfl⟩)

end Round

/-! ## The comparison after a round -/

section Next

variable (hserved : schema.IsServedBy pending pivots snapshot)
include hserved

/-- All pivot tables are there, so that only tables of entities can change. -/
theorem IsServedBy.between_eq (tables : List Table) :
    ChangeSet.between snapshot tables pivots =
      ⟨tables.filterMap (Table.changeFrom? snapshot)⟩ := by
  have hnone : pivots.filter (!snapshot.hasTable ·.name) = [] := by
    apply List.filter_eq_nil_iff.2
    intro pivot hpivot
    rw [hserved.pivot pivot hpivot]
    exact Bool.false_ne_true
  rw [ChangeSet.between, hnone, List.map_nil, List.append_nil]

/-- The changes are of different tables, since the entities have different tables. -/
theorem IsServedBy.nodup_tables (hplaced : schema.IsPlaced)
    (htables : schema.entities.mapM (·.toTable snapshot) = .ok tables) :
    (ChangeSet.between snapshot tables pivots).tables.Nodup := by
  have hnames : tables.map (·.name) = schema.entities.map (·.table) :=
    map_of_mapM htables fun entity hmem table hmade =>
      (Entity.isLaidOut_of_toTable hmade).name_eq
  rw [hserved.between_eq, ChangeSet.tables]
  refine (Table.tables_filterMap_changeFrom? snapshot tables).nodup ?_
  rw [hnames]
  exact hplaced.tables

/-- No command is pending any more. -/
theorem IsServedBy.pendingCommands_eq_nil {entity : Entity} (hmem : entity ∈ schema.entities) :
    entity.pendingCommands snapshot = [] := by
  obtain ⟨state, hthere, hstate⟩ := hserved.entity entity hmem
  exact hstate.pendingCommands_eq_nil hthere

/-- **Nothing is left.** If no field was left to a rename there are no changes. With nothing left to
a rename, to be served by a table is just what the comparison of a table asks for. -/
theorem IsServedBy.isEmpty_between
    (hnames : ∀ entity ∈ schema.entities, entity.fieldNames.Nodup)
    (htables : schema.entities.mapM (·.toTable snapshot) = .ok tables)
    (hshown : ∀ entity ∈ schema.entities, ∀ field ∈ entity.fields,
      Entity.isHidden (pending entity) field = false) :
    (ChangeSet.between snapshot tables pivots).isEmpty = true := by
  have hnone : tables.filterMap (Table.changeFrom? snapshot) = [] := by
    apply List.filterMap_eq_nil_iff.2
    intro table htable
    obtain ⟨entity, hmem, hmade⟩ := (mem_of_mapM htables).1 htable
    obtain ⟨state, hthere, hstate⟩ := hserved.entity entity hmem
    exact (Entity.changeFrom?_eq_none_iff (hnames entity hmem) hmade).2
      ⟨state, hthere, hstate.of_shown (hshown entity hmem)⟩
  rw [hserved.between_eq, hnone]
  rfl

end Next

/-! ## Convergence -/

/-- **Migration converges.** The changes that come of comparing a schema with a snapshot can be
made. The schema can be compared with what comes of them: nothing is left to be done unless a field
was the target of a rename that was pending, and in any case nothing is left after a second
round. -/
theorem migration_converges {config : Config} {text : String} {schema : Schema}
    {snapshot : Snapshot} {changeSet : ChangeSet}
    (hparse : Schema.parse config text = .ok schema)
    (hchanges : Tracked.evaluate (changesFrom schema snapshot) = .ok changeSet)
    (hnames : ∀ entity ∈ schema.entities, entity.fieldNames.Nodup)
    (hclear : ∀ entity ∈ schema.entities, entity.HasClearCommands)
    (hcount : ∀ table state, snapshot.tables.get? table = some state →
      ∀ name, state.indexes.count (some name) ≤ 1)
    (hnodup : changeSet.tables.Nodup) :
    ∃ after, snapshot.apply changeSet = .ok after ∧
      ∃ next, Tracked.evaluate (changesFrom schema after) = .ok next ∧
        ((∀ entity ∈ schema.entities, ∀ command ∈ entity.pendingCommands snapshot,
            command.kind = .renameField → ∀ field ∈ entity.fields,
              command.target ≠ some field.name) →
          next.isEmpty = true) ∧
        ∃ last, after.apply next = .ok last ∧
          ∃ rest, Tracked.evaluate (changesFrom schema last) = .ok rest ∧
            rest.isEmpty = true := by
  have hplaced : schema.IsPlaced := isPlaced_of_parse hparse
  simp only [evaluate_changesFrom hplaced] at hchanges ⊢
  obtain ⟨pivots, hasked, tables, htables, rfl⟩ := changesFrom_eq_ok.1 hchanges
  have htotal : ∀ snapshot : Snapshot, ∃ tables,
      schema.entities.mapM (·.toTable snapshot) = .ok tables := by
    intro snapshot
    apply exists_mapM
    intro entity hmem
    exact (hclear entity hmem).exists_toTable snapshot
  -- the first round
  obtain ⟨after, hafter, hserved⟩ := exists_apply_between hnames hclear htables
    (fun entity _ state hthere command _ _ => hcount entity.table state hthere command.source)
    hplaced hnodup
  obtain ⟨nextTables, hnextTables⟩ := htotal after
  refine ⟨after, hafter, _, changesFrom_eq_ok.2 ⟨pivots, hasked, nextTables, hnextTables, rfl⟩,
    ?_, ?_⟩
  · intro hfree
    refine hserved.isEmpty_between hnames hnextTables fun entity hmem field hfield => ?_
    rw [Entity.isHidden_eq_false_iff]
    intro command hcommand hrename
    exact hfree entity hmem command hcommand hrename field hfield
  -- the second round, in which no command is pending
  have hdone : ∀ entity ∈ schema.entities, entity.pendingCommands after = [] :=
    fun entity hmem => hserved.pendingCommands_eq_nil hmem
  obtain ⟨last, hlast, hservedLast⟩ := exists_apply_between hnames hclear hnextTables
    (fun entity hmem state _ command hcommand _ => by
      rw [hdone entity hmem] at hcommand
      cases hcommand)
    hplaced (hserved.nodup_tables hplaced hnextTables)
  obtain ⟨lastTables, hlastTables⟩ := htotal last
  refine ⟨last, hlast, _, changesFrom_eq_ok.2 ⟨pivots, hasked, lastTables, hlastTables, rfl⟩, ?_⟩
  refine hservedLast.isEmpty_between hnames hlastTables fun entity hmem field _ => ?_
  rw [hdone entity hmem]
  rfl

/-! ## An example -/

/-- A document that renames a column to a field whose column may be null. -/
def accountsText : String :=
  "Account1 (accounts)\n  RENAME FIELD login TO nick\n  nick: string\n  email: string Index\n"

/-- What the document says. -/
def accounts : Schema where
  entities := [
    { shortName := "Account1", namespaceName := "\\App\\", table := "accounts", index? := some 0
      fields := [
        { name := "id", type := "increments", owner? := some 0, nullable := some false,
          primaryKey := true, implied := true },
        { name := "nick", type := "string", owner? := some 0 },
        { name := "email", type := "string", owner? := some 0,
          indexNames := ["accounts_email_idx"] }]
      commands := [
        { kind := .renameField, source := "login", target := some "nick", owner? := some 0 }] }]
  namespaces := OrderedMap.insert ∅ "\\App\\" "app/"

/-- A database in which the renamed column must not be null. -/
def accountsBefore : Snapshot where
  tables := OrderedMap.insert ∅ "accounts" {
    columns := (OrderedMap.insert ∅ (some "id") { nullable := false }).insert (some "login")
      { nullable := false } }

/-- The first round renames the column. Only the second one can let it be null. -/
def accountsChanges : ChangeSet where
  changes := [
    { kind := .updateTable, table := "accounts"
      columns := [{ name := "email", type := "string", nullable := true }]
      indexes := [{ name := "accounts_email_idx", columns := ["email"] }]
      commands := [{ kind := .renameField, source := "login", target := some "nick" }] }]

/-- After the first change set the column has its new name but still must not be null, and after the
second one nothing is left to be done. -/
theorem migration_converges_accounts :
    Schema.parse {} accountsText = .ok accounts ∧
      Tracked.evaluate (changesFrom accounts accountsBefore) = .ok accountsChanges ∧
        ∃ after, accountsBefore.apply accountsChanges = .ok after ∧
          ∃ next, Tracked.evaluate (changesFrom accounts after) = .ok next ∧
            ∃ last, after.apply next = .ok last ∧
              ∃ rest, Tracked.evaluate (changesFrom accounts last) = .ok rest ∧
                rest.isEmpty = true := by
  have hparse : Schema.parse {} accountsText = .ok accounts :=
    eq_ok_of_toOption (by decide +kernel)
  have hchanges : Tracked.evaluate (changesFrom accounts accountsBefore) = .ok accountsChanges :=
    eq_ok_of_toOption (by decide +kernel)
  have hclear : ∀ entity ∈ accounts.entities, entity.HasClearCommands := by
    intro entity hmem
    rw [List.mem_singleton.1 hmem]
    exact ⟨by decide, by decide, by decide, by decide⟩
  have hcount : ∀ table state, accountsBefore.tables.get? table = some state →
      ∀ name, state.indexes.count (some name) ≤ 1 := by
    intro table state hthere name
    rw [accountsBefore, OrderedMap.get?_insert] at hthere
    split at hthere
    · obtain rfl := Option.some.inj hthere
      exact Nat.zero_le 1
    · cases hthere
  obtain ⟨after, hafter, next, hnext, -, hlast⟩ :=
    migration_converges hparse hchanges (by decide) hclear hcount (by decide)
  exact ⟨hparse, hchanges, after, hafter, next, hnext, hlast⟩

end Schema

end EntitySchema
