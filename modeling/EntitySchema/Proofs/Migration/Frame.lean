/-
What a round of migration leaves alone.

A round touches only what the schema names. A table that belongs to no entity is not touched at all.
In the table of an entity a column or an index goes away only as the source of a pending command,
and only the target of a pending rename is overwritten; a column that bears the name of a field may
change whether it may be null, and nothing else about it. New columns come from fields and renames.
`TableState.Keeps` says this of one table and `Snapshot.Keeps` of a database, with the fields and
the pending commands as parameters, so that both are preorders.

Nothing has to be assumed about commands here: whether or not they get in each other's way, each of
them keeps what it does not name. The steps are a command, a column and an index; the runs are a
list of commands, a change of one table and all changes of a round, each by an induction along which
`Keeps` is the invariant.

It is transitivity that makes the frame usable. A clause such as "a column keeps its type" is true
of one step, and for it to be true of a run it has to be said which columns are excepted, in a way
that does not depend on the step. So the exceptions are in terms of all pending commands and all
fields, and a step is weakened to them before it is composed with the next.

Columns and indexes are known by keys that may be no name at all, because a rename without a target
takes the name away. The frame speaks about these as well.
-/
import EntitySchema.Proofs.Migration.Apply
import EntitySchema.Proofs.Migration.Comparison
import EntitySchema.Proofs.Tracking.Changes

set_option autoImplicit false

namespace EntitySchema

open Outcome

/-! ## One table -/

namespace TableState

/-- What is kept of a table with the given fields while commands are pending. Columns and indexes
are known by their keys, since a rename without a target takes the name away. -/
structure Keeps (fields : List Field) (pending : List AlterCommand) (before after : TableState) :
    Prop where
  /-- A column that no command takes away is there. It has its type and may be null as before,
  unless a rename has put another one in its place or a field has the say. -/
  column : ∀ key state, before.columns.get? key = some state →
    (∀ command ∈ pending, command.kind.actsOnIndex = false → some command.source ≠ key) →
      ∃ later, after.columns.get? key = some later ∧
        ((∀ command ∈ pending, command.kind = .renameField → command.target ≠ key) →
          later.type = state.type ∧
            (later.nullable = state.nullable ∨
              ∃ field ∈ fields, some field.name = key ∧ later.nullable = field.mayBeNull))
  /-- An index that no command takes away is listed. -/
  index : ∀ key ∈ before.indexes,
    (∀ command ∈ pending, command.kind.actsOnIndex = true → some command.source ≠ key) →
      key ∈ after.indexes
  /-- A column that is new comes from a field or a rename. -/
  new_column : ∀ key, before.columns.get? key = none → (after.columns.get? key).isSome = true →
    (∃ field ∈ fields, some field.name = key) ∨
      ∃ command ∈ pending, command.kind = .renameField ∧ command.target = key

variable {fields : List Field} {pending : List AlterCommand} {before middle after : TableState}

namespace Keeps

/-- A table to which nothing happens keeps everything. -/
theorem refl (state : TableState) : state.Keeps fields pending state := by
  constructor
  · intro key column hthere _
    exact ⟨column, hthere, fun _ => ⟨rfl, .inl rfl⟩⟩
  · intro key hmem _
    exact hmem
  · intro key hnone hsome
    rw [hnone] at hsome
    cases hsome

/-- Keeping is transitive, clause by clause. Of two fields that had a say about a column the last
one decides, and it is a field all the same. -/
theorem trans (hfirst : before.Keeps fields pending middle)
    (hsecond : middle.Keeps fields pending after) : before.Keeps fields pending after := by
  constructor
  · intro key column hthere hsource
    obtain ⟨between, hbetween, hkept⟩ := hfirst.column key column hthere hsource
    obtain ⟨later, hlater, hkeptLater⟩ := hsecond.column key between hbetween hsource
    refine ⟨later, hlater, fun htarget => ?_⟩
    obtain ⟨htype, hnullable⟩ := hkept htarget
    obtain ⟨htypeLater, hnullableLater⟩ := hkeptLater htarget
    refine ⟨htypeLater.trans htype, ?_⟩
    -- the last field that had a say decides
    rcases hnullableLater with hsame | hfield
    · rw [hsame]
      exact hnullable
    · exact .inr hfield
  · intro key hmem hsource
    exact hsecond.index key (hfirst.index key hmem hsource) hsource
  · intro key hnone hsome
    by_cases hbetween : middle.columns.get? key = none
    · exact hsecond.new_column key hbetween hsome
    · exact hfirst.new_column key hnone (Option.isSome_iff_ne_none.2 hbetween)

/-- A list of steps of which each keeps, from whatever state. -/
theorem foldl {α : Type} {step : TableState → α → TableState} {items : List α}
    (hstep : ∀ item ∈ items, ∀ state : TableState, state.Keeps fields pending (step state item))
    (state : TableState) : state.Keeps fields pending (items.foldl step state) := by
  induction items generalizing state with
  | nil => exact refl state
  | cons item items ih =>
    rw [List.foldl_cons]
    have hfirst := hstep item List.mem_cons_self state
    have hrest := ih (fun other hother => hstep other (List.mem_cons_of_mem _ hother))
      (step state item)
    exact hfirst.trans hrest

/-- **One command.** A pending command keeps whatever it does not name. There is one case for each
kind of command; the two for columns leave the indexes alone, and the other way round. -/
theorem of_run {table : String} {command : AlterCommand} (hcommand : command ∈ pending)
    (hrun : run table before ⟨command.kind, command.source, command.target⟩ = .ok after) :
    before.Keeps fields pending after := by
  have hother : ∀ {onIndex : Bool} {key : Option String}, command.kind.actsOnIndex = onIndex →
      (∀ named ∈ pending, named.kind.actsOnIndex = onIndex → some named.source ≠ key) →
        key ≠ some command.source :=
    fun hsort hnamed => (hnamed command hcommand hsort).symm
  rw [run_eq_ok] at hrun
  cases hkind : command.kind with
  | renameField =>
    simp only [hkind] at hrun
    obtain ⟨moved, -, rfl⟩ := hrun
    refine ⟨?_, fun key hmem _ => hmem, ?_⟩
    · intro key column hthere hsource
      have hne : key ≠ some command.source := hother (by rw [hkind]; rfl) hsource
      simp only [OrderedMap.get?_insert, OrderedMap.get?_erase, if_neg hne]
      -- under the target is the column that was moved, elsewhere what was there
      by_cases htarget : key = command.target
      · refine ⟨moved, if_pos htarget, fun hnot => ?_⟩
        exact absurd htarget.symm (hnot command hcommand hkind)
      · exact ⟨column, by rw [if_neg htarget, hthere], fun _ => ⟨rfl, .inl rfl⟩⟩
    · intro key hnone hsome
      simp only [OrderedMap.get?_insert, OrderedMap.get?_erase, hnone, ite_self] at hsome
      by_cases htarget : key = command.target
      · exact .inr ⟨command, hcommand, hkind, htarget.symm⟩
      · rw [if_neg htarget] at hsome
        cases hsome
  | deleteField =>
    simp only [hkind] at hrun
    obtain ⟨-, rfl⟩ := hrun
    refine ⟨?_, fun key hmem _ => hmem, ?_⟩
    · intro key column hthere hsource
      have hne : key ≠ some command.source := hother (by rw [hkind]; rfl) hsource
      refine ⟨column, ?_, fun _ => ⟨rfl, .inl rfl⟩⟩
      rw [OrderedMap.get?_erase, if_neg hne, hthere]
    · intro key hnone hsome
      simp only [OrderedMap.get?_erase, hnone, ite_self] at hsome
      cases hsome
  | renameIndex =>
    simp only [hkind] at hrun
    obtain ⟨-, rfl⟩ := hrun
    refine ⟨(refl before).column, fun key hmem hsource => ?_, (refl before).new_column⟩
    have hne : key ≠ some command.source := hother (by rw [hkind]; rfl) hsource
    exact mem_replace_of_ne hmem hne
  | deleteIndex =>
    simp only [hkind] at hrun
    obtain ⟨-, rfl⟩ := hrun
    refine ⟨(refl before).column, fun key hmem hsource => ?_, (refl before).new_column⟩
    have hne : key ≠ some command.source := hother (by rw [hkind]; rfl) hsource
    exact (List.mem_erase_of_ne hne).2 hmem

/-- **All commands.** They are run one after the other, each on what those before it have left. -/
theorem of_runs {table : String}
    (hrun : (Entity.commandChanges pending).foldlM (run table) before = .ok after) :
    before.Keeps fields pending after := by
  refine foldlM_induction (P := fun state => before.Keeps fields pending state)
    (refl before) ?_ hrun
  intro state made next hmade hkept hnext
  obtain ⟨command, hcommand, rfl⟩ := Entity.mem_commandChanges.1 hmade
  exact hkept.trans (of_run hcommand hnext)

/-- **One column.** The column of a field changes at most whether it may be null. -/
theorem addColumn {column : ColumnChange} {field : Field} (hfield : field ∈ fields)
    (hname : field.name = column.name) (hnullable : field.mayBeNull = column.nullable)
    (state : TableState) : state.Keeps fields pending (state.addColumn column) := by
  refine ⟨?_, fun key hmem _ => hmem, ?_⟩
  · intro key old hthere _
    by_cases hkey : key = some column.name
    · subst hkey
      refine ⟨{ old with nullable := column.nullable }, ?_, fun _ => ⟨rfl, .inr ?_⟩⟩
      · simp only [TableState.addColumn, OrderedMap.get?_insert, hthere, if_pos]
      · exact ⟨field, hfield, congrArg some hname, hnullable.symm⟩
    · refine ⟨old, ?_, fun _ => ⟨rfl, .inl rfl⟩⟩
      simp only [TableState.addColumn, OrderedMap.get?_insert, if_neg hkey, hthere]
  · intro key hnone hsome
    by_cases hkey : key = some column.name
    · exact .inl ⟨field, hfield, by rw [hname, hkey]⟩
    · simp only [TableState.addColumn, OrderedMap.get?_insert, if_neg hkey, hnone] at hsome
      cases hsome

/-- **One index.** It is added at the end, or is there already. -/
theorem addIndex (name : String) (state : TableState) :
    state.Keeps fields pending (state.addIndex name) := by
  rw [TableState.addIndex]
  split
  · exact refl state
  · refine ⟨(refl state).column, ?_, (refl state).new_column⟩
    intro key hmem _
    exact List.mem_append_left _ hmem

/-- **All columns and indexes** of a change whose columns are those of fields. -/
theorem addAll {change : TableChange}
    (hcolumns : ∀ column ∈ change.columns, ∃ field ∈ fields,
      field.name = column.name ∧ field.mayBeNull = column.nullable) (state : TableState) :
    state.Keeps fields pending (state.addAll change) := by
  have hwith : state.Keeps fields pending (change.columns.foldl TableState.addColumn state) := by
    refine foldl (fun column hcolumn state => ?_) state
    obtain ⟨field, hfield, hname, hnullable⟩ := hcolumns column hcolumn
    exact addColumn hfield hname hnullable state
  exact hwith.trans (foldl (fun index _ state => addIndex index.name state) _)

end Keeps

end TableState

/-! ## One change -/

namespace Entity

variable {entity : Entity} {snapshot : Snapshot} {table : Table} {change : TableChange}
  {before after : TableState}

/-- **The change of an entity** keeps what the entity and its pending commands do not name. Only an
update has to be looked at, as a table that is created was not there. -/
theorem keeps_of_changeFrom? (htable : entity.toTable snapshot = .ok table)
    (hfrom : table.changeFrom? snapshot = some change)
    (hresult : change.result (some before) = .ok after) :
    before.Keeps entity.fields (entity.pendingCommands snapshot) after := by
  have hlaid := isLaidOut_of_toTable htable
  obtain ⟨hkind, middle, hrun, rfl⟩ := TableChange.result_some_eq_ok.1 hresult
  rcases Table.changeFrom?_eq_some hfrom with ⟨-, rfl⟩ | ⟨-, rfl⟩
  · rw [hlaid.commands_missing] at hrun
    have hcommands : before.Keeps entity.fields (entity.pendingCommands snapshot) middle :=
      .of_runs hrun
    refine hcommands.trans (.addAll (fun column hcolumn => ?_) middle)
    exact hlaid.exists_field_of_missing hcolumn
  · -- a table that is created was not there
    cases hkind

end Entity

/-! ## A database -/

namespace Snapshot

/-- What is kept of a database while commands of the entities of a schema are pending. -/
structure Keeps (schema : Schema) (pending : Entity → List AlterCommand)
    (before after : Snapshot) : Prop where
  table : ∀ name, before.hasTable name = true → after.hasTable name = true
  /-- The table of no entity is as it was. -/
  other : ∀ name state, before.tables.get? name = some state →
    (∀ entity ∈ schema.entities, entity.table ≠ name) → after.tables.get? name = some state
  entity : ∀ entity ∈ schema.entities, ∀ state, before.tables.get? entity.table = some state →
    ∃ later, after.tables.get? entity.table = some later ∧
      state.Keeps entity.fields (pending entity) later

variable {schema : Schema} {pending : Entity → List AlterCommand} {before middle after : Snapshot}

namespace Keeps

/-- A database to which nothing happens keeps everything. -/
theorem refl (snapshot : Snapshot) : snapshot.Keeps schema pending snapshot :=
  ⟨fun _ hthere => hthere, fun _ _ hthere _ => hthere,
    fun _ _ state hthere => ⟨state, hthere, .refl state⟩⟩

/-- Keeping is transitive. -/
theorem trans (hfirst : before.Keeps schema pending middle)
    (hsecond : middle.Keeps schema pending after) : before.Keeps schema pending after := by
  constructor
  · intro name hthere
    exact hsecond.table name (hfirst.table name hthere)
  · intro name state hthere hnone
    exact hsecond.other name state (hfirst.other name state hthere hnone) hnone
  · intro entity hmem state hthere
    obtain ⟨between, hbetween, hkept⟩ := hfirst.entity entity hmem state hthere
    obtain ⟨later, hlater, hkeptLater⟩ := hsecond.entity entity hmem between hbetween
    exact ⟨later, hlater, hkept.trans hkeptLater⟩

/-- **One change.** A change keeps whatever it may not name, if it can be made to a table that is
there only on behalf of the entity of that table. -/
theorem of_applyChange (hplaced : schema.IsPlaced) {change : TableChange}
    (hchange : ∀ state made, change.result (some state) = .ok made →
      ∃ entity ∈ schema.entities, entity.table = change.table ∧
        state.Keeps entity.fields (pending entity) made)
    (happly : before.applyChange change = .ok after) : before.Keeps schema pending after := by
  obtain ⟨made, hmade, rfl⟩ := applyChange_eq_ok.1 happly
  constructor
  · intro name hthere
    exact (hasTable_of_applyChange happly).2 (.inr hthere)
  · intro name state hthere hnone
    rw [OrderedMap.get?_insert, if_neg, hthere]
    rintro rfl
    rw [hthere] at hmade
    obtain ⟨entity, hmem, htable, -⟩ := hchange state made hmade
    exact hnone entity hmem htable
  · intro entity hmem state hthere
    rw [OrderedMap.get?_insert]
    by_cases htable : entity.table = change.table
    · rw [← htable, hthere] at hmade
      obtain ⟨owner, howner, hsame, hkept⟩ := hchange state made hmade
      -- no other entity has this table
      obtain rfl := hplaced.eq_of_table_eq howner hmem (hsame.trans htable.symm)
      exact ⟨made, if_pos htable, hkept⟩
    · exact ⟨state, by rw [if_neg htable, hthere], .refl state⟩

end Keeps

end Snapshot

/-! ## A round -/

namespace Schema

/-- **A round loses nothing.** What comes of a snapshot when the changes are made that a comparison
with a schema asks for keeps all that neither the schema nor its pending commands name. -/
theorem keeps_of_apply_changesFrom {config : Config} {text : String} {schema : Schema}
    {snapshot after : Snapshot} {changeSet : ChangeSet}
    (hparse : Schema.parse config text = .ok schema)
    (hchanges : Tracked.evaluate (changesFrom schema snapshot) = .ok changeSet)
    (happly : snapshot.apply changeSet = .ok after) :
    snapshot.Keeps schema (·.pendingCommands snapshot) after := by
  have hplaced : schema.IsPlaced := isPlaced_of_parse hparse
  rw [evaluate_changesFrom hplaced] at hchanges
  obtain ⟨pivots, -, tables, htables, rfl⟩ := changesFrom_eq_ok.1 hchanges
  refine foldlM_induction (P := fun reached => snapshot.Keeps schema (·.pendingCommands snapshot)
    reached) (.refl snapshot) ?_ happly
  intro reached change next hchange hkept hnext
  refine hkept.trans (.of_applyChange hplaced (fun state made hresult => ?_) hnext)
  rcases ChangeSet.mem_between.1 hchange with ⟨table, htable, hfrom⟩ | ⟨pivot, _, _, rfl⟩
  · obtain ⟨entity, hmem, hmade⟩ := (mem_of_mapM htables).1 htable
    refine ⟨entity, hmem, ?_, Entity.keeps_of_changeFrom? hmade hfrom hresult⟩
    rw [Table.table_of_changeFrom? hfrom, (Entity.isLaidOut_of_toTable hmade).name_eq]
  · -- a pivot table is only ever created
    obtain ⟨hkind, -⟩ := TableChange.result_some_eq_ok.1 hresult
    cases hkind

/-! ## An example -/

/-- A document with a command of each kind. -/
def booksText : String :=
  "Book1 (books1)\n  RENAME FIELD title TO name\n  DELETE FIELD isbn\n" ++
    "  RENAME INDEX title1 TO name1\n  DELETE INDEX isbn1\n" ++
    "  name: string Index(name1)\n  pages: integer\n"

/-- What the document says. -/
def books : Schema where
  entities := [
    { shortName := "Book1", namespaceName := "\\App\\", table := "books1", index? := some 0
      fields := [
        { name := "id", type := "increments", owner? := some 0, nullable := some false,
          primaryKey := true, implied := true },
        { name := "name", type := "string", owner? := some 0, indexNames := ["name1"] },
        { name := "pages", type := "integer", owner? := some 0 }]
      commands := [
        { kind := .renameField, source := "title", target := some "name", owner? := some 0 },
        { kind := .deleteField, source := "isbn", owner? := some 0 },
        { kind := .renameIndex, source := "title1", target := some "name1", owner? := some 0 },
        { kind := .deleteIndex, source := "isbn1", owner? := some 0 }] }]
  namespaces := OrderedMap.insert ∅ "\\App\\" "app/"

/-- A database in which the table of the entity has more than the entity declares, and which has
another table. -/
def booksBefore : Snapshot where
  tables := (OrderedMap.insert ∅ "books1"
    { columns := OrderedMap.ofList [
        (some "id", { nullable := false }), (some "title", { type := some "string" }),
        (some "isbn", {}), (some "pages", { nullable := false, type := some "integer" }),
        (some "shelf", { nullable := false })]
      indexes := [some "title1", some "isbn1", some "shelf1"] }).insert "logs1"
    { columns := OrderedMap.insert ∅ (some "line") {} }

/-- The commands run, and the pages may be null. -/
def booksChanges : ChangeSet where
  changes := [
    { kind := .updateTable, table := "books1"
      columns := [
        { name := "pages", type := "integer", nullable := true, alreadyThere := true,
          currentNullable := some false }]
      commands := [
        { kind := .renameField, source := "title", target := some "name" },
        { kind := .deleteField, source := "isbn" },
        { kind := .renameIndex, source := "title1", target := some "name1" },
        { kind := .deleteIndex, source := "isbn1" }] }]

/-- What comes of it: what no command names is there as before, apart from the pages. -/
def booksAfter : Snapshot where
  tables := (OrderedMap.insert ∅ "books1"
    { columns := OrderedMap.ofList [
        (some "id", { nullable := false }), (some "pages", { type := some "integer" }),
        (some "shelf", { nullable := false }), (some "name", { type := some "string" })]
      indexes := [some "name1", some "shelf1"] }).insert "logs1"
    { columns := OrderedMap.insert ∅ (some "line") {} }

/-- The column `shelf` and its index are named by nothing and stay, and so does the other table. -/
theorem keeps_of_apply_booksChanges :
    Schema.parse {} booksText = .ok books ∧
      Tracked.evaluate (changesFrom books booksBefore) = .ok booksChanges ∧
        booksBefore.apply booksChanges = .ok booksAfter ∧
          booksBefore.Keeps books (·.pendingCommands booksBefore) booksAfter := by
  have hparse : Schema.parse {} booksText = .ok books :=
    eq_ok_of_toOption (by decide +kernel)
  have hchanges : Tracked.evaluate (changesFrom books booksBefore) = .ok booksChanges :=
    eq_ok_of_toOption (by decide +kernel)
  have happly : booksBefore.apply booksChanges = .ok booksAfter :=
    eq_ok_of_toOption (by decide +kernel)
  exact ⟨hparse, hchanges, happly, keeps_of_apply_changesFrom hparse hchanges happly⟩

end Schema

end EntitySchema
