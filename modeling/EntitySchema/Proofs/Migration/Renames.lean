/-
What renames destroy.

A command takes a name away, gives a name, or does both, and which names these are is told by the
command alone. This file draws up the balance of a list of commands: how many columns a table has
after them (`size_columns_of_runs`), and how often the name of an index is listed
(`count_indexes_of_runs`). Both hold of every run that succeeds, whatever the table was before it.

No command asks whether its new name is free. The balance of the columns therefore has an entry of
its own for the columns that the rename of another one has overwritten, and that of an index name
exceeds one as soon as the name is given more often than there is room for it. `keepsNames_iff` says
that a change set loses columns that it does not delete, or lists an index twice, in these two ways
and in no other.

Each balance is proved first of one command, by its kind, and then of a run by induction, where the
entries of the commands add up. The two are not alike. How often an index is listed can be told from
the commands and the table before them, without looking at the tables in between. Whether a column
is overwritten cannot, since a column may have been put under the target by an earlier command, and
`overwritten` runs the commands to find out.

A change set may update a table several times. Columns are counted in each of these updates, which
`Makes` lists with the table as it finds it. For the indexes only the last update matters
(`exists_last_change`): an index that is listed twice in between may be deleted again.
-/
import EntitySchema.Proofs.Migration.Apply
import EntitySchema.Proofs.Migration.TableStates
import Mathlib.Data.List.Nodup
import Mathlib.Data.List.Induction

set_option autoImplicit false

namespace EntitySchema

open Outcome

/-! ## Names that commands take and give -/

namespace CommandChange

/-- Whether a command takes a name away from an index. -/
def takesIndex (name : Option String) (command : CommandChange) : Bool :=
  command.kind.actsOnIndex && some command.source == name

/-- Whether a command gives an index a name. -/
def givesIndex (name : Option String) (command : CommandChange) : Bool :=
  command.kind == .renameIndex && command.target == name

/-- Whether a command gives a column the name of another one, which is lost by it. A column that is
renamed to the name it has is not lost. -/
def overwrites (command : CommandChange) (state : TableState) : Bool :=
  command.kind == .renameField && command.target != some command.source &&
    state.columns.contains command.target

end CommandChange

namespace TableState

/-- How many columns are overwritten while commands are run one after the other. Commands after one
that cannot be run are not counted, but the number is only of interest for runs that succeed. -/
def overwritten (table : String) (state : TableState) : List CommandChange → Nat
  | [] => 0
  | command :: commands =>
    (if command.overwrites state then 1 else 0) +
      match state.run table command with
      | .ok next => overwritten table next commands
      | .error _ => 0

variable {table : String} {state next : TableState} {command : CommandChange}
  {commands : List CommandChange}

/-- The count after one command that could be run. -/
theorem overwritten_cons (h : state.run table command = .ok next) :
    state.overwritten table (command :: commands) =
      (if command.overwrites state then 1 else 0) + next.overwritten table commands := by
  rw [overwritten, h]

/-! ## The columns -/

/-- **One command and the number of columns.** The rename of a column takes one entry away and
brings one back, unless the new name was there, and then there is one entry less. -/
theorem size_columns_of_run (h : state.run table command = .ok next) :
    next.columns.size + (if command.kind = .deleteField then 1 else 0) +
      (if command.overwrites state then 1 else 0) = state.columns.size := by
  rw [run_eq_ok] at h
  cases hkind : command.kind with
  | renameField =>
    simp only [hkind] at h
    obtain ⟨column, hcolumn, rfl⟩ := h
    have hthere : state.columns.contains (some command.source) = true := by
      rw [OrderedMap.contains, hcolumn, Option.isSome_some]
    have hsize := OrderedMap.size_erase hthere
    -- the source is gone when the target is written, so a column does not overwrite itself
    have hfree : (state.columns.erase (some command.source)).contains command.target =
        (command.target != some command.source && state.columns.contains command.target) := by
      rw [OrderedMap.contains, OrderedMap.get?_erase]
      by_cases htarget : command.target = some command.source
      · simp [htarget]
      · simp [htarget, OrderedMap.contains]
    rw [OrderedMap.size_insert, hfree, CommandChange.overwrites, hkind]
    simp only [beq_self_eq_true, Bool.true_and, reduceCtorEq, if_false]
    split <;> omega
  | deleteField =>
    simp only [hkind] at h
    obtain ⟨hthere, rfl⟩ := h
    have hsize := OrderedMap.size_erase hthere
    simpa [CommandChange.overwrites, hkind] using hsize
  | renameIndex =>
    simp only [hkind] at h
    obtain ⟨-, rfl⟩ := h
    simp [CommandChange.overwrites, hkind]
  | deleteIndex =>
    simp only [hkind] at h
    obtain ⟨-, rfl⟩ := h
    simp [CommandChange.overwrites, hkind]

/-- **The balance of the columns.** Commands leave as many columns as there were, less those that
are deleted and less those that are overwritten. It is written as a sum, as differences of natural
numbers would hide that nothing goes below zero. -/
theorem size_columns_of_runs (h : commands.foldlM (run table) state = .ok next) :
    next.columns.size + commands.countP (·.kind = .deleteField) +
      state.overwritten table commands = state.columns.size := by
  induction commands generalizing state with
  | nil =>
    obtain rfl : state = next := Except.ok.inj h
    rfl
  | cons command commands ih =>
    rw [List.foldlM_cons, bind_eq_ok] at h
    obtain ⟨middle, hfirst, hrest⟩ := h
    have hone := size_columns_of_run hfirst
    have hlater := ih hrest
    rw [List.countP_cons, overwritten_cons hfirst]
    simp only [decide_eq_true_eq]
    omega

/-! ## The names of indexes -/

/-- **One command and the name of an index.** A command on columns has no entry on either side, and
a rename has one on both if it gives the name that it takes away. -/
theorem count_indexes_of_run (h : state.run table command = .ok next) (name : Option String) :
    next.indexes.count name + (if command.takesIndex name then 1 else 0) =
      state.indexes.count name + (if command.givesIndex name then 1 else 0) := by
  rw [run_eq_ok] at h
  cases hkind : command.kind with
  | renameField =>
    simp only [hkind] at h
    obtain ⟨column, -, rfl⟩ := h
    simp [CommandChange.takesIndex, CommandChange.givesIndex, AlterKind.actsOnIndex, hkind]
  | deleteField =>
    simp only [hkind] at h
    obtain ⟨-, rfl⟩ := h
    simp [CommandChange.takesIndex, CommandChange.givesIndex, AlterKind.actsOnIndex, hkind]
  | renameIndex =>
    simp only [hkind] at h
    obtain ⟨hthere, rfl⟩ := h
    have hcount := count_replace_add hthere command.target name
    simpa [CommandChange.takesIndex, CommandChange.givesIndex, AlterKind.actsOnIndex, hkind]
      using hcount
  | deleteIndex =>
    simp only [hkind] at h
    obtain ⟨hthere, rfl⟩ := h
    have hcount := count_erase_add hthere name
    simpa [CommandChange.takesIndex, CommandChange.givesIndex, AlterKind.actsOnIndex, hkind]
      using hcount

/-- **The balance of an index name.** After the commands it is listed as often as before, less the
times it is taken away and more by the times it is given. -/
theorem count_indexes_of_runs (h : commands.foldlM (run table) state = .ok next)
    (name : Option String) :
    next.indexes.count name + commands.countP (·.takesIndex name) =
      state.indexes.count name + commands.countP (·.givesIndex name) := by
  induction commands generalizing state with
  | nil =>
    obtain rfl : state = next := Except.ok.inj h
    rfl
  | cons command commands ih =>
    rw [List.foldlM_cons, bind_eq_ok] at h
    obtain ⟨middle, hfirst, hrest⟩ := h
    have hone := count_indexes_of_run hfirst name
    have hlater := ih hrest
    rw [List.countP_cons, List.countP_cons]
    omega

/-- An index is not added to one of its name. -/
theorem nodup_indexes_addIndex (state : TableState) (index : String) :
    (state.addIndex index).indexes.Nodup ↔ state.indexes.Nodup := by
  rw [addIndex]
  split
  · rfl
  · next hnew =>
    rw [List.contains_iff_mem] at hnew
    rw [List.nodup_append_comm, List.singleton_append, List.nodup_cons]
    exact and_iff_right hnew

/-- The same for any number of them. Each finds the ones that were added before it. -/
theorem nodup_indexes_foldl_addIndex (indexes : List IndexChange) (state : TableState) :
    (indexes.foldl (fun state index => state.addIndex index.name) state).indexes.Nodup ↔
      state.indexes.Nodup := by
  induction indexes generalizing state with
  | nil => rfl
  | cons index indexes ih => rw [List.foldl_cons, ih, nodup_indexes_addIndex]

/-- Columns and indexes that are added do not list an index twice. Whether one is listed twice after
an update is thus decided by its commands. -/
theorem nodup_indexes_addAll (state : TableState) (change : TableChange) :
    (state.addAll change).indexes.Nodup ↔ state.indexes.Nodup := by
  rw [addAll, nodup_indexes_foldl_addIndex, indexes_foldl_addColumn]

end TableState

/-! ## The updates of a run -/

namespace Snapshot

/-- An update that is made when a change set is applied: the table as it finds it, and the changes
that come later. The same change may be made several times, at different places of the list. -/
structure Makes (before : Snapshot) (changes : List TableChange) (change : TableChange)
    (found : TableState) (later : List TableChange) : Prop where
  isUpdate : change.kind = .updateTable
  exists_reached : ∃ done reached, changes = done ++ change :: later ∧
    before.apply ⟨done⟩ = .ok reached ∧ reached.tables.get? change.table = some found

variable {before after : Snapshot} {changes later : List TableChange} {change : TableChange}
  {found state : TableState} {table : String}

/-- In a run that succeeds the commands of every update can be run, and unless a later change is
about the same table, this is how the table stays. -/
theorem Makes.exists_run (h : before.Makes changes change found later)
    (happly : before.apply ⟨changes⟩ = .ok after) :
    ∃ middle, change.commands.foldlM (TableState.run change.table) found = .ok middle ∧
      (change.table ∉ later.map (·.table) →
        after.tables.get? change.table = some (middle.addAll change)) := by
  obtain ⟨done, reached, rfl, hdone, hfound⟩ := h.exists_reached
  obtain ⟨again, hagain, hrest⟩ := apply_append_eq_ok.1 happly
  obtain rfl : reached = again := Except.ok.inj (hdone.symm.trans hagain)
  obtain ⟨made, hmade, hlater⟩ := apply_cons_eq_ok.1 hrest
  rw [hfound, TableChange.result_some_eq_ok] at hmade
  obtain ⟨-, middle, hmiddle, rfl⟩ := hmade
  refine ⟨middle, hmiddle, fun hother => ?_⟩
  rw [get?_of_apply hlater hother, OrderedMap.get?_insert, if_pos rfl]

/-- A table of the result is there from the start, or it is what the last change of it made. The
last change is a creation or an update, and it found the table as the changes before it had left
it. -/
theorem exists_last_change (happly : before.apply ⟨changes⟩ = .ok after)
    (hthere : after.tables.get? table = some state) :
    before.tables.get? table = some state ∨
      ∃ done change later reached, changes = done ++ change :: later ∧ change.table = table ∧
        table ∉ later.map (·.table) ∧ before.apply ⟨done⟩ = .ok reached ∧
          change.result (reached.tables.get? table) = .ok state := by
  -- from the end of the list: the last change has made the table, or it is about another one
  induction changes using List.reverseRecOn generalizing after with
  | nil =>
    obtain rfl : before = after := Except.ok.inj happly
    exact .inl hthere
  | append_singleton changes last ih =>
    obtain ⟨middle, hmiddle, hlast⟩ := apply_append_eq_ok.1 happly
    obtain ⟨made, hmade, hnil⟩ := apply_cons_eq_ok.1 hlast
    obtain rfl : ⟨middle.tables.insert last.table made⟩ = after := Except.ok.inj hnil
    rw [OrderedMap.get?_insert] at hthere
    by_cases htable : table = last.table
    · subst htable
      rw [if_pos rfl] at hthere
      obtain rfl := Option.some.inj hthere
      exact .inr ⟨changes, last, [], middle, rfl, rfl, List.not_mem_nil, hmiddle, hmade⟩
    · rw [if_neg htable] at hthere
      refine (ih hmiddle hthere).imp_right ?_
      rintro ⟨done, change, later, reached, rfl, hchange, hlater, hreached, hresult⟩
      refine ⟨done, change, later ++ [last], reached, by simp, hchange, ?_, hreached, hresult⟩
      simpa [htable] using hlater

end Snapshot

/-! ## What a change set keeps -/

/-- Whether the commands of an update leave no index name listed twice: no name is given to more
indexes than there is room for. -/
def TableChange.LeavesRoom (change : TableChange) (found : TableState) : Prop :=
  ∀ name, found.indexes.count name + change.commands.countP (·.givesIndex name) ≤
    change.commands.countP (·.takesIndex name) + 1

/-- After an update no index is listed twice exactly if its commands left room. That the table had
no index twice before the update is not needed here; it is part of there being room. -/
theorem TableChange.nodup_indexes_iff {change : TableChange} {found middle : TableState}
    (hrun : change.commands.foldlM (TableState.run change.table) found = .ok middle) :
    (middle.addAll change).indexes.Nodup ↔ change.LeavesRoom found := by
  rw [TableState.nodup_indexes_addAll, List.nodup_iff_count_le_one]
  refine forall_congr' fun name => ?_
  have hcount := TableState.count_indexes_of_runs hrun name
  omega

namespace Snapshot

/-- A result in which no index is listed twice, reached by updates whose commands cost a table
exactly the columns that they delete. -/
structure KeepsNames (before : Snapshot) (changes : List TableChange) (after : Snapshot) :
    Prop where
  indexes : ∀ table state, after.tables.get? table = some state → state.indexes.Nodup
  columns : ∀ change found later middle, before.Makes changes change found later →
    change.commands.foldlM (TableState.run change.table) found = .ok middle →
      middle.columns.size + change.commands.countP (·.kind = .deleteField) = found.columns.size

variable {before after : Snapshot} {changes : List TableChange}

/-- The columns that are lost are those that commands delete or overwrite. Both sides speak of every
update of the run, with the table as that update finds it. -/
theorem columns_kept_iff (happly : before.apply ⟨changes⟩ = .ok after) :
    (∀ change found later middle, before.Makes changes change found later →
      change.commands.foldlM (TableState.run change.table) found = .ok middle →
        middle.columns.size + change.commands.countP (·.kind = .deleteField) =
          found.columns.size) ↔
      ∀ change found later, before.Makes changes change found later →
        found.overwritten change.table change.commands = 0 := by
  constructor
  -- the balance has three entries, and two of them are said to make up the whole
  · intro hkept change found later hmakes
    obtain ⟨middle, hmiddle, -⟩ := hmakes.exists_run happly
    have hsize := TableState.size_columns_of_runs hmiddle
    have hexact := hkept change found later middle hmakes hmiddle
    omega
  · intro hnone change found later middle hmakes hmiddle
    have hsize := TableState.size_columns_of_runs hmiddle
    have hzero := hnone change found later hmakes
    omega

/-- An index is listed twice if the last update of its table leaves it so. Tables that are not
updated have the indexes they had, or were created with each of theirs once. -/
theorem indexes_kept_iff
    (hnodup : ∀ table state, before.tables.get? table = some state → state.indexes.Nodup)
    (happly : before.apply ⟨changes⟩ = .ok after) :
    (∀ table state, after.tables.get? table = some state → state.indexes.Nodup) ↔
      ∀ change found later, before.Makes changes change found later →
        change.table ∉ later.map (·.table) → change.LeavesRoom found := by
  constructor
  · intro hkept change found later hmakes hlast
    obtain ⟨middle, hmiddle, hthere⟩ := hmakes.exists_run happly
    exact (TableChange.nodup_indexes_iff hmiddle).1 (hkept _ _ (hthere hlast))
  · intro hroom table state hthere
    -- an index that is listed twice was brought about by the last change of its table
    rcases exists_last_change happly hthere with hbefore |
      ⟨done, change, later, reached, rfl, rfl, hlast, hreached, hresult⟩
    · exact hnodup table state hbefore
    · cases hfound : reached.tables.get? change.table with
      | none =>
        -- a table that is created starts without indexes
        rw [hfound, TableChange.result_none_eq_ok] at hresult
        rw [← hresult.2, TableState.nodup_indexes_addAll]
        exact List.nodup_nil
      | some found =>
        rw [hfound, TableChange.result_some_eq_ok] at hresult
        obtain ⟨hkind, middle, hmiddle, rfl⟩ := hresult
        have hmakes : before.Makes (done ++ change :: later) change found later :=
          ⟨hkind, done, reached, rfl, hreached, hfound⟩
        exact (TableChange.nodup_indexes_iff hmiddle).2 (hroom change found later hmakes hlast)

/-- **What renames destroy.** A change set that can be applied keeps all names exactly if no rename
of a column overwrites another one and the last update of every table leaves room for the index
names that it gives. -/
theorem keepsNames_iff
    (hnodup : ∀ table state, before.tables.get? table = some state → state.indexes.Nodup)
    (happly : before.apply ⟨changes⟩ = .ok after) :
    before.KeepsNames changes after ↔
      ∀ change found later, before.Makes changes change found later →
        found.overwritten change.table change.commands = 0 ∧
          (change.table ∉ later.map (·.table) → change.LeavesRoom found) := by
  have hcolumns := columns_kept_iff happly
  have hindexes := indexes_kept_iff hnodup happly
  constructor
  · intro hkeeps change found later hmakes
    exact ⟨hcolumns.1 hkeeps.columns change found later hmakes,
      hindexes.1 hkeeps.indexes change found later hmakes⟩
  · intro hall
    refine ⟨hindexes.2 ?_, hcolumns.2 ?_⟩
    · intro change found later hmakes
      exact (hall change found later hmakes).2
    · intro change found later hmakes
      exact (hall change found later hmakes).1

/-! ## An exchange of names, and two names that are taken -/

/-- In a change set of one change that one is the only update. This is how the two examples below
are evaluated. -/
theorem Makes.of_singleton {single change : TableChange} {found : TableState}
    {later : List TableChange} (h : before.Makes [single] change found later) :
    change = single ∧ later = [] ∧ before.tables.get? single.table = some found := by
  obtain ⟨done, reached, hsplit, hdone, hfound⟩ := h.exists_reached
  cases done with
  | nil =>
    obtain ⟨rfl, rfl⟩ := List.cons.inj hsplit
    obtain rfl : before = reached := Except.ok.inj hdone
    exact ⟨rfl, rfl, hfound⟩
  | cons first done =>
    have hlength := congrArg List.length hsplit
    simp at hlength

/-- Users with a column too many, and with two indexes. -/
def usersBefore : Snapshot where
  tables := OrderedMap.insert ∅ "users" {
    columns := ((OrderedMap.insert ∅ (some "first") {}).insert (some "last") {}).insert
      (some "nick") {}
    indexes := [some "by_first", some "by_last"] }

/-- No index of these users is listed twice, so that the theorem applies to them. -/
theorem nodup_usersBefore (table : String) (state : TableState)
    (h : usersBefore.tables.get? table = some state) : state.indexes.Nodup := by
  rw [usersBefore, OrderedMap.get?_insert] at h
  split at h
  · obtain rfl := Option.some.inj h
    decide
  · cases h

/-- Two columns exchange their names by way of a third one. An index gets the name of another one
that is deleted before. -/
def exchangeNames : TableChange where
  kind := .updateTable
  table := "users"
  commands := [
    { kind := .renameField, source := "first", target := some "spare" },
    { kind := .renameField, source := "last", target := some "first" },
    { kind := .renameField, source := "spare", target := some "last" },
    { kind := .deleteField, source := "nick" },
    { kind := .deleteIndex, source := "by_last" },
    { kind := .renameIndex, source := "by_first", target := some "by_last" }]

/-- Every new name is free when it is given, so nothing is lost. -/
theorem keepsNames_exchangeNames :
    (∀ table state, usersBefore.tables.get? table = some state → state.indexes.Nodup) ∧
      ∃ after, usersBefore.apply ⟨[exchangeNames]⟩ = .ok after ∧
        usersBefore.KeepsNames [exchangeNames] after := by
  obtain ⟨after, hafter⟩ : ∃ after, usersBefore.apply ⟨[exchangeNames]⟩ = .ok after := ⟨_, rfl⟩
  refine ⟨nodup_usersBefore, after, hafter, (keepsNames_iff nodup_usersBefore hafter).2 ?_⟩
  intro change found later hmakes
  obtain ⟨rfl, rfl, hfound⟩ := hmakes.of_singleton
  obtain rfl := Option.some.inj hfound
  refine ⟨by decide, fun _ name => ?_⟩
  by_cases hlast : name = some "by_last"
  · subst hlast
    decide
  · have hgiven : exchangeNames.commands.countP (·.givesIndex name) = 0 := by
      simp [exchangeNames, CommandChange.givesIndex, Ne.symm hlast]
    have hlisted := List.nodup_iff_count_le_one.1
      (nodup_usersBefore "users" _ rfl : ([some "by_first", some "by_last"] : List _).Nodup) name
    rw [hgiven]
    exact Nat.le_trans hlisted (Nat.le_add_left 1 _)

/-- A column and an index get the names of others that are still there. -/
def takenNames : TableChange where
  kind := .updateTable
  table := "users"
  commands := [
    { kind := .renameField, source := "nick", target := some "last" },
    { kind := .renameIndex, source := "by_first", target := some "by_last" }]

/-- The change set is not refused: one column of three is lost, and an index is listed twice. -/
theorem not_keepsNames_takenNames :
    (∀ table state, usersBefore.tables.get? table = some state → state.indexes.Nodup) ∧
      ∃ after, usersBefore.apply ⟨[takenNames]⟩ = .ok after ∧
        ((after.tables.get? "users").map (·.columns.keys) = some [some "first", some "last"]) ∧
        ((after.tables.get? "users").map (·.indexes) = some [some "by_last", some "by_last"]) ∧
          ¬ usersBefore.KeepsNames [takenNames] after := by
  obtain ⟨after, hafter⟩ : ∃ after, usersBefore.apply ⟨[takenNames]⟩ = .ok after := ⟨_, rfl⟩
  have hresult := hafter
  obtain rfl := Except.ok.inj hafter
  refine ⟨nodup_usersBefore, _, hresult, by decide, by decide, fun hkeeps => ?_⟩
  have hnodup := hkeeps.indexes "users" _ rfl
  revert hnodup
  decide

end Snapshot

end EntitySchema
