/-
Changes of different tables do not see each other.

A change reads one table and writes that table. `TableChange.result` says what it writes, given what
it read, and `applyChange_eq` that making a change is nothing more. If the changes of a list are of
different tables, each of them therefore finds its table as it was before the first one. So all of
them can be made as soon as each could be made alone, and `IsAfter` says what comes of it.

Creations are what can go wrong even so. A change complains that a table exists only if it creates
one, so changes of different tables never do unless the table was there from the start; and
creations that can all be made are of different tables.

The file has one step and several runs. The step is `applyChange_eq_ok`, with the table that is
written in the result, and a run of changes is taken apart by `apply_cons_eq_ok` or gone through by
`foldlM_induction`. Which of the two is used depends on the statement: that all changes can be made
is proved along the list, as it is not known beforehand that a run exists; what holds after a run
that succeeded is an invariant of it.

Of the order of tables in a snapshot nothing is said here. Tables are asked for by name, and where
the order matters, when two runs are compared as a whole, it is treated in `Migration.Reordering`.
-/
import EntitySchema.Proofs.Outcome
import EntitySchema.Snapshot.Apply

set_option autoImplicit false

namespace EntitySchema

open Outcome

/-- The table after a change, given what was there before it. It does not depend on any other table,
which is the point of having it. -/
def TableChange.result (change : TableChange) (before : Option TableState) :
    Except Error TableState :=
  match change.kind, before with
  | .createTable, some _ => .error (.tableExists change.table)
  | .createTable, none => .ok (TableState.addAll {} change)
  | .updateTable, none => .error (.tableMissing change.table)
  | .updateTable, some state => do
    let state ← change.commands.foldlM (TableState.run change.table) state
    return state.addAll change

namespace TableChange

variable {change : TableChange} {state middle : TableState}

/-- A table that is created has what the change adds to an empty one. -/
theorem result_of_create (hkind : change.kind = .createTable) :
    change.result none = .ok (TableState.addAll {} change) := by
  simp only [result, hkind]

/-- An update has a result as soon as its commands can be run. -/
theorem result_of_update (hkind : change.kind = .updateTable)
    (hrun : change.commands.foldlM (TableState.run change.table) state = .ok middle) :
    change.result (some state) = .ok (middle.addAll change) := by
  simp only [result, hkind, hrun, ok_bind]
  rfl

/-- A change of a table that does not exist has a result if it creates the table. Commands are not
run then. -/
theorem result_none_eq_ok :
    change.result none = .ok state ↔
      change.kind = .createTable ∧ TableState.addAll {} change = state := by
  cases hkind : change.kind with
  | createTable => simp [result, hkind]
  | updateTable => simp [result, hkind]

/-- A change of a table that exists has a result if it is an update whose commands can be run. What
is added afterwards cannot fail. -/
theorem result_some_eq_ok {before after : TableState} :
    change.result (some before) = .ok after ↔ change.kind = .updateTable ∧
      ∃ middle, change.commands.foldlM (TableState.run change.table) before = .ok middle ∧
        middle.addAll change = after := by
  cases hkind : change.kind with
  | createTable =>
    simp only [result, hkind, reduceCtorEq, false_and]
  | updateTable =>
    simp only [result, hkind, bind_pure_eq_ok, true_and]

end TableChange

namespace Snapshot

/-- What changes of different tables make of a snapshot: the table of each change is its result on
what was there before all of them, and the other tables are as they were. -/
structure IsAfter (changes : List TableChange) (before after : Snapshot) : Prop where
  changed : ∀ change ∈ changes, ∃ state,
    change.result (before.tables.get? change.table) = .ok state ∧
      after.tables.get? change.table = some state
  kept : ∀ table, table ∉ changes.map (·.table) →
    after.tables.get? table = before.tables.get? table

variable {before after : Snapshot} {changes : List TableChange}

/-- A change replaces one table by its result. -/
theorem applyChange_eq (snapshot : Snapshot) (change : TableChange) :
    snapshot.applyChange change = (do
      let state ← change.result (snapshot.tables.get? change.table)
      return { tables := snapshot.tables.insert change.table state }) := by
  cases hkind : change.kind with
  | createTable =>
    cases hthere : snapshot.tables.get? change.table with
    | none => simp only [applyChange, TableChange.result, hkind, hthere, ok_bind]; rfl
    | some state => simp only [applyChange, TableChange.result, hkind, hthere, error_bind]
  | updateTable =>
    cases hthere : snapshot.tables.get? change.table with
    | none => simp only [applyChange, TableChange.result, hkind, hthere, error_bind]
    | some state =>
      simp only [applyChange, TableChange.result, hkind, hthere, bind_assoc, pure_bind]

/-- The same for a change that could be made. Proofs about one change begin here. -/
theorem applyChange_eq_ok {snapshot : Snapshot} {change : TableChange} :
    snapshot.applyChange change = .ok after ↔ ∃ state,
      change.result (snapshot.tables.get? change.table) = .ok state ∧
        ⟨snapshot.tables.insert change.table state⟩ = after := by
  rw [applyChange_eq, bind_pure_eq_ok]

/-- A change has no say about other tables. It need not be asked what kind of change it is. -/
theorem get?_of_applyChange {change : TableChange} {table : String}
    (h : before.applyChange change = .ok after) (htable : table ≠ change.table) :
    after.tables.get? table = before.tables.get? table := by
  obtain ⟨state, -, rfl⟩ := applyChange_eq_ok.1 h
  rw [OrderedMap.get?_insert, if_neg htable]

/-- A list of changes is made by making the first one, and then the others. -/
theorem apply_cons_eq_ok {change : TableChange} :
    before.apply ⟨change :: changes⟩ = .ok after ↔ ∃ state,
      change.result (before.tables.get? change.table) = .ok state ∧
        apply ⟨before.tables.insert change.table state⟩ ⟨changes⟩ = .ok after := by
  change (change :: changes).foldlM applyChange before = .ok after ↔ _
  rw [List.foldlM_cons, bind_eq_ok]
  constructor
  · rintro ⟨middle, hchange, hrest⟩
    obtain ⟨state, hstate, rfl⟩ := applyChange_eq_ok.1 hchange
    exact ⟨state, hstate, hrest⟩
  · rintro ⟨state, hstate, hrest⟩
    exact ⟨_, applyChange_eq_ok.2 ⟨state, hstate, rfl⟩, hrest⟩

/-- Two lists of changes are made by making the one, and then the other. -/
theorem apply_append_eq_ok {more : List TableChange} :
    before.apply ⟨changes ++ more⟩ = .ok after ↔
      ∃ middle, before.apply ⟨changes⟩ = .ok middle ∧ middle.apply ⟨more⟩ = .ok after := by
  change (changes ++ more).foldlM applyChange before = .ok after ↔ _
  rw [List.foldlM_append, bind_eq_ok]
  rfl

/-- Changes of other tables leave a table as it is, however many they are. -/
theorem get?_of_apply {table : String} (h : before.apply ⟨changes⟩ = .ok after)
    (htable : table ∉ changes.map (·.table)) :
    after.tables.get? table = before.tables.get? table := by
  refine foldlM_induction (P := fun reached : Snapshot =>
    reached.tables.get? table = before.tables.get? table) rfl ?_ h
  intro reached change next hchange hreached hnext
  rw [get?_of_applyChange hnext, hreached]
  rintro rfl
  exact htable (List.mem_map_of_mem hchange)

/-- After a change the tables are there that were there before, and that of the change. -/
theorem hasTable_of_applyChange {change : TableChange} {table : String}
    (h : before.applyChange change = .ok after) :
    after.hasTable table = true ↔ table = change.table ∨ before.hasTable table = true := by
  obtain ⟨state, -, rfl⟩ := applyChange_eq_ok.1 h
  rw [hasTable, hasTable, OrderedMap.contains, OrderedMap.contains, OrderedMap.get?_insert]
  by_cases htable : table = change.table
  · simp [htable]
  · simp [htable]

/-- **Changes of different tables.** If each of them has a result on its own they can be made one
after the other. The induction is on the list, with the snapshot left open: after the first change
the others are made to another snapshot, in which they read what they would have read before. -/
theorem exists_apply (hnodup : (changes.map (·.table)).Nodup)
    (hresult : ∀ change ∈ changes, ∃ state,
      change.result (before.tables.get? change.table) = .ok state) :
    ∃ after, before.apply ⟨changes⟩ = .ok after ∧ IsAfter changes before after := by
  rw [show before.apply ⟨changes⟩ = changes.foldlM applyChange before from rfl]
  induction changes generalizing before with
  | nil => exact ⟨before, rfl, by simp, fun _ _ => rfl⟩
  | cons change changes ih =>
    rw [List.map_cons, List.nodup_cons] at hnodup
    obtain ⟨state, hstate⟩ := hresult change List.mem_cons_self
    have hmake : before.applyChange change =
        .ok { tables := before.tables.insert change.table state } := by
      rw [applyChange_eq, hstate]
      rfl
    -- the later changes read what they would have read before this one
    have hsame : ∀ other ∈ changes,
        (before.tables.insert change.table state).get? other.table =
          before.tables.get? other.table := by
      intro other hother
      rw [OrderedMap.get?_insert, if_neg]
      intro htable
      exact hnodup.1 (List.mem_map.2 ⟨other, hother, htable⟩)
    have hlater : ∀ other ∈ changes, ∃ made,
        other.result ((before.tables.insert change.table state).get? other.table) = .ok made := by
      intro other hother
      rw [hsame other hother]
      exact hresult other (List.mem_cons_of_mem _ hother)
    obtain ⟨after, hafter, hchanges⟩ :=
      @ih ⟨before.tables.insert change.table state⟩ hnodup.2 hlater
    refine ⟨after, ?_, ?_, ?_⟩
    · rw [List.foldlM_cons, hmake, ok_bind, hafter]
    · intro other hother
      rcases List.mem_cons.1 hother with rfl | hother
      · refine ⟨state, hstate, ?_⟩
        rw [hchanges.kept _ hnodup.1, OrderedMap.get?_insert, if_pos rfl]
      · obtain ⟨made, hmade, hthere⟩ := hchanges.changed other hother
        rw [hsame other hother] at hmade
        exact ⟨made, hmade, hthere⟩
    · intro table htable
      rw [List.map_cons, List.mem_cons, not_or] at htable
      rw [hchanges.kept table htable.2, OrderedMap.get?_insert, if_neg htable.1]

/-- No table is lost. There is no command that drops one. -/
theorem IsAfter.hasTable (h : IsAfter changes before after) {table : String}
    (htable : before.hasTable table = true ∨ table ∈ changes.map (·.table)) :
    after.hasTable table = true := by
  rw [Snapshot.hasTable, OrderedMap.contains]
  by_cases hmem : table ∈ changes.map (·.table)
  · obtain ⟨change, hchange, rfl⟩ := List.mem_map.1 hmem
    obtain ⟨state, -, hthere⟩ := h.changed change hchange
    rw [hthere]
    rfl
  · rw [h.kept table hmem]
    exact htable.resolve_right hmem

end Snapshot

/-! ## Tables that exist already -/

/-- A command never complains that a table exists. It complains, if at all, that something is
missing. -/
theorem TableState.run_ne_tableExists {name table : String} {state : TableState}
    {command : CommandChange} : run name state command ≠ .error (.tableExists table) := by
  intro h
  rw [run] at h
  split at h <;> split at h <;> cases h

/-- What complains that a table exists creates one that does. -/
theorem TableChange.create_of_result_eq_tableExists {change : TableChange}
    {before : Option TableState} {table : String}
    (h : change.result before = .error (.tableExists table)) :
    change.kind = .createTable ∧ before ≠ none := by
  cases hkind : change.kind with
  | createTable =>
    refine ⟨rfl, ?_⟩
    rintro rfl
    simp only [result, hkind] at h
    cases h
  | updateTable =>
    exfalso
    cases before with
    | none =>
      simp only [result, hkind] at h
      cases h
    | some state =>
      simp only [result, hkind] at h
      cases hrun : change.commands.foldlM (TableState.run change.table) state with
      | ok middle =>
        rw [hrun] at h
        cases h
      | error error =>
        rw [hrun, error_bind] at h
        obtain rfl := Except.error.inj h
        obtain ⟨-, command, -, reached, -, -, hcommand⟩ := exists_split_of_foldlM_error hrun
        exact TableState.run_ne_tableExists hcommand

namespace Snapshot

variable {before after : Snapshot} {changes : List TableChange}

/-- Changes of different tables never create one that exists, unless it did before the first of
them. If such an error came up, it would come from one change, and the changes before that one were
of other tables. -/
theorem apply_ne_tableExists (hnodup : (changes.map (·.table)).Nodup)
    (hcreate : ∀ change ∈ changes, change.kind = .createTable →
      before.tables.get? change.table = none) (table : String) :
    before.apply ⟨changes⟩ ≠ .error (.tableExists table) := by
  intro h
  obtain ⟨done, change, rest, reached, rfl, hdone, hchange⟩ := exists_split_of_foldlM_error h
  -- the changes before this one were of other tables
  have hothers : change.table ∉ done.map (·.table) := by
    rw [List.map_append, List.map_cons, List.nodup_append] at hnodup
    intro hmem
    exact hnodup.2.2 _ hmem _ List.mem_cons_self rfl
  have hsame : reached.tables.get? change.table = before.tables.get? change.table := by
    refine foldlM_induction (P := fun state : Snapshot =>
      state.tables.get? change.table = before.tables.get? change.table) rfl ?_ hdone
    intro state other next hother hstate hnext
    rw [get?_of_applyChange hnext ?_, hstate]
    intro htable
    exact hothers (List.mem_map.2 ⟨other, hother, htable.symm⟩)
  rw [applyChange_eq] at hchange
  cases hresult : change.result (reached.tables.get? change.table) with
  | ok state =>
    rw [hresult] at hchange
    cases hchange
  | error error =>
    rw [hresult, error_bind] at hchange
    obtain rfl := Except.error.inj hchange
    obtain ⟨hkind, hthere⟩ := TableChange.create_of_result_eq_tableExists hresult
    rw [hsame, hcreate change (by simp) hkind] at hthere
    exact hthere rfl

/-- Tables that are all created are different, and none of them was there. This is the converse: a
second creation of one table would fail. -/
theorem nodup_of_creates (hcreate : ∀ change ∈ changes, change.kind = .createTable)
    (h : changes.foldlM applyChange before = .ok after) :
    (changes.map (·.table)).Nodup ∧
      ∀ change ∈ changes, before.hasTable change.table = false := by
  induction changes generalizing before with
  | nil => simp
  | cons change changes ih =>
    rw [List.foldlM_cons, bind_eq_ok] at h
    obtain ⟨middle, hmiddle, hrest⟩ := h
    obtain ⟨hnodup, hnew⟩ :=
      ih (fun other hother => hcreate other (List.mem_cons_of_mem _ hother)) hrest
    have hfirst : before.hasTable change.table = false := by
      obtain ⟨state, hstate, -⟩ := applyChange_eq_ok.1 hmiddle
      cases hthere : before.tables.get? change.table with
      | none => rw [hasTable, OrderedMap.contains, hthere]; rfl
      | some old =>
        rw [hthere, TableChange.result_some_eq_ok, hcreate change List.mem_cons_self] at hstate
        cases hstate.1
    constructor
    · rw [List.map_cons, List.nodup_cons]
      refine ⟨fun hmem => ?_, hnodup⟩
      obtain ⟨other, hother, htable⟩ := List.mem_map.1 hmem
      have hthere : middle.hasTable other.table = true :=
        (hasTable_of_applyChange hmiddle).2 (.inl htable)
      rw [hnew other hother] at hthere
      cases hthere
    · intro other hother
      rcases List.mem_cons.1 hother with rfl | hother
      · exact hfirst
      · have hlater := hnew other hother
        rw [Bool.eq_false_iff] at hlater ⊢
        exact fun hthere => hlater ((hasTable_of_applyChange hmiddle).2 (.inr hthere))

end Snapshot

end EntitySchema
