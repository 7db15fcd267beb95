/-
Changes of different tables can be made in any order.

A change reads one table and writes that table, so a run over many tables is nothing but a run for
each of them on its own, the *history* of the table. `history_of_apply` and
`exists_apply_of_history` say this of a list of changes of any length, with failing changes
included: the changes can be made exactly if the history of every table can, and every table is then
what its own history makes of it.

`IsReordering` says that a list has the changes of another one in a different order, those of each
table among themselves in the order they had. It is stated by places, the way one would check it on
two lists. What the proofs need of it is that both lists have the same changes of each table
(`IsReordering.filter_eq`), hence the same histories.

Permutations of lists would not do for the statement: a change set may have the same change twice,
and a permutation does not say which of the two is which. With places one can ask that two changes
of a table keep their order, whether they are equal or not.

The results of two orders need not be equal as snapshots. A table that is created is put at the end,
so that the order of creations shows in the list of tables. What is the same are the entries, up to
their order, which is all that a comparison with a schema asks for.
-/
import EntitySchema.Proofs.Migration.Apply
import Mathlib.Data.List.FinRange
import Mathlib.Data.List.Sort
import Mathlib.Data.Fin.VecNotation

set_option autoImplicit false

namespace EntitySchema

open Outcome

namespace TableChange

/-! ## Another order of the same changes -/

/-- A list has the changes of another one at other places, and of two changes of one table the first
stays the first. -/
def IsReordering (changes others : List TableChange) : Prop :=
  ∃ place : Fin others.length ≃ Fin changes.length,
    (∀ i, others.get i = changes.get (place i)) ∧
      ∀ i j, i < j → (others.get i).table = (others.get j).table → place i < place j

/-- The changes that satisfy `p` are those at the places that do. This takes a filter to the places,
where a reordering can be followed. -/
theorem filter_eq_map_get (p : TableChange → Bool) (changes : List TableChange) :
    changes.filter p =
      ((List.finRange changes.length).filter fun i => p (changes.get i)).map changes.get := by
  have hall : changes = (List.finRange changes.length).map changes.get :=
    (List.map_get_finRange changes).symm
  conv_lhs => rw [hall]
  rw [List.filter_map]
  rfl

/-- **A reordering leaves the changes of each table as they are.** -/
theorem IsReordering.filter_eq {changes others : List TableChange}
    (h : IsReordering changes others) (table : String) :
    others.filter (·.table == table) = changes.filter (·.table == table) := by
  obtain ⟨place, hsame, horder⟩ := h
  -- the places of the table in the one list, taken over to the other list
  let moved := ((List.finRange others.length).filter fun i =>
    (others.get i).table == table).map place
  let there := (List.finRange changes.length).filter fun i => (changes.get i).table == table
  have hmoved : moved.Pairwise (· < ·) := by
    refine List.pairwise_map.2 ?_
    refine ((List.pairwise_lt_finRange _).filter _).imp_of_mem ?_
    intro i j hi hj hlt
    apply horder i j hlt
    rw [eq_of_beq (List.mem_filter.1 hi).2, eq_of_beq (List.mem_filter.1 hj).2]
  have hthere : there.Pairwise (· < ·) := (List.pairwise_lt_finRange _).filter _
  have hmem : ∀ i, i ∈ moved ↔ i ∈ there := by
    intro i
    obtain ⟨j, rfl⟩ := place.surjective i
    have htable : (others.get j).table = (changes.get (place j)).table :=
      congrArg (·.table) (hsame j)
    simp only [moved, there, List.mem_map_of_injective place.injective, List.mem_filter,
      List.mem_finRange, true_and, htable]
  have hperm : moved.Perm there :=
    (List.perm_ext_iff_of_nodup hmoved.nodup hthere.nodup).2 hmem
  -- both go upwards, so they are the same list of places
  have heq : moved = there :=
    hperm.eq_of_pairwise (fun i j _ _ hij hji => absurd hij (lt_asymm hji)) hmoved hthere
  rw [filter_eq_map_get, filter_eq_map_get]
  change _ = there.map changes.get
  rw [← heq, List.map_map]
  exact List.map_congr_left fun i _ => hsame i

/-! ## The history of one table -/

/-- What changes make of the one table that all of them are about. The table may be missing before
the first of them, and it is there after any. -/
def history (changes : List TableChange) (before : Option TableState) :
    Except Error (Option TableState) :=
  changes.foldlM (fun state change => do return some (← change.result state)) before

/-- A history goes on from what its first change has made of the table. -/
theorem history_cons_eq_ok {change : TableChange} {changes : List TableChange}
    {before after : Option TableState} :
    history (change :: changes) before = .ok after ↔
      ∃ state, change.result before = .ok state ∧ history changes (some state) = .ok after := by
  rw [history, List.foldlM_cons, bind_eq_ok]
  constructor
  · rintro ⟨next, hnext, hrest⟩
    obtain ⟨state, hstate, rfl⟩ := bind_pure_eq_ok.1 hnext
    exact ⟨state, hstate, hrest⟩
  · rintro ⟨state, hstate, hrest⟩
    exact ⟨some state, bind_pure_eq_ok.2 ⟨state, hstate, rfl⟩, hrest⟩

end TableChange

namespace Snapshot

open TableChange

variable {before after : Snapshot} {changes others : List TableChange}

/-- After a run every table is what its own history makes of it. In the induction a change extends
the history of its own table and is passed over in that of every other one. -/
theorem history_of_apply (h : before.apply ⟨changes⟩ = .ok after) (table : String) :
    history (changes.filter (·.table == table)) (before.tables.get? table) =
      .ok (after.tables.get? table) := by
  induction changes generalizing before with
  | nil =>
    obtain rfl : before = after := Except.ok.inj h
    rfl
  | cons change changes ih =>
    obtain ⟨state, hstate, hrest⟩ := apply_cons_eq_ok.1 h
    have hlater := ih hrest
    rw [OrderedMap.get?_insert] at hlater
    by_cases htable : table = change.table
    · subst htable
      rw [if_pos rfl] at hlater
      rw [List.filter_cons_of_pos (by simp)]
      exact history_cons_eq_ok.2 ⟨state, hstate, hlater⟩
    · rw [if_neg htable] at hlater
      rwa [List.filter_cons_of_neg (by simpa using Ne.symm htable)]

/-- A run succeeds if the history of every table does. The converse is part of `history_of_apply`,
so a run fails exactly if the history of some table does. -/
theorem exists_apply_of_history
    (h : ∀ table, ∃ state, history (changes.filter (·.table == table))
      (before.tables.get? table) = .ok state) :
    ∃ after, before.apply ⟨changes⟩ = .ok after := by
  induction changes generalizing before with
  | nil => exact ⟨before, rfl⟩
  | cons change changes ih =>
    -- the first change has a result, since the history of its table starts with it
    obtain ⟨last, hfirst⟩ := h change.table
    rw [List.filter_cons_of_pos (by simp)] at hfirst
    obtain ⟨state, hstate, hlater⟩ := history_cons_eq_ok.1 hfirst
    -- the histories of the other changes go on from what the first one has made
    let middle : Snapshot := ⟨before.tables.insert change.table state⟩
    have hrest : ∀ table, ∃ reached, history (changes.filter (·.table == table))
        (middle.tables.get? table) = .ok reached := by
      intro table
      simp only [middle, OrderedMap.get?_insert]
      by_cases htable : table = change.table
      · rw [if_pos htable, htable]
        exact ⟨last, hlater⟩
      · obtain ⟨reached, hreached⟩ := h table
        rw [List.filter_cons_of_neg (by simpa using Ne.symm htable)] at hreached
        rw [if_neg htable]
        exact ⟨reached, hreached⟩
    obtain ⟨after, hafter⟩ := ih hrest
    exact ⟨after, apply_cons_eq_ok.2 ⟨state, hstate, hafter⟩⟩

/-- If a list of changes can be made, so can every list with the same changes of each table. -/
theorem exists_apply_of_filter_eq
    (hsame : ∀ table, others.filter (·.table == table) = changes.filter (·.table == table))
    (h : before.apply ⟨changes⟩ = .ok after) : ∃ other, before.apply ⟨others⟩ = .ok other := by
  apply exists_apply_of_history
  intro table
  rw [hsame table]
  exact ⟨_, history_of_apply h table⟩

/-- **Changes of different tables commute.** If one of the two orders can be made so can the other,
and then both lead to the same tables, although they may list them in different orders. -/
theorem apply_reordered {changes others : List TableChange} (h : IsReordering changes others)
    (snapshot : Snapshot) :
    ((∃ after, snapshot.apply ⟨changes⟩ = .ok after) ↔
        ∃ after, snapshot.apply ⟨others⟩ = .ok after) ∧
      ∀ after other, snapshot.apply ⟨changes⟩ = .ok after →
        snapshot.apply ⟨others⟩ = .ok other → after.tables.entries.Perm other.tables.entries := by
  have hsame := h.filter_eq
  refine ⟨⟨?_, ?_⟩, ?_⟩
  · rintro ⟨after, hafter⟩
    exact exists_apply_of_filter_eq hsame hafter
  · rintro ⟨after, hafter⟩
    exact exists_apply_of_filter_eq (fun table => (hsame table).symm) hafter
  · intro after other hafter hother
    -- both results have, under every name, what the history of that table makes of it
    apply OrderedMap.perm_entries
    intro table
    have hfirst := history_of_apply hafter table
    rw [← hsame table, history_of_apply hother table] at hfirst
    exact (Except.ok.inj hfirst).symm

/-! ## Two tables that are created and updated -/

/-- A database with one table, which no change is about. -/
def notesOnly : Snapshot where
  tables := OrderedMap.insert ∅ "notes" { indexes := [some "by_day"] }

/-- Changes of two tables in turn. The second ones act on what the first ones have brought. -/
def inTurn : List TableChange := [
  { kind := .createTable, table := "items", indexes := [{ name := "i1", columns := ["mame"] }]
    columns := [{ name := "mame", type := "string", nullable := true }] },
  { kind := .createTable, table := "prices"
    columns := [{ name := "old", type := "integer", nullable := false }] },
  { kind := .updateTable, table := "items"
    commands := [{ kind := .renameField, source := "mame", target := some "name" },
      { kind := .renameIndex, source := "i1", target := some "i2" }] },
  { kind := .updateTable, table := "prices", commands := [{ kind := .deleteField, source := "old" }]
    columns := [{ name := "value", type := "integer", nullable := true }] }]

/-- The same changes, one table after the other. -/
def tableByTable : List TableChange := [inTurn[1], inTurn[3], inTurn[0], inTurn[2]]

/-- The place that each of them has in turn. -/
def placeInTurn : Fin 4 ≃ Fin 4 where
  toFun := ![1, 3, 0, 2]
  invFun := ![2, 0, 3, 1]
  left_inv := by unfold Function.LeftInverse; decide
  right_inv := by unfold Function.RightInverse Function.LeftInverse; decide

/-- The tables end up the same, although they are listed in another order. -/
theorem apply_reordered_tableByTable :
    IsReordering inTurn tableByTable ∧
      ∃ after other, notesOnly.apply ⟨inTurn⟩ = .ok after ∧
        notesOnly.apply ⟨tableByTable⟩ = .ok other ∧
          after.tables.keys = ["notes", "items", "prices"] ∧
            other.tables.keys = ["notes", "prices", "items"] ∧
              after.tables.entries.Perm other.tables.entries := by
  have hreordering : IsReordering inTurn tableByTable :=
    ⟨placeInTurn, by decide, by decide⟩
  obtain ⟨hiff, hperm⟩ := apply_reordered hreordering notesOnly
  obtain ⟨after, hafter⟩ : ∃ after, notesOnly.apply ⟨inTurn⟩ = .ok after := ⟨_, rfl⟩
  obtain ⟨other, hother⟩ := hiff.1 ⟨after, hafter⟩
  refine ⟨hreordering, after, other, hafter, hother, ?_, ?_, hperm after other hafter hother⟩
  · obtain rfl := Except.ok.inj hafter
    decide
  · obtain rfl := Except.ok.inj hother
    decide

end Snapshot

end EntitySchema
