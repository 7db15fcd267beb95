/-
Commands that contradict declarations.

Three contradictions get past the checks of a table. A command may delete a declared field, it may
act on a declared unique constraint, and it may act on an index of a field that is left to a pending
rename. Because of the last one it can depend on the snapshot whether an entity is refused.

What is found against some snapshot is found when there is no table, and what is found against all
of them is found when every rename is pending. From this `reportsContradictions_iff` concludes of
which entities the contradictions are always reported.

The snapshots are quantified over by their two extremes. The more renames are pending, the more
fields are left to them, and the less is found; so it is enough to look at the snapshot in which
nothing is pending and at one in which all renames are. The first is the empty snapshot. For the
second a table is made up that has a column for every source of a command (`beforeCommands`), and it
is for this that insertions into a map are looked at here.

The last clause of the theorem is the exact condition for the checks to do what they are there for:
an entity with a contradiction is refused whatever the snapshot. The two entities at the end violate
it, in all three ways.
-/
import EntitySchema.Proofs.Migration.Entities

set_option autoImplicit false

namespace EntitySchema

open Outcome

/-- After insertions a key is found that was there before or that one of the entries has. Later
entries may replace the value under a key, but do not take it away. -/
theorem OrderedMap.isSome_get?_foldl_insert {κ α : Type} [DecidableEq κ] {entries : List (κ × α)}
    {map : OrderedMap κ α} {key : κ}
    (h : (map.get? key).isSome = true ∨ key ∈ entries.map (·.1)) :
    ((entries.foldl (fun map entry => map.insert entry.1 entry.2) map).get? key).isSome = true := by
  induction entries generalizing map with
  | nil => simpa using h
  | cons entry entries ih =>
    rw [List.map_cons, List.mem_cons, or_left_comm] at h
    refine ih ?_
    rw [get?_insert]
    split
    · exact .inl rfl
    · next hother => exact h.resolve_left hother

namespace Entity

/-- The table of an entity cannot be built because of a conflict. No other error can come up. -/
def ConflictsWith (entity : Entity) (snapshot : Snapshot) : Prop :=
  ∃ error, entity.toTable snapshot = .error error ∧ error.category? = some .alterCommandConflict

variable {entity : Entity} {snapshot : Snapshot}

/-- What is found against a snapshot: `Reports`, read as an equivalence. -/
theorem conflictsWith_iff :
    entity.ConflictsWith snapshot ↔ entity.IsRefused (entity.pendingCommands snapshot) :=
  (entity.reports_toTable snapshot).exists_error_iff

/-! ## All snapshots -/

/-- What is found against some snapshot is found when there is no table. -/
theorem exists_conflictsWith_iff :
    (∃ snapshot, entity.ConflictsWith snapshot) ↔ entity.IsRefused [] := by
  constructor
  · rintro ⟨snapshot, hconflict⟩
    exact (conflictsWith_iff.1 hconflict).of_fewer fun _ => isHidden_of_subset (List.nil_subset _)
  · intro hrefused
    -- without a table nothing is pending, so no field is left to a rename
    refine ⟨.empty, conflictsWith_iff.2 ?_⟩
    rwa [pendingCommands_of_get?_none rfl]

/-- A database in which the table of an entity has all columns that its commands are about. Of a
source that occurs twice there is one column. -/
def beforeCommands (entity : Entity) : Snapshot where
  tables := OrderedMap.insert ∅ entity.table
    { columns := OrderedMap.ofList (entity.commands.map fun command => (some command.source, {})) }

/-- All renames of fields are pending there, because their sources are columns of the table. -/
theorem isHidden_beforeCommands {field : Field} (h : isHidden entity.commands field = true) :
    isHidden (entity.pendingCommands entity.beforeCommands) field = true := by
  rw [isHidden, isRenamedTo, List.any_eq_true] at h ⊢
  obtain ⟨command, hcommand, hrenames⟩ := h
  refine ⟨command, mem_pendingCommands.2 ⟨hcommand, ?_⟩, hrenames⟩
  rw [Bool.and_eq_true, beq_iff_eq] at hrenames
  have hthere : entity.beforeCommands.tables.get? entity.table = some _ :=
    (OrderedMap.get?_insert _ _ _ _).trans (if_pos rfl)
  rw [isPending_of_column hthere (by rw [hrenames.1]; rfl), TableState.column?]
  exact OrderedMap.isSome_get?_foldl_insert
    (.inr (List.mem_map.2 ⟨_, List.mem_map_of_mem hcommand, rfl⟩))

/-- What is found against all snapshots is found when all renames are pending. -/
theorem forall_conflictsWith_iff :
    (∀ snapshot, entity.ConflictsWith snapshot) ↔ entity.IsRefused entity.commands := by
  constructor
  · intro hconflicts
    exact (conflictsWith_iff.1 (hconflicts entity.beforeCommands)).of_fewer fun _ =>
      isHidden_beforeCommands
  · intro hrefused snapshot
    exact conflictsWith_iff.2 (hrefused.of_fewer fun _ =>
      isHidden_of_subset (List.filter_subset_self _))

/-- **Which contradictions are reported.** The table of an entity is built, or there is a conflict.
There is one against a given snapshot exactly if a command is found at a field, against some
snapshot if one is found while nothing is pending, and against all of them if one is found while
every rename is pending. So contradictions are reported, whatever the snapshot, exactly if an entity
with contradictions is one in which something is found even then. -/
theorem reportsContradictions_iff (entity : Entity) :
    (∀ snapshot, (∃ table, entity.toTable snapshot = .ok table) ∨ entity.ConflictsWith snapshot) ∧
    (∀ snapshot, entity.ConflictsWith snapshot ↔
      entity.IsRefused (entity.pendingCommands snapshot)) ∧
    ((∃ snapshot, entity.ConflictsWith snapshot) ↔ entity.IsRefused []) ∧
    ((∀ snapshot, entity.ConflictsWith snapshot) ↔ entity.IsRefused entity.commands) ∧
    ((∀ snapshot, entity.ConflictsWith snapshot ↔ entity.Contradicts) ↔
      (entity.Contradicts → entity.IsRefused entity.commands)) := by
  refine ⟨fun snapshot => (entity.reports_toTable snapshot).ok_or_error,
    fun snapshot => conflictsWith_iff, exists_conflictsWith_iff, forall_conflictsWith_iff, ?_⟩
  rw [← forall_conflictsWith_iff]
  constructor
  · intro hreports hcontradicts snapshot
    exact (hreports snapshot).2 hcontradicts
  · intro hfound snapshot
    constructor
    · intro hconflict
      exact (conflictsWith_iff.1 hconflict).contradicts
    · intro hcontradicts
      exact hfound hcontradicts snapshot

end Entity

namespace Schema

/-! ## Contradictions that get past -/

/-- A document with three contradictions: an index is deleted that is declared on a field which used
to have another name, and so are a declared field and its unique constraint. -/
def partsText : String :=
  "Part1 (parts)\n  RENAME FIELD mame TO name\n  DELETE INDEX i\n  name: string Index(i)\n" ++
    "Code1 (codes)\n  DELETE FIELD code\n  DELETE INDEX u\n  code: string Unique(u)\n"

/-- The entity with the renamed field. -/
def part1 : Entity where
  shortName := "Part1"
  namespaceName := "\\App\\"
  table := "parts"
  index? := some 0
  fields := [
    { name := "id", type := "increments", owner? := some 0, nullable := some false,
      primaryKey := true, implied := true },
    { name := "name", type := "string", owner? := some 0, indexNames := ["i"] }]
  commands := [
    { kind := .renameField, source := "mame", target := some "name", owner? := some 0 },
    { kind := .deleteIndex, source := "i", owner? := some 0 }]

/-- The entity with the deleted field. -/
def code1 : Entity where
  shortName := "Code1"
  namespaceName := "\\App\\"
  table := "codes"
  index? := some 1
  fields := [
    { name := "id", type := "increments", owner? := some 1, nullable := some false,
      primaryKey := true, implied := true },
    { name := "code", type := "string", owner? := some 1, uniqueNames := ["u"] }]
  commands := [
    { kind := .deleteField, source := "code", owner? := some 1 },
    { kind := .deleteIndex, source := "u", owner? := some 1 }]

/-- What the document says. -/
def parts : Schema where
  entities := [part1, code1]
  namespaces := OrderedMap.insert ∅ "\\App\\" "app/"

/-- The lines of both entities can be read: a contradiction is no error of the document. -/
theorem parse_partsText : Schema.parse {} partsText = .ok parts :=
  eq_ok_of_toOption (by decide +kernel)

/-- A database in which the field still has its old name. -/
def partsBefore : Snapshot where
  tables := OrderedMap.insert ∅ "parts" { columns := OrderedMap.ofList [(some "mame", {})] }

/-- The deleted index is reported while there is no table, but not while the rename is pending. Of
the other two contradictions each is one, and neither is ever reported. -/
theorem not_reportsContradictions_parts :
    Schema.parse {} partsText = .ok parts ∧ parts.entities = [part1, code1] ∧
      (part1.Contradicts ∧ part1.ConflictsWith .empty ∧ ¬ part1.ConflictsWith partsBefore) ∧
      (∀ command ∈ code1.commands, ∃ field ∈ code1.fields, command.ActsOn field) ∧
        ∀ snapshot, ¬ code1.ConflictsWith snapshot := by
  refine ⟨parse_partsText, rfl, ⟨by decide, ?_, ?_⟩, by decide, ?_⟩
  · exact Entity.conflictsWith_iff.2 (by decide +kernel)
  · exact Entity.conflictsWith_iff.not.2 (by decide +kernel)
  · exact not_exists.1 (Entity.exists_conflictsWith_iff.not.2 (by decide))

end Schema

end EntitySchema
