/-
Tables and changes agree with their plain reading.

To compare a schema with a snapshot every relation is asked for its kind and then every method for
its pivot table, all of one memory. That is a long run of questions whose later ones are answered
out of what the earlier ones have left. Each of them agrees with its plain reading, and a traversal
of actions that agree agrees, so that the tables of a schema and the changes that come of them are
those of the plain reading.

The traversals are two inductions over a list, `Agrees.mapM` and `Agrees.forM`. They say nothing
about the order of the items: each item is asked of some true memory, and which one it is does not
show. On the rules `agrees_changesFrom` follows the text of `changesFrom`: the relations are
checked, the changes of the entities come without any lookup, and those of the pivot tables follow.

The theory of migration is about the plain reading, in which a comparison is a function of the
schema and the snapshot and nothing else. The lemmas at the end take an outcome of the tracked one
there: a result about a comparison is stated of `Tracked.evaluate (changesFrom schema snapshot)`,
which is what is run, and its proof starts by rewriting with `evaluate_changesFrom`. All of it holds
of placed schemas, which those of documents are.
-/
import EntitySchema.ChangeSet.Between
import EntitySchema.Proofs.Tracking.Relations

set_option autoImplicit false

namespace EntitySchema

open Tracked (Agrees)

/-! ## Traversals -/

namespace Tracked.Agrees

variable {schema : Schema} {bound : Nat} {α β : Type} {items : List α}

/-- The items of a traversal are met with different memories. All of these are true, so it is enough
that each item agrees. The traversal ends at the first error, in both readings at the same item. -/
theorem mapM {action : α → Tracked β} {plain : α → Except Error β}
    (h : ∀ item ∈ items, Agrees schema bound (action item) (plain item)) :
    Agrees schema bound (items.mapM action) (items.mapM plain) := by
  induction items with
  | nil => exact pure []
  | cons item items ih =>
    rw [List.mapM_cons, List.mapM_cons]
    refine (h item List.mem_cons_self).bind fun _ _ => ?_
    exact (ih fun other hother => h other (List.mem_cons_of_mem _ hother)).bind fun _ _ => pure _

/-- The same for a traversal that is made for its errors alone. -/
theorem forM {action : α → Tracked Unit} {plain : α → Except Error Unit}
    (h : ∀ item ∈ items, Agrees schema bound (action item) (plain item)) :
    Agrees schema bound (items.forM action) (items.forM plain) := by
  induction items with
  | nil => exact pure ()
  | cons item items ih =>
    refine (h item List.mem_cons_self).bind fun _ _ => ?_
    exact ih fun other hother => h other (List.mem_cons_of_mem _ hother)

end Tracked.Agrees

variable {schema : Schema} (hplaced : schema.IsPlaced) {bound : Nat} (hbound : 3 ≤ bound)

include hplaced hbound

/-! ## Pivot tables -/

/-- The pivot table that a method implies. Four questions are asked in turn, the kind first, and the
last two only if no entity is stored in the table. -/
theorem agrees_impliedPivotTable {method : Method} (hmethod : method ∈ schema.methods) :
    Agrees schema bound (impliedPivotTable schema method) (impliedPivotTable schema method) := by
  have hone : 1 ≤ bound := Nat.le_trans (by decide) hbound
  unfold impliedPivotTable
  refine (Relation.agrees_isManyToMany hplaced hmethod hbound).bind fun joins _ => ?_
  split
  · exact Agrees.pure _
  · refine (Relation.agrees_isFirstSide hplaced hmethod hone).bind fun first _ => ?_
    split
    · exact Agrees.pure _
    · refine (Relation.agrees_pivotEntityOf hplaced hmethod hone).bind fun entity _ => ?_
      split
      · exact Agrees.pure _
      · refine (Relation.agrees_pivotTableOf hplaced hmethod hone).bind fun name _ => ?_
        exact (Relation.agrees_pivotColumns hplaced hmethod hone).bind fun _ _ => Agrees.pure _

/-- The pivot tables that the methods of one entity imply. -/
theorem agrees_impliedPivotTables {entity : Entity} (hentity : entity ∈ schema.entities) :
    Agrees schema bound (impliedPivotTables schema entity) (impliedPivotTables schema entity) := by
  unfold impliedPivotTables
  refine (Agrees.mapM fun method hmethod => ?_).bind fun _ _ => Agrees.pure _
  exact agrees_impliedPivotTable hplaced hbound (Schema.mem_methods_of_mem hentity hmethod)

/-! ## Names of tables -/

/-- The names of all tables, each entity followed by the pivot tables that its methods imply. -/
theorem agrees_tableNames : Agrees schema bound (tableNames schema) (tableNames schema) := by
  unfold tableNames
  refine (Agrees.mapM fun entity hentity => ?_).bind fun _ _ => Agrees.pure _
  exact (agrees_impliedPivotTables hplaced hbound hentity).bind fun _ _ => Agrees.pure _

/-! ## Changes -/

/-- Every relation is asked for its kind, so that one that cannot be resolved is told before
anything is compared. -/
theorem agrees_checkRelations :
    Agrees schema bound (checkRelations schema) (checkRelations schema) := by
  unfold checkRelations
  refine Agrees.forM fun method hmethod => ?_
  exact (Relation.agrees_kind hplaced hmethod hbound).bind fun _ _ => Agrees.pure _

/-- The pivot tables that the snapshot has not got. The snapshot is only read. -/
theorem agrees_pivotChanges (snapshot : Snapshot) :
    Agrees schema bound (pivotChanges schema snapshot) (pivotChanges schema snapshot) := by
  unfold pivotChanges
  refine (Agrees.mapM fun entity hentity => ?_).bind fun _ _ => Agrees.pure _
  exact agrees_impliedPivotTables hplaced hbound hentity

/-- **Changes agree.** The kinds are remembered by the check, and the pivot tables are found out of
that memory; the plain reading computes them anew. -/
theorem agrees_changesFrom (snapshot : Snapshot) :
    Agrees schema bound (changesFrom schema snapshot) (changesFrom schema snapshot) := by
  unfold changesFrom
  refine (agrees_checkRelations hplaced hbound).bind fun _ _ => ?_
  refine (Agrees.lift _).bind fun ofEntities _ => ?_
  exact (agrees_pivotChanges hplaced hbound snapshot).bind fun _ _ => Agrees.pure _

/-! ## Outcomes -/

omit hbound

theorem evaluate_impliedPivotTable {method : Method} (hmethod : method ∈ schema.methods) :
    Tracked.evaluate (impliedPivotTable schema method) =
      impliedPivotTable (m := Except Error) schema method :=
  (agrees_impliedPivotTable hplaced (Nat.le_refl 3) hmethod).evaluate_eq

theorem evaluate_impliedPivotTables {entity : Entity} (hentity : entity ∈ schema.entities) :
    Tracked.evaluate (impliedPivotTables schema entity) =
      impliedPivotTables (m := Except Error) schema entity :=
  (agrees_impliedPivotTables hplaced (Nat.le_refl 3) hentity).evaluate_eq

/-- The names of the tables, as they are computed, are the plain ones. -/
theorem evaluate_tableNames :
    Tracked.evaluate (tableNames schema) = tableNames (m := Except Error) schema :=
  (agrees_tableNames hplaced (Nat.le_refl 3)).evaluate_eq

/-- What is computed with tracking is what the plain rules say, error or change set. The results
about migration are stated of the left side and proved of the right one. -/
theorem evaluate_changesFrom (snapshot : Snapshot) :
    Tracked.evaluate (changesFrom schema snapshot) =
      changesFrom (m := Except Error) schema snapshot :=
  (agrees_changesFrom hplaced (Nat.le_refl 3) snapshot).evaluate_eq

end EntitySchema
