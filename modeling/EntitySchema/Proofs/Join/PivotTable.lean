/-
The pivot table of a join.

A join of two conditions goes through a table that both of them are about. Whether two conditions
may stand together is a matter of counting (`IsShared`: one table is named twice), while the pivot
table is read off one fixed place, the right side of the first condition. The two agree only as far
as that place goes. A table that is named twice may be named by one condition alone, and it may
stand on the left of the first condition; both are accepted.

`pivotTable_isBetween_iff` says when the pivot table is the table between the two conditions:
exactly if what stands at that one place is named by the second condition. It also says what holds
of every join of two conditions, that there is exactly one shared table, and it takes the two
questions apart: whether that table stands between the conditions, and whether it is the one that is
taken for the pivot table.

The proofs count. A condition names a table at most twice, both conditions together name the shared
one exactly twice and any other at most once (`IsShared.eq_of_two_le`), and what is left is
arithmetic with numbers up to two.
-/
import EntitySchema.Proofs.Join.Grammar

set_option autoImplicit false

namespace EntitySchema

namespace JoinCondition

variable {condition first second : JoinCondition} {shared other table : String}

/-! ## How often a condition names a table -/

/-- A condition names two tables, its left one and its right one. -/
theorem mem_tables_iff :
    table ∈ condition.tables ↔ table = condition.leftTable ∨ table = condition.rightTable := by
  simp [tables]

/-- A condition between two tables names neither of them twice. -/
theorem count_tables_le_one (h : condition.leftTable ≠ condition.rightTable) (table : String) :
    condition.tables.count table ≤ 1 :=
  List.nodup_iff_count_le_one.1 (by simpa [tables] using h) table

/-- A condition of a table with itself names it twice. -/
theorem count_tables_of_eq (h : condition.leftTable = condition.rightTable) :
    condition.tables.count condition.leftTable = 2 := by
  simp [tables, ← h]

/-! ## The table that is named twice -/

/-- Whether a table stands between two conditions: each of them names it once. -/
def IsBetween (first second : JoinCondition) (table : String) : Prop :=
  first.tables.count table = 1 ∧ second.tables.count table = 1

instance (first second : JoinCondition) (table : String) :
    Decidable (IsBetween first second table) :=
  inferInstanceAs (Decidable (_ ∧ _))

/-- How often the shared table is named, counted condition by condition. -/
theorem IsShared.count_add_count (h : IsShared first second shared) :
    first.tables.count shared + second.tables.count shared = 2 := by
  rw [← List.count_append]
  exact h.twice

/-- What is named more than once is the shared table, since the others are named once. -/
theorem IsShared.eq_of_two_le (h : IsShared first second shared)
    (htwo : 2 ≤ first.tables.count table + second.tables.count table) : table = shared := by
  rw [← List.count_append] at htwo
  by_contra hne
  have hmem : table ∈ first.tables ++ second.tables := List.count_pos_iff.1 (by omega)
  have hone := h.others table hmem hne
  omega

/-- There is no other shared table: it would be named twice as well. -/
theorem IsShared.unique (h : IsShared first second shared) (hother : IsShared first second other) :
    other = shared :=
  h.eq_of_two_le (Nat.le_of_eq hother.count_add_count.symm)

/-- **The shared table stands between the conditions** unless one of them is about a single table,
which then is the shared one. A condition between two tables names the shared one at most once, so
each of the two has to name it. -/
theorem IsShared.isBetween_iff (h : IsShared first second shared) :
    IsBetween first second shared ↔
      first.leftTable ≠ first.rightTable ∧ second.leftTable ≠ second.rightTable := by
  have hsum := h.count_add_count
  constructor
  · rintro ⟨hfirst, hsecond⟩
    refine ⟨fun hsame => ?_, fun hsame => ?_⟩
    · have htwice := count_tables_of_eq hsame
      have hshared : first.leftTable = shared := h.eq_of_two_le (by omega)
      rw [hshared] at htwice
      omega
    · have htwice := count_tables_of_eq hsame
      have hshared : second.leftTable = shared := h.eq_of_two_le (by omega)
      rw [hshared] at htwice
      omega
  · rintro ⟨hfirst, hsecond⟩
    have hfirst := count_tables_le_one hfirst shared
    have hsecond := count_tables_le_one hsecond shared
    exact ⟨by omega, by omega⟩

/-- A table that both conditions name is the shared one, and stands between them. -/
theorem IsShared.eq_of_mem (h : IsShared first second shared) (hfirst : table ∈ first.tables)
    (hsecond : table ∈ second.tables) : table = shared ∧ IsBetween first second shared := by
  have hsum := h.count_add_count
  have hfirst := List.count_pos_iff.2 hfirst
  have hsecond := List.count_pos_iff.2 hsecond
  obtain rfl : table = shared := h.eq_of_two_le (by omega)
  exact ⟨rfl, by omega, by omega⟩

/-- **The right side of the first condition is the shared table** if it is named at one of the three
other places. A table at two places is the shared one, and the shared one is at two. -/
theorem IsShared.rightTable_eq_iff (h : IsShared first second shared) :
    first.rightTable = shared ↔ first.rightTable ∈ first.leftTable :: second.tables := by
  have hright : first.rightTable ∈ first.tables := mem_tables_iff.2 (.inr rfl)
  constructor
  · intro hshared
    rw [List.mem_cons, or_iff_not_imp_left]
    intro hne
    have hsum := h.count_add_count
    have hfirst := count_tables_le_one (Ne.symm hne) shared
    rw [hshared]
    exact List.count_pos_iff.1 (by omega)
  · intro hmem
    rcases List.mem_cons.1 hmem with hsame | hmem
    · have htwice := count_tables_of_eq hsame.symm
      rw [hsame]
      exact h.eq_of_two_le (by omega)
    · exact (h.eq_of_mem hright hmem).1

end JoinCondition

namespace Join

open JoinCondition

variable {raw : String} {join : Join} {second : JoinCondition}

/-- Two conditions that are read as one join share a table. -/
theorem exists_isShared (hparse : parse raw = .ok join) (hsecond : join.second = some second) :
    ∃ shared, IsShared join.first second shared := by
  cases parse_eq_ok_iff.1 hparse with
  | one => cases hsecond
  | two _ _ _ _ hshared =>
    obtain rfl := Option.some.inj hsecond
    exact ⟨_, hshared⟩

/-- **When the pivot table is the table between the conditions.** Whatever is read as a join of two
conditions names exactly one table twice. That table stands in both conditions unless one of them
is about a single table, and it is the pivot table if the right side of the first condition is named
again. Both hold exactly if it is named again by the second condition. -/
theorem pivotTable_isBetween_iff (hparse : parse raw = .ok join)
    (hsecond : join.second = some second) :
    ∃ shared, (∀ table, IsShared join.first second table ↔ table = shared) ∧
      (IsBetween join.first second shared ↔
        join.first.leftTable ≠ join.first.rightTable ∧ second.leftTable ≠ second.rightTable) ∧
      (join.pivotTable = shared ↔ join.pivotTable ∈ join.first.leftTable :: second.tables) ∧
      (IsBetween join.first second shared ∧ join.pivotTable = shared ↔
        join.pivotTable ∈ second.tables) := by
  obtain ⟨shared, hshared⟩ := exists_isShared hparse hsecond
  refine ⟨shared, fun table => ⟨hshared.unique, ?_⟩, hshared.isBetween_iff,
    hshared.rightTable_eq_iff, ?_, ?_⟩
  · rintro rfl
    exact hshared
  · rintro ⟨⟨-, hbetween⟩, hpivot⟩
    rw [hpivot]
    exact List.count_pos_iff.1 (by omega)
  · intro hmem
    exact (hshared.eq_of_mem (mem_tables_iff.2 (.inr rfl)) hmem).symm

/-- The join of two entities through a pivot table, with the pivot table in the middle. -/
def inMiddle : Join where
  raw := "User.id = role_user.user_id AND role_user.role_id = Role.id"
  first := ⟨"User", "id", "role_user", "user_id"⟩
  second := some ⟨"role_user", "role_id", "Role", "id"⟩

/-- In the usual spelling the pivot table is in the middle, and all is as it should be. -/
theorem pivotTable_isBetween_inMiddle :
    parse inMiddle.raw = .ok inMiddle ∧ inMiddle.pivotTable = "role_user" ∧
      IsShared inMiddle.first ⟨"role_user", "role_id", "Role", "id"⟩ inMiddle.pivotTable ∧
      IsBetween inMiddle.first ⟨"role_user", "role_id", "Role", "id"⟩ inMiddle.pivotTable := by
  have hparse : parse inMiddle.raw = .ok inMiddle := by rfl
  obtain ⟨shared, hshared, -, -, hboth⟩ := pivotTable_isBetween_iff hparse rfl
  obtain ⟨hbetween, hpivot⟩ := hboth.2 (by decide)
  subst hpivot
  exact ⟨hparse, rfl, (hshared _).2 rfl, hbetween⟩

/-- The same join with its first condition turned around. -/
def turned : Join where
  raw := "role_user.user_id = User.id AND role_user.role_id = Role.id"
  first := ⟨"role_user", "user_id", "User", "id"⟩
  second := some ⟨"role_user", "role_id", "Role", "id"⟩

/-- A join with a condition about a single table. -/
def ofItself : Join where
  raw := "A.x = A.y AND B.z = C.w"
  first := ⟨"A", "x", "A", "y"⟩
  second := some ⟨"B", "z", "C", "w"⟩

/-- **The pivot table need not stand between the conditions.** Turned around, the join is read with
an entity for its pivot table, and a table that is named twice by one condition is accepted. The
turned join says the same of the tables as the one before. -/
theorem not_pivotTable_isBetween_turned :
    (parse turned.raw = .ok turned ∧
      IsShared turned.first ⟨"role_user", "role_id", "Role", "id"⟩ "role_user" ∧
        IsBetween turned.first ⟨"role_user", "role_id", "Role", "id"⟩ "role_user" ∧
          turned.pivotTable = "User") ∧
      (parse ofItself.raw = .ok ofItself ∧ IsShared ofItself.first ⟨"B", "z", "C", "w"⟩ "A" ∧
        ¬ IsBetween ofItself.first ⟨"B", "z", "C", "w"⟩ "A") := by
  have hturned : IsShared turned.first ⟨"role_user", "role_id", "Role", "id"⟩ "role_user" :=
    ⟨by decide, by decide⟩
  have hofItself : IsShared ofItself.first ⟨"B", "z", "C", "w"⟩ "A" := ⟨by decide, by decide⟩
  exact ⟨⟨by rfl, hturned, by decide, rfl⟩, by rfl, hofItself, by decide⟩

end Join

end EntitySchema
