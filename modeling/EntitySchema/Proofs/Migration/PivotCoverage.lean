/-
Which pivot tables are created.

A many-to-many goes through a pivot table, but it does not follow that the table is created. The
table may be that of an entity. Otherwise it has to be asked for, and only a method on the first
side asks: one whose entity comes strictly before the entity of its inverse by short name. Where
neither side is first, because a relation leads back to its own entity or to one of the same short
name in another namespace, nobody asks.

`pivotTable_mem_tableNames_iff` says exactly when the table of a many-to-many is among the names of
all tables, and that two situations are safe: the method is on the first side itself, or it and its
inverse are opposite sides of one relation, share its join, and belong to differently named
entities. The second comes of the first by exchanging the sides.

The condition is `Schema.Creates`, and it is about the name of the table alone. So it also covers
the case in which some other method, of another relation, happens to own a pivot table of this name:
then the table is there, if perhaps with other columns.

In the safe situations no table has to be assumed to be free. If an entity is stored in it, the
table is that of the entity, and otherwise the method owns it; which of the two it is was found out
when the method was asked. That the method could be asked follows from the names having been listed.

The document at the end is one in which a relation of an entity to itself goes through a table that
nobody creates.
-/
import EntitySchema.Proofs.Migration.PivotTables
import EntitySchema.Proofs.Relation.ManyToMany

set_option autoImplicit false

namespace EntitySchema

open Outcome
open EntitySchema.Relation

namespace Schema

variable {schema : Schema} {method other : Method} {names : List String} {name : String}

/-- A table with this name is created: it is that of an entity, or a pivot table that some method
owns. -/
def Creates (schema : Schema) (name : String) : Prop :=
  (∃ entity ∈ schema.entities, entity.table = name) ∨ ∃ method, schema.OwnsPivot method name

/-- The names of all tables are the names of those that are created. -/
theorem mem_tableNames_iff (h : tableNames (m := Except Error) schema = .ok names) :
    name ∈ names ↔ schema.Creates name := by
  obtain ⟨hanswers, hperm⟩ := perm_of_tableNames h
  rw [← hperm.mem_iff, List.mem_append, List.mem_map, List.mem_filterMap]
  refine or_congr Iff.rfl ?_
  constructor
  · rintro ⟨method, hmem, hsome⟩
    exact ⟨method, (pivotName?_eq_some_iff hanswers hmem).1 hsome⟩
  · rintro ⟨method, howns⟩
    exact ⟨method, howns.mem, (pivotName?_eq_some_iff hanswers howns.mem).2 howns⟩

/-- A many-to-many on the first side has its table: either an entity is stored there, or the method
owns it. Names that could be listed mean that each method was asked and answered. -/
theorem exists_creates_of_firstSide (h : tableNames (m := Except Error) schema = .ok names)
    (hmethod : method ∈ schema.methods)
    (hkind : Relation.kind (m := Except Error) schema method = .ok .belongsToMany)
    (hfirst : isFirstSide (m := Except Error) schema method = .ok true) :
    ∃ table, pivotTableOf (m := Except Error) schema method = .ok table ∧ schema.Creates table := by
  -- the names could be listed, so the method could be asked, and it was asked for its pivot table
  obtain ⟨asked, hasked⟩ := (perm_of_tableNames h).1 method hmethod
  unfold impliedPivotTable at hasked
  rw [isManyToMany_eq hkind, ok_bind, hfirst, ok_bind] at hasked
  obtain ⟨entity, hentity, -⟩ := bind_eq_ok.1 hasked
  obtain ⟨table, htable, hstored⟩ := bind_pure_eq_ok.1 hentity
  refine ⟨table, htable, ?_⟩
  cases entity with
  | some stored =>
    have hsame := List.find?_some hstored
    exact .inl ⟨stored, List.mem_of_find?_eq_some hstored, beq_iff_eq.1 hsame⟩
  | none =>
    exact .inr ⟨method, hmethod, hkind, hfirst, htable, entityStoredIn?_eq_none_iff.1 hstored⟩

/-- If two opposite sides share a join and belong to differently named entities, one of them is the
first, so that the table of both is created. -/
theorem exists_creates_of_sharesJoin (h : tableNames (m := Except Error) schema = .ok names)
    {join : Option Join} (hshares : SharesJoin schema method other join)
    (hkind : Relation.kind (m := Except Error) schema method = .ok .belongsToMany)
    (hkindOther : Relation.kind (m := Except Error) schema other = .ok .belongsToMany)
    (howners : (schema.owner method).shortName ≠ (schema.owner other).shortName) :
    ∃ table, pivotTableOf (m := Except Error) schema method = .ok table ∧ schema.Creates table := by
  rcases lt_or_gt_of_ne howners with hlt | hgt
  · refine exists_creates_of_firstSide h hshares.mem hkind ?_
    rw [isFirstSide_eq hshares.inverse_eq, decide_eq_true hlt]
  · -- the table of the other side is the table of the method
    rw [← hshares.pivotTableOf_other]
    refine exists_creates_of_firstSide h hshares.mem_other hkindOther ?_
    rw [isFirstSide_eq hshares.inverse_other, decide_eq_true hgt]

/-- **When the pivot table of a many-to-many is created.** It is among the names of all tables
exactly when it is the table of an entity or some method owns it. This is so for a method on the
first side, and for a method whose inverse leads back to it, belongs to a differently named entity,
is itself neither polymorphic nor returns its own entity, and does not have a second join. -/
theorem pivotTable_mem_tableNames_iff {config : Config} {text : String}
    (hparse : Schema.parse config text = .ok schema)
    (hnames : Tracked.evaluate (tableNames schema) = .ok names)
    (hmethod : method ∈ schema.methods)
    (hkind : Tracked.evaluate (Relation.kind schema method) = .ok .belongsToMany) :
    ((∃ table ∈ names, Tracked.evaluate (pivotTableOf schema method) = .ok table) ↔
      ∃ table, Tracked.evaluate (pivotTableOf schema method) = .ok table ∧ schema.Creates table) ∧
    (Tracked.evaluate (isFirstSide schema method) = .ok true →
      ∃ table ∈ names, Tracked.evaluate (pivotTableOf schema method) = .ok table) ∧
    ∀ other ∈ schema.methods, Tracked.evaluate (inverse schema method) = .ok other →
      Tracked.evaluate (inverse schema other) = .ok method →
      (schema.owner method).shortName ≠ (schema.owner other).shortName →
      other.isPolymorphic = false → returnsOwnEntity schema other = false →
      method.join = none ∨ other.join = none →
        ∃ table ∈ names, Tracked.evaluate (pivotTableOf schema method) = .ok table := by
  have hplaced : schema.IsPlaced := isPlaced_of_parse hparse
  rw [evaluate_tableNames hplaced] at hnames
  rw [evaluate_kind hplaced hmethod] at hkind
  rw [evaluate_pivotTableOf hplaced hmethod, evaluate_isFirstSide hplaced hmethod]
  have hlisted : (∃ table ∈ names,
      pivotTableOf (m := Except Error) schema method = .ok table) ↔
      ∃ table, pivotTableOf (m := Except Error) schema method = .ok table ∧
        schema.Creates table := by
    refine exists_congr fun table => ?_
    rw [mem_tableNames_iff hnames, and_comm]
  refine ⟨hlisted, fun hfirst => ?_, ?_⟩
  · exact hlisted.2 (exists_creates_of_firstSide hnames hmethod hkind hfirst)
  · intro other hother hinverse hback howners hpolyOther hownOther hsingle
    have hshares := (Opposite.of_evaluate hplaced hmethod hother hinverse hback).sharesJoin hsingle
    have hkindOther := hshares.kind_other hkind hpolyOther hownOther
    exact hlisted.2 (exists_creates_of_sharesJoin hnames hshares hkind hkindOther howners)

/-- In the example of users and roles one side is the first, and the pivot table is created. -/
theorem pivotTable_mem_tableNames_roles :
    Schema.parse {} joinedRolesText = .ok (rolesWith joinedRoles1) ∧
      ∃ table ∈ ["user1", "role1", "role1_user1"],
        Tracked.evaluate (pivotTableOf (rolesWith joinedRoles1) joinedRoles1) = .ok table := by
  have hnames : Tracked.evaluate (tableNames (rolesWith joinedRoles1)) =
      .ok ["user1", "role1", "role1_user1"] := eq_ok_of_toOption (by decide +kernel)
  have hroles : joinedRoles1 ∈ (rolesWith joinedRoles1).methods := by decide
  obtain ⟨-, -, hopposite⟩ := pivotTable_mem_tableNames_iff parse_joinedRolesText hnames hroles
    (eq_ok_of_toOption (by decide +kernel))
  exact ⟨parse_joinedRolesText, hopposite users1 (by decide) (eq_ok_of_toOption (by decide +kernel))
    (eq_ok_of_toOption (by decide +kernel)) (by decide) (by decide +kernel) (by decide +kernel)
    (.inr rfl)⟩

/-! ## A relation of an entity to itself -/

/-- A document in which an entity is related to itself through a pivot table. -/
def friendsText : String :=
  "User1 (users)\n  friends1(): User1[] <- User1.friends1(), " ++
    "Join(User1.id = friend1.user_id AND friend1.friend_id = users.id)\n"

/-- The only method, which is its own inverse. -/
def friends1 : Method where
  name := "friends1"
  owner? := some 0
  position := 0
  declaredType := some "User1[]"
  inverseOf := some "User1.friends1()"
  join := some {
    raw := "User1.id = friend1.user_id AND friend1.friend_id = users.id"
    first := ⟨"User1", "id", "friend1", "user_id"⟩
    second := some ⟨"friend1", "friend_id", "users", "id"⟩ }

/-- What the document says. -/
def friends : Schema where
  entities := [
    { shortName := "User1", namespaceName := "\\App\\", table := "users", index? := some 0
      fields := [
        { name := "id", type := "increments", owner? := some 0, nullable := some false,
          primaryKey := true, implied := true }]
      methods := [friends1] }]
  namespaces := OrderedMap.insert ∅ "\\App\\" "app/"

/-- The join names both columns, and the second condition names the entity by its table. -/
theorem parse_friendsText : Schema.parse {} friendsText = .ok friends :=
  eq_ok_of_toOption (by decide +kernel)

/-- The relation is a many-to-many and goes through a pivot table that is not created: neither side
is the first one. -/
theorem not_pivotTable_mem_tableNames_friends :
    Schema.parse {} friendsText = .ok friends ∧
      (friends1 ∈ friends.methods ∧
        Tracked.evaluate (Relation.kind friends friends1) = .ok .belongsToMany ∧
        Tracked.evaluate (isFirstSide friends friends1) = .ok false ∧
        Tracked.evaluate (pivotTableOf friends friends1) = .ok "friend1") ∧
      ∃ names, Tracked.evaluate (tableNames friends) = .ok names ∧
        ¬ ∃ table ∈ names, Tracked.evaluate (pivotTableOf friends friends1) = .ok table := by
  have htable : Tracked.evaluate (pivotTableOf friends friends1) = .ok "friend1" :=
    eq_ok_of_toOption (by decide +kernel)
  refine ⟨parse_friendsText, ⟨by decide, eq_ok_of_toOption (by decide +kernel),
    eq_ok_of_toOption (by decide +kernel), htable⟩, ["users"],
    eq_ok_of_toOption (by decide +kernel), ?_⟩
  rintro ⟨table, hmem, hsame⟩
  obtain rfl := Except.ok.inj (htable.symm.trans hsame)
  exact absurd hmem (by decide)

end Schema

end EntitySchema
