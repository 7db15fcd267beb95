/-
Which tables are created, and how often.

Entities have different tables, and an implied pivot table is never that of an entity. But nothing
compares pivot tables with each other: every many-to-many asks for its own on its first side, and
two of them may ask for the same one. Then the table is listed twice, and a change set creates it
twice, which cannot be applied.

`nodup_tables_iff` says that this is the only way in which a table can be repeated: change sets and
lists of names are free of repetitions exactly when no two methods own a pivot table of one name.

The proof turns a question about changes into one about methods, in three steps. `OwnsPivot` says in
terms of the relation alone when a method asks for a pivot table, and `pivotName?_eq_some_iff` that
this is what the program asks. Then the pivot tables of an entity, those of a schema and the list of
all names are seen to collect the same partial function over the methods
(`names_of_impliedPivotTables`, `AsksFor.names_eq`, `eq_listedNames_of_tableNames`). And a list
collected that way is free of repetitions exactly when the elements are apart
(`nodup_filterMap_iff`).

Methods count as different when they stand at different places. Since a method carries its owner and
its position, those of a placed schema are different as values (`IsPlaced.nodup_methods`), and the
last step rests on this.
-/
import EntitySchema.Proofs.Migration.Apply
import EntitySchema.Proofs.Migration.Comparison
import EntitySchema.Proofs.Tracking.Changes
import Mathlib.Data.List.Pairwise
import Mathlib.Data.List.Perm.Basic

set_option autoImplicit false

namespace EntitySchema

open Outcome

section Apart

variable {α β : Type} {f : α → Option β} {items : List α}

/-- Two elements have no value in common, unless they are one. -/
def Apart (f : α → Option β) (item other : α) : Prop :=
  ∀ value, f item = some value → f other = some value → item = other

instance : Std.Symm (Apart f) :=
  ⟨fun _ _ hapart value hother hitem => (hapart value hitem hother).symm⟩

/-- Values are found at most once exactly when all elements are apart. The elements themselves must
not be repeated, for otherwise a value could be found twice in one and the same element. -/
theorem nodup_filterMap_iff (hnodup : items.Nodup) :
    (items.filterMap f).Nodup ↔ ∀ item ∈ items, ∀ other ∈ items, Apart f item other := by
  rw [List.Nodup, List.pairwise_filterMap]
  constructor
  · intro h
    have hpairs : items.Pairwise (Apart f) := by
      refine h.imp fun hne value hitem hother => ?_
      exact absurd rfl (hne value hitem value hother)
    intro item hitem other hother
    exact hpairs.forall_of_forall (fun _ _ _ _ _ => rfl) hitem hother
  · intro h
    apply hnodup.pairwise_of_forall_ne
    intro item hitem other hother hne value hvalue second hsecond
    rintro rfl
    exact hne (h item hitem other hother value hvalue hsecond)

end Apart

/-- A guard that ends a chain with nothing has let it pass if something comes of it. An implied
pivot table stands behind three such guards. -/
theorem guard_eq_ok_some {α : Type} {guard : Bool} {rest : Except Error (Option α)} {value : α} :
    (if guard = true then pure none else rest) = .ok (some value) ↔
      guard = false ∧ rest = .ok (some value) := by
  cases guard with
  | true => simp [pure, Except.pure]
  | false => simp

namespace Schema

/-! ## Pivot tables and their owners -/

/-- A method asks for a pivot table: it is a many-to-many, on the side that comes first by name, and
the table it goes through is that of no entity. The columns of the table are not mentioned, as they
have no part in the question which tables there are. -/
structure OwnsPivot (schema : Schema) (method : Method) (name : String) : Prop where
  mem : method ∈ schema.methods
  kind : Relation.kind (m := Except Error) schema method = .ok .belongsToMany
  firstSide : Relation.isFirstSide (m := Except Error) schema method = .ok true
  pivotTable : Relation.pivotTableOf (m := Except Error) schema method = .ok name
  noEntity : ∀ entity ∈ schema.entities, entity.table ≠ name

variable {schema : Schema} {snapshot : Snapshot} {method : Method} {name : String}

/-- A method that owns a pivot table asks for it as soon as it can be asked. It may fail to answer,
since the columns of the table depend on keys that might not be found. -/
theorem OwnsPivot.name_eq (h : schema.OwnsPivot method name) {asked : Option Table}
    (hasked : impliedPivotTable (m := Except Error) schema method = .ok asked) :
    asked.map (·.name) = some name := by
  have hmany : Relation.isManyToMany (m := Except Error) schema method = .ok true := by
    rw [Relation.isManyToMany, h.kind]
    rfl
  have hentity : Relation.pivotEntityOf (m := Except Error) schema method = .ok none := by
    rw [Relation.pivotEntityOf, h.pivotTable, ok_bind, entityStoredIn?_eq_none_iff.2 h.noEntity]
    rfl
  -- with these answers none of the three guards ends the chain
  simp only [impliedPivotTable, hmany, h.firstSide, hentity, h.pivotTable, ok_bind, Bool.not_true,
    Bool.false_eq_true, if_false, Option.isSome_none, bind_pure_eq_ok] at hasked
  obtain ⟨columns, -, rfl⟩ := hasked
  rfl

/-- A method that asks for a pivot table owns it. With `OwnsPivot.name_eq` this makes the three
guards of the program and the fields of `OwnsPivot` the same. -/
theorem ownsPivot_of_asked (hmem : method ∈ schema.methods) {pivot : Table}
    (hasked : impliedPivotTable (m := Except Error) schema method = .ok (some pivot)) :
    schema.OwnsPivot method pivot.name := by
  -- none of the three guards has ended the chain
  simp only [impliedPivotTable, bind_eq_ok, guard_eq_ok_some] at hasked
  obtain ⟨many, hmany, hmanyTrue, first, hfirst, hfirstTrue, entity, hentity, hnone, table, htable,
    columns, -, hpivot⟩ := hasked
  obtain rfl := Option.some.inj (Except.ok.inj hpivot)
  rw [Bool.not_eq_false'] at hmanyTrue hfirstTrue
  rw [Relation.isManyToMany, bind_pure_eq_ok] at hmany
  obtain ⟨kind, hkind, hsame⟩ := hmany
  rw [Relation.pivotEntityOf, htable, ok_bind] at hentity
  obtain rfl := Except.ok.inj hentity
  rw [hmanyTrue, beq_iff_eq] at hsame
  rw [Option.isSome_eq_false_iff, Option.isNone_iff_eq_none] at hnone
  exact ⟨hmem, by rw [hkind, hsame], by rw [hfirst, hfirstTrue], htable,
    entityStoredIn?_eq_none_iff.1 hnone⟩

/-! ## The names of pivot tables -/

/-- The name of the pivot table that a method asks for, if it can be asked and does. -/
def pivotName? (schema : Schema) (method : Method) : Option String :=
  (impliedPivotTable (m := Except Error) schema method).toOption.join.map (·.name)

/-- Every method can be asked for its pivot table. This follows from any comparison or list of names
that succeeded, so that results about these need no hypothesis on the methods. -/
def AnswersPivots (schema : Schema) (methods : List Method) : Prop :=
  ∀ method ∈ methods, ∃ asked, impliedPivotTable (m := Except Error) schema method = .ok asked

/-- The name of a pivot table is found for a method exactly if the method owns the table. From here
on proofs speak of owners, and do not look at how a pivot table is made any more. -/
theorem pivotName?_eq_some_iff (hanswers : schema.AnswersPivots schema.methods)
    (hmem : method ∈ schema.methods) :
    schema.pivotName? method = some name ↔ schema.OwnsPivot method name := by
  obtain ⟨asked, hasked⟩ := hanswers method hmem
  have hname : schema.pivotName? method = asked.map (·.name) := by
    rw [pivotName?, hasked]
    rfl
  rw [hname]
  constructor
  · intro hsome
    obtain ⟨pivot, rfl, rfl⟩ := Option.map_eq_some_iff.1 hsome
    exact ownsPivot_of_asked hmem hasked
  · intro howns
    exact howns.name_eq hasked

/-- The pivot tables of an entity are those of its methods, in their order, and all of its methods
could be asked. -/
theorem names_of_impliedPivotTables {entity : Entity} {pivots : List Table}
    (h : impliedPivotTables (m := Except Error) schema entity = .ok pivots) :
    schema.AnswersPivots entity.methods ∧
      pivots.map (·.name) = entity.methods.filterMap schema.pivotName? := by
  rw [impliedPivotTables, bind_pure_eq_ok] at h
  obtain ⟨asked, hasked, rfl⟩ := h
  constructor
  · intro method hmethod
    obtain ⟨one, -, hone⟩ := exists_of_mapM hasked hmethod
    exact ⟨one, hone⟩
  · have hnames : asked.map (Option.map (·.name)) = entity.methods.map schema.pivotName? := by
      refine map_of_mapM hasked fun method _ one hone => ?_
      rw [pivotName?, hone]
      rfl
    rw [List.map_filterMap, ← Function.id_comp schema.pivotName?, ← List.filterMap_map, ← hnames,
      List.filterMap_map]
    rfl

/-- The pivot tables of a schema are those of its methods. The methods of a schema are those of its
entities in order, which is the order in which pivot tables are collected. -/
theorem AsksFor.names_eq {pivots : List Table} (h : schema.AsksFor pivots) :
    schema.AnswersPivots schema.methods ∧
      pivots.map (·.name) = schema.methods.filterMap schema.pivotName? := by
  obtain ⟨-, ofEntities, hofEntities, rfl⟩ := h
  constructor
  · intro method hmethod
    obtain ⟨entity, hentity, hmem⟩ := mem_methods.1 hmethod
    obtain ⟨one, -, hone⟩ := exists_of_mapM hofEntities hentity
    exact (names_of_impliedPivotTables hone).1 method hmem
  · have hnames : ofEntities.map (·.map (·.name)) =
        schema.entities.map fun entity => entity.methods.filterMap schema.pivotName? :=
      map_of_mapM hofEntities fun entity _ one hone => (names_of_impliedPivotTables hone).2
    rw [List.map_flatten, hnames, methods, List.filterMap_flatMap, List.flatMap_def]

/-- The names of all tables, written down: after the table of each entity come those of the pivot
tables that its methods ask for. -/
def listedNames (schema : Schema) : List String :=
  schema.entities.flatMap fun entity =>
    entity.table :: entity.methods.filterMap schema.pivotName?

/-- If all tables can be named, these are their names. The list is in the order of the entities,
each of them followed by its pivot tables, unlike a change set, which has all pivot tables at the
end. -/
theorem eq_listedNames_of_tableNames {names : List String}
    (h : tableNames (m := Except Error) schema = .ok names) :
    schema.AnswersPivots schema.methods ∧ names = schema.listedNames := by
  rw [tableNames, bind_pure_eq_ok] at h
  obtain ⟨ofEntities, hofEntities, rfl⟩ := h
  constructor
  · intro method hmethod
    obtain ⟨entity, hentity, hmem⟩ := mem_methods.1 hmethod
    obtain ⟨one, -, hone⟩ := exists_of_mapM hofEntities hentity
    obtain ⟨pivots, hpivots, -⟩ := bind_pure_eq_ok.1 hone
    exact (names_of_impliedPivotTables hpivots).1 method hmem
  · have hnames : ofEntities = schema.entities.map fun entity =>
        entity.table :: entity.methods.filterMap schema.pivotName? := by
      rw [← List.map_id ofEntities]
      refine map_of_mapM hofEntities fun entity _ one hone => ?_
      obtain ⟨pivots, hpivots, rfl⟩ := bind_pure_eq_ok.1 hone
      rw [(names_of_impliedPivotTables hpivots).2]
      rfl
    rw [hnames, ← List.flatMap_def, listedNames]

/-- The names of all tables are those of the entities and those of the pivot tables. Whether
something is repeated does not depend on the order, so names and changes can be treated alike from
here. -/
theorem perm_of_tableNames {names : List String}
    (h : tableNames (m := Except Error) schema = .ok names) :
    schema.AnswersPivots schema.methods ∧
      (schema.entities.map (·.table) ++ schema.methods.filterMap schema.pivotName?).Perm names := by
  obtain ⟨hanswers, rfl⟩ := eq_listedNames_of_tableNames h
  refine ⟨hanswers, ?_⟩
  rw [methods, List.filterMap_flatMap, List.map_eq_flatMap, listedNames]
  exact List.flatMap_append_perm _ _ _

section Distinct

variable (hplaced : schema.IsPlaced) (hanswers : schema.AnswersPivots schema.methods)
include hanswers

/-- No pivot table is that of an entity, since a table of which an entity tells is not asked for. -/
theorem ne_of_mem_pivotNames (hname : name ∈ schema.methods.filterMap schema.pivotName?)
    {entity : Entity} (hentity : entity ∈ schema.entities) : entity.table ≠ name := by
  obtain ⟨method, hmem, hsome⟩ := List.mem_filterMap.1 hname
  exact ((pivotName?_eq_some_iff hanswers hmem).1 hsome).noEntity entity hentity

include hplaced

/-- Pivot tables are listed once if none of those that count has two owners. A comparison counts
those that the snapshot lacks; in the list of all names each of them counts. -/
theorem nodup_pivotNames_iff (counts : String → Bool) :
    ((schema.methods.filterMap schema.pivotName?).filter counts).Nodup ↔
      ∀ method other name, schema.OwnsPivot method name → schema.OwnsPivot other name →
        counts name = true → method = other := by
  rw [List.filter_filterMap, nodup_filterMap_iff hplaced.nodup_methods]
  simp only [Apart, Option.filter_eq_some_iff]
  constructor
  · intro h method other name hmethod hother hcounts
    refine h method hmethod.mem other hother.mem name ⟨?_, hcounts⟩ ⟨?_, hcounts⟩
    · exact (pivotName?_eq_some_iff hanswers hmethod.mem).2 hmethod
    · exact (pivotName?_eq_some_iff hanswers hother.mem).2 hother
  · rintro h method hmethod other hother name ⟨hname, hcounts⟩ ⟨hotherName, -⟩
    exact h method other name ((pivotName?_eq_some_iff hanswers hmethod).1 hname)
      ((pivotName?_eq_some_iff hanswers hother).1 hotherName) hcounts

end Distinct

/-! ## Change sets -/

section Between

variable {tables pivots : List Table}

/-- The tables of entities are different anyway, so only the missing pivot tables count. An entity
has one change at most, and it is a change of its own table. -/
theorem AsksFor.nodup_tables_between_iff (hasked : schema.AsksFor pivots)
    (hplaced : schema.IsPlaced) (htables : schema.entities.mapM (·.toTable snapshot) = .ok tables) :
    (ChangeSet.between snapshot tables pivots).tables.Nodup ↔
      ((pivots.map (·.name)).filter (!snapshot.hasTable ·)).Nodup := by
  obtain ⟨hanswers, hpivots⟩ := hasked.names_eq
  have hnames : tables.map (·.name) = schema.entities.map (·.table) :=
    map_of_mapM htables fun _ _ _ hmade => (Entity.isLaidOut_of_toTable hmade).name_eq
  have hentities := Table.tables_filterMap_changeFrom? snapshot tables
  rw [hnames] at hentities
  rw [ChangeSet.tables_between, List.nodup_append, hpivots]
  constructor
  · intro h
    exact h.2.1
  · intro h
    refine ⟨hentities.nodup hplaced.tables, h, fun table htable name hname => ?_⟩
    obtain ⟨entity, hentity, rfl⟩ := List.mem_map.1 (hentities.subset htable)
    exact ne_of_mem_pivotNames hanswers (List.mem_of_mem_filter hname) hentity

/-- What is created was missing, so different tables can be created one after the other. Applying
the changes may still fail for another reason, such as a command whose source is not there. -/
theorem apply_between_ne_tableExists
    (hnodup : (ChangeSet.between snapshot tables pivots).tables.Nodup) (table : String) :
    snapshot.apply (ChangeSet.between snapshot tables pivots) ≠ .error (.tableExists table) := by
  refine Snapshot.apply_ne_tableExists hnodup (fun change hchange hkind => ?_) table
  rcases ChangeSet.mem_between.1 hchange with ⟨made, _, hfrom⟩ | ⟨pivot, _, hmissing, rfl⟩
  · rw [Table.table_of_changeFrom? hfrom]
    exact Table.get?_eq_none_of_create hfrom hkind
  · exact hmissing

/-- If all changes can be made no pivot table was created twice: they come last, so that nothing
but creations follows the first of them. -/
theorem nodup_of_apply_between {after : Snapshot}
    (h : snapshot.apply (ChangeSet.between snapshot tables pivots) = .ok after) :
    ((pivots.map (·.name)).filter (!snapshot.hasTable ·)).Nodup := by
  rw [Snapshot.apply, ChangeSet.between, List.foldlM_append, bind_eq_ok] at h
  obtain ⟨middle, -, hcreates⟩ := h
  have hkinds : ∀ change ∈ (pivots.filter (!snapshot.hasTable ·.name)).map
      (·.toChange .createTable), change.kind = .createTable := by
    intro change hchange
    obtain ⟨pivot, -, rfl⟩ := List.mem_map.1 hchange
    rfl
  obtain ⟨hnodup, -⟩ := Snapshot.nodup_of_creates hkinds hcreates
  rw [List.map_map] at hnodup
  rw [List.filter_map]
  exact hnodup

end Between

/-- **Tables are repeated only by pivot tables of one name.** The changes that come of a comparison
are of different tables exactly when no missing pivot table has two owners. If so, none of them
creates a table that exists; otherwise they cannot be applied. And the names of all tables are
different exactly when no pivot table at all has two owners. -/
theorem nodup_tables_iff {config : Config} {text : String} {schema : Schema}
    (hparse : Schema.parse config text = .ok schema) :
    (∀ (snapshot : Snapshot) (changeSet : ChangeSet),
      Tracked.evaluate (changesFrom schema snapshot) = .ok changeSet →
        (changeSet.tables.Nodup ↔
          ∀ method other name, schema.OwnsPivot method name → schema.OwnsPivot other name →
            snapshot.hasTable name = false → method = other) ∧
        (changeSet.tables.Nodup → ∀ table, snapshot.apply changeSet ≠ .error (.tableExists table)) ∧
        ∀ after, snapshot.apply changeSet = .ok after → changeSet.tables.Nodup) ∧
    ∀ names, Tracked.evaluate (tableNames schema) = .ok names →
      (names.Nodup ↔ ∀ method other name, schema.OwnsPivot method name →
        schema.OwnsPivot other name → method = other) := by
  have hplaced : schema.IsPlaced := isPlaced_of_parse hparse
  constructor
  · intro snapshot changeSet hchanges
    rw [evaluate_changesFrom hplaced] at hchanges
    obtain ⟨pivots, hasked, tables, htables, rfl⟩ := changesFrom_eq_ok.1 hchanges
    obtain ⟨hanswers, hpivots⟩ := hasked.names_eq
    have hsplit := hasked.nodup_tables_between_iff hplaced htables
    refine ⟨?_, apply_between_ne_tableExists, fun after happly => ?_⟩
    · rw [hsplit, hpivots, nodup_pivotNames_iff hplaced hanswers]
      simp only [Bool.not_eq_true']
    · exact hsplit.2 (nodup_of_apply_between happly)
  · intro names hnames
    rw [evaluate_tableNames hplaced] at hnames
    obtain ⟨hanswers, hperm⟩ := perm_of_tableNames hnames
    have hall := nodup_pivotNames_iff hplaced hanswers fun _ => true
    rw [List.filter_true] at hall
    -- the names of all tables are, up to their order, those of entities and those of pivot tables
    rw [← hperm.nodup_iff, List.nodup_append, hall]
    constructor
    · intro h method other name hmethod hother
      exact h.2.1 method other name hmethod hother rfl
    · intro h
      refine ⟨hplaced.tables, fun method other name hmethod hother _ =>
        h method other name hmethod hother, fun table htable name hname => ?_⟩
      obtain ⟨entity, hentity, rfl⟩ := List.mem_map.1 htable
      exact ne_of_mem_pivotNames hanswers hname hentity

/-! ## Two methods and one pivot table -/

/-- A document in which an entity is related twice to the same other one. -/
def officersText : String :=
  "Club1 (club1)\n  members1(): Member1[] <- Member1.clubs1()\n" ++
    "  officers1(): Member1[] <- Member1.clubs1()\n" ++
    "Member1 (member1)\n  clubs1(): Club1[] <- Club1.members1()\n"

/-- The side that the other entity knows about. -/
def members1 : Method where
  name := "members1"
  owner? := some 0
  position := 0
  declaredType := some "Member1[]"
  inverseOf := some "Member1.clubs1()"

/-- The side that is declared beside it. -/
def officers1 : Method where
  name := "officers1"
  owner? := some 0
  position := 1
  declaredType := some "Member1[]"
  inverseOf := some "Member1.clubs1()"

/-- What the document says. -/
def officers : Schema where
  entities := [
    { shortName := "Club1", namespaceName := "\\App\\", table := "club1", index? := some 0
      fields := [
        { name := "id", type := "increments", owner? := some 0, nullable := some false,
          primaryKey := true, implied := true }]
      methods := [members1, officers1] },
    { shortName := "Member1", namespaceName := "\\App\\", table := "member1", index? := some 1
      fields := [
        { name := "id", type := "increments", owner? := some 1, nullable := some false,
          primaryKey := true, implied := true }]
      methods := [
        { name := "clubs1", owner? := some 1, position := 0, declaredType := some "Club1[]"
          inverseOf := some "Club1.members1()" }] }]
  namespaces := OrderedMap.insert ∅ "\\App\\" "app/"

/-- The document is accepted although nothing tells the two methods apart: both are inverse to the
one method of the other entity. -/
theorem parse_officersText : Schema.parse {} officersText = .ok officers :=
  eq_ok_of_toOption (by decide +kernel)

/-- What an empty database lacks: the pivot table is listed for each of its owners. -/
def officersChanges : ChangeSet where
  changes := [
    { kind := .createTable, table := "club1"
      columns := [{ name := "id", type := "increments", nullable := false, primaryKey := true }] },
    { kind := .createTable, table := "member1"
      columns := [{ name := "id", type := "increments", nullable := false, primaryKey := true }] },
    { kind := .createTable, table := "club1_member1", impliedPivot := true
      columns := [
        { name := "members1_id", type := "unsignedInteger", nullable := false },
        { name := "clubs1_id", type := "unsignedInteger", nullable := false }] },
    { kind := .createTable, table := "club1_member1", impliedPivot := true
      columns := [
        { name := "officers1_id", type := "unsignedInteger", nullable := false },
        { name := "clubs1_id", type := "unsignedInteger", nullable := false }] }]

/-- The comparison with an empty database. It succeeds, and only applying its result will fail. -/
theorem changesFrom_officers :
    Tracked.evaluate (changesFrom officers .empty) = .ok officersChanges :=
  eq_ok_of_toOption (by decide +kernel)

/-- Both methods of the club own the pivot table, so an empty database cannot be brought up to the
schema. -/
theorem nodup_tables_iff_officers :
    Schema.parse {} officersText = .ok officers ∧
      (officers.OwnsPivot members1 "club1_member1" ∧
        officers.OwnsPivot officers1 "club1_member1") ∧
      Tracked.evaluate (changesFrom officers .empty) = .ok officersChanges ∧
        ¬ officersChanges.tables.Nodup ∧
          ∀ after, Snapshot.empty.apply officersChanges ≠ .ok after := by
  have hmembers : officers.OwnsPivot members1 "club1_member1" :=
    ⟨by decide, eq_ok_of_toOption (by decide +kernel), eq_ok_of_toOption (by decide +kernel),
      eq_ok_of_toOption (by decide +kernel), by decide⟩
  have hofficers : officers.OwnsPivot officers1 "club1_member1" :=
    ⟨by decide, eq_ok_of_toOption (by decide +kernel), eq_ok_of_toOption (by decide +kernel),
      eq_ok_of_toOption (by decide +kernel), by decide⟩
  obtain ⟨hnodup, -, happlied⟩ :=
    (nodup_tables_iff parse_officersText).1 .empty officersChanges changesFrom_officers
  -- if no table were repeated the two owners would be one method, but they have different names
  have hrepeated : ¬ officersChanges.tables.Nodup := by
    rw [hnodup]
    intro hone
    have hsame : members1 = officers1 := hone _ _ _ hmembers hofficers rfl
    exact absurd hsame (by decide)
  exact ⟨parse_officersText, ⟨hmembers, hofficers⟩, changesFrom_officers, hrepeated,
    fun after happly => hrepeated (happlied after happly)⟩

/-- The tables of the changes are not different, the second creation fails, and the names of all
tables are not different either. The error names the table that is created twice. -/
theorem not_nodup_tables_officers :
    Schema.parse {} officersText = .ok officers ∧
      (Tracked.evaluate (changesFrom officers .empty) = .ok officersChanges ∧
        ¬ officersChanges.tables.Nodup ∧
        Snapshot.empty.apply officersChanges = .error (.tableExists "club1_member1")) ∧
      ∃ names, Tracked.evaluate (tableNames officers) = .ok names ∧ ¬ names.Nodup :=
  ⟨parse_officersText,
    ⟨changesFrom_officers, by decide, by decide +kernel⟩,
    ["club1", "club1_member1", "club1_member1", "member1"],
    eq_ok_of_toOption (by decide +kernel), by decide⟩

end Schema

end EntitySchema
