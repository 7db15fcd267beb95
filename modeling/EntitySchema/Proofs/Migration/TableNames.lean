/-
The tables that are named and the tables that are changed.

The names of all tables and the changes of a comparison come of two loops. One asks each entity for
its table and then for its pivot tables, the other first goes through the tables of all entities and
only then through the pivot tables. The two agree: a comparison can only succeed if the names can be
listed, each entity is answered by at most one change, and a pivot table is created for each listed
name that is no entity's and that the snapshot lacks, as often as it is listed.

No entity is stored under the name of a pivot table, so a filter takes the list of names apart into
what the two halves of a comparison go through.

`NamesTell` is the relation between a list of names and a list of changes, with repetitions and in
order. `AsksFor.namesTell_between` proves it of the changes that two lists of tables lead to, and
`namesTell_changesFrom` of a comparison. What is asked of names and changes elsewhere, such as that
implied pivot tables are never updated, follows from the relation alone (`NamesTell.cases`), without
another look at the loops.

The names of a pivot table are followed by way of the methods that ask for it, as in
`Migration.PivotTables`. There they are counted; here their order matters too.
-/
import EntitySchema.Proofs.Migration.PivotTables

set_option autoImplicit false

namespace EntitySchema

open Outcome

/-! ## The table of an entity -/

namespace Entity

variable {entity : Entity} {snapshot : Snapshot} {table : Table}

/-- How a comparison answers an entity: its table is created if the snapshot lacks it, and otherwise
it is updated or left alone. There is one constructor for each of the three. -/
inductive AnsweredBy (entity : Entity) (snapshot : Snapshot) : Option TableChange → Prop where
  | created {change : TableChange} (missing : snapshot.hasTable entity.table = false)
      (kind : change.kind = .createTable) (table : change.table = entity.table)
      (declared : change.impliedPivot = false) : AnsweredBy entity snapshot (some change)
  | updated {change : TableChange} (there : snapshot.hasTable entity.table = true)
      (kind : change.kind = .updateTable) (table : change.table = entity.table)
      (declared : change.impliedPivot = false) : AnsweredBy entity snapshot (some change)
  | leftAlone (there : snapshot.hasTable entity.table = true) : AnsweredBy entity snapshot none

/-- What answers an entity is a change of its table, which is no implied pivot table. -/
theorem AnsweredBy.of_change {change : TableChange}
    (h : entity.AnsweredBy snapshot (some change)) :
    change.table = entity.table ∧ change.impliedPivot = false := by
  cases h with
  | created _ _ table declared => exact ⟨table, declared⟩
  | updated _ _ table declared => exact ⟨table, declared⟩

/-- No field makes a pivot table of the table of its entity. The table is begun without the mark,
and adding a field does not set it. -/
theorem impliedPivot_of_toTable (h : entity.toTable snapshot = .ok table) :
    table.impliedPivot = false := by
  refine foldlM_induction (P := fun table : Table => table.impliedPivot = false) rfl ?_ h
  intro before field next _ hbefore hnext
  rcases addFieldToTable_cases hnext with ⟨-, rfl⟩ | ⟨-, rfl⟩
  · exact hbefore
  · exact hbefore

/-- What comes of the table of an entity answers the entity. The three cases are those of
`Table.changeFrom?`. -/
theorem answeredBy_answerFrom? (h : entity.toTable snapshot = .ok table) :
    entity.AnsweredBy snapshot (entity.answerFrom? snapshot) := by
  rw [answerFrom?_eq h]
  have hname : table.name = entity.table := (isLaidOut_of_toTable h).name_eq
  have hdeclared : table.impliedPivot = false := impliedPivot_of_toTable h
  cases hchange : table.changeFrom? snapshot with
  | none =>
    refine .leftAlone ?_
    rw [← hname]
    exact (Table.changeFrom?_eq_none_iff.1 hchange).1
  | some change =>
    rcases Table.changeFrom?_eq_some hchange with ⟨hthere, rfl⟩ | ⟨hmissing, rfl⟩
    · rw [hname] at hthere
      exact .updated hthere rfl hname hdeclared
    · rw [hname] at hmissing
      exact .created hmissing rfl hname hdeclared

end Entity

namespace Schema

variable {schema : Schema} {snapshot : Snapshot} {tables pivots : List Table}

/-! ## The names of all tables -/

/-- If the pivot tables can be asked for, all tables can be named. Naming them asks for nothing
more: the tables of entities have their names without being built. -/
theorem AsksFor.tableNames_eq (h : schema.AsksFor pivots) :
    tableNames (m := Except Error) schema = .ok schema.listedNames := by
  obtain ⟨-, ofEntities, hofEntities, -⟩ := h
  -- the names ask the entities for nothing but the pivot tables that they have given already
  have hnames : ∃ names, tableNames (m := Except Error) schema = .ok names := by
    obtain ⟨ofEach, hofEach⟩ := exists_mapM fun entity hentity => by
      obtain ⟨ofEntity, -, hofEntity⟩ := exists_of_mapM hofEntities hentity
      exact ⟨_, bind_pure_eq_ok (f := fun tables => entity.table :: tables.map Table.name).2
        ⟨ofEntity, hofEntity, rfl⟩⟩
    exact ⟨_, bind_pure_eq_ok.2 ⟨ofEach, hofEach, rfl⟩⟩
  obtain ⟨names, hnames⟩ := hnames
  rw [hnames, (eq_listedNames_of_tableNames hnames).2]

/-- An entity is stored in the table. The function serves as the filter that takes a list of names
apart. -/
def isStoredIn (schema : Schema) (table : String) : Bool := (schema.entityStoredIn? table).isSome

/-- What the filter leaves out are the names that are no entity's. -/
theorem isStoredIn_eq_false_iff {table : String} :
    schema.isStoredIn table = false ↔ ∀ entity ∈ schema.entities, entity.table ≠ table := by
  rw [isStoredIn, Option.isSome_eq_false_iff, Option.isNone_iff_eq_none,
    entityStoredIn?_eq_none_iff]

/-- An entity is stored in its own table. -/
theorem isStoredIn_table {entity : Entity} (hentity : entity ∈ schema.entities) :
    schema.isStoredIn entity.table = true := by
  rw [← Bool.not_eq_false]
  intro hnot
  exact isStoredIn_eq_false_iff.1 hnot entity hentity rfl

section Listed

variable (hanswers : schema.AnswersPivots schema.methods)
include hanswers

/-- No entity is stored in a pivot table that a method asks for, since otherwise it would not be
asked for. -/
theorem isStoredIn_of_pivotName? {method : Method} (hmethod : method ∈ schema.methods)
    {name : String} (hname : schema.pivotName? method = some name) :
    schema.isStoredIn name = false :=
  isStoredIn_eq_false_iff.2 ((pivotName?_eq_some_iff hanswers hmethod).1 hname).noEntity

/-- The names of tables that entities are stored in are those of the entities, in the order of the
entities. -/
theorem filter_isStoredIn_listedNames :
    schema.listedNames.filter schema.isStoredIn = schema.entities.map (·.table) := by
  rw [listedNames, List.filter_flatMap, List.map_eq_flatMap]
  refine List.flatMap_congr fun entity hentity => ?_
  -- of the names of one entity the first is its own, and no other is any entity's
  rw [List.filter_cons_of_pos (isStoredIn_table hentity), List.cons_eq_cons]
  refine ⟨rfl, List.filter_eq_nil_iff.2 fun name hname => ?_⟩
  obtain ⟨method, hmethod, hsome⟩ := List.mem_filterMap.1 hname
  rw [isStoredIn_of_pivotName? hanswers (mem_methods.2 ⟨entity, hentity, hmethod⟩) hsome]
  exact Bool.false_ne_true

/-- The other names are those of the pivot tables, each as often as there are methods that ask for
it. -/
theorem filter_not_isStoredIn_listedNames :
    schema.listedNames.filter (!schema.isStoredIn ·) =
      schema.methods.filterMap schema.pivotName? := by
  rw [listedNames, List.filter_flatMap, methods, List.filterMap_flatMap]
  refine List.flatMap_congr fun entity hentity => ?_
  rw [List.filter_cons_of_neg (by rw [isStoredIn_table hentity]; decide), List.filter_eq_self]
  intro name hname
  obtain ⟨method, hmethod, hsome⟩ := List.mem_filterMap.1 hname
  rw [isStoredIn_of_pivotName? hanswers (mem_methods.2 ⟨entity, hentity, hmethod⟩) hsome]
  rfl

end Listed

/-! ## Names and changes -/

/-- A list of names tells what a change set does. The tables in it that entities are stored in are
those of the entities. The changes begin with what answers the entities, in their order, and end
with a creation for each other name that the snapshot lacks, in the order of the list. -/
structure NamesTell (schema : Schema) (snapshot : Snapshot) (names : List String)
    (changes : List TableChange) : Prop where
  entities : names.filter schema.isStoredIn = schema.entities.map (·.table)
  split : ∃ (answer : Entity → Option TableChange) (created : List TableChange),
    changes = schema.entities.filterMap answer ++ created ∧
      (∀ entity ∈ schema.entities, entity.AnsweredBy snapshot (answer entity)) ∧
      created.map (·.table) =
        (names.filter (!schema.isStoredIn ·)).filter (!snapshot.hasTable ·) ∧
      ∀ change ∈ created, change.kind = .createTable ∧ change.impliedPivot = true

/-- A change answers an entity, or it creates an implied pivot table that is no entity's. Nothing
else is in a change set that names tell. -/
theorem NamesTell.cases {names : List String} {changes : List TableChange}
    (h : schema.NamesTell snapshot names changes) {change : TableChange}
    (hchange : change ∈ changes) :
    (∃ entity ∈ schema.entities, entity.AnsweredBy snapshot (some change)) ∨
      (change.kind = .createTable ∧ change.impliedPivot = true ∧
        ∀ entity ∈ schema.entities, entity.table ≠ change.table) := by
  obtain ⟨answer, created, rfl, hanswer, htables, hcreated⟩ := h.split
  rcases List.mem_append.1 hchange with hown | hmade
  · obtain ⟨entity, hentity, hsome⟩ := List.mem_filterMap.1 hown
    exact .inl ⟨entity, hentity, hsome ▸ hanswer entity hentity⟩
  · obtain ⟨hkind, himplied⟩ := hcreated change hmade
    refine .inr ⟨hkind, himplied, isStoredIn_eq_false_iff.1 ?_⟩
    have hlisted : change.table ∈ created.map (·.table) := List.mem_map_of_mem hmade
    rw [htables, List.mem_filter, List.mem_filter, Bool.not_eq_true'] at hlisted
    exact hlisted.1.2

/-- A change is one of an implied pivot table exactly if its table is that of no entity, and then it
is no update. -/
theorem NamesTell.impliedPivot_iff {names : List String} {changes : List TableChange}
    (h : schema.NamesTell snapshot names changes) {change : TableChange}
    (hchange : change ∈ changes) :
    (change.impliedPivot = true ↔ ∀ entity ∈ schema.entities, entity.table ≠ change.table) ∧
      (change.impliedPivot = true → change.kind = .createTable) := by
  rcases h.cases hchange with ⟨entity, hentity, hanswered⟩ | ⟨hkind, himplied, helsewhere⟩
  · obtain ⟨htable, hdeclared⟩ := hanswered.of_change
    rw [hdeclared]
    exact ⟨iff_of_false Bool.false_ne_true fun helsewhere => helsewhere entity hentity htable.symm,
      nofun⟩
  · exact ⟨iff_of_true himplied helsewhere, fun _ => hkind⟩

/-- A pivot table that a method asks for is marked as implied. There is no other place where the
mark is set. -/
theorem impliedPivot_of_asked {method : Method} {pivot : Table}
    (h : impliedPivotTable (m := Except Error) schema method = .ok (some pivot)) :
    pivot.impliedPivot = true := by
  simp only [impliedPivotTable, bind_eq_ok, guard_eq_ok_some] at h
  obtain ⟨-, -, -, -, -, -, -, -, -, name, -, columns, -, hpivot⟩ := h
  rw [← Option.some.inj (Except.ok.inj hpivot)]

/-- The pivot tables of a schema are marked as implied, as each of them was asked for by a
method. -/
theorem AsksFor.impliedPivot_eq (h : schema.AsksFor pivots) {pivot : Table}
    (hpivot : pivot ∈ pivots) : pivot.impliedPivot = true := by
  obtain ⟨-, ofEntities, hofEntities, rfl⟩ := h
  obtain ⟨ofEntity, hofEntity, hmem⟩ := List.mem_flatten.1 hpivot
  obtain ⟨entity, -, hasked⟩ := (mem_of_mapM hofEntities).1 hofEntity
  obtain ⟨ofMethods, hofMethods, rfl⟩ := bind_pure_eq_ok.1 hasked
  obtain ⟨asked, hfound, rfl : asked = some pivot⟩ := List.mem_filterMap.1 hmem
  obtain ⟨method, -, hmethod⟩ := (mem_of_mapM hofMethods).1 hfound
  exact impliedPivot_of_asked hmethod

/-- The tables of the entities and the pivot tables that are asked for are those of the names. The
answer to an entity is what comes of its table. -/
theorem AsksFor.namesTell_between (h : schema.AsksFor pivots)
    (htables : schema.entities.mapM (·.toTable snapshot) = .ok tables) :
    schema.NamesTell snapshot schema.listedNames
      (ChangeSet.between snapshot tables pivots).changes := by
  obtain ⟨hanswers, hpivots⟩ := h.names_eq
  refine ⟨filter_isStoredIn_listedNames hanswers, Entity.answerFrom? snapshot,
    (pivots.filter (!snapshot.hasTable ·.name)).map (·.toChange .createTable), ?_, ?_, ?_, ?_⟩
  · rw [ChangeSet.between, filterMap_changeFrom?_eq htables]
  -- each entity has a table, as otherwise there would be no list of tables
  · intro entity hentity
    obtain ⟨table, -, htable⟩ := exists_of_mapM htables hentity
    exact Entity.answeredBy_answerFrom? htable
  · rw [filter_not_isStoredIn_listedNames hanswers, ← hpivots, List.filter_map, List.map_map]
    rfl
  · intro change hchange
    obtain ⟨pivot, hpivot, rfl⟩ := List.mem_map.1 hchange
    exact ⟨rfl, h.impliedPivot_eq (List.mem_of_mem_filter hpivot)⟩

/-- **One list of tables.** If a comparison succeeds all tables can be named, and their names tell
what the changes do. The changes of implied pivot tables are those of the tables that no entity is
stored in, and they are never updates. -/
theorem namesTell_changesFrom {config : Config} {text : String}
    (hparse : Schema.parse config text = .ok schema) {changeSet : ChangeSet}
    (hchanges : Tracked.evaluate (changesFrom schema snapshot) = .ok changeSet) :
    (∃ names, Tracked.evaluate (tableNames schema) = .ok names ∧
      schema.NamesTell snapshot names changeSet.changes) ∧
    ∀ change ∈ changeSet.changes,
      (change.impliedPivot = true ↔ ∀ entity ∈ schema.entities, entity.table ≠ change.table) ∧
        (change.impliedPivot = true → change.kind = .createTable) := by
  have hplaced : schema.IsPlaced := isPlaced_of_parse hparse
  rw [evaluate_changesFrom hplaced] at hchanges
  obtain ⟨pivots, hasked, tables, htables, rfl⟩ := changesFrom_eq_ok.1 hchanges
  have htell := hasked.namesTell_between htables
  refine ⟨⟨schema.listedNames, ?_, htell⟩, fun change => htell.impliedPivot_iff⟩
  rw [evaluate_tableNames hplaced, hasked.tableNames_eq]

/-! ## A club with two pivot tables of one name -/

/-- A database that has the table of the clubs, but without its column. -/
def clubsOnly : Snapshot where
  tables := OrderedMap.insert ∅ "club1" {}

/-- What it lacks: that column, the table of the members, and a pivot table for each of the two
relations. -/
def clubsOnlyChanges : ChangeSet where
  changes := officersChanges.changes.modifyHead ({ · with kind := .updateTable })

/-- The pivot table is named twice, so it is created twice. Of the two entities one is updated and
the other created. -/
theorem namesTell_changesFrom_officers :
    Schema.parse {} officersText = .ok officers ∧
      Tracked.evaluate (changesFrom officers clubsOnly) = .ok clubsOnlyChanges ∧
      officers.NamesTell clubsOnly ["club1", "club1_member1", "club1_member1", "member1"]
        clubsOnlyChanges.changes := by
  have hchanges : Tracked.evaluate (changesFrom officers clubsOnly) = .ok clubsOnlyChanges :=
    eq_ok_of_toOption (by decide +kernel)
  have hlisted : Tracked.evaluate (tableNames officers) =
      .ok ["club1", "club1_member1", "club1_member1", "member1"] :=
    eq_ok_of_toOption (by decide +kernel)
  obtain ⟨⟨names, hnames, htell⟩, -⟩ := namesTell_changesFrom parse_officersText hchanges
  rw [hlisted] at hnames
  rw [Except.ok.inj hnames]
  exact ⟨parse_officersText, hchanges, htell⟩

end Schema

end EntitySchema
