/-
Adding the implied fields again.

One would like the work to be done once and for all: on a schema that has its implied fields, the
same steps should find nothing left to add. Three of the four steps of a method keep to that,
whatever has been added after them. The fourth, the foreign key of a belongs-to, keeps to it except
for a method that `LosesKey`, whose kind was found when a join on the other side still claimed the
key and is asked for again when it no longer does. Then the second run either adds a column or
fails, so that `addImpliedFields_again_iff` gives the exact condition: adding the implied fields
again changes nothing if and only if no method loses its key.

The proof looks for the moment at which each method had its turn. Before it the entity of the method
has got its primary key, and after it the schema has only grown, so that each step can be compared
with the same step at the end. Such a moment is had from `exists_step_of_foldlM`, once for the loop
over the entities and once for the loop over the methods of one entity, and with growth as the
relation between the moments.

Both directions of the condition are needed. In one, all methods are resolved, and then each step of
the second run is shown to leave the schema as it is. In the other, a second run that adds no field
is a run in which all the schemas in between are equal, because growth in both directions is
equality, and in such a run each method is seen to be resolved; but a method that loses its key is
not.

The document at the end of this file is one where the condition fails. It is small: two entities, a
method on each side, and one join that names `id` on both.
-/
import EntitySchema.Proofs.Implied.Kinds

set_option autoImplicit false

namespace EntitySchema

open Outcome
open EntitySchema.Relation

namespace Schema

variable {schema middle after : Schema} {method : Method}

/-! ## Columns that are there -/

/-- An entity that does not lack a key is there. The default entity, which stands for a missing one,
lacks a key. -/
theorem entityOf?_of_not_lacksKey (hkey : ¬ (schema.owner method).LacksKey) :
    schema.entityOf? method.owner? = some (schema.owner method) := by
  rw [owner] at hkey ⊢
  cases hat : schema.entityOf? method.owner? with
  | none =>
    rw [hat] at hkey
    exact absurd ⟨rfl, rfl⟩ hkey
  | some entity => rfl

/-- Once the owner of a method does not lack a key it never does again. The hypothesis of most
lemmas here is carried along by this. -/
theorem Grows.not_lacksKey (h : schema.Grows after) (hkey : ¬ (schema.owner method).LacksKey) :
    ¬ (after.owner method).LacksKey :=
  fun hlacks => hkey ((h.owner method).lacksKey hlacks)

/-- A change that leaves the entity at its place as it is changes nothing. Where no entity stands
there is nothing to change. -/
theorem modifyEntity_eq_self {index : Nat} {change : Entity → Entity}
    (h : ∀ entity, schema.entityAt? index = some entity → change entity = entity) :
    schema.modifyEntity index change = schema := by
  have hentities : schema.entities.modify index change = schema.entities := by
    refine List.ext_getElem? fun place => ?_
    rw [List.getElem?_modify]
    cases hat : schema.entities[place]? with
    | none => rfl
    | some entity =>
      by_cases hplace : index = place
      · subst hplace
        simp [h entity hat]
      · simp [hplace]
  rw [modifyEntity, hentities]

/-- A column that is there is not added. -/
theorem addImplied_eq_self {index : Nat} {name : String} (type : String)
    (h : ∀ entity, schema.entityAt? index = some entity → entity.hasField name = true) :
    schema.addImplied index name type = schema :=
  modifyEntity_eq_self fun entity hat => if_pos (h entity hat)

/-- A column that was added is there. The owner has to exist for this, and that it does not lack a
key says that it does. -/
theorem hasField_addImplied (hkey : ¬ (schema.owner method).LacksKey) (name type : String) :
    ((schema.addImpliedOf method name type).owner method).hasField name = true := by
  have hat := entityOf?_of_not_lacksKey hkey
  rw [entityOf?] at hat
  rw [owner, entityOf?, (grows_addImpliedOf ..).placeOf_eq, addImpliedOf, addImplied,
    entityAt?_modifyEntity, if_pos rfl, hat, Option.map_some, Option.getD_some]
  split
  · next hfield => exact hfield
  · exact Entity.hasField_iff.2 ⟨_, List.mem_append_right _ (List.mem_singleton_self _), rfl⟩

/-- **A column is added only once.** Whatever the schema has become since, to add the column again,
under any type, leaves it as it is. -/
theorem addImplied_again (hkey : ¬ (schema.owner method).LacksKey) {name type : String}
    (hgrows : (schema.addImpliedOf method name type).Grows after) (other : String) :
    after.addImpliedOf method name other = after := by
  refine addImplied_eq_self other fun entity hat => ?_
  have hfield := (hgrows.owner method).hasField (hasField_addImplied hkey name type)
  rwa [owner, entityOf?, hat] at hfield

/-! ## The steps of a method, again -/

/-- The column of `via`, again. The answer of the step hangs on names alone, so it is the same, and
the column that it names has been added. -/
theorem addViaColumn_again (hkey : ¬ (schema.owner method).LacksKey)
    (h : schema.addViaColumn method = .ok middle) (hgrows : middle.Grows after) :
    after.addViaColumn method = .ok after := by
  rw [addViaColumn, bind_eq_ok]
  rcases addViaColumn_cases h with ⟨hgoes, rfl⟩ | ⟨column, hname, hgoes, rfl⟩
  · refine ⟨false, by rw [hgrows.goesViaColumn_eq, hgoes], ?_⟩
    cases method.viaName? <;> rfl
  · refine ⟨true, ?_, ?_⟩
    · rw [hgrows.goesViaColumn_eq, (grows_addImpliedOf _ _ _ _).goesViaColumn_eq, hgoes]
    · rw [hname]
      exact congrArg Except.ok (addImplied_again hkey hgrows _)

/-- The column of the join, again. Here the primary keys of the owner are looked at, and it matters
that the entity has had its primary key before its methods. -/
theorem addJoinKey_again (hkey : ¬ (schema.owner method).LacksKey)
    (h : schema.addJoinKey method = .ok middle) (hgrows : middle.Grows after) :
    after.addJoinKey method = .ok after := by
  rw [addJoinKey, bind_eq_ok]
  rcases addJoinKey_cases h with ⟨hjoin, rfl⟩ | ⟨column, hjoin, rfl⟩
  · exact ⟨none, by rw [hgrows.ownJoinKey_eq hkey, hjoin], rfl⟩
  · refine ⟨some column, ?_, congrArg Except.ok (addImplied_again hkey hgrows _)⟩
    rw [((grows_addImpliedOf _ _ _ _).trans hgrows).ownJoinKey_eq hkey, hjoin]

/-- The pair of a polymorphic relation, again: two columns that are added in a row. -/
theorem addMorphFields_again (hkey : ¬ (schema.owner method).LacksKey)
    (hgrows : (schema.addMorphFields method).Grows after) :
    after.addMorphFields method = after := by
  rw [addMorphFields] at hgrows ⊢
  split
  · next hpoly =>
    rw [if_pos hpoly] at hgrows
    rw [addImplied_again hkey ((grows_addImpliedOf _ _ _ _).trans hgrows)]
    exact addImplied_again ((grows_addImpliedOf _ _ _ _).not_lacksKey hkey) hgrows _
  · rfl

/-- A belongs-to is looked for among the methods that return one. -/
theorem isBelongsTo_eq_ok {belongs : Bool} (hone : method.returnsOne = true) :
    isBelongsTo (m := Except Error) schema method = .ok belongs ↔
      ∃ kind, Relation.kind (m := Except Error) schema method = .ok kind ∧
        (kind == .belongsTo) = belongs := by
  unfold isBelongsTo
  rw [if_pos hone]
  exact bind_pure_eq_ok

/-- Nothing is left to add for a method that is resolved. A method that returns many is never
asked. -/
theorem addForeignKey_eq_self (h : method.returnsOne = true → schema.IsResolved method) :
    schema.addForeignKey method = .ok schema := by
  rw [addForeignKey, bind_eq_ok]
  cases hone : method.returnsOne with
  | false =>
    refine ⟨false, ?_, rfl⟩
    unfold isBelongsTo
    rw [hone]
    rfl
  | true =>
    obtain ⟨kind, hkind, hexists⟩ := h hone
    by_cases hbelongs : kind = .belongsTo
    · obtain ⟨column, hcolumn, hfield⟩ := foreignKeyExists_eq_ok.1 (hexists hbelongs)
      refine ⟨true, (isBelongsTo_eq_ok hone).2 ⟨kind, hkind, by simp [hbelongs]⟩, ?_⟩
      refine bind_eq_ok.2 ⟨column, hcolumn, congrArg Except.ok ?_⟩
      refine addImplied_eq_self _ fun entity hat => ?_
      rwa [owner, entityOf?, hat] at hfield
    · exact ⟨false, (isBelongsTo_eq_ok hone).2 ⟨kind, hkind, by simp [hbelongs]⟩, rfl⟩

/-- A method for which nothing is left to add is resolved. In particular its kind was found without
an error. -/
theorem isResolved_of_addForeignKey (hkey : ¬ (schema.owner method).LacksKey)
    (hone : method.returnsOne = true) (h : schema.addForeignKey method = .ok schema) :
    schema.IsResolved method := by
  rcases addForeignKey_cases h with ⟨hbelongs, -⟩ | ⟨column, hbelongs, hcolumn, heq⟩
  · obtain ⟨kind, hkind, hne⟩ := (isBelongsTo_eq_ok hone).1 hbelongs
    exact ⟨kind, hkind, fun heq => by simp [heq] at hne⟩
  · obtain ⟨kind, hkind, -⟩ := (isBelongsTo_eq_ok hone).1 hbelongs
    refine ⟨kind, hkind, fun _ => foreignKeyExists_eq_ok.2 ⟨column, hcolumn, ?_⟩⟩
    have hfield := hasField_addImplied hkey column schema.config.foreignKeyType
    rwa [← heq] at hfield

/-- **The foreign key, again.** A method is resolved in the end, unless its key is lost. The kind
that was found at its turn decides how the two moments are compared. -/
theorem isResolved_or_losesKey (hkey : ¬ (schema.owner method).LacksKey)
    (hone : method.returnsOne = true) (h : schema.addForeignKey method = .ok middle)
    (hgrows : middle.Grows after) :
    after.IsResolved method ∨ ∃ inverseMethod, after.LosesKey method inverseMethod := by
  -- the step added nothing because the method was no belongs-to, or it added the column
  rcases addForeignKey_cases h with ⟨hbelongs, rfl⟩ | ⟨column, hbelongs, hcolumn, rfl⟩
  · obtain ⟨kind, hkind, hne⟩ := (isBelongsTo_eq_ok hone).1 hbelongs
    exact hgrows.isResolved_of_ne_belongsTo hkey hone hkind fun heq => by simp [heq] at hne
  · obtain ⟨kind, hkind, heq⟩ := (isBelongsTo_eq_ok hone).1 hbelongs
    obtain rfl : kind = .belongsTo := by simpa using heq
    have hall := (grows_addImpliedOf _ _ _ _).trans hgrows
    refine .inl (hall.isResolved_of_belongsTo hone hkind ?_)
    refine foreignKeyExists_eq_ok.2 ⟨column, ?_, ?_⟩
    · rw [hall.foreignKeyName_eq, hcolumn]
    · exact (hgrows.owner method).hasField (hasField_addImplied hkey column _)

/-! ## The turn of an entity, and of a method -/

/-- An entity that has got its primary key does not lack one. Either it was given one now, or it had
a primary key or an `id` before. -/
theorem not_lacksKey_addPrimaryKey {place : Nat} {entity : Entity}
    (hat : schema.entityAt? place = some entity) :
    ∃ keyed, (schema.addPrimaryKey place).entityAt? place = some keyed ∧ ¬ keyed.LacksKey := by
  refine ⟨_, by rw [addPrimaryKey, entityAt?_modifyEntity, if_pos rfl, hat, Option.map_some], ?_⟩
  split
  · rintro ⟨-, hid⟩
    rw [Bool.eq_false_iff] at hid
    exact hid (Entity.hasField_iff.2 ⟨_, List.mem_cons_self, rfl⟩)
  · next hnot =>
    rintro ⟨hkeys, hid⟩
    exact hnot (by rw [hkeys, hid]; rfl)

/-- An entity that does not lack a key gets none. -/
theorem addPrimaryKey_eq_self {place : Nat}
    (h : ∀ entity, schema.entityAt? place = some entity → ¬ entity.LacksKey) :
    schema.addPrimaryKey place = schema := by
  refine modifyEntity_eq_self fun entity hat => if_neg fun hlacks => ?_
  rw [Bool.and_eq_true, List.isEmpty_iff, Bool.not_eq_true'] at hlacks
  exact h entity hat hlacks

/-- The turn of an entity: what came before it and after it was growth. Each entity has its turn, as
the loop goes over all places. -/
theorem exists_addEntityFields (h : schema.addImpliedFields = .ok after) {place : Nat}
    {entity : Entity} (hat : schema.entityAt? place = some entity) :
    ∃ start stop, schema.Grows start ∧ start.addEntityFields place = .ok stop ∧
      stop.Grows after := by
  have hplace : place ∈ List.range schema.entities.length :=
    List.mem_range.2 (List.getElem?_eq_some_iff.1 hat).1
  exact exists_step_of_foldlM (R := Grows) .refl .trans
    (fun _ _ _ _ hstep => grows_addEntityFields hstep) h hplace

/-- In the end no entity lacks a key. The primary key comes at the start of the turn, and what comes
after it is growth. -/
theorem not_lacksKey_of_addImpliedFields (h : schema.addImpliedFields = .ok after) {place : Nat}
    {entity : Entity} (hat : after.entityAt? place = some entity) : ¬ entity.LacksKey := by
  obtain ⟨declared, hdeclared, -⟩ := (grows_addImpliedFields h).exists_entityAt?_before hat
  obtain ⟨start, stop, hstart, hturn, hstop⟩ := exists_addEntityFields h hdeclared
  obtain ⟨grown, hgrown, -⟩ := hstart.exists_entityAt? hdeclared
  obtain ⟨keyed, hkeyed, hkey⟩ := not_lacksKey_addPrimaryKey hgrown
  -- after the primary key has been added the methods of the entity only make it grow
  have hgrows : (start.addPrimaryKey place).Grows after := by
    rw [addEntityFields, hgrown] at hturn
    refine Grows.trans ?_ hstop
    refine foldlM_induction (P := fun reached => (start.addPrimaryKey place).Grows reached)
      (.refl _) ?_ hturn
    intro reached method next _ hreached hstep
    exact hreached.trans (grows_addMethodFields hstep)
  obtain ⟨last, hlast, hgrown'⟩ := hgrows.exists_entityAt? hkeyed
  obtain rfl : last = entity := Option.some.inj (hlast.symm.trans hat)
  exact fun hlacks => hkey (hgrown'.lacksKey hlacks)

/-- **The turn of a method.** Its entity has got its primary key before, and what came after it was
growth. The schema has to be placed: a method is then listed by the entity that owns it, and so its
turn comes in that of its owner. -/
theorem exists_addMethodFields (hplaced : schema.IsPlaced)
    (h : schema.addImpliedFields = .ok after) (hmethod : method ∈ schema.methods) :
    ∃ before middle, schema.Grows before ∧ ¬ (before.owner method).LacksKey ∧
      before.addMethodFields method = .ok middle ∧ middle.Grows after := by
  obtain ⟨place, entity, howner, hat, hmem⟩ := hplaced.exists_owner hmethod
  obtain ⟨start, stop, hstart, hturn, hstop⟩ := exists_addEntityFields h hat
  obtain ⟨grown, hgrown, hgrows⟩ := hstart.exists_entityAt? hat
  rw [addEntityFields, hgrown] at hturn
  -- what came before the turn of the entity left its methods alone
  have hmem' : method ∈ grown.methods := by
    have houtline := congrArg (·.methods) hgrows.outline_eq
    exact houtline ▸ hmem
  obtain ⟨before, middle, hbefore, hstep, hmiddle⟩ :=
    exists_step_of_foldlM (R := Grows) .refl .trans
      (fun _ _ _ _ hstep => grows_addMethodFields hstep) hturn hmem'
  refine ⟨before, middle, (hstart.trans (grows_addPrimaryKey _ _)).trans hbefore, ?_, hstep,
    hmiddle.trans hstop⟩
  obtain ⟨keyed, hkeyed, hkey⟩ := not_lacksKey_addPrimaryKey hgrown
  refine hbefore.not_lacksKey ?_
  rwa [owner, howner, entityOf?_some, hkeyed]

/-! ## The second run -/

/-- At the end nothing is left to add by the steps before the foreign key. The schemas between the
steps are all on the way from the turn to the end. -/
theorem addNamed_again (hkey : ¬ (schema.owner method).LacksKey)
    (h : schema.addMethodFields method = .ok middle) (hgrows : middle.Grows after) :
    after.addViaColumn method = .ok after ∧ after.addJoinKey method = .ok after ∧
      after.addMorphFields method = after := by
  obtain ⟨withVia, withJoin, hvia, hjoin, hlast⟩ := addMethodFields_eq_ok.1 h
  have hmorph : (withJoin.addMorphFields method).Grows after :=
    (grows_addForeignKey hlast).trans hgrows
  have hrest : withJoin.Grows after := (grows_addMorphFields _ _).trans hmorph
  have hkeyVia : ¬ (withVia.owner method).LacksKey := (grows_addViaColumn hvia).not_lacksKey hkey
  have hkeyJoin : ¬ (withJoin.owner method).LacksKey :=
    (grows_addJoinKey hjoin).not_lacksKey hkeyVia
  exact ⟨addViaColumn_again hkey hvia ((grows_addJoinKey hjoin).trans hrest),
    addJoinKey_again hkeyVia hjoin hrest, addMorphFields_again hkeyJoin hmorph⟩

/-- At the end nothing is left to add for a method that is resolved. -/
theorem addMethodFields_again (hkey : ¬ (schema.owner method).LacksKey)
    (h : schema.addMethodFields method = .ok middle) (hgrows : middle.Grows after)
    (hresolved : method.returnsOne = true → after.IsResolved method) :
    after.addMethodFields method = .ok after := by
  obtain ⟨hvia, hjoin, hmorph⟩ := addNamed_again hkey h hgrows
  refine addMethodFields_eq_ok.2 ⟨after, after, hvia, hjoin, ?_⟩
  rw [hmorph]
  exact addForeignKey_eq_self hresolved

/-- **Every method that returns one is resolved in the end, unless it loses its key.** There is no
third outcome, and nothing is asked of the document but that its fields could be added. -/
theorem isResolved_or_losesKey_of_addImpliedFields (hplaced : schema.IsPlaced)
    (h : schema.addImpliedFields = .ok after) (hmethod : method ∈ schema.methods)
    (hone : method.returnsOne = true) :
    after.IsResolved method ∨ ∃ inverseMethod, after.LosesKey method inverseMethod := by
  obtain ⟨before, middle, -, hkey, hstep, hgrows⟩ := exists_addMethodFields hplaced h hmethod
  obtain ⟨withVia, withJoin, hvia, hjoin, hlast⟩ := addMethodFields_eq_ok.1 hstep
  refine isResolved_or_losesKey ?_ hone hlast hgrows
  refine (grows_addMorphFields _ _).not_lacksKey ?_
  exact (grows_addJoinKey hjoin).not_lacksKey ((grows_addViaColumn hvia).not_lacksKey hkey)

/-- If all is resolved the second run finds nothing to add. A fold whose every step leaves the state
as it is leaves it as it is, and this is used for both loops. -/
theorem addImpliedFields_again (hplaced : schema.IsPlaced)
    (h : schema.addImpliedFields = .ok after)
    (hresolved : ∀ method ∈ schema.methods, method.returnsOne = true → after.IsResolved method) :
    after.addImpliedFields = .ok after := by
  refine foldlM_eq_self fun place _ => ?_
  rw [addEntityFields]
  cases hat : after.entityAt? place with
  | none => rfl
  | some entity =>
    have hkeyed : after.addPrimaryKey place = after :=
      addPrimaryKey_eq_self fun _ hat' => not_lacksKey_of_addImpliedFields h hat'
    simp only [hkeyed]
    refine foldlM_eq_self fun method hmethod => ?_
    have hmem : method ∈ schema.methods := by
      rw [← (grows_addImpliedFields h).methods_eq]
      exact mem_methods_of_mem (mem_entities_of_entityAt? hat) hmethod
    obtain ⟨before, middle, -, hkey, hstep, hgrows⟩ := exists_addMethodFields hplaced h hmem
    exact addMethodFields_again hkey hstep hgrows (hresolved method hmem)

/-- If the second run finds nothing to add all is resolved. -/
theorem isResolved_of_addImpliedFields_eq_self (hplaced : schema.IsPlaced)
    (h : schema.addImpliedFields = .ok schema) (hmethod : method ∈ schema.methods)
    (hone : method.returnsOne = true) : schema.IsResolved method := by
  obtain ⟨before, middle, hbefore, hkey, hstep, hgrows⟩ :=
    exists_addMethodFields hplaced h hmethod
  obtain ⟨withVia, withJoin, hvia, hjoin, hlast⟩ := addMethodFields_eq_ok.1 hstep
  -- all the schemas on the way are one
  have hmorph := grows_addMorphFields withJoin method
  have hfirst : schema.Grows (withJoin.addMorphFields method) :=
    ((hbefore.trans (grows_addViaColumn hvia)).trans (grows_addJoinKey hjoin)).trans hmorph
  have hlater : middle.Grows schema := hgrows
  have hsame : withJoin.addMorphFields method = schema :=
    hfirst.antisymm ((grows_addForeignKey hlast).trans hlater)
  have hmiddle : middle = schema :=
    (hfirst.trans (grows_addForeignKey hlast)).antisymm hlater
  rw [hsame, hmiddle] at hlast
  have hsettled : ¬ (schema.owner method).LacksKey := by
    obtain rfl : before = schema := hbefore.antisymm ((grows_addMethodFields hstep).trans hlater)
    exact hkey
  exact isResolved_of_addForeignKey hsettled hone hlast

/-- **Adding the implied fields again.** On the schema of a document it changes no field of any
entity, and does not fail, exactly when no method loses its key. -/
theorem addImpliedFields_again_iff {config : Config} {text : String}
    (hparse : Schema.parse config text = .ok schema) :
    (∃ again, schema.addImpliedFields = .ok again ∧
        again.entities.map (·.fields) = schema.entities.map (·.fields)) ↔
      ∀ method ∈ schema.methods, ∀ inverseMethod, ¬ schema.LosesKey method inverseMethod := by
  obtain ⟨document, hread, hfirst⟩ := parse_eq_ok.1 hparse
  have hplaced : schema.IsPlaced := isPlaced_of_parse hparse
  have hread' : document.schema.IsPlaced := Document.isPlaced_of_readText hread
  have hmethods : schema.methods = document.schema.methods :=
    (grows_addImpliedFields hfirst).methods_eq
  constructor
  · rintro ⟨again, hagain, hfields⟩ method hmethod inverseMethod hloses
    have hsame : again = schema := (grows_addImpliedFields hagain).eq_of_fields_eq hfields
    rw [hsame] at hagain
    exact hloses.not_isResolved
      (isResolved_of_addImpliedFields_eq_self hplaced hagain hmethod hloses.returnsOne)
  · intro hkeeps
    refine ⟨schema, addImpliedFields_again hread' hfirst fun method hmethod hone => ?_, rfl⟩
    rcases isResolved_or_losesKey_of_addImpliedFields hread' hfirst hmethod hone with
      hresolved | ⟨inverseMethod, hloses⟩
    · exact hresolved
    · exact absurd hloses (hkeeps method (hmethods ▸ hmethod) inverseMethod)

/-- The example keeps its keys, and the second run changes nothing. -/
theorem addImpliedFields_again_players :
    Schema.parse {} playersText = .ok players ∧
      ∃ again, players.addImpliedFields = .ok again ∧
        again.entities.map (·.fields) = players.entities.map (·.fields) := by
  refine ⟨parse_playersText, (addImpliedFields_again_iff parse_playersText).2 ?_⟩
  intro method hmethod inverseMethod hloses
  -- the only method that returns one has its column, so there is no key to lose
  have hheld : ∀ method ∈ players.methods, method.returnsOne = true →
      (foreignKeyExists (m := Except Error) players method).toOption = some true := by
    decide +kernel
  have hexists := eq_ok_of_toOption (hheld method hmethod hloses.returnsOne)
  rw [hloses.leavesKeyTo.isAbsent] at hexists
  cases hexists

/-! ## A key that is lost -/

/-- A document whose only join names `id` on both sides. -/
def phonesText : String :=
  "User1 (users)\n  phone1(): Phone1 <- Phone1.users1()\n" ++
    "Phone1 (phones)\n  users1(): User1[] <- User1.phone1(), Join(Phone1.id = User1.id)\n"

/-- What the document says. At the turn of the first entity the second one had no primary key, so
its `id` counted as a foreign key, and the first one got none. -/
def phones : Schema where
  entities := [
    { shortName := "User1", namespaceName := "\\App\\", table := "users", index? := some 0
      fields := [
        { name := "id", type := "increments", owner? := some 0, nullable := some false,
          primaryKey := true, implied := true }]
      methods := [
        { name := "phone1", owner? := some 0, position := 0, declaredType := some "Phone1",
          inverseOf := some "Phone1.users1()" }] },
    { shortName := "Phone1", namespaceName := "\\App\\", table := "phones", index? := some 1
      fields := [
        { name := "id", type := "increments", owner? := some 1, nullable := some false,
          primaryKey := true, implied := true }]
      methods := [
        { name := "users1", owner? := some 1, position := 0, declaredType := some "User1[]",
          inverseOf := some "User1.phone1()",
          join := some ⟨"Phone1.id = User1.id", ⟨"Phone1", "id", "User1", "id"⟩, none⟩ }] }]
  namespaces := OrderedMap.insert ∅ "\\App\\" "app/"

/-- The second run adds the foreign key that the first one did not. -/
theorem not_addImpliedFields_again_phones :
    Schema.parse {} phonesText = .ok phones ∧
      ¬ ∃ again, phones.addImpliedFields = .ok again ∧
        again.entities.map (·.fields) = phones.entities.map (·.fields) := by
  refine ⟨eq_ok_of_toOption (by decide +kernel), ?_⟩
  rintro ⟨again, hagain, hfields⟩
  -- the first entity has two fields after the second run and one before it
  have hcounts : (phones.addImpliedFields.toOption.map fun later =>
      later.entities.map (·.fields.length)) = some [2, 1] := by decide +kernel
  rw [hagain] at hcounts
  have hlengths := congrArg (·.map List.length) hfields
  simp only [List.map_map] at hlengths
  have hfalse : (some [2, 1] : Option (List Nat)) = some [1, 1] :=
    hcounts.symm.trans (congrArg some hlengths)
  exact absurd hfalse (by decide)

end Schema

end EntitySchema
