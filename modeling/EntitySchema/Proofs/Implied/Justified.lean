/-
Why each field is there.

A field of a finished schema was declared by a line, or it is the implied primary key, or it was
added for some method. The last kind is added while the schema is still growing, on answers that are
given too early to be those of the finished schema, so what has to be seen is that each addition is
still justified at the end. `AddsColumn` are the answers on which a column is added, `ImpliesColumn`
those by which a finished schema justifies it, and `AddsColumn.staysImplied` goes from the ones to
the others. The delicate case is a foreign key: a method that was a belongs-to when its column was
added is one at the end because it has the column.

`FillsUp` is the invariant of an entity while its methods have their turns. It lists the fields as
those that were given, followed by implied ones, and says of each of these that its name is new and
that one of the methods implies it in every schema that may come later. The turns of other entities
leave its fields alone, so the turn of an entity can be cut out of the run: before it the fields are
the declared ones, and after it they are the final ones.

Two things about the statement deserve a look. The justification of a column is in terms of the
finished schema only, with the answers that a resolver gives there, and not in terms of the moment
at which the column was added. And the converse is proved for the columns that a method names, which
are all there (`hasField_of_namesColumn`); the foreign key of a belongs-to is the subject of
`Implied.ForeignKeys`, since its converse needs a condition.

The order of the fields comes out as well: the implied primary key, then the declared fields as
their lines stand, then the columns of the methods.
-/
import EntitySchema.Proofs.Implied.Declared
import EntitySchema.Proofs.Implied.Idempotence
import EntitySchema.Proofs.Tracking.Relations

set_option autoImplicit false

namespace EntitySchema

open Outcome
open EntitySchema.Relation

namespace Schema

variable {schema after later : Schema} {method : Method} {column : String}

/-! ## Columns of a method -/

/-- The columns that a method names in so many words: the one it goes `via`, the one that its join
mentions, and the pair of a polymorphic method. The answers are those of a resolver that knows
nothing at the start. -/
inductive NamesColumn (schema : Schema) (method : Method) : String → Prop where
  | via {column : String} (hname : method.viaName? = some column)
      (hgoes : schema.goesViaColumn method = .ok true) : NamesColumn schema method column
  | join {column : String}
      (hkey : Tracked.evaluate (ownJoinKey schema method) = .ok (some column)) :
      NamesColumn schema method column
  | morphId (hpoly : method.isPolymorphic = true) : NamesColumn schema method (method.name ++ "_id")
  | morphType (hpoly : method.isPolymorphic = true) :
      NamesColumn schema method (method.name ++ "_type")

/-- The columns that a method implies: those that it names, and the foreign key of a belongs-to.
This is the reason that a finished schema can give for a field. -/
inductive ImpliesColumn (schema : Schema) (method : Method) : String → Prop where
  | named {column : String} (hnames : schema.NamesColumn method column) :
      ImpliesColumn schema method column
  | foreignKey {column : String}
      (hkind : Tracked.evaluate (Relation.kind schema method) = .ok .belongsTo)
      (hcolumn : Tracked.evaluate (foreignKeyName schema method) = .ok column) :
      ImpliesColumn schema method column

/-- The answers on which a column is added for a method. They are given by the schema of that
moment, read plainly, and the kind is hidden in `isBelongsTo`. -/
inductive AddsColumn (schema : Schema) (method : Method) : String → Prop where
  | via {column : String} (hname : method.viaName? = some column)
      (hgoes : schema.goesViaColumn method = .ok true) : AddsColumn schema method column
  | join {column : String}
      (hkey : ownJoinKey (m := Except Error) schema method = .ok (some column)) :
      AddsColumn schema method column
  | morphId (hpoly : method.isPolymorphic = true) : AddsColumn schema method (method.name ++ "_id")
  | morphType (hpoly : method.isPolymorphic = true) :
      AddsColumn schema method (method.name ++ "_type")
  | foreignKey {column : String}
      (hbelongs : isBelongsTo (m := Except Error) schema method = .ok true)
      (hcolumn : foreignKeyName (m := Except Error) schema method = .ok column) :
      AddsColumn schema method column

/-- **The steps of a method, with their reasons.** What survives every addition that the answers of
its moment ask for survives the steps of a method. Compared with `addMethodFields_induction`, the
hypothesis is told which schema the addition was made to and why. -/
theorem addMethodFields_steps {P : Schema → Prop}
    (hadd : ∀ reached column type, schema.Grows reached → reached.AddsColumn method column →
      P reached → P (reached.addImpliedOf method column type))
    (hstart : P schema) (h : schema.addMethodFields method = .ok after) : P after := by
  obtain ⟨withVia, withJoin, hvia, hjoin, hlast⟩ := addMethodFields_eq_ok.1 h
  have hfirst : P withVia := by
    rcases addViaColumn_cases hvia with ⟨-, rfl⟩ | ⟨column, hname, hgoes, rfl⟩
    · exact hstart
    · exact hadd _ _ _ (.refl _) (.via hname hgoes) hstart
  have hgrows : schema.Grows withJoin := (grows_addViaColumn hvia).trans (grows_addJoinKey hjoin)
  have hsecond : P withJoin := by
    rcases addJoinKey_cases hjoin with ⟨-, rfl⟩ | ⟨column, hkey, rfl⟩
    · exact hfirst
    · exact hadd _ _ _ (grows_addViaColumn hvia) (.join hkey) hfirst
  have hthird : P (withJoin.addMorphFields method) := by
    rw [addMorphFields]
    split
    · next hpoly =>
      refine hadd _ _ _ (hgrows.trans (grows_addImpliedOf _ _ _ _)) (.morphType hpoly) ?_
      exact hadd _ _ _ hgrows (.morphId hpoly) hsecond
    · exact hsecond
  rcases addForeignKey_cases hlast with ⟨-, rfl⟩ | ⟨column, hbelongs, hcolumn, rfl⟩
  · exact hthird
  · exact hadd _ _ _ (hgrows.trans (grows_addMorphFields _ _)) (.foreignKey hbelongs hcolumn) hthird

/-! ## Reasons that stay -/

/-- Whatever the schema may become, the method implies the column. Only placed schemas are meant,
since the answers of a resolver are compared with the plain ones there. -/
def StaysImplied (schema : Schema) (method : Method) (column : String) : Prop :=
  ∀ later : Schema, schema.Grows later → later.IsPlaced → later.ImpliesColumn method column

/-- A reason that stays is a reason later as well. -/
theorem StaysImplied.grows (h : schema.StaysImplied method column) (hgrows : schema.Grows later) :
    later.StaysImplied method column :=
  fun last hlast hplaced => h last (hgrows.trans hlast) hplaced

/-- Only a method that returns one is asked whether it is a belongs-to. -/
theorem kind_of_isBelongsTo (h : isBelongsTo (m := Except Error) schema method = .ok true) :
    method.returnsOne = true ∧
      Relation.kind (m := Except Error) schema method = .ok .belongsTo := by
  cases hone : method.returnsOne with
  | false =>
    unfold isBelongsTo at h
    rw [hone] at h
    cases h
  | true =>
    obtain ⟨kind, hkind, heq⟩ := (isBelongsTo_eq_ok hone).1 h
    obtain rfl : kind = .belongsTo := by simpa using heq
    exact ⟨rfl, hkind⟩

/-- **A column that is added stays implied.** One case a reason. Those that name a column keep their
answers as the schema grows; the foreign key is kept by the column itself. -/
theorem AddsColumn.staysImplied (h : schema.AddsColumn method column)
    (hmethod : method ∈ schema.methods) (hkey : ¬ (schema.owner method).LacksKey) (type : String) :
    (schema.addImpliedOf method column type).StaysImplied method column := by
  intro later hlater hplaced
  have hgrows : schema.Grows later := (grows_addImpliedOf _ _ _ _).trans hlater
  have hmem : method ∈ later.methods := hgrows.methods_eq ▸ hmethod
  cases h with
  | via hname hgoes => exact .named (.via hname (hgrows.goesViaColumn_eq method ▸ hgoes))
  | join hjoin =>
    refine .named (.join ?_)
    rw [(agrees_ownJoinKey hplaced hmem (Nat.le_refl 1)).evaluate_eq, hgrows.ownJoinKey_eq hkey,
      hjoin]
  | morphId hpoly => exact .named (.morphId hpoly)
  | morphType hpoly => exact .named (.morphType hpoly)
  | foreignKey hbelongs hcolumn =>
    have hname : foreignKeyName (m := Except Error) later method = .ok column := by
      rw [hgrows.foreignKeyName_eq, hcolumn]
    have hfield := (hlater.owner method).hasField (hasField_addImplied hkey column type)
    obtain ⟨hone, hbefore⟩ := kind_of_isBelongsTo hbelongs
    have hkind := hgrows.kind_eq_belongsTo hone hbefore
      (foreignKeyExists_eq_ok.2 ⟨column, hname, hfield⟩)
    refine .foreignKey ?_ ?_
    · rw [(agrees_kind hplaced hmem (Nat.le_refl 3)).evaluate_eq, hkind]
    · rw [(agrees_foreignKeyName hplaced hmem (Nat.le_refl 2)).evaluate_eq, hname]

/-! ## The turn of an entity -/

/-- The fields of the entity at a place are those that were given, and behind them implied ones,
each of which one of the methods implies for good. The given fields are the declared ones with the
implied primary key in front. -/
structure FillsUp (schema : Schema) (place : Nat) (methods : List Method)
    (given implied : List Field) : Prop where
  fields_eq : schema.fieldsAt place = given ++ implied
  isImplied : ∀ field ∈ implied, field.implied = true ∧ field.primaryKey = false
  nodup : (implied.map (·.name)).Nodup
  isNew : ∀ field ∈ implied, ∀ other ∈ given, other.name ≠ field.name
  isJustified : ∀ field ∈ implied, ∃ method ∈ methods, schema.StaysImplied method field.name

/-- A column is added behind the fields, unless there is one of that name. So the names of the
implied fields are new, and they differ from each other. -/
theorem fieldsAt_addImplied (schema : Schema) (place : Nat) (name type : String) :
    (schema.addImplied place name type).fieldsAt place = schema.fieldsAt place ∨
      ∃ field, field.name = name ∧ field.implied = true ∧ field.primaryKey = false ∧
        (∀ other ∈ schema.fieldsAt place, other.name ≠ name) ∧
        (schema.addImplied place name type).fieldsAt place = schema.fieldsAt place ++ [field] := by
  rw [fieldsAt, addImplied, entityAt?_modifyEntity, if_pos rfl]
  cases hat : schema.entityAt? place with
  | none => exact .inl (by rw [fieldsAt, hat]; rfl)
  | some entity =>
    rw [fieldsAt_of_entityAt? hat, Option.map_some, Option.elim_some]
    split
    · exact .inl rfl
    · next hfield =>
      refine .inr ⟨_, rfl, rfl, rfl, ?_, rfl⟩
      intro other hother hname
      exact hfield (Entity.hasField_iff.2 ⟨other, hother, hname⟩)

namespace FillsUp

variable {place : Nat} {methods : List Method} {given implied : List Field}

/-- Growth that leaves the fields of the entity keeps the invariant. The reasons are about every
later schema, and need no second look. -/
theorem of_grows (h : schema.FillsUp place methods given implied) (hgrows : schema.Grows later)
    (hfields : later.fieldsAt place = schema.fieldsAt place) :
    later.FillsUp place methods given implied := by
  refine ⟨hfields.trans h.fields_eq, h.isImplied, h.nodup, h.isNew, ?_⟩
  intro field hfield
  obtain ⟨method, hmethod, hstays⟩ := h.isJustified field hfield
  exact ⟨method, hmethod, hstays.grows hgrows⟩

/-- **One more column.** If it is there already nothing changes. Otherwise it is put behind the
implied ones, its name is that of no other field, and the reason for it is the one that is given. -/
theorem exists_addImplied (h : schema.FillsUp place methods given implied)
    (hmethod : method ∈ methods) {type : String}
    (hstays : (schema.addImplied place column type).StaysImplied method column) :
    ∃ more, (schema.addImplied place column type).FillsUp place methods given more := by
  have hgrows := grows_addImplied schema place column type
  rcases fieldsAt_addImplied schema place column type with
    hsame | ⟨field, rfl, himplied, hkey, hnew, hfields⟩
  · exact ⟨implied, h.of_grows hgrows hsame⟩
  rw [h.fields_eq] at hnew
  refine ⟨implied ++ [field], ?fields, ?isImplied, ?nodup, ?isNew, ?isJustified⟩
  case fields => rw [hfields, h.fields_eq, List.append_assoc]
  case isImplied =>
    intro other hother
    rcases List.mem_append.1 hother with hold | hlast
    · exact h.isImplied other hold
    · obtain rfl := List.mem_singleton.1 hlast
      exact ⟨himplied, hkey⟩
  case nodup =>
    rw [List.map_append, List.map_singleton, List.nodup_append]
    refine ⟨h.nodup, List.nodup_singleton _, ?_⟩
    intro name hname last hlast
    obtain ⟨other, hother, rfl⟩ := List.mem_map.1 hname
    rw [List.mem_singleton.1 hlast]
    exact hnew other (List.mem_append_right _ hother)
  case isNew =>
    intro other hother before hbefore
    rcases List.mem_append.1 hother with hold | hlast
    · exact h.isNew other hold before hbefore
    · obtain rfl := List.mem_singleton.1 hlast
      exact hnew before (List.mem_append_left _ hbefore)
  case isJustified =>
    intro other hother
    rcases List.mem_append.1 hother with hold | hlast
    · obtain ⟨earlier, hearlier, hstays⟩ := h.isJustified other hold
      exact ⟨earlier, hearlier, hstays.grows hgrows⟩
    · obtain rfl := List.mem_singleton.1 hlast
      exact ⟨method, hmethod, hstays⟩

/-- The turn of a method. Each column that it adds has one of the reasons above. -/
theorem exists_addMethodFields (h : schema.FillsUp place methods given implied)
    (hmethod : method ∈ methods) (howner : method.owner? = some place)
    (hmem : method ∈ schema.methods) (hkey : ¬ (schema.owner method).LacksKey)
    (hafter : schema.addMethodFields method = .ok after) :
    ∃ more, after.FillsUp place methods given more := by
  refine addMethodFields_steps (P := fun reached =>
    ∃ more, reached.FillsUp place methods given more) ?_ ⟨implied, h⟩ hafter
  rintro reached column type hgrows hadds ⟨more, hmore⟩
  have hreached : method ∈ reached.methods := hgrows.methods_eq.symm ▸ hmem
  have hstays := hadds.staysImplied hreached (hgrows.not_lacksKey hkey) type
  rw [addImpliedOf, howner, placeOf_some] at hstays ⊢
  exact hmore.exists_addImplied hmethod hstays

end FillsUp

/-- The primary key that is implied for fields that have none. It is empty if the fields have a
primary key or a field `id`. -/
def keyFor (config : Config) (policy : Policy) (place : Nat) (declared : List Field) :
    List Field :=
  if declared.any (·.primaryKey) || declared.any (·.name == "id") then []
  else
    [{ name := "id", type := config.primaryKeyType, owner? := some place, nullable := some false,
       primaryKey := true, implied := true, policy }]

/-- The implied primary key stands in front of the fields. As the schema is placed, the key gets the
place as its owner. -/
theorem fieldsAt_addPrimaryKey (hplaced : schema.IsPlaced) {place : Nat} {entity : Entity}
    (hat : schema.entityAt? place = some entity) :
    (schema.addPrimaryKey place).fieldsAt place =
      keyFor schema.config schema.policy place entity.fields ++ entity.fields := by
  have hlacks : (entity.primaryKeys.isEmpty && !entity.hasField "id") =
      !(entity.fields.any (·.primaryKey) || entity.fields.any (·.name == "id")) := by
    rw [Bool.eq_iff_iff]
    simp [Entity.primaryKeys, Entity.hasField, Entity.fieldNames]
  rw [fieldsAt, addPrimaryKey, entityAt?_modifyEntity, if_pos rfl, hat, Option.map_some,
    Option.elim_some, hlacks, keyFor]
  cases entity.fields.any (·.primaryKey) || entity.fields.any (·.name == "id") with
  | true => rfl
  | false =>
    rw [← (hplaced.entity place entity hat).index_eq]
    rfl

/-- The turn of an entity keeps all places. -/
theorem isPlaced_addEntityFields (hplaced : schema.IsPlaced) {place : Nat}
    (h : schema.addEntityFields place = .ok after) : after.IsPlaced :=
  addEntityFields_induction (P := fun reached => reached.IsPlaced)
    (fun _ _ _ _ hreached => hreached.addImplied _ _ _)
    (fun _ _ hreached => hreached.addPrimaryKey _) hplaced h

/-- **The turn of an entity.** It starts with the primary key and no implied column, and each of its
methods adds to them. That the entity does not lack a key is carried along, since the reasons need
it. -/
theorem exists_fillsUp_addEntityFields (hplaced : schema.IsPlaced) {place : Nat} {entity : Entity}
    (hat : schema.entityAt? place = some entity) (h : schema.addEntityFields place = .ok after) :
    ∃ implied, after.FillsUp place entity.methods
      (keyFor schema.config schema.policy place entity.fields ++ entity.fields) implied := by
  have hkeyed : (schema.addPrimaryKey place).FillsUp place entity.methods
      (keyFor schema.config schema.policy place entity.fields ++ entity.fields) [] := by
    refine ⟨?_, ?_, List.nodup_nil, ?_, ?_⟩
    · rw [fieldsAt_addPrimaryKey hplaced hat, List.append_nil]
    all_goals exact fun _ hmem => nomatch hmem
  have hgrows := grows_addPrimaryKey schema place
  obtain ⟨keyed, hkeyedAt, hkey⟩ := not_lacksKey_addPrimaryKey hat
  rw [addEntityFields, hat] at h
  refine (foldlM_induction (P := fun reached => (schema.addPrimaryKey place).Grows reached ∧
    ∃ implied, reached.FillsUp place entity.methods _ implied) ⟨.refl _, [], hkeyed⟩ ?_ h).2
  rintro reached method next hmethod ⟨hreached, implied, hfills⟩ hnext
  have howner := hplaced.owner_of_mem_methods hat hmethod
  have hmem : method ∈ reached.methods := by
    rw [(hgrows.trans hreached).methods_eq]
    exact mem_methods_of_mem (mem_entities_of_entityAt? hat) hmethod
  have hlacks : ¬ (reached.owner method).LacksKey := by
    refine hreached.not_lacksKey ?_
    rwa [owner, howner, entityOf?_some, hkeyedAt]
  exact ⟨hreached.trans (grows_addMethodFields hnext),
    hfills.exists_addMethodFields hmethod howner hmem hlacks hnext⟩

/-! ## The turns of other entities -/

/-- The turn of a method of another entity leaves the fields alone. All its columns go to the
owner. -/
theorem fieldsAt_addMethodFields_of_ne {index place : Nat} (howner : method.owner? = some index)
    (hne : index ≠ place) (h : schema.addMethodFields method = .ok after) :
    after.fieldsAt place = schema.fieldsAt place := by
  refine addMethodFields_steps (P := fun reached =>
    reached.fieldsAt place = schema.fieldsAt place) ?_ rfl h
  intro reached column type _ _ hreached
  rw [addImpliedOf, howner, placeOf_some]
  exact (fieldsAt_modifyEntity_of_ne hne _).trans hreached

/-- The turn of another entity leaves the fields alone, its primary key included. -/
theorem fieldsAt_addEntityFields_of_ne (hplaced : schema.IsPlaced) {index place : Nat}
    (hne : index ≠ place) (h : schema.addEntityFields index = .ok after) :
    after.fieldsAt place = schema.fieldsAt place := by
  rw [addEntityFields] at h
  split at h
  · exact Except.ok.inj h ▸ rfl
  · next entity hat =>
    refine foldlM_induction (P := fun reached => reached.fieldsAt place = schema.fieldsAt place)
      (fieldsAt_modifyEntity_of_ne hne _) ?_ h
    intro reached method next hmethod hreached hnext
    have howner := hplaced.owner_of_mem_methods hat hmethod
    exact (fieldsAt_addMethodFields_of_ne howner hne hnext).trans hreached

/-- The turns of other entities leave the fields alone. It is said of any list of places in which
the place does not occur, to be used for what comes before the turn and for what comes after it. -/
theorem fieldsAt_foldlM_addEntityFields {places : List Nat} {place : Nat}
    (hplaced : schema.IsPlaced) (hplace : place ∉ places)
    (h : places.foldlM addEntityFields schema = .ok after) :
    after.IsPlaced ∧ schema.Grows after ∧ after.fieldsAt place = schema.fieldsAt place := by
  refine foldlM_induction (P := fun reached => reached.IsPlaced ∧ schema.Grows reached ∧
    reached.fieldsAt place = schema.fieldsAt place) ⟨hplaced, .refl _, rfl⟩ ?_ h
  rintro reached index next hindex ⟨hreached, hgrows, hfields⟩ hnext
  have hne : index ≠ place := fun heq => hplace (heq ▸ hindex)
  exact ⟨isPlaced_addEntityFields hreached hnext, hgrows.trans (grows_addEntityFields hnext),
    (fieldsAt_addEntityFields_of_ne hreached hne hnext).trans hfields⟩

/-- **The fields of an entity at the end.** The places are cut at the one of the entity. It occurs
once, so the turns before it and after it belong to others. -/
theorem exists_fillsUp_addImpliedFields (hplaced : schema.IsPlaced) {place : Nat} {entity : Entity}
    (hat : schema.entityAt? place = some entity) (h : schema.addImpliedFields = .ok after) :
    ∃ implied, after.FillsUp place entity.methods
      (keyFor schema.config schema.policy place entity.fields ++ entity.fields) implied := by
  have hplace : place ∈ List.range schema.entities.length :=
    List.mem_range.2 (List.getElem?_eq_some_iff.1 hat).1
  -- the entity has one turn, and there are others before it and after it
  obtain ⟨done, rest, hrange⟩ := List.append_of_mem hplace
  have hnodup : (done ++ place :: rest).Nodup := hrange ▸ List.nodup_range
  have hdone : place ∉ done := fun hmem =>
    (List.nodup_append.1 hnodup).2.2 place hmem place List.mem_cons_self rfl
  have hrest : place ∉ rest := (List.nodup_cons.1 (List.nodup_append.1 hnodup).2.1).1
  rw [addImpliedFields, hrange, List.foldlM_append, bind_eq_ok] at h
  obtain ⟨start, hstart, h⟩ := h
  rw [List.foldlM_cons, bind_eq_ok] at h
  obtain ⟨stop, hturn, hstop⟩ := h
  obtain ⟨hplacedStart, hgrowsStart, hfieldsStart⟩ :=
    fieldsAt_foldlM_addEntityFields hplaced hdone hstart
  obtain ⟨-, hgrowsStop, hfieldsStop⟩ :=
    fieldsAt_foldlM_addEntityFields (isPlaced_addEntityFields hplacedStart hturn) hrest hstop
  obtain ⟨grown, hgrown, hgrows⟩ := hgrowsStart.exists_entityAt? hat
  obtain ⟨implied, hfills⟩ := exists_fillsUp_addEntityFields hplacedStart hgrown hturn
  have hmethods : grown.methods = entity.methods := congrArg (·.methods) hgrows.outline_eq
  have hfields : grown.fields = entity.fields := by
    rw [← fieldsAt_of_entityAt? hgrown, hfieldsStart, fieldsAt_of_entityAt? hat]
  have hconfig : start.config = schema.config := congrArg (·.config) hgrowsStart.outline_eq
  have hpolicy : start.policy = schema.policy := congrArg (·.policy) hgrowsStart.outline_eq
  rw [hmethods, hfields, hconfig, hpolicy] at hfills
  exact ⟨implied, hfills.of_grows hgrowsStop hfieldsStop⟩

/-! ## Columns that are named are there -/

/-- If the pair of a polymorphic method is there, each of the two columns is. The first is added
before the second, and a growth that is taken back has not begun. -/
theorem addImplied_of_addMorphFields (hpoly : method.isPolymorphic = true)
    (h : schema.addMorphFields method = schema) :
    schema.addImpliedOf method (method.name ++ "_id") schema.config.foreignKeyType = schema ∧
      schema.addImpliedOf method (method.name ++ "_type") schema.config.morphTypeType =
        schema := by
  rw [addMorphFields, if_pos hpoly] at h
  have hlast := grows_addImpliedOf (schema.addImpliedOf method (method.name ++ "_id")
    schema.config.foreignKeyType) method (method.name ++ "_type") schema.config.morphTypeType
  rw [h] at hlast
  have hfirst := (grows_addImpliedOf _ _ _ _).antisymm hlast
  rw [hfirst] at h
  exact ⟨hfirst, h⟩

/-- **In a finished schema every column that a method names is there.** At the end the steps of the
method find nothing to add, and so the column that one of them would add is there. -/
theorem hasField_of_namesColumn (hplaced : schema.IsPlaced)
    (h : schema.addImpliedFields = .ok after) (hafter : after.IsPlaced)
    (hmethod : method ∈ schema.methods) (hnames : after.NamesColumn method column) :
    (after.owner method).hasField column = true := by
  obtain ⟨before, middle, -, hbefore, hstep, hgrows⟩ := exists_addMethodFields hplaced h hmethod
  obtain ⟨hvia, hjoin, hmorph⟩ := addNamed_again hbefore hstep hgrows
  have hmem : method ∈ after.methods := (grows_addImpliedFields h).methods_eq.symm ▸ hmethod
  have hkey : ¬ (after.owner method).LacksKey :=
    ((grows_addMethodFields hstep).trans hgrows).not_lacksKey hbefore
  -- the step that would add the column finds nothing to add
  have hthere : ∀ name type, after.addImpliedOf method name type = after →
      (after.owner method).hasField name = true := by
    intro name type heq
    have hfield := hasField_addImplied hkey name type
    rwa [heq] at hfield
  cases hnames with
  | via hname hgoes =>
    rcases addViaColumn_cases hvia with ⟨hnot, -⟩ | ⟨other, hother, -, heq⟩
    · rw [hgoes] at hnot
      cases hnot
    · obtain rfl : column = other := Option.some.inj (hname.symm.trans hother)
      exact hthere _ _ heq.symm
  | join hjoinKey =>
    rw [(agrees_ownJoinKey hafter hmem (Nat.le_refl 1)).evaluate_eq] at hjoinKey
    rcases addJoinKey_cases hjoin with ⟨hnone, -⟩ | ⟨other, hother, heq⟩
    · rw [hjoinKey] at hnone
      cases hnone
    · obtain rfl : column = other :=
        Option.some.inj (Except.ok.inj (hjoinKey.symm.trans hother))
      exact hthere _ _ heq.symm
  | morphId hpoly => exact hthere _ _ (addImplied_of_addMorphFields hpoly hmorph).1
  | morphType hpoly => exact hthere _ _ (addImplied_of_addMorphFields hpoly hmorph).2

/-! ## Documents -/

/-- **Every field of an entity is declared or justified.** The fields of an entity are the implied
primary key, if its lines declare neither a primary key nor a field `id`; the fields that its lines
declare, as they stand there; and implied fields with names of their own, each of which one of its
methods implies. Every column that a method names is among them. -/
theorem fields_of_parse {config : Config} {text : String} {entity : Entity} {place : Nat}
    (hparse : parse config text = .ok schema) (hat : schema.entityAt? place = some entity) :
    (∃ declared implied : List Field,
      declared = (Document.start config).fieldsDeclared place (Lines.ofText text).lines ∧
      entity.fields = keyFor config schema.policy place declared ++ declared ++ implied ∧
      (∀ field ∈ implied, field.implied = true ∧ field.primaryKey = false ∧
        (∀ other ∈ keyFor config schema.policy place declared ++ declared,
          other.name ≠ field.name) ∧
        ∃ method ∈ entity.methods, schema.ImpliesColumn method field.name) ∧
      (implied.map (·.name)).Nodup) ∧
    ∀ method ∈ entity.methods, ∀ column, schema.NamesColumn method column →
      entity.hasField column = true := by
  obtain ⟨document, hread, himplied⟩ := parse_eq_ok.1 hparse
  have hplaced : document.schema.IsPlaced := Document.isPlaced_of_readText hread
  have hfinished : schema.IsPlaced := isPlaced_of_parse hparse
  have hgrows := grows_addImpliedFields himplied
  obtain ⟨before, hbefore, hgrown⟩ := hgrows.exists_entityAt?_before hat
  have hmethods : before.methods = entity.methods :=
    (congrArg (·.methods) hgrown.outline_eq).symm
  constructor
  · obtain ⟨implied, hfills⟩ := exists_fillsUp_addImpliedFields hplaced hbefore himplied
    have hconfig : document.schema.config = config := Document.config_of_readText hread
    have hpolicy : document.schema.policy = schema.policy :=
      (congrArg (·.policy) hgrows.outline_eq).symm
    have hdeclared : before.fields =
        (Document.start config).fieldsDeclared place (Lines.ofText text).lines := by
      rw [← fieldsAt_of_entityAt? hbefore, Document.fieldsAt_of_readText place hread]
    rw [hmethods, hconfig, hpolicy] at hfills
    refine ⟨before.fields, implied, hdeclared, ?_, ?_, hfills.nodup⟩
    · rw [← fieldsAt_of_entityAt? hat, hfills.fields_eq]
    · intro field hfield
      obtain ⟨hisImplied, hkey⟩ := hfills.isImplied field hfield
      obtain ⟨method, hmethod, hstays⟩ := hfills.isJustified field hfield
      exact ⟨hisImplied, hkey, hfills.isNew field hfield, method, hmethod,
        hstays schema (.refl schema) hfinished⟩
  · intro method hmethod column hnames
    have hmem : method ∈ document.schema.methods := by
      rw [← hgrows.methods_eq]
      exact mem_methods_of_mem (mem_entities_of_entityAt? hat) hmethod
    have hfield := hasField_of_namesColumn hplaced himplied hfinished hmem hnames
    rwa [hfinished.owner_eq hat hmethod] at hfield

/-- A document with columns of several kinds: a primary key that is declared and one that is not, a
column that a method goes `via`, and the pair of a polymorphic method. -/
def libraryText : String :=
  "Author1 (authors)\n  name: string PrimaryKey\nBook1 (books)\n  title: string NotNull\n" ++
    "  editor1() via edited_by: Author1\n  subject1(): Author1|Book1\n"

/-- The field that the lines of the books declare. -/
def title : Field where
  name := "title"
  type := "string"
  owner? := some 1
  nullable := some false

/-- The books at the end. -/
def book : Entity where
  shortName := "Book1"
  namespaceName := "\\App\\"
  table := "books"
  index? := some 1
  fields := [
    { name := "id", type := "increments", owner? := some 1, nullable := some false,
      primaryKey := true, implied := true },
    title,
    { name := "edited_by", type := "integer", owner? := some 1, implied := true },
    { name := "subject1_id", type := "integer", owner? := some 1, implied := true },
    { name := "subject1_type", type := "string", owner? := some 1, implied := true }]
  methods := [
    { name := "editor1", owner? := some 1, position := 0, declaredType := some "Author1",
      via := some "edited_by" },
    { name := "subject1", owner? := some 1, position := 1, declaredType := some "Author1|Book1" }]

/-- What the document says. -/
def library : Schema where
  entities := [
    { shortName := "Author1", namespaceName := "\\App\\", table := "authors", index? := some 0
      fields := [{ name := "name", type := "string", owner? := some 0, primaryKey := true }] },
    book]
  namespaces := OrderedMap.insert ∅ "\\App\\" "app/"

/-- The books get their `id` in front of the title, and behind it the column of the editor and the
pair of the subject. -/
theorem fields_of_parse_libraryText :
    parse {} libraryText = .ok library ∧ library.entityAt? 1 = some book ∧
      ∃ implied, book.fields = keyFor {} {} 1 [title] ++ [title] ++ implied ∧
        ∀ field ∈ implied, ∃ method ∈ book.methods, library.ImpliesColumn method field.name := by
  have hparse : parse {} libraryText = .ok library := eq_ok_of_toOption (by decide +kernel)
  have hat : library.entityAt? 1 = some book := rfl
  have htitle : (Document.start {}).fieldsDeclared 1 (Lines.ofText libraryText).lines =
      [title] := by decide +kernel
  obtain ⟨⟨declared, implied, hdeclared, hfields, hjustified, -⟩, -⟩ := fields_of_parse hparse hat
  rw [htitle] at hdeclared
  subst hdeclared
  exact ⟨hparse, hat, implied, hfields, fun field hfield => (hjustified field hfield).2.2.2⟩

end Schema

end EntitySchema
