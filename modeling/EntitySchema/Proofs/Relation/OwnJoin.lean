/-
The foreign key of a belongs-to that has its own join.

A join on a method says twice what the column of the foreign key is. That the method is a belongs-to
is decided by its own join, and so is the column that is added for the join. The name of the key,
however, is never read from the method's own join: it is read from the join that the inverse goes
by, and if that names no column of the entity it is formed from the name of the method. Only when
the way over the inverse comes back to the method are the two the same join.

`holdsKeyIn_iff` is the condition under which all answers about the key agree on one column. It
holds when the inverse has no join of its own and leads back, and it fails when there is no inverse:
then the entity gets one column for the join and another one for the key.

The answers that are compared are three: the name of the key, the foreign key in a description, and
the columns that the method implies. The first two are one question, as a belongs-to is described
with its key (`foreignKey_of_describe_belongsTo`). The third is computed in `impliesColumn_iff`: a
belongs-to of this form implies its key, and the column that its join mentions unless that is a
primary key. So the condition has two parts. The first says that the key is the column in question,
and speaks about the inverse; the second says that the join adds no other column, and speaks about
the join alone.

A join may mention its own entity on both sides, and then the two questions that are asked of it,
for a field and for a field other than `id`, can have different answers. This is why the second part
is there, and why the case that is known to be good asks for two different tables.
-/
import EntitySchema.Proofs.Implied.Justified
import EntitySchema.Proofs.Relation.HasSides

set_option autoImplicit false

namespace EntitySchema

open Outcome

/-- A join mentions a field of a table in its first condition, on the left or on the right. -/
def Join.Mentions (join : Join) (table field : String) : Prop :=
  join.first.leftTable = table ∧ join.first.leftField = field ∨
    join.first.rightTable = table ∧ join.first.rightField = field

namespace Join

variable {join : Join} {table field : String}

/-- A table that stands on one side only is mentioned with one field. On both sides, the left one
would be found. -/
theorem Mentions.fieldOf?_eq (h : join.Mentions table field)
    (hother : join.first.leftTable ≠ join.first.rightTable) :
    join.fieldOf? table = some field := by
  rw [fieldOf?]
  rcases h with ⟨rfl, rfl⟩ | ⟨rfl, rfl⟩
  · rw [if_pos rfl]
  · rw [if_neg hother, if_pos rfl]

/-- The same when the field is asked for as a key. It must not be `id`, which is passed over. -/
theorem Mentions.keyOf?_eq (h : join.Mentions table field)
    (hother : join.first.leftTable ≠ join.first.rightTable) (hid : field ≠ "id") :
    join.keyOf? table = some field := by
  rw [keyOf?]
  rcases h with ⟨rfl, rfl⟩ | ⟨rfl, rfl⟩
  · rw [if_pos ⟨rfl, hid⟩]
  · rw [if_neg fun hleft => hother hleft.1, if_pos ⟨rfl, hid⟩]

end Join

namespace Relation

variable {schema : Schema} {method : Method} {key column : String}

/-! ## The way over the inverse -/

/-- The key that the inverse gives is read from the join that the inverse goes by. This may be the
join of its own inverse, and so that of the method. -/
theorem keyFromInverse_eq_some :
    keyFromInverse (m := Except Error) schema method = .ok (some column) ↔
      ∃ other join, inverse (m := Except Error) schema method = .ok other ∧
        joinOfEitherSide (m := Except Error) schema other = .ok (some join) ∧
          join.keyOf? (schema.owner method).shortName = some column := by
  unfold keyFromInverse joinKeyIn
  rw [bind_eq_ok]
  constructor
  · rintro ⟨other, hinverse, h⟩
    obtain ⟨found, hfound, h⟩ := bind_pure_eq_ok.1 h
    obtain ⟨join, rfl, hkey⟩ := Option.bind_eq_some_iff.1 h
    exact ⟨other, join, hinverse, hfound, hkey⟩
  · rintro ⟨other, join, hinverse, hjoin, hkey⟩
    exact ⟨other, hinverse, bind_pure_eq_ok.2 ⟨some join, hjoin, hkey⟩⟩

/-- Without `via` the key is what the inverse gives, or else what convention names. The inverse
gives nothing if there is none, if it goes by no join, or if its join names no key of the entity. -/
theorem foreignKeyName_cases (hvia : method.viaName? = none)
    (h : foreignKeyName (m := Except Error) schema method = .ok key) :
    keyFromInverse (m := Except Error) schema method = .ok (some key) ∨
      (∀ column, keyFromInverse (m := Except Error) schema method ≠ .ok (some column)) ∧
        key = conventionalKey method := by
  have hgoes : schema.goesViaColumn method = .ok false := by
    rw [Schema.goesViaColumn, hvia]
    rfl
  unfold foreignKeyName at h
  rw [hgoes, hvia] at h
  obtain ⟨goes, hlifted, h⟩ := bind_eq_ok.1 h
  obtain rfl : false = goes := Except.ok.inj hlifted
  obtain ⟨found, hfound, h⟩ := bind_eq_ok.1 h
  rcases found with _ | _ | given
  · -- the lookup of the inverse has failed
    refine .inr ⟨fun column hcolumn => ?_, (Except.ok.inj h).symm⟩
    rw [LookupMonad.attempt_eq_some.2 hcolumn] at hfound
    cases hfound
  · rw [LookupMonad.attempt_eq_some] at hfound
    refine .inr ⟨fun column hcolumn => ?_, (Except.ok.inj h).symm⟩
    rw [hfound] at hcolumn
    cases hcolumn
  · obtain rfl := Except.ok.inj h
    exact .inl (LookupMonad.attempt_eq_some.1 hfound)

/-- The join that the inverse of a method goes by, be it its own or that of its own inverse, names a
column for the entity of the method. -/
def InverseNames (schema : Schema) (method : Method) (column : String) : Prop :=
  ∃ other join, Tracked.evaluate (inverse schema method) = .ok other ∧
    Tracked.evaluate (joinOfEitherSide schema other) = .ok (some join) ∧
      join.keyOf? (schema.owner method).shortName = some column

/-- The tracked lookups find what the plain ones give. The statement is in terms of the first, the
proof of the second. -/
theorem inverseNames_iff (hplaced : schema.IsPlaced) (hmethod : method ∈ schema.methods) :
    InverseNames schema method column ↔
      keyFromInverse (m := Except Error) schema method = .ok (some column) := by
  have hjoin : ∀ other, inverse (m := Except Error) schema method = .ok other →
      Tracked.evaluate (joinOfEitherSide schema other) = joinOfEitherSide schema other :=
    fun other hother =>
      (agrees_joinOfEitherSide hplaced (mem_of_inverse hother) (Nat.le_refl 1)).evaluate_eq
  rw [keyFromInverse_eq_some, InverseNames, evaluate_inverse hplaced hmethod]
  constructor
  · rintro ⟨other, join, hinverse, hfound, hkey⟩
    exact ⟨other, join, hinverse, by rw [← hjoin other hinverse, hfound], hkey⟩
  · rintro ⟨other, join, hinverse, hfound, hkey⟩
    exact ⟨other, join, hinverse, by rw [hjoin other hinverse, hfound], hkey⟩

/-- A column is the key exactly if the inverse names it, or names none and convention does. -/
theorem eq_foreignKeyName_iff (hplaced : schema.IsPlaced) (hmethod : method ∈ schema.methods)
    (hvia : method.viaName? = none)
    (h : foreignKeyName (m := Except Error) schema method = .ok key) :
    key = column ↔ InverseNames schema method column ∨
      (∀ other, ¬ InverseNames schema method other) ∧ column = conventionalKey method := by
  simp only [inverseNames_iff hplaced hmethod]
  rcases foreignKeyName_cases hvia h with hgiven | ⟨hnone, rfl⟩
  · rw [hgiven]
    constructor
    · rintro rfl
      exact .inl rfl
    · rintro (heq | ⟨hnone, -⟩)
      · exact Option.some.inj (Except.ok.inj heq)
      · exact absurd rfl (hnone key)
  · constructor
    · rintro rfl
      exact .inr ⟨hnone, rfl⟩
    · rintro (hgiven | ⟨-, rfl⟩)
      · exact absurd hgiven (hnone column)
      · rfl

/-! ## All answers about the key -/

/-- The foreign key of a method is in one column, whoever is asked: the name of the key, the
description of the method, and the columns that the method implies. A description may fail, for
other reasons, and then nothing is asked of it. -/
structure HoldsKeyIn (schema : Schema) (method : Method) (column : String) : Prop where
  foreignKeyName_eq : Tracked.evaluate (foreignKeyName schema method) = .ok column
  described : ∀ description, Tracked.evaluate (describe schema method) = .ok description →
    description.foreignKey = some column
  implied : ∀ other, schema.ImpliesColumn method other → other = column

/-- A belongs-to is described with its key, whatever else the description needs. -/
theorem foreignKey_of_describe_belongsTo {description : RelationDescription}
    (hkind : Relation.kind (m := Except Error) schema method = .ok .belongsTo)
    (hkey : foreignKeyName (m := Except Error) schema method = .ok key)
    (h : describe (m := Except Error) schema method = .ok description) :
    description.foreignKey = some key := by
  unfold describe at h
  rw [hkind, ok_bind] at h
  dsimp only at h
  unfold describeBelongsTo at h
  obtain ⟨related, -, h⟩ := bind_eq_ok.1 h
  rw [hkey, ok_bind] at h
  obtain ⟨ownerKey, -, h⟩ := bind_eq_ok.1 h
  rw [← Except.ok.inj h]

/-- A belongs-to has a key. The rule for relations with one entity begins with asking for its
name. -/
theorem exists_foreignKeyName_of_belongsTo
    (hkind : Relation.kind (m := Except Error) schema method = .ok .belongsTo) :
    ∃ key, foreignKeyName (m := Except Error) schema method = .ok key := by
  rcases kind_cases (returnsOne_of_belongsTo hkind) hkind with ⟨-, ⟨⟩⟩ | ⟨-, ⟨-, ⟨⟩⟩ | ⟨-, hsingle⟩⟩
  unfold singleKind at hsingle
  obtain ⟨key, hkey, -⟩ := bind_eq_ok.1 hsingle
  exact ⟨key, hkey⟩

/-- A belongs-to with its own join and without `via` implies its key, and the field that its join
mentions of its entity, unless that is a primary key. -/
theorem impliesColumn_iff (hplaced : schema.IsPlaced) (hmethod : method ∈ schema.methods)
    (hkind : Relation.kind (m := Except Error) schema method = .ok .belongsTo)
    (hkey : foreignKeyName (m := Except Error) schema method = .ok key)
    (hvia : method.viaName? = none) {join : Join} (hjoin : method.join = some join) :
    schema.ImpliesColumn method column ↔ column = key ∨
      join.fieldOf? (schema.owner method).shortName = some column ∧
        column ∉ (schema.owner method).primaryKeys := by
  have hown : ownJoinKey (m := Except Error) schema method =
      .ok ((join.fieldOf? (schema.owner method).shortName).filter
        (!(schema.owner method).primaryKeys.contains ·)) := by
    unfold ownJoinKey ownJoinColumn joinOfEitherSide
    rw [hjoin]
    rfl
  -- the two columns of a polymorphic method are none of its
  have hpoly : method.isPolymorphic = false := by
    cases hpoly : method.isPolymorphic with
    | false => rfl
    | true =>
      rw [kind_of_isPolymorphic hpoly] at hkind
      cases hkind
  constructor
  · rintro (hnames | ⟨-, hcolumn⟩)
    · cases hnames with
      | via hname _ =>
        rw [hvia] at hname
        cases hname
      | join hcolumn =>
        rw [(agrees_ownJoinKey hplaced hmethod (Nat.le_refl 1)).evaluate_eq, hown] at hcolumn
        have hfield := Option.filter_eq_some_iff.1 (Except.ok.inj hcolumn)
        exact .inr ⟨hfield.1, by simpa using hfield.2⟩
      | morphId htrue =>
        rw [hpoly] at htrue
        cases htrue
      | morphType htrue =>
        rw [hpoly] at htrue
        cases htrue
    · rw [(agrees_foreignKeyName hplaced hmethod (Nat.le_refl 2)).evaluate_eq, hkey] at hcolumn
      exact .inl (Except.ok.inj hcolumn).symm
  · rintro (rfl | ⟨hfield, hnotKey⟩)
    · refine .foreignKey ?_ ?_
      · rw [evaluate_kind hplaced hmethod, hkind]
      · rw [(agrees_foreignKeyName hplaced hmethod (Nat.le_refl 2)).evaluate_eq, hkey]
    · refine .named (.join ?_)
      rw [(agrees_ownJoinKey hplaced hmethod (Nat.le_refl 1)).evaluate_eq, hown, hfield]
      simp [hnotKey]

/-- All answers agree on a column exactly if it is the key and no other one is added for the join.
Here the key is given by its name, and where that name comes from is put in afterwards. -/
theorem holdsKeyIn_iff_of_foreignKeyName (hplaced : schema.IsPlaced)
    (hmethod : method ∈ schema.methods)
    (hkind : Relation.kind (m := Except Error) schema method = .ok .belongsTo)
    (hkey : foreignKeyName (m := Except Error) schema method = .ok key)
    (hvia : method.viaName? = none) {join : Join} (hjoin : method.join = some join) :
    HoldsKeyIn schema method column ↔ key = column ∧
      ∀ asked, join.fieldOf? (schema.owner method).shortName = some asked →
        asked = column ∨ asked ∈ (schema.owner method).primaryKeys := by
  have hname : Tracked.evaluate (foreignKeyName schema method) = .ok key := by
    rw [(agrees_foreignKeyName hplaced hmethod (Nat.le_refl 2)).evaluate_eq, hkey]
  have himplies : ∀ other, schema.ImpliesColumn method other ↔ _ := fun _ =>
    impliesColumn_iff hplaced hmethod hkind hkey hvia hjoin
  constructor
  · intro h
    refine ⟨Except.ok.inj (hname.symm.trans h.foreignKeyName_eq), fun asked hasked => ?_⟩
    by_cases hprimary : asked ∈ (schema.owner method).primaryKeys
    · exact .inr hprimary
    · exact .inl (h.implied asked ((himplies asked).2 (.inr ⟨hasked, hprimary⟩)))
  · rintro ⟨rfl, hasks⟩
    refine ⟨hname, fun description hdescribed => ?_, fun other hother => ?_⟩
    · rw [evaluate_describe hplaced hmethod] at hdescribed
      exact foreignKey_of_describe_belongsTo hkind hkey hdescribed
    · rcases (himplies other).1 hother with rfl | ⟨hfield, hprimary⟩
      · rfl
      · exact (hasks other hfield).resolve_right hprimary

/-- **The key of a belongs-to with its own join.** Let a belongs-to without `via` have a join that
mentions a column of its entity other than `id`. All answers agree that this column is the key
exactly if the inverse names it, or names none and convention does, and no other field of the entity
is added for the join. So it is if the join leads to another entity and the inverse has no join and
leads back. -/
theorem holdsKeyIn_iff {config : Config} {text : String}
    (hparse : Schema.parse config text = .ok schema) (hmethod : method ∈ schema.methods)
    (hkind : Tracked.evaluate (kind schema method) = .ok .belongsTo)
    (hvia : method.viaName? = none) {join : Join} (hjoin : method.join = some join)
    (hmentions : join.Mentions (schema.owner method).shortName column) (hid : column ≠ "id") :
    (HoldsKeyIn schema method column ↔
        (InverseNames schema method column ∨
          (∀ other, ¬ InverseNames schema method other) ∧ column = conventionalKey method) ∧
        ∀ asked, join.fieldOf? (schema.owner method).shortName = some asked →
          asked = column ∨ asked ∈ (schema.owner method).primaryKeys) ∧
      ∀ other, Tracked.evaluate (inverse schema method) = .ok other → other.join = none →
        Tracked.evaluate (inverse schema other) = .ok method →
        join.first.leftTable ≠ join.first.rightTable → HoldsKeyIn schema method column := by
  have hplaced : schema.IsPlaced := Schema.isPlaced_of_parse hparse
  rw [evaluate_kind hplaced hmethod] at hkind
  obtain ⟨key, hkey⟩ := exists_foreignKeyName_of_belongsTo hkind
  have hiff : HoldsKeyIn schema method column ↔ _ :=
    holdsKeyIn_iff_of_foreignKeyName hplaced hmethod hkind hkey hvia hjoin
  rw [eq_foreignKeyName_iff hplaced hmethod hvia hkey] at hiff
  refine ⟨hiff, fun other hinverse hnone hback htables => hiff.2 ⟨.inl ?_, ?_⟩⟩
  · have hmem : other ∈ schema.methods := by
      rw [evaluate_inverse hplaced hmethod] at hinverse
      exact mem_of_inverse hinverse
    refine ⟨other, join, hinverse, ?_, hmentions.keyOf?_eq htables hid⟩
    -- the inverse has to ask its own inverse, and that is the method
    rw [(agrees_joinOfEitherSide hplaced hmem (Nat.le_refl 1)).evaluate_eq]
    rw [evaluate_inverse hplaced hmem] at hback
    rw [joinOfEitherSide_eq hback, hnone, hjoin]
    rfl
  · intro asked hasked
    rw [hmentions.fieldOf?_eq htables] at hasked
    exact .inl (Option.some.inj hasked).symm

end Relation

/-! ## A join with and without an inverse -/

namespace Schema

open EntitySchema.Relation

/-- A document in which a radio is joined to its user and the user leads back to the radio. -/
def radiosText : String :=
  "Radio1 (radios)\n  user1(): User1 <- User1.radios1(), Join(Radio1.user_ref = User1.id)\n" ++
    "User1 (users)\n  radios1(): Radio1[] <- Radio1.user1()\n"

/-- The user of a radio. -/
def radioUser : Method where
  name := "user1"
  owner? := some 0
  position := 0
  declaredType := some "User1"
  inverseOf := some "User1.radios1()"
  join := some ⟨"Radio1.user_ref = User1.id", ⟨"Radio1", "user_ref", "User1", "id"⟩, none⟩

/-- The radios of a user. -/
def userRadios : Method where
  name := "radios1"
  owner? := some 1
  position := 0
  declaredType := some "Radio1[]"
  inverseOf := some "Radio1.user1()"

/-- An entity with its implied primary key, the columns that are implied for its methods, and its
methods. -/
def joinedEntity (place : Nat) (shortName table : String) (columns : List String)
    (methods : List Method) : Entity where
  shortName := shortName
  namespaceName := "\\App\\"
  table := table
  index? := some place
  fields :=
    { name := "id", type := "increments", owner? := some place, nullable := some false,
      primaryKey := true, implied := true } ::
      columns.map fun name => { name, type := "integer", owner? := some place, implied := true }
  methods := methods

/-- What the document says. -/
def radios : Schema where
  entities := [
    joinedEntity 0 "Radio1" "radios" ["user_ref"] [radioUser],
    joinedEntity 1 "User1" "users" [] [userRadios]]
  namespaces := OrderedMap.insert ∅ "\\App\\" "app/"

/-- The radios get one column, that of the join. -/
theorem parse_radiosText : Schema.parse {} radiosText = .ok radios :=
  eq_ok_of_toOption (by decide +kernel)

/-- The column of the join is the key of the radios. -/
theorem holdsKeyIn_radios :
    Schema.parse {} radiosText = .ok radios ∧ radioUser ∈ radios.methods ∧
      Tracked.evaluate (kind radios radioUser) = .ok .belongsTo ∧
        HoldsKeyIn radios radioUser "user_ref" := by
  have hmethod : radioUser ∈ radios.methods := List.mem_cons_self
  have hkind : Tracked.evaluate (kind radios radioUser) = .ok .belongsTo := by decide +kernel
  refine ⟨parse_radiosText, hmethod, hkind, ?_⟩
  obtain ⟨-, hleadsBack⟩ := holdsKeyIn_iff parse_radiosText hmethod hkind rfl rfl
    (.inl ⟨rfl, rfl⟩) (by decide)
  exact hleadsBack userRadios (eq_ok_of_toOption (by decide +kernel)) rfl
    (eq_ok_of_toOption (by decide +kernel)) (by decide)

/-- A document in which a call is joined to its user and the user knows nothing of it. -/
def callsText : String :=
  "Call1 (calls)\n  user1(): User1 Join(Call1.user_ref = User1.id)\nUser1 (users)\n"

/-- The user of a call. -/
def callUser : Method where
  name := "user1"
  owner? := some 0
  position := 0
  declaredType := some "User1"
  join := some ⟨"Call1.user_ref = User1.id", ⟨"Call1", "user_ref", "User1", "id"⟩, none⟩

/-- What the document says. -/
def calls : Schema where
  entities := [
    joinedEntity 0 "Call1" "calls" ["user_ref", "user1_id"] [callUser],
    joinedEntity 1 "User1" "users" [] []]
  namespaces := OrderedMap.insert ∅ "\\App\\" "app/"

/-- The column of the join is there, but the key is in another one, which is added for it. -/
theorem not_holdsKeyIn_calls :
    Schema.parse {} callsText = .ok calls ∧ callUser ∈ calls.methods ∧
      Tracked.evaluate (kind calls callUser) = .ok .belongsTo ∧ callUser.viaName? = none ∧
      "user_ref" ∉ (calls.owner callUser).primaryKeys ∧
      Tracked.evaluate (foreignKeyName calls callUser) = .ok "user1_id" ∧
      calls.ImpliesColumn callUser "user1_id" ∧ ¬ HoldsKeyIn calls callUser "user_ref" := by
  have hkind : Tracked.evaluate (kind calls callUser) = .ok .belongsTo := by decide +kernel
  have hname : Tracked.evaluate (foreignKeyName calls callUser) = .ok "user1_id" :=
    eq_ok_of_toOption (by decide +kernel)
  refine ⟨eq_ok_of_toOption (by decide +kernel), List.mem_cons_self, hkind, rfl, by decide +kernel,
    hname, .foreignKey hkind hname, fun hholds => ?_⟩
  have hsame := hname.symm.trans hholds.foreignKeyName_eq
  exact absurd (Except.ok.inj hsame) (by decide)

end Schema

end EntitySchema
