/-
Has-sides and the belongs-to on the other side.

A has-one or has-many is described with a foreign key in the table of the other entity, so the
method there should be a belongs-to. But each side decides its own kind, by the columns that are
there and by what it returns, and the two decisions need not fit together. `belongsTo_iff_of_has`
says when they do, for opposite methods that have neither a `via` nor a join and are not
polymorphic: the other side is a belongs-to unless it, or the has-side itself, is a method that
returns many whose entity happens to have a column named like its foreign key, or both sides return
many.

Such methods are `Bare`. For them convention is all there is: the key has the conventional name, no
side claims it, and the kind of each side can be read off a short table, which is
`kind_of_returnsOne` and `kind_of_returnsMany`. The first of the two is about finished schemas,
where a belongs-to always has its column.

The table explains the exceptions. A method that returns one is a belongs-to if its entity has the
column, and otherwise a has-one, because then the inverse must have it. So if a side that returns
many has a column of the conventional name, which some line may declare for another purpose, the
side that returns one takes it for the key and becomes a has-one; and its inverse, which returns
many, is a has-many in any case. Then neither of the two is a belongs-to, and the description of the
has-many names a column that does not exist. The second document at the end is of this kind.
-/
import EntitySchema.Proofs.Implied.ForeignKeys
import EntitySchema.Proofs.Relation.Opposite

set_option autoImplicit false

namespace EntitySchema

open Outcome

namespace Relation

/-! ## Bare relations -/

/-- The column that convention names for the foreign key of a method. -/
def conventionalKey (method : Method) : String := singularize method.name ++ "_id"

/-- Whether the entity of a method has the column that convention names. -/
def hasConventionalColumn (schema : Schema) (method : Method) : Bool :=
  (schema.owner method).hasField (conventionalKey method)

/-- A method that says nothing but what it returns and perhaps what its inverse is. -/
structure Plain (method : Method) : Prop where
  notPolymorphic : method.isPolymorphic = false
  notVia : method.viaName? = none
  notJoined : method.join = none

/-- Two opposite methods, neither of which says how the relation is held. -/
structure Bare (schema : Schema) (method other : Method) : Prop
    extends Opposite schema method other where
  plain : Plain method
  plainOther : Plain other

variable {schema : Schema} {method other : Method}

/-- Without a `via` no column is named. -/
theorem Plain.goesViaColumn (h : Plain method) : schema.goesViaColumn method = .ok false := by
  rw [Schema.goesViaColumn, h.notVia]
  rfl

/-- Nor is an entity. -/
theorem Plain.entityBetween (h : Plain method) : schema.entityBetween method = .ok none := by
  rw [Schema.entityBetween, h.notVia]

namespace Bare

/-- Either side may be put first. Each lemma below is stated for the first side and used for
both. -/
theorem symm (h : Bare schema method other) : Bare schema other method :=
  ⟨h.toOpposite.symm, h.plainOther, h.plain⟩

/-- There is no join on either side. -/
theorem joinOfEitherSide (h : Bare schema method other) :
    joinOfEitherSide (m := Except Error) schema method = .ok none := by
  rw [joinOfEitherSide_eq h.inverse_eq, h.plain.notJoined, h.plainOther.notJoined]
  rfl

/-- So no pivot table is named by a join. -/
theorem isJoinedByPivot (h : Bare schema method other) :
    isJoinedByPivot (m := Except Error) schema method = .ok false := by
  rw [isJoinedByPivot_eq h.inverse_eq, h.plain.notJoined, h.plainOther.notJoined]
  rfl

/-- No column of the owner is mentioned. -/
theorem ownJoinColumn (h : Bare schema method other) :
    ownJoinColumn (m := Except Error) schema method = .ok none := by
  unfold Relation.ownJoinColumn
  rw [h.joinOfEitherSide]
  rfl

/-- Nor is a column of any other entity. -/
theorem joinKeyIn (h : Bare schema method other) (shortName : String) :
    joinKeyIn (m := Except Error) schema method shortName = .ok none := by
  unfold Relation.joinKeyIn
  rw [h.joinOfEitherSide]
  rfl

/-- Nothing about a bare method puts the key into its own table. -/
theorem claimsForeignKey (h : Bare schema method other) :
    claimsForeignKey (m := Except Error) schema method = .ok false :=
  claimsForeignKey_eq_ok.2 (.inr ⟨h.plain.goesViaColumn, none,
    ownJoinKey_eq_ok.2 ⟨none, h.ownJoinColumn, rfl⟩, rfl⟩)

/-- The foreign key is the one that convention names. The inverse is found, so the attempt to take
the key from its join succeeds, with no key. -/
theorem foreignKeyName (h : Bare schema method other) :
    foreignKeyName (m := Except Error) schema method = .ok (conventionalKey method) := by
  have hkey : LookupMonad.attempt Error.isMissingInverse
      (keyFromInverse (m := Except Error) schema method) = .ok (some none) := by
    rw [LookupMonad.attempt_eq_some]
    unfold keyFromInverse
    rw [h.inverse_eq, ok_bind, h.symm.joinKeyIn]
  unfold Relation.foreignKeyName
  rw [h.plain.goesViaColumn, hkey, h.plain.notVia]
  rfl

/-- It exists if the entity has the conventional column. -/
theorem foreignKeyExists (h : Bare schema method other) :
    foreignKeyExists (m := Except Error) schema method =
      .ok (hasConventionalColumn schema method) :=
  foreignKeyExists_eq_ok.2 ⟨conventionalKey method, h.foreignKeyName, rfl⟩

/-- A bare method without a column leaves the key to its inverse. -/
theorem leavesKeyTo (h : Bare schema method other)
    (habsent : hasConventionalColumn schema method = false) :
    LeavesKeyTo schema method other :=
  ⟨by rw [h.foreignKeyExists, habsent], h.claimsForeignKey, h.inverse_eq, h.symm.joinKeyIn _⟩

/-! ## Kinds -/

/-- A method that returns many has many, or is a many-to-many if its inverse returns many as well
and it does not return its own entity. It is never a belongs-to. -/
theorem kind_of_returnsMany (h : Bare schema method other) (hmany : method.returnsMany = true) :
    Relation.kind (m := Except Error) schema method =
      .ok (if other.returnsMany = true ∧ returnsOwnEntity schema method = false then .belongsToMany
        else .hasMany) := by
  rw [kind_eq_manyKind hmany h.plain.notPolymorphic h.isJoinedByPivot]
  unfold manyKind
  cases returnsOwnEntity schema method with
  | true => simp [pure, Except.pure]
  | false =>
    rw [if_neg Bool.false_ne_true, h.inverse_eq, ok_bind]
    cases other.returnsMany with
    | true => rfl
    | false =>
      rw [if_neg Bool.false_ne_true, h.plain.entityBetween]
      have hmorph : other.isPolymorphic = false := h.plainOther.notPolymorphic
      simp [LookupMonad.lift, hmorph, pure, Except.pure, bind, Except.bind]

/-- In particular it is no belongs-to. -/
theorem ne_belongsTo_of_returnsMany (h : Bare schema method other)
    (hmany : method.returnsMany = true) :
    Relation.kind (m := Except Error) schema method ≠ .ok .belongsTo := by
  rw [h.kind_of_returnsMany hmany]
  split <;> simp

/-- In a finished schema a method that returns one is a belongs-to if its column is there, and
otherwise a has-one whose inverse has the column. -/
theorem kind_of_returnsOne (h : Bare schema method other) (hone : method.returnsOne = true)
    (hresolved : schema.IsResolved method) :
    hasConventionalColumn schema method = true ∧
        Relation.kind (m := Except Error) schema method = .ok .belongsTo ∨
      hasConventionalColumn schema method = false ∧ hasConventionalColumn schema other = true ∧
        Relation.kind (m := Except Error) schema method = .ok .hasOne := by
  have hsingle := kind_eq_singleKind hone h.plain.notPolymorphic h.isJoinedByPivot
  cases hcolumn : hasConventionalColumn schema method with
  | true =>
    refine .inl ⟨rfl, ?_⟩
    rw [hsingle, singleKind_of_foreignKeyExists (by rw [h.foreignKeyExists, hcolumn])]
  | false =>
    rw [singleKind_of_leavesKeyTo (h.leavesKeyTo hcolumn), h.symm.claimsForeignKey,
      h.symm.foreignKeyExists] at hsingle
    cases hcolumnOther : hasConventionalColumn schema other with
    | true =>
      rw [hcolumnOther] at hsingle
      exact .inr ⟨rfl, rfl, hsingle⟩
    | false =>
      -- nothing holds the key: the method would be a belongs-to without its column, or have no kind
      obtain ⟨kind, hkind, hbelongs⟩ := hresolved
      rw [hsingle, hcolumnOther] at hkind
      cases hmany : other.returnsMany with
      | true =>
        rw [hmany] at hkind
        have hexists := hbelongs (Except.ok.inj hkind).symm
        rw [h.foreignKeyExists, hcolumn] at hexists
        cases hexists
      | false =>
        rw [hmany] at hkind
        cases hkind

/-- A bare method never loses its key: there is no join to lose it by. -/
theorem isResolved {config : Config} {text : String}
    (hparse : Schema.parse config text = .ok schema) (h : Bare schema method other)
    (hone : method.returnsOne = true) : schema.IsResolved method := by
  obtain ⟨document, hread, hfirst⟩ := Schema.parse_eq_ok.1 hparse
  have hmem : method ∈ document.schema.methods :=
    (Schema.grows_addImpliedFields hfirst).methods_eq ▸ h.mem
  rcases Schema.isResolved_or_losesKey_of_addImpliedFields
    (Document.isPlaced_of_readText hread) hfirst hmem hone with hresolved | ⟨inverseMethod, hloses⟩
  · exact hresolved
  · -- the key is lost to an inverse that joins by `id`, and the inverse here has no join
    have hsame : other = inverseMethod :=
      Except.ok.inj (h.inverse_eq.symm.trans hloses.leavesKeyTo.inverse_eq)
    subst hsame
    have hjoins := hloses.joinsById
    rw [h.symm.ownJoinColumn] at hjoins
    cases hjoins

end Bare

/-! ## Has-sides -/

/-- The column that convention names is in the entity of the side that returns many, and the side
that returns one has none. -/
structure KeyOnManySide (schema : Schema) (one many : Method) : Prop where
  returnsOne : one.returnsOne = true
  returnsMany : many.returnsMany = true
  lacksColumn : hasConventionalColumn schema one = false
  hasColumn : hasConventionalColumn schema many = true

/-- The same as a conjunction, for rewriting. -/
theorem keyOnManySide_iff {one many : Method} : KeyOnManySide schema one many ↔
    one.returnsMany = false ∧ many.returnsMany = true ∧
      hasConventionalColumn schema one = false ∧ hasConventionalColumn schema many = true := by
  constructor
  · rintro ⟨hone, hmany, habsent, hcolumn⟩
    exact ⟨Method.returnsOne_iff.1 hone, hmany, habsent, hcolumn⟩
  · rintro ⟨hnotMany, hmany, habsent, hcolumn⟩
    exact ⟨Method.returnsOne_iff.2 hnotMany, hmany, habsent, hcolumn⟩

/-- What is on the other side of a has-side is a belongs-to, except in three situations. The proof
goes through what the two sides return; in each case the table of kinds decides. -/
theorem Bare.kind_other_iff {config : Config} {text : String} {kind : RelationKind}
    (hparse : Schema.parse config text = .ok schema) (h : Bare schema method other)
    (hkind : Relation.kind (m := Except Error) schema method = .ok kind)
    (hhas : kind = .hasOne ∨ kind = .hasMany) :
    Relation.kind (m := Except Error) schema other = .ok .belongsTo ↔
      ¬ KeyOnManySide schema method other ∧ ¬ KeyOnManySide schema other method ∧
        ¬ (method.returnsMany = true ∧ other.returnsMany = true) := by
  have hself : Relation.kind (m := Except Error) schema method ≠ .ok .belongsTo := by
    rw [hkind]
    rcases hhas with rfl | rfl <;> simp
  simp only [keyOnManySide_iff]
  cases hmanyOther : other.returnsMany with
  | true =>
    -- a side that returns many is never a belongs-to
    have hnot := h.symm.ne_belongsTo_of_returnsMany hmanyOther
    cases hmany : method.returnsMany with
    | true => simp [hnot]
    | false =>
      have hone := Method.returnsOne_iff.2 hmany
      rcases h.kind_of_returnsOne hone (h.isResolved hparse hone) with
        ⟨-, hbelongs⟩ | ⟨habsent, hcolumn, -⟩
      · exact absurd hbelongs hself
      · simp [hnot, habsent, hcolumn]
  | false =>
    have honeOther := Method.returnsOne_iff.2 hmanyOther
    rcases h.symm.kind_of_returnsOne honeOther (h.symm.isResolved hparse honeOther) with
      ⟨hcolumnOther, hbelongs⟩ | ⟨habsentOther, hcolumn, hhasOne⟩
    · simp [hbelongs, hcolumnOther]
    · -- the key is on the side of the method, which is then a belongs-to if it returns one
      cases hmany : method.returnsMany with
      | true => simp [hhasOne, habsentOther, hcolumn]
      | false =>
        have hone := Method.returnsOne_iff.2 hmany
        rcases h.kind_of_returnsOne hone (h.isResolved hparse hone) with
          ⟨-, hbelongs⟩ | ⟨habsent, -, -⟩
        · exact absurd hbelongs hself
        · rw [habsent] at hcolumn
          cases hcolumn

/-- A belongs-to of a finished schema returns one and has its column. -/
theorem Bare.hasConventionalColumn_of_belongsTo {config : Config} {text : String}
    (hparse : Schema.parse config text = .ok schema) (h : Bare schema method other)
    (hkind : Relation.kind (m := Except Error) schema method = .ok .belongsTo) :
    hasConventionalColumn schema method = true := by
  cases hmany : method.returnsMany with
  | true => exact absurd hkind (h.ne_belongsTo_of_returnsMany hmany)
  | false =>
    have hone := Method.returnsOne_iff.2 hmany
    rcases h.kind_of_returnsOne hone (h.isResolved hparse hone) with
      ⟨hcolumn, -⟩ | ⟨-, -, hhasOne⟩
    · exact hcolumn
    · rw [hhasOne] at hkind
      cases hkind

/-- **What is on the other side of a has-side.** Let two methods be each other's inverse, neither
of them polymorphic, with a `via` or with a join, and let one of them be a has-one or has-many.
Then the other one is a belongs-to exactly when the key is not on the side that returns many and
the two do not both return many. If it is a belongs-to, the foreign key in the description of the
has-side is a column of the other entity. -/
theorem belongsTo_iff_of_has {config : Config} {text : String} {kind : RelationKind}
    (hparse : Schema.parse config text = .ok schema)
    (hmethod : method ∈ schema.methods) (hother : other ∈ schema.methods)
    (hinverse : Tracked.evaluate (inverse schema method) = .ok other)
    (hback : Tracked.evaluate (inverse schema other) = .ok method)
    (hplain : Plain method) (hplainOther : Plain other)
    (hkind : Tracked.evaluate (Relation.kind schema method) = .ok kind)
    (hhas : kind = .hasOne ∨ kind = .hasMany) :
    (Tracked.evaluate (Relation.kind schema other) = .ok .belongsTo ↔
      ¬ KeyOnManySide schema method other ∧ ¬ KeyOnManySide schema other method ∧
        ¬ (method.returnsMany = true ∧ other.returnsMany = true)) ∧
    (Tracked.evaluate (Relation.kind schema other) = .ok .belongsTo →
      ∀ description, Tracked.evaluate (describe schema method) = .ok description →
        ∃ column, description.foreignKey = some column ∧
          (schema.owner other).hasField column = true) := by
  have hplaced : schema.IsPlaced := Schema.isPlaced_of_parse hparse
  have hbare : Bare schema method other :=
    ⟨Opposite.of_evaluate hplaced hmethod hother hinverse hback, hplain, hplainOther⟩
  rw [evaluate_kind hplaced hmethod] at hkind
  rw [evaluate_kind hplaced hother]
  refine ⟨hbare.kind_other_iff hparse hkind hhas, fun hbelongs description hdescribe => ?_⟩
  rw [evaluate_describe hplaced hmethod] at hdescribe
  obtain ⟨column, hcolumn, hforeign⟩ :=
    foreignKey_of_describe hkind hhas hbare.inverse_eq hdescribe
  rw [hbare.symm.foreignKeyName] at hcolumn
  obtain rfl := Except.ok.inj hcolumn
  exact ⟨conventionalKey other, hforeign,
    hbare.symm.hasConventionalColumn_of_belongsTo hparse hbelongs⟩

end Relation

/-! ## Homes and their tenants -/

namespace Schema

/-- A document in which many persons live in one home. -/
def homesText : String :=
  "Person1 (people)\n  home1(): Home1 <- Home1.tenants1()\n" ++
    "Home1 (homes)\n  tenants1(): Person1[] <- Person1.home1()\n"

/-- The same document with a column in the homes that is named like a foreign key. -/
def tenantsIdText : String :=
  "Person1 (people)\n  home1(): Home1 <- Home1.tenants1()\n" ++
    "Home1 (homes)\n  tenants1_id: integer\n  tenants1(): Person1[] <- Person1.home1()\n"

/-- The side that returns one. -/
def home1 : Method where
  name := "home1"
  owner? := some 0
  position := 0
  declaredType := some "Home1"
  inverseOf := some "Home1.tenants1()"

/-- The side that returns many. -/
def tenants1 : Method where
  name := "tenants1"
  owner? := some 1
  position := 0
  declaredType := some "Person1[]"
  inverseOf := some "Person1.home1()"

/-- The implied primary key of the entity at a place. -/
def impliedId (place : Nat) : Field where
  name := "id"
  type := "increments"
  owner? := some place
  nullable := some false
  primaryKey := true
  implied := true

/-- Persons and homes with the fields they have besides their primary keys. -/
def homesWith (ofPersons ofHomes : List Field) : Schema where
  entities := [
    { shortName := "Person1", namespaceName := "\\App\\", table := "people", index? := some 0
      fields := impliedId 0 :: ofPersons
      methods := [home1] },
    { shortName := "Home1", namespaceName := "\\App\\", table := "homes", index? := some 1
      fields := impliedId 1 :: ofHomes
      methods := [tenants1] }]
  namespaces := OrderedMap.insert ∅ "\\App\\" "app/"

/-- What the first document says: the persons have got the foreign key. -/
def homes : Schema :=
  homesWith [{ name := "home1_id", type := "integer", owner? := some 0, implied := true }] []

/-- What the second document says: the persons have got nothing. -/
def tenantsId : Schema :=
  homesWith [] [{ name := "tenants1_id", type := "integer", owner? := some 1 }]

/-- The document without the column, read to the end. -/
theorem parse_homesText : Schema.parse {} homesText = .ok homes :=
  eq_ok_of_toOption (by decide +kernel)

/-- The document with the column: nothing is implied but the primary keys. -/
theorem parse_tenantsIdText : Schema.parse {} tenantsIdText = .ok tenantsId :=
  eq_ok_of_toOption (by decide +kernel)

/-- The method of the persons says nothing but what it returns and what its inverse is. -/
theorem plain_home1 : Relation.Plain home1 := ⟨by decide +kernel, rfl, rfl⟩

/-- So does the method of the homes. -/
theorem plain_tenants1 : Relation.Plain tenants1 := ⟨by decide +kernel, rfl, rfl⟩

end Schema

namespace Relation

open Schema in
/-- In the first document the tenants are a has-many, and the other side belongs to it. -/
theorem belongsTo_iff_of_has_homes :
    Schema.parse {} homesText = .ok homes ∧
      Tracked.evaluate (Relation.kind homes tenants1) = .ok .hasMany ∧
      ¬ KeyOnManySide homes tenants1 home1 ∧ ¬ KeyOnManySide homes home1 tenants1 ∧
      ∃ description, Tracked.evaluate (describe homes tenants1) = .ok description ∧
        ∃ column, description.foreignKey = some column ∧
          (homes.owner home1).hasField column = true := by
  have hkind : Tracked.evaluate (Relation.kind homes tenants1) = .ok .hasMany :=
    eq_ok_of_toOption (by decide +kernel)
  have hbelongs : Tracked.evaluate (Relation.kind homes home1) = .ok .belongsTo :=
    eq_ok_of_toOption (by decide +kernel)
  obtain ⟨hiff, hcolumns⟩ := belongsTo_iff_of_has parse_homesText (by decide) (by decide)
    (eq_ok_of_toOption (by decide +kernel)) (eq_ok_of_toOption (by decide +kernel)) plain_tenants1
    plain_home1 hkind (.inr rfl)
  obtain ⟨hnone, hback, -⟩ := hiff.1 hbelongs
  have hdescribed : (Tracked.evaluate (describe homes tenants1)).toOption.isSome = true := by
    decide +kernel
  obtain ⟨description, hdescription⟩ := Option.isSome_iff_exists.1 hdescribed
  have hdescribe := eq_ok_of_toOption hdescription
  exact ⟨parse_homesText, hkind, hnone, hback, description, hdescribe,
    hcolumns hbelongs description hdescribe⟩

open Schema in
/-- In the second document the tenants are a has-many as well, but the other side is a has-one, and
the persons do not have the column that the homes are described with. -/
theorem not_belongsTo_of_has_tenantsId :
    Schema.parse {} tenantsIdText = .ok tenantsId ∧
      (home1 ∈ tenantsId.methods ∧ tenants1 ∈ tenantsId.methods ∧
        Tracked.evaluate (inverse tenantsId tenants1) = .ok home1 ∧
        Tracked.evaluate (inverse tenantsId home1) = .ok tenants1 ∧
        Plain tenants1 ∧ Plain home1 ∧ tenantsId.owner tenants1 ≠ tenantsId.owner home1) ∧
      Tracked.evaluate (Relation.kind tenantsId tenants1) = .ok .hasMany ∧
      Tracked.evaluate (Relation.kind tenantsId home1) = .ok .hasOne ∧
      ∃ description, Tracked.evaluate (describe tenantsId tenants1) = .ok description ∧
        description.foreignKey = some "home1_id" ∧
          (tenantsId.owner home1).hasField "home1_id" = false := by
  refine ⟨parse_tenantsIdText, ⟨by decide, by decide, eq_ok_of_toOption (by decide +kernel),
    eq_ok_of_toOption (by decide +kernel), plain_tenants1, plain_home1, by decide⟩,
    eq_ok_of_toOption (by decide +kernel), eq_ok_of_toOption (by decide +kernel), ?_⟩
  let described : RelationDescription :=
    { entity := "\\App\\Home1", method := "tenants1", kind := .hasMany
      related := some "\\App\\Person1", foreignKey := some "home1_id", localKey := some "id" }
  exact ⟨described, eq_ok_of_toOption (by decide +kernel), rfl, by decide⟩

end Relation

end EntitySchema
