/-
The rules about relations agree with their plain reading.

`Tracking.Agreement` says what agreement is and shows it of the operations of `LookupMonad`. Here
the rules themselves are gone through, one lemma a rule, and the proof of a lemma follows the text
of its rule line by line: a step that asks for another rule is covered by the lemma of that rule, a
step that only reads the schema is the same in both readings (`Agrees.lift`), and where the rule
branches the proof splits.

The bound of a lemma says which lookups the rule may start, by their rank. What is running when the
rule is asked has to be of at least that rank, so that no lookup meets its own mark:

* a rule that asks for an inverse at most needs a bound of one;
* a rule that asks for a foreign key needs a bound of two, because the foreign key asks for an
  inverse while its own mark is set;
* a rule that asks for a kind needs a bound of three, because the kind asks for both.

That the bounds can be met at all is what a reader should check: no rule asks for a kind while a
foreign key or an inverse is running, and no rule asks for a foreign key while an inverse is. It is
why no document, however its methods point at each other, is told of a cycle.

Two hypotheses run through the file. The schema is placed, so that a method is found again by its
key and a remembered inverse is the one that was looked up. And the method is one of the schema; for
methods that come out of a lookup this follows from `mem_of_inverse`.

The order of the lemmas is the order in which the rules are built upon each other. The file ends
with the outcomes: started with nothing known, each rule answers what its plain reading answers.
-/
import EntitySchema.Proofs.Inverse
import EntitySchema.Proofs.Tracking.Agreement
import EntitySchema.Relation.Description

set_option autoImplicit false

namespace EntitySchema.Relation

open Tracked (Agrees)

variable {schema : Schema} (hplaced : schema.IsPlaced) {bound : Nat} {method : Method}
  (hmethod : method ∈ schema.methods)

include hplaced hmethod

/-! ## Inverses and joins -/

/-- The inverse is the only lookup that asks for no other: while it runs, `lookUpInverse` just reads
the schema. It may therefore be started whatever else is running, another inverse apart. -/
theorem agrees_inverse (hbound : 1 ≤ bound) :
    Agrees schema bound (inverse schema method) (inverse schema method) := by
  refine Agrees.rememberInverse hplaced hmethod (fun _ => mem_of_inverse) ?_
  exact Agrees.during (Nat.lt_of_lt_of_le Nat.zero_lt_one hbound) _ _ (Agrees.lift _)

/-- The join of either side. The inverse is only asked for if the method has no join of its own, and
a lookup that fails counts as no join in both readings, while other errors go through. -/
theorem agrees_joinOfEitherSide (hbound : 1 ≤ bound) :
    Agrees schema bound (joinOfEitherSide schema method) (joinOfEitherSide schema method) := by
  unfold joinOfEitherSide
  split
  · exact Agrees.pure _
  · exact ((agrees_inverse hplaced hmethod hbound).attempt _).bind fun _ _ => Agrees.pure _

theorem agrees_isJoinedByPivot (hbound : 1 ≤ bound) :
    Agrees schema bound (isJoinedByPivot schema method) (isJoinedByPivot schema method) :=
  (agrees_joinOfEitherSide hplaced hmethod hbound).bind fun _ _ => Agrees.pure _

theorem agrees_ownJoinColumn (hbound : 1 ≤ bound) :
    Agrees schema bound (ownJoinColumn schema method) (ownJoinColumn schema method) :=
  (agrees_joinOfEitherSide hplaced hmethod hbound).bind fun _ _ => Agrees.pure _

/-- The same column, unless it is a primary key. Primary keys are read off the schema. -/
theorem agrees_ownJoinKey (hbound : 1 ≤ bound) :
    Agrees schema bound (ownJoinKey schema method) (ownJoinKey schema method) :=
  (agrees_ownJoinColumn hplaced hmethod hbound).bind fun _ _ => Agrees.pure _

/-- The column that the join mentions of any entity. The entity is given by name, and no lookup is
spent on it, so the bound is that of the join. -/
theorem agrees_joinKeyIn (hbound : 1 ≤ bound) (shortName : String) :
    Agrees schema bound (joinKeyIn schema method shortName)
      (joinKeyIn schema method shortName) :=
  (agrees_joinOfEitherSide hplaced hmethod hbound).bind fun _ _ => Agrees.pure _

/-! ## Foreign keys -/

/-- The key that the join of the other side mentions. Here a lookup is asked of a method that came
out of a lookup; it belongs to the schema by `mem_of_inverse`. -/
theorem agrees_keyFromInverse (hbound : 1 ≤ bound) :
    Agrees schema bound (keyFromInverse schema method) (keyFromInverse schema method) :=
  (agrees_inverse hplaced hmethod hbound).bind fun _ hinverse =>
    agrees_joinKeyIn hplaced (mem_of_inverse hinverse) hbound _

/-- A foreign key asks for inverses and their joins, and does so under its own mark. What runs
inside has the bound one, which is the rank of that mark. -/
theorem agrees_foreignKeyName (hbound : 2 ≤ bound) :
    Agrees schema bound (foreignKeyName schema method) (foreignKeyName schema method) := by
  unfold foreignKeyName
  refine Agrees.during hbound _ _ ?_
  refine (Agrees.lift _).bind fun goes _ => ?_
  split
  · exact Agrees.pure _
  -- no inverse is no failure here: convention names the key then
  · refine ((agrees_keyFromInverse hplaced hmethod (Nat.le_refl _)).attempt _).bind fun key _ => ?_
    split
    · exact Agrees.pure _
    · exact Agrees.pure _

/-- Whether the entity has the column of the foreign key: the name is looked up, the fields are
read. -/
theorem agrees_foreignKeyExists (hbound : 2 ≤ bound) :
    Agrees schema bound (foreignKeyExists schema method) (foreignKeyExists schema method) :=
  (agrees_foreignKeyName hplaced hmethod hbound).bind fun _ _ => Agrees.pure _

/-! ## Kinds -/

/-- Whether a method puts the key into its own table. Neither `via` nor the own join needs the
foreign key, which is why a kind may ask this of both sides. -/
theorem agrees_claimsForeignKey (hbound : 1 ≤ bound) :
    Agrees schema bound (claimsForeignKey schema method) (claimsForeignKey schema method) := by
  unfold claimsForeignKey
  refine (Agrees.lift _).bind fun goes _ => ?_
  split
  · exact Agrees.pure _
  · exact (agrees_ownJoinKey hplaced hmethod hbound).bind fun _ _ => Agrees.pure _

omit hmethod in
/-- The kind of a relation with one entity, seen from the inverse. All questions are asked of the
inverse here, so it alone has to be a method of the schema. The kind of the inverse is not among
them: two methods that are each other's inverse would ask for each other's kind forever. -/
theorem agrees_singleKindFromInverse (hbound : 2 ≤ bound) {inverse : Method}
    (hinverse : inverse ∈ schema.methods) :
    Agrees schema bound (singleKindFromInverse schema method inverse)
      (singleKindFromInverse schema method inverse) := by
  have hone : 1 ≤ bound := Nat.le_of_succ_le hbound
  unfold singleKindFromInverse
  refine (agrees_joinKeyIn hplaced hinverse hone _).bind fun key _ => ?_
  split
  · exact Agrees.pure _
  · refine (agrees_claimsForeignKey hplaced hinverse hone).bind fun claims _ => ?_
    split
    · exact Agrees.pure _
    · refine (agrees_foreignKeyExists hplaced hinverse hbound).bind fun found _ => ?_
      split
      · exact Agrees.pure _
      · split
        · exact Agrees.pure _
        · exact Agrees.throw _

/-- The kind of a relation with one entity. The foreign key is asked for up to three times, and each
time anew; in the tracked reading only the inverses behind it are remembered. -/
theorem agrees_singleKind (hbound : 2 ≤ bound) :
    Agrees schema bound (singleKind schema method) (singleKind schema method) := by
  have hone : 1 ≤ bound := Nat.le_of_succ_le hbound
  unfold singleKind
  refine (agrees_foreignKeyName hplaced hmethod hbound).bind fun column _ => ?_
  split
  · exact Agrees.pure _
  · refine (agrees_claimsForeignKey hplaced hmethod hone).bind fun claims _ => ?_
    split
    · exact Agrees.pure _
    · refine ((agrees_inverse hplaced hmethod hone).attempt _).bind fun found hfound => ?_
      split
      · next inverse =>
        have hinverse := mem_of_inverse (LookupMonad.attempt_eq_some.1 hfound)
        exact agrees_singleKindFromInverse hplaced hbound hinverse
      -- the foreign key is asked for once more, for the message
      · exact (agrees_foreignKeyName hplaced hmethod hbound).bind fun _ _ => Agrees.throw _

/-- The kind of a relation with many entities follows from the inverse and from what the method goes
`via`. No foreign key is involved. -/
theorem agrees_manyKind (hbound : 1 ≤ bound) :
    Agrees schema bound (manyKind schema method) (manyKind schema method) := by
  unfold manyKind
  split
  · exact Agrees.pure _
  · refine (agrees_inverse hplaced hmethod hbound).bind fun inverse _ => ?_
    split
    · exact Agrees.pure _
    · refine (Agrees.lift _).bind fun between _ => ?_
      split
      · split
        · exact Agrees.pure _
        · split
          · exact Agrees.pure _
          · exact Agrees.pure _
      · exact Agrees.pure _

/-- The kind as it is computed, below the mark and the memory. Its bound is the rank of the mark. -/
theorem agrees_computeKind (hbound : 2 ≤ bound) :
    Agrees schema bound (computeKind schema method) (computeKind schema method) := by
  have hone : 1 ≤ bound := Nat.le_of_succ_le hbound
  unfold computeKind
  split
  · exact Agrees.pure _
  · refine (agrees_isJoinedByPivot hplaced hmethod hone).bind fun joined _ => ?_
    split
    · exact Agrees.pure _
    · split
      · exact agrees_singleKind hplaced hmethod hbound
      · exact agrees_manyKind hplaced hmethod hone

/-- **A kind agrees.** It is the highest of the lookups: nothing may be running when it starts. -/
theorem agrees_kind (hbound : 3 ≤ bound) :
    Agrees schema bound (kind schema method) (kind schema method) := by
  refine Agrees.rememberKind hplaced hmethod ?_
  exact Agrees.during hbound _ _ (agrees_computeKind hplaced hmethod (Nat.le_refl _))

/-- Whether a relation is a many-to-many is its kind, compared. -/
theorem agrees_isManyToMany (hbound : 3 ≤ bound) :
    Agrees schema bound (isManyToMany schema method) (isManyToMany schema method) :=
  (agrees_kind hplaced hmethod hbound).bind fun _ _ => Agrees.pure _

/-! ## Related entities and pivot tables -/

/-- The entity that a method returns. The inverse is asked for only if no entity has the name of the
return type, and its failure counts as no entity. -/
theorem agrees_returnedEntity (hbound : 1 ≤ bound) :
    Agrees schema bound (returnedEntity schema method) (returnedEntity schema method) := by
  unfold returnedEntity
  split
  · exact Agrees.pure _
  · refine (Agrees.lift _).bind fun found _ => ?_
    split
    · exact Agrees.pure _
    · exact ((agrees_inverse hplaced hmethod hbound).attempt _).bind fun _ _ => Agrees.pure _

omit hplaced hmethod in
/-- The method onwards is found without any lookup: the entity in between and its methods are read
off the schema. Both readings fail alike where there is none or more than one. -/
theorem agrees_onwardMethod (method : Method) :
    Agrees schema bound (onwardMethod schema method) (onwardMethod schema method) := by
  unfold onwardMethod
  refine (Agrees.lift _).bind fun between _ => ?_
  split
  · exact Agrees.pure _
  · split
    · exact Agrees.pure _
    · exact Agrees.throw _
    · exact Agrees.throw _

/-- Which side owns the pivot table is told by the names of the two entities. -/
theorem agrees_isFirstSide (hbound : 1 ≤ bound) :
    Agrees schema bound (isFirstSide schema method) (isFirstSide schema method) :=
  (agrees_inverse hplaced hmethod hbound).bind fun _ _ => Agrees.pure _

omit hplaced hmethod in
/-- The pivot table that a join names is found in the schema, without a lookup. -/
theorem agrees_pivotTableOfJoin (join : Join) :
    Agrees schema bound (pivotTableOfJoin schema join) (pivotTableOfJoin schema join) := by
  unfold pivotTableOfJoin
  refine (Agrees.lift _).bind fun found _ => ?_
  split
  · exact Agrees.pure _
  · exact Agrees.pure _

/-- The pivot table of a many-to-many, from the join of either side of either method, or else by
convention. The second join is asked of the inverse, which may have an inverse of its own. -/
theorem agrees_pivotTableOf (hbound : 1 ≤ bound) :
    Agrees schema bound (pivotTableOf schema method) (pivotTableOf schema method) := by
  unfold pivotTableOf
  refine (agrees_joinOfEitherSide hplaced hmethod hbound).bind fun join _ => ?_
  split
  · exact agrees_pivotTableOfJoin _
  · refine (agrees_inverse hplaced hmethod hbound).bind fun inverse hinverse => ?_
    have hmem : inverse ∈ schema.methods := mem_of_inverse hinverse
    refine (agrees_joinOfEitherSide hplaced hmem hbound).bind fun other _ => ?_
    split
    · exact agrees_pivotTableOfJoin _
    · exact Agrees.pure _

/-- The entity that is stored in the pivot table: a look at the schema after `pivotTableOf`. -/
theorem agrees_pivotEntityOf (hbound : 1 ≤ bound) :
    Agrees schema bound (pivotEntityOf schema method) (pivotEntityOf schema method) :=
  (agrees_pivotTableOf hplaced hmethod hbound).bind fun _ _ => Agrees.pure _

/-- The column that one side contributes to the pivot table. Where no condition of the join mentions
the entity both readings fail with the same error. -/
theorem agrees_pivotKey (hbound : 1 ≤ bound) :
    Agrees schema bound (pivotKey schema method) (pivotKey schema method) := by
  unfold pivotKey
  refine (agrees_joinOfEitherSide hplaced hmethod hbound).bind fun join _ => ?_
  split
  · exact Agrees.pure _
  · dsimp only
    split
    · exact Agrees.pure _
    · exact Agrees.throw _

/-- Both columns of an implied pivot table, asked of the method and of its inverse in turn. -/
theorem agrees_pivotColumns (hbound : 1 ≤ bound) :
    Agrees schema bound (pivotColumns schema method) (pivotColumns schema method) := by
  unfold pivotColumns
  refine (agrees_inverse hplaced hmethod hbound).bind fun inverse hinverse => ?_
  have hmem : inverse ∈ schema.methods := mem_of_inverse hinverse
  refine (agrees_pivotKey hplaced hmethod hbound).bind fun own _ => ?_
  exact (agrees_pivotKey hplaced hmem hbound).bind fun _ _ => Agrees.pure _

/-- Whether a method is a many-to-many with a given pivot table. The kind comes first, so a bound of
three is needed here and in all that asks which tables are pivot tables. -/
theorem agrees_pivotsThrough (hbound : 3 ≤ bound) (table : String) :
    Agrees schema bound (pivotsThrough schema table method)
      (pivotsThrough schema table method) := by
  unfold pivotsThrough
  refine (agrees_isManyToMany hplaced hmethod hbound).bind fun joins _ => ?_
  split
  · have hone : 1 ≤ bound := Nat.le_trans (by decide) hbound
    exact (agrees_pivotTableOf hplaced hmethod hone).bind fun _ _ => Agrees.pure _
  · exact Agrees.pure _

omit hmethod in
/-- The methods are asked one after the other, by induction on the list. What the earlier ones have
left in the memory is true, so it does not matter to the later ones. An error of one of them is
passed over in both readings, and what was remembered before the error is kept. -/
theorem agrees_anyPivotsThrough (hbound : 3 ≤ bound) (table : String) {methods : List Method}
    (hmethods : ∀ method ∈ methods, method ∈ schema.methods) :
    Agrees schema bound (anyPivotsThrough schema table methods)
      (anyPivotsThrough schema table methods) := by
  induction methods with
  | nil => exact Agrees.pure _
  | cons method methods ih =>
    have hmethod : method ∈ schema.methods := hmethods method (List.mem_cons_self)
    have hothers : ∀ other ∈ methods, other ∈ schema.methods := fun other hother =>
      hmethods other (List.mem_cons_of_mem _ hother)
    unfold anyPivotsThrough
    refine ((agrees_pivotsThrough hplaced hmethod hbound table).attempt _).bind fun found _ => ?_
    split
    · exact Agrees.pure _
    · exact ih hothers

omit hmethod in
/-- Whether an entity is stored in the pivot table of any method of the schema. -/
theorem agrees_isStoredAsPivot (hbound : 3 ≤ bound) (entity : Entity) :
    Agrees schema bound (isStoredAsPivot schema entity) (isStoredAsPivot schema entity) :=
  agrees_anyPivotsThrough hplaced hbound _ fun _ hmethod => hmethod

/-! ## Descriptions -/

omit hplaced hmethod in
/-- The primary key that a description needs is read off an entity, so nothing is asked of the
method; it only lends its name to the error. -/
theorem agrees_requireKey (relation : String) (entity : Entity) :
    Agrees schema bound (requireKey schema relation method entity)
      (requireKey schema relation method entity) :=
  Agrees.lift _

/-- The related entity, which has to be known; where it is not, both readings say so. -/
theorem agrees_knownEntity (hbound : 1 ≤ bound) :
    Agrees schema bound (knownEntity schema method) (knownEntity schema method) := by
  unfold knownEntity
  refine (agrees_returnedEntity hplaced hmethod hbound).bind fun found _ => ?_
  split
  · exact Agrees.pure _
  · exact Agrees.throw _

/-- A belongs-to asks for its related entity, its own foreign key and a primary key, in this order.
The order decides which error is told, and it is one text for both readings. -/
theorem agrees_describeBelongsTo (hbound : 2 ≤ bound) (base : RelationDescription) :
    Agrees schema bound (describeBelongsTo schema base method)
      (describeBelongsTo schema base method) := by
  unfold describeBelongsTo
  refine (agrees_knownEntity hplaced hmethod (Nat.le_of_succ_le hbound)).bind fun related _ => ?_
  refine (agrees_foreignKeyName hplaced hmethod hbound).bind fun foreignKey _ => ?_
  exact (agrees_requireKey _ _).bind fun _ _ => Agrees.pure _

/-- A has-one or has-many asks for the foreign key of its inverse. -/
theorem agrees_describeHas (hbound : 2 ≤ bound) (base : RelationDescription) :
    Agrees schema bound (describeHas schema base method) (describeHas schema base method) := by
  unfold describeHas
  refine (agrees_inverse hplaced hmethod (Nat.le_of_succ_le hbound)).bind
    fun inverse hinverse => ?_
  have hmem : inverse ∈ schema.methods := mem_of_inverse hinverse
  refine (agrees_foreignKeyName hplaced hmem hbound).bind fun foreignKey _ => ?_
  exact (agrees_requireKey _ _).bind fun _ _ => Agrees.pure _

/-- A many-to-many asks for the pivot table twice, once for the entity stored in it, and for the
columns of both sides. -/
theorem agrees_describeBelongsToMany (hbound : 1 ≤ bound) (base : RelationDescription) :
    Agrees schema bound (describeBelongsToMany schema base method)
      (describeBelongsToMany schema base method) := by
  unfold describeBelongsToMany
  refine (agrees_inverse hplaced hmethod hbound).bind fun inverse hinverse => ?_
  have hmem : inverse ∈ schema.methods := mem_of_inverse hinverse
  refine (agrees_pivotEntityOf hplaced hmethod hbound).bind fun pivotEntity _ => ?_
  refine (agrees_pivotTableOf hplaced hmethod hbound).bind fun pivotTable _ => ?_
  refine (agrees_pivotKey hplaced hmem hbound).bind fun foreignPivotKey _ => ?_
  refine (agrees_pivotKey hplaced hmethod hbound).bind fun relatedPivotKey _ => ?_
  refine (agrees_requireKey _ _).bind fun localKey _ => ?_
  exact (agrees_requireKey _ _).bind fun _ _ => Agrees.pure _

omit hplaced hmethod in
/-- The method onwards belongs to the entity in between, and so to the schema. A has-many-through
asks for the inverse of this method, which `agrees_inverse` only covers for methods of the
schema. -/
theorem mem_of_onwardMethod {onward : Method}
    (h : onwardMethod (m := Except Error) schema method = .ok (some onward)) :
    onward ∈ schema.methods := by
  unfold onwardMethod at h
  obtain ⟨between, hbetween, h⟩ := Outcome.bind_eq_ok.1 h
  rw [LookupMonad.lift_plain] at hbetween
  cases between with
  | none => cases h
  | some through =>
    cases hreturning : through.methodsReturning method.returnType with
    | nil =>
      simp only [hreturning] at h
      cases h
    | cons found others =>
      simp only [hreturning] at h
      cases others with
      | nil =>
        obtain rfl : found = onward := Option.some.inj (Except.ok.inj h)
        refine Schema.mem_methods_of_mem (Schema.mem_of_entityBetween hbetween) ?_
        refine @Entity.mem_of_mem_methodsReturning _ _ method.returnType ?_
        rw [hreturning]
        exact List.mem_cons_self
      | cons other rest => cases h

/-- A has-many-through asks for two foreign keys: of the method on its other side, and of the
inverse of the method onwards. Three methods besides its own take part, and each is shown to be one
of the schema before anything is asked of it. -/
theorem agrees_describeHasManyThrough (hbound : 2 ≤ bound) (base : RelationDescription) :
    Agrees schema bound (describeHasManyThrough schema base method)
      (describeHasManyThrough schema base method) := by
  have hone : 1 ≤ bound := Nat.le_of_succ_le hbound
  unfold describeHasManyThrough
  refine (agrees_inverse hplaced hmethod hone).bind fun inverseMethod hinverse => ?_
  have hmem : inverseMethod ∈ schema.methods := mem_of_inverse hinverse
  refine (agrees_onwardMethod method).bind fun onward honward => ?_
  split
  · exact Agrees.throw _
  · next through =>
    have hthrough : through ∈ schema.methods := mem_of_onwardMethod honward
    refine (agrees_inverse hplaced hthrough hone).bind fun endMethod hend => ?_
    have hendMem : endMethod ∈ schema.methods := mem_of_inverse hend
    refine (agrees_foreignKeyName hplaced hmem hbound).bind fun firstKey _ => ?_
    refine (agrees_foreignKeyName hplaced hendMem hbound).bind fun secondKey _ => ?_
    refine (agrees_requireKey _ _).bind fun localKey _ => ?_
    exact (agrees_requireKey _ _).bind fun _ _ => Agrees.pure _

/-- A polymorphic has-many asks for its inverse, whose name forms the columns. -/
theorem agrees_describeMorphMany (hbound : 1 ≤ bound) (base : RelationDescription) :
    Agrees schema bound (describeMorphMany schema base method)
      (describeMorphMany schema base method) := by
  unfold describeMorphMany
  refine (agrees_inverse hplaced hmethod hbound).bind fun inverse _ => ?_
  exact (agrees_requireKey _ _).bind fun _ _ => Agrees.pure _

/-- A polymorphic many-to-many from the side whose type is stored. -/
theorem agrees_describeMorphToMany (hbound : 1 ≤ bound) (base : RelationDescription) :
    Agrees schema bound (describeMorphToMany schema base method)
      (describeMorphToMany schema base method) := by
  unfold describeMorphToMany
  refine (agrees_knownEntity hplaced hmethod hbound).bind fun related _ => ?_
  exact (agrees_inverse hplaced hmethod hbound).bind fun _ _ => Agrees.pure _

/-- A polymorphic many-to-many from the other side. It is refused if the entity in between has a
primary key of its own, which is decided before the method is looked for. -/
theorem agrees_describeMorphedByMany (hbound : 1 ≤ bound) (base : RelationDescription) :
    Agrees schema bound (describeMorphedByMany schema base method)
      (describeMorphedByMany schema base method) := by
  unfold describeMorphedByMany
  refine (agrees_knownEntity hplaced hmethod hbound).bind fun related _ => ?_
  refine (agrees_inverse hplaced hmethod hbound).bind fun inverse _ => ?_
  dsimp only
  split
  -- nothing after the error is reached
  · refine (Agrees.throw _).bind fun _ hthrown => ?_
    cases hthrown
  · split
    · exact Agrees.pure _
    · exact Agrees.throw _

/-- **A description agrees.** The kind is asked for first and decides which of the lemmas above
covers the rest. None of them asks for a kind again, so three is enough for all of them. -/
theorem agrees_describe (hbound : 3 ≤ bound) :
    Agrees schema bound (describe schema method) (describe schema method) := by
  have htwo : 2 ≤ bound := Nat.le_of_succ_le hbound
  have hone : 1 ≤ bound := Nat.le_of_succ_le htwo
  unfold describe
  refine (agrees_kind hplaced hmethod hbound).bind fun kind _ => ?_
  cases kind with
  | belongsTo => exact agrees_describeBelongsTo hplaced hmethod htwo _
  | hasOne => exact agrees_describeHas hplaced hmethod htwo _
  | hasMany => exact agrees_describeHas hplaced hmethod htwo _
  | belongsToMany => exact agrees_describeBelongsToMany hplaced hmethod hone _
  | hasManyThrough => exact agrees_describeHasManyThrough hplaced hmethod htwo _
  | morphTo => exact Agrees.pure _
  | morphMany => exact agrees_describeMorphMany hplaced hmethod hone _
  | morphToMany => exact agrees_describeMorphToMany hplaced hmethod hone _
  | morphedByMany => exact agrees_describeMorphedByMany hplaced hmethod hone _

/-! ## Outcomes

With nothing known at the start nothing is running either, so every rule may be started, and its
outcome is the plain one. The results of the project are stated of `Tracked.evaluate` where they
speak of what is computed; these lemmas carry them over from the plain rules. -/

theorem evaluate_inverse :
    Tracked.evaluate (inverse schema method) = inverse (m := Except Error) schema method :=
  (agrees_inverse hplaced hmethod (Nat.le_refl 1)).evaluate_eq

/-- The kind, asked with nothing known. The bound of three is the highest that any rule needs. -/
theorem evaluate_kind :
    Tracked.evaluate (kind schema method) = kind (m := Except Error) schema method :=
  (agrees_kind hplaced hmethod (Nat.le_refl 3)).evaluate_eq

theorem evaluate_isFirstSide :
    Tracked.evaluate (isFirstSide schema method) = isFirstSide (m := Except Error) schema method :=
  (agrees_isFirstSide hplaced hmethod (Nat.le_refl 1)).evaluate_eq

theorem evaluate_pivotTableOf : Tracked.evaluate (pivotTableOf schema method) =
    pivotTableOf (m := Except Error) schema method :=
  (agrees_pivotTableOf hplaced hmethod (Nat.le_refl 1)).evaluate_eq

theorem evaluate_pivotEntityOf : Tracked.evaluate (pivotEntityOf schema method) =
    pivotEntityOf (m := Except Error) schema method :=
  (agrees_pivotEntityOf hplaced hmethod (Nat.le_refl 1)).evaluate_eq

theorem evaluate_pivotColumns : Tracked.evaluate (pivotColumns schema method) =
    pivotColumns (m := Except Error) schema method :=
  (agrees_pivotColumns hplaced hmethod (Nat.le_refl 1)).evaluate_eq

/-- A description, asked with nothing known. Errors are included: where the plain rules fail, the
tracked ones fail with the same error. -/
theorem evaluate_describe :
    Tracked.evaluate (describe schema method) = describe (m := Except Error) schema method :=
  (agrees_describe hplaced hmethod (Nat.le_refl 3)).evaluate_eq

end EntitySchema.Relation
