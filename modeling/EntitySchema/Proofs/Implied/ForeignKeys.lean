/-
Foreign keys of a finished schema.

A document that was read without an error has all the columns its relations need. For a method that
returns one this means three things: its kind is known; if it is a belongs-to, its entity has the
column that holds the foreign key; and the relation on the other side is described with that same
column. `exists_foreignKey_of_parse` proves all three.

There is one situation to be left out, in which the key is lost on the way (`Schema.LosesKey`). It
needs a join that names the field `id` of an entity whose line list leaves this `id` to be implied,
and the theorem asks that there be no such join between a method that returns one and its inverse.
The hypothesis is put in terms of what stands in the document and of what the rules answer, so that
it can be checked without knowing how the fields were added: if the inverse joins by `id`, then some
line of its entity declares a primary key or a field `id`.

The work lies elsewhere. That every method which returns one is resolved at the end, unless it loses
its key, is `isResolved_or_losesKey_of_addImpliedFields`; here its second case is refuted by the
hypothesis, and its first one is unfolded into the three statements. The last of them is about the
other side, and needs only that the description asks for the foreign key of its inverse.

The answers are those of a resolver that remembers its lookups and knows nothing at the start. They
are taken back to the plain ones, on which the theory of growth speaks. For this the schema has to
be placed, which the schema of a document is.
-/
import EntitySchema.Proofs.Implied.Idempotence
import EntitySchema.Proofs.Tracking.Relations

set_option autoImplicit false

namespace EntitySchema

open Outcome
open EntitySchema.Relation

/-- Some line of an entity declares a primary key or a field `id`. Then no `id` is implied for
it. -/
def Entity.DeclaresKey (entity : Entity) : Prop :=
  ∃ field ∈ entity.declaredFields, field.primaryKey = true ∨ field.name = "id"

/-- An implied `id` means that no key is declared. With this the hypothesis of the theorem excludes
a lost key. -/
theorem Entity.ImpliesId.not_declaresKey {entity : Entity} (h : entity.ImpliesId) :
    ¬ entity.DeclaresKey := by
  rintro ⟨field, hfield, hkey | hname⟩
  · rw [(h.notDeclared field hfield).1] at hkey
    cases hkey
  · exact (h.notDeclared field hfield).2 hname

/-! ## Descriptions of the other side -/

namespace Relation

variable {schema : Schema} {method other : Method}

/-- A has-one or has-many is described with the foreign key of its inverse. The description asks for
the name again, and it is asked of the same schema, so the answer is the one of the other side. -/
theorem foreignKey_of_describe {kind : RelationKind} {description : RelationDescription}
    (hkind : Relation.kind (m := Except Error) schema other = .ok kind)
    (hhas : kind = .hasOne ∨ kind = .hasMany)
    (hinverse : inverse (m := Except Error) schema other = .ok method)
    (h : describe (m := Except Error) schema other = .ok description) :
    ∃ column, foreignKeyName (m := Except Error) schema method = .ok column ∧
      description.foreignKey = some column := by
  have hdescribe : ∃ base : RelationDescription,
      describeHas (m := Except Error) schema base other = .ok description := by
    unfold describe at h
    rw [hkind, ok_bind] at h
    rcases hhas with rfl | rfl
    · exact ⟨_, h⟩
    · exact ⟨_, h⟩
  obtain ⟨base, hbase⟩ := hdescribe
  unfold describeHas at hbase
  rw [hinverse, ok_bind, bind_eq_ok] at hbase
  obtain ⟨column, hcolumn, hbase⟩ := hbase
  obtain ⟨localKey, -, hbase⟩ := bind_eq_ok.1 hbase
  obtain rfl := Except.ok.inj hbase
  exact ⟨column, hcolumn, rfl⟩

end Relation

namespace Schema

variable {schema : Schema} {method : Method}

/-- **The foreign keys of a finished schema.** Suppose that no method which returns one and whose
join gives it no key has an inverse that joins by an `id` its entity does not declare. Then every
method that returns one has a kind; a belongs-to has its column; and a has-one or has-many on the
other side is described with this column. -/
theorem exists_foreignKey_of_parse {config : Config} {text : String}
    (hparse : Schema.parse config text = .ok schema)
    (hdeclared : ∀ method ∈ schema.methods, ∀ inverseMethod, method.returnsOne = true →
      Tracked.evaluate (ownJoinKey schema method) = .ok none →
      Tracked.evaluate (inverse schema method) = .ok inverseMethod →
      Tracked.evaluate (ownJoinColumn schema inverseMethod) = .ok (some "id") →
      (schema.owner inverseMethod).DeclaresKey)
    (hmethod : method ∈ schema.methods) (hone : method.returnsOne = true) :
    ∃ kind, Tracked.evaluate (Relation.kind schema method) = .ok kind ∧
      (kind = .belongsTo → ∃ column,
        Tracked.evaluate (foreignKeyName schema method) = .ok column ∧
          (schema.owner method).hasField column = true) ∧
      ∀ other ∈ schema.methods, ∀ otherKind description,
        Tracked.evaluate (inverse schema other) = .ok method →
        Tracked.evaluate (Relation.kind schema other) = .ok otherKind →
        otherKind = .hasOne ∨ otherKind = .hasMany →
        Tracked.evaluate (describe schema other) = .ok description →
        ∃ column, Tracked.evaluate (foreignKeyName schema method) = .ok column ∧
          description.foreignKey = some column := by
  have hplaced : schema.IsPlaced := isPlaced_of_parse hparse
  obtain ⟨document, hread, hfirst⟩ := parse_eq_ok.1 hparse
  have hname : Tracked.evaluate (foreignKeyName schema method) = foreignKeyName schema method :=
    (agrees_foreignKeyName hplaced hmethod (Nat.le_refl 2)).evaluate_eq
  have hresolved : schema.IsResolved method := by
    have hmem : method ∈ document.schema.methods :=
      (grows_addImpliedFields hfirst).methods_eq ▸ hmethod
    rcases isResolved_or_losesKey_of_addImpliedFields (Document.isPlaced_of_readText hread) hfirst
      hmem hone with hresolved | ⟨inverseMethod, hloses⟩
    · exact hresolved
    · refine absurd ?_ hloses.impliesId.not_declaresKey
      have hinverse := hloses.leavesKeyTo.inverse_eq
      refine hdeclared method hmethod inverseMethod hone ?_ ?_ ?_
      · rw [(agrees_ownJoinKey hplaced hmethod (Nat.le_refl 1)).evaluate_eq]
        rcases claimsForeignKey_eq_ok.1 hloses.leavesKeyTo.notClaimed with
          ⟨-, ⟨⟩⟩ | ⟨-, key, hkey, hnone⟩
        rw [hkey, Option.isNone_iff_eq_none.1 (Option.isSome_eq_false_iff.1 hnone)]
      · rw [(agrees_inverse hplaced hmethod (Nat.le_refl 1)).evaluate_eq, hinverse]
      · have hmem' : inverseMethod ∈ schema.methods := mem_of_inverse hinverse
        rw [(agrees_ownJoinColumn hplaced hmem' (Nat.le_refl 1)).evaluate_eq, hloses.joinsById]
  obtain ⟨kind, hkind, hbelongs⟩ := hresolved
  refine ⟨kind, ?_, ?_, ?_⟩
  · rw [(agrees_kind hplaced hmethod (Nat.le_refl 3)).evaluate_eq, hkind]
  · intro heq
    rw [hname]
    exact foreignKeyExists_eq_ok.1 (hbelongs heq)
  · intro other hother otherKind description hinverse hotherKind hhas hdescribe
    rw [(agrees_inverse hplaced hother (Nat.le_refl 1)).evaluate_eq] at hinverse
    rw [(agrees_kind hplaced hother (Nat.le_refl 3)).evaluate_eq] at hotherKind
    rw [(agrees_describe hplaced hother (Nat.le_refl 3)).evaluate_eq] at hdescribe
    rw [hname]
    exact foreignKey_of_describe hotherKind hhas hinverse hdescribe

/-- In the example the side of the teams joins by `id`, which is declared there; the players get
the column `team1_id`, and the teams are described with it. -/
theorem exists_foreignKey_team1 :
    team1 ∈ players.methods ∧ team1.returnsOne = true ∧
      (∃ column, Tracked.evaluate (foreignKeyName players team1) = .ok column ∧
        (players.owner team1).hasField column = true) ∧
      ∃ description, Tracked.evaluate (describe players players1) = .ok description ∧
        ∃ column, Tracked.evaluate (foreignKeyName players team1) = .ok column ∧
          description.foreignKey = some column := by
  have hmethod : team1 ∈ players.methods := List.mem_cons_self
  have hother : players1 ∈ players.methods := List.mem_cons_of_mem _ List.mem_cons_self
  have hback : ∀ method ∈ players.methods, method.returnsOne = true →
      (Tracked.evaluate (inverse players method)).toOption = some players1 := by decide +kernel
  have hone : team1.returnsOne = true := by decide +kernel
  have hkind : Tracked.evaluate (Relation.kind players team1) = .ok .belongsTo :=
    eq_ok_of_toOption (by decide +kernel)
  have hotherKind : Tracked.evaluate (Relation.kind players players1) = .ok .hasMany :=
    eq_ok_of_toOption (by decide +kernel)
  have hinverse : Tracked.evaluate (inverse players players1) = .ok team1 :=
    eq_ok_of_toOption (by decide +kernel)
  obtain ⟨kind, hkind', hcolumn, hdescriptions⟩ :=
    exists_foreignKey_of_parse parse_playersText (by
      intro method hmem inverseMethod hsingle _ hinverse _
      rw [eq_ok_of_toOption (hback method hmem hsingle)] at hinverse
      obtain rfl : players1 = inverseMethod := Except.ok.inj hinverse
      exact ⟨{ name := "id", type := "increments", owner? := some 1, primaryKey := true },
        List.mem_cons_self, .inl rfl⟩) hmethod hone
  refine ⟨hmethod, hone, hcolumn (Except.ok.inj (hkind'.symm.trans hkind)), ?_⟩
  have hdescribed : (Tracked.evaluate (describe players players1)).toOption.isSome = true := by
    decide +kernel
  obtain ⟨description, hdescription⟩ := Option.isSome_iff_exists.1 hdescribed
  refine ⟨description, eq_ok_of_toOption hdescription, ?_⟩
  exact hdescriptions players1 hother .hasMany description hinverse hotherKind (.inr rfl)
    (eq_ok_of_toOption hdescription)

end Schema

end EntitySchema
