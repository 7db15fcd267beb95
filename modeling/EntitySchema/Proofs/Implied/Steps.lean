/-
The steps by which implied fields are added.

For each method four things are tried in turn: the column that it goes `via`, the column of its
join, the pair of columns of a polymorphic relation, and the foreign key of a belongs-to. Each of
them either leaves the schema alone or adds one named field to the owner of the method, and the
lemmas here say which of the two it was and on which answer of the rules that hung. They are
inversion lemmas: from the outcome of a step one learns everything that the step can have done, and
no later proof opens the steps again.

The order matters, since each step is asked of the schema that the one before it has left. A column
that `via` has added is already there when the foreign key is asked for, and the kind of a relation
depends on it. `addMethodFields_eq_ok` keeps the schemas in between, so that a proof can speak about
the moment at which an answer was given.

Nothing else ever happens to the schema, so a property that survives `addPrimaryKey` and
`addImplied` survives the whole work: `addImpliedFields_induction`. The induction follows the
nesting of the loops, one lemma for a step, one for a method, one for an entity and one for all
entities, and its two hypotheses are about one added field each. Properties of different kinds are
carried by it: that all items stay placed, that the schema only grows, that all implied columns have
one policy. Where a property also needs to know why a field was added, the induction does not say
enough, and `Schema.addMethodFields_steps` in `Implied.Justified` takes its place.
-/
import EntitySchema.Schema.Implied
import EntitySchema.Proofs.Outcome

set_option autoImplicit false

namespace EntitySchema.Schema

open Outcome

variable {schema after : Schema} {method : Method}

/-! ## One step -/

/-- The column that a method goes `via` is added exactly when `via` names one. A name that belongs
to an entity, or that ends like a call, is no column. -/
theorem addViaColumn_cases (h : schema.addViaColumn method = .ok after) :
    (schema.goesViaColumn method = .ok false ∧ after = schema) ∨
      ∃ column, method.viaName? = some column ∧ schema.goesViaColumn method = .ok true ∧
        after = schema.addImpliedOf method column schema.config.foreignKeyType := by
  rw [addViaColumn, bind_eq_ok] at h
  obtain ⟨goes, hgoes, h⟩ := h
  cases hname : method.viaName? with
  | none =>
    have hnot : schema.goesViaColumn method = .ok false := by
      rw [goesViaColumn, hname]
      rfl
    rw [hname] at h
    exact .inl ⟨hnot, (Except.ok.inj h).symm⟩
  | some column =>
    rw [hname] at h
    cases goes with
    | false => exact .inl ⟨hgoes, (Except.ok.inj h).symm⟩
    | true => exact .inr ⟨column, rfl, hgoes, (Except.ok.inj h).symm⟩

/-- The column of a join is added exactly when the join mentions a key of the owner. A primary key
of the owner is not counted as one, and whether a column is a primary key is asked at this
moment. -/
theorem addJoinKey_cases (h : schema.addJoinKey method = .ok after) :
    (Relation.ownJoinKey (m := Except Error) schema method = .ok none ∧ after = schema) ∨
      ∃ column, Relation.ownJoinKey (m := Except Error) schema method = .ok (some column) ∧
        after = schema.addImpliedOf method column schema.config.foreignKeyType := by
  rw [addJoinKey, bind_eq_ok] at h
  obtain ⟨key, hkey, h⟩ := h
  cases key with
  | none => exact .inl ⟨hkey, (Except.ok.inj h).symm⟩
  | some column => exact .inr ⟨column, hkey, (Except.ok.inj h).symm⟩

/-- A foreign key is added exactly for a belongs-to. This is the last step of a method, and the only
one that asks for a kind. -/
theorem addForeignKey_cases (h : schema.addForeignKey method = .ok after) :
    (Relation.isBelongsTo (m := Except Error) schema method = .ok false ∧ after = schema) ∨
      ∃ column, Relation.isBelongsTo (m := Except Error) schema method = .ok true ∧
        Relation.foreignKeyName (m := Except Error) schema method = .ok column ∧
        after = schema.addImpliedOf method column schema.config.foreignKeyType := by
  rw [addForeignKey, bind_eq_ok] at h
  obtain ⟨belongs, hbelongs, h⟩ := h
  cases belongs with
  | false => exact .inl ⟨hbelongs, (Except.ok.inj h).symm⟩
  | true =>
    obtain ⟨column, hcolumn, h⟩ := bind_eq_ok.1 h
    exact .inr ⟨column, hbelongs, hcolumn, (Except.ok.inj h).symm⟩

/-- The four steps of a method, one after the other. The pair of a polymorphic relation is added
without asking anything, so this step cannot fail and leaves no schema to be named. -/
theorem addMethodFields_eq_ok :
    schema.addMethodFields method = .ok after ↔ ∃ withVia withJoin,
      schema.addViaColumn method = .ok withVia ∧ withVia.addJoinKey method = .ok withJoin ∧
        (withJoin.addMorphFields method).addForeignKey method = .ok after := by
  simp only [addMethodFields, bind_eq_ok, mapError_eq_ok]
  constructor
  · rintro ⟨withVia, hvia, withJoin, hjoin, hlast⟩
    exact ⟨withVia, withJoin, hvia, hjoin, hlast⟩
  · rintro ⟨withVia, withJoin, hvia, hjoin, hlast⟩
    exact ⟨withVia, hvia, withJoin, hjoin, hlast⟩

/-! ## All steps -/

section Induction

variable {P : Schema → Prop}
  (hadd : ∀ schema index name type, P schema → P (schema.addImplied index name type))

include hadd

/-- What survives the adding of a field survives the step of `via`. -/
theorem addViaColumn_induction (hstart : P schema) (h : schema.addViaColumn method = .ok after) :
    P after := by
  rcases addViaColumn_cases h with ⟨-, rfl⟩ | ⟨column, -, -, rfl⟩
  · exact hstart
  · exact hadd _ _ _ _ hstart

/-- What survives the adding of a field survives the step of the join. -/
theorem addJoinKey_induction (hstart : P schema) (h : schema.addJoinKey method = .ok after) :
    P after := by
  rcases addJoinKey_cases h with ⟨-, rfl⟩ | ⟨column, -, rfl⟩
  · exact hstart
  · exact hadd _ _ _ _ hstart

/-- The one step that may add two fields, and so uses the hypothesis twice. -/
theorem addMorphFields_induction (hstart : P schema) : P (schema.addMorphFields method) := by
  rw [addMorphFields]
  split
  · exact hadd _ _ _ _ (hadd _ _ _ _ hstart)
  · exact hstart

/-- What survives the adding of a field survives the step of the foreign key. -/
theorem addForeignKey_induction (hstart : P schema) (h : schema.addForeignKey method = .ok after) :
    P after := by
  rcases addForeignKey_cases h with ⟨-, rfl⟩ | ⟨column, -, -, rfl⟩
  · exact hstart
  · exact hadd _ _ _ _ hstart

/-- What survives the adding of a field survives the steps of a method. No primary key is added
here, so the hypothesis about primary keys only comes below. -/
theorem addMethodFields_induction (hstart : P schema)
    (h : schema.addMethodFields method = .ok after) : P after := by
  obtain ⟨withVia, withJoin, hvia, hjoin, hlast⟩ := addMethodFields_eq_ok.1 h
  have hfirst : P withVia := addViaColumn_induction hadd hstart hvia
  have hsecond : P withJoin := addJoinKey_induction hadd hfirst hjoin
  exact addForeignKey_induction hadd (addMorphFields_induction hadd hsecond) hlast

variable (hkey : ∀ schema index, P schema → P (schema.addPrimaryKey index))

include hkey

/-- What survives the adding of a field and of a primary key survives the steps of an entity. The
primary key comes first, before any method of the entity is looked at. -/
theorem addEntityFields_induction {index : Nat} (hstart : P schema)
    (h : schema.addEntityFields index = .ok after) : P after := by
  rw [addEntityFields] at h
  split at h
  · exact Except.ok.inj h ▸ hstart
  · refine foldlM_induction (hkey _ _ hstart) ?_ h
    intro before method next _ hbefore hnext
    exact addMethodFields_induction hadd hbefore hnext

/-- **Induction over the adding of implied fields.** What survives the adding of a field and of a
primary key holds at the end. The work may fail on the way, and then there is nothing to prove: the
hypothesis says that it did not. -/
theorem addImpliedFields_induction (hstart : P schema)
    (h : schema.addImpliedFields = .ok after) : P after := by
  refine foldlM_induction hstart ?_ h
  intro before index next _ hbefore hnext
  exact addEntityFields_induction hadd hkey hbefore hnext

end Induction

end EntitySchema.Schema
