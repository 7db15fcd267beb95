/-
Kinds of relations.
-/

set_option autoImplicit false

namespace EntitySchema

/-- The kind of a relation, seen from the entity that declares it. -/
inductive RelationKind where
  /-- The entity holds the foreign key. -/
  | belongsTo
  /-- One related entity holds the foreign key. -/
  | hasOne
  /-- Many related entities hold the foreign key. -/
  | hasMany
  /-- A pivot table holds the keys of both sides. -/
  | belongsToMany
  /-- The related entities hold the key of an entity in between. -/
  | hasManyThrough
  /-- The entity holds a key and the type that it refers to. -/
  | morphTo
  /-- Many related entities hold a key and a type. -/
  | morphMany
  /-- A pivot entity holds a key and a type of this side. -/
  | morphToMany
  /-- A pivot entity holds a key and a type of the other side. -/
  | morphedByMany
  deriving DecidableEq, Repr, Inhabited

namespace RelationKind

/-- The name of a kind. -/
def name : RelationKind → String
  | belongsTo => "belongs_to"
  | hasOne => "has_one"
  | hasMany => "has_many"
  | belongsToMany => "belongs_to_many"
  | hasManyThrough => "has_many_through"
  | morphTo => "morph_to"
  | morphMany => "morph_many"
  | morphToMany => "morph_to_many"
  | morphedByMany => "morphed_by_many"

/-- All kinds. -/
def all : List RelationKind :=
  [belongsTo, hasOne, hasMany, belongsToMany, hasManyThrough, morphTo, morphMany, morphToMany,
   morphedByMany]

/-- Every kind is listed. -/
theorem mem_all (kind : RelationKind) : kind ∈ all := by cases kind <;> simp [all]

end RelationKind

end EntitySchema
