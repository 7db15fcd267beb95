/-
The kind of a relation.

A method never says what kind of relation it is. The kind follows from its line, from the fields of
both entities and from the method on the other side, by the conventions that a reader of the
document would use: `User.phone()` and `Phone.user()` with a field `user_id` in `Phone` are a
has-one and a belongs-to.

The rules are tried from the most to the least explicit. A union of types makes a method
polymorphic, and a join through a pivot table makes it a many-to-many, whatever else holds. Then
methods that return one thing and methods that return many go separate ways. Of one thing it has to
be found which of the two sides holds the foreign key: what the entity says by itself comes first,
and only if it says nothing is the other side asked. Of many things, unless they are of the same
entity, the question is what the other side returns and whether there is an entity in between.

A kind is asked for by way of `kind`, which marks the question as running and remembers the answer;
`computeKind` does neither. The rules ask for inverses and foreign keys, and never for another kind,
so that no kind depends on itself; this is proved in `EntitySchema.Proofs.Tracking.Nesting`.
-/
import EntitySchema.Relation.ForeignKey

set_option autoImplicit false

namespace EntitySchema.Relation

open LookupMonad (lift attempt)

variable {m : Type → Type} [LookupMonad m] (schema : Schema)

/-- Whether a method returns its own entity. -/
def returnsOwnEntity (method : Method) : Bool :=
  method.singleType == (schema.owner method).shortName

/-- Whether something about a method puts the foreign key into its own table. -/
def claimsForeignKey (method : Method) : m Bool := do
  if ← lift (schema.goesViaColumn method) then return true
  return (← ownJoinKey schema method).isSome

/-- The kind of a relation with one entity, seen from the method and its inverse, when nothing
about the method itself decides it. -/
def singleKindFromInverse (method inverse : Method) : m RelationKind := do
  let owner := schema.owner method
  if (← joinKeyIn schema inverse owner.shortName).isSome then return .belongsTo
  if ← claimsForeignKey schema inverse then return .hasOne
  if ← foreignKeyExists schema inverse then return .hasOne
  if inverse.returnsMany then return .belongsTo
  throw (.ambiguousOneToOne owner.shortName (schema.owner inverse).shortName)

/-- The kind of a relation with one entity. -/
def singleKind (method : Method) : m RelationKind := do
  let owner := schema.owner method
  -- what the entity says by itself comes before what the other side says
  if owner.hasField (← foreignKeyName schema method) then return .belongsTo
  if ← claimsForeignKey schema method then return .belongsTo
  match ← attempt Error.isMissingInverse (inverse schema method) with
  | some inverse => singleKindFromInverse schema method inverse
  | none =>
    throw (.missingForeignKey (schema.label method) owner.shortName method.name
      (← foreignKeyName schema method)
      s!"{studly method.name}.{pluralize (snake owner.shortName)}()")

/-- The kind of a relation with many entities. -/
def manyKind (method : Method) : m RelationKind := do
  if returnsOwnEntity schema method then return .hasMany
  let inverse ← inverse schema method
  if inverse.returnsMany then return .belongsToMany
  match ← lift (schema.entityBetween method) with
  | some through =>
    if inverse.isPolymorphic then return .morphToMany
    match through.methodsReturning method.singleType with
    | [candidate] => return if candidate.isPolymorphic then .morphedByMany else .hasManyThrough
    | _ => return .hasManyThrough
  | none => return if inverse.isPolymorphic then .morphMany else .hasMany

/-- The kind of a relation, when it is not known yet. -/
def computeKind (method : Method) : m RelationKind := do
  if method.isPolymorphic then return .morphTo
  if ← isJoinedByPivot schema method then return .belongsToMany
  if method.returnsOne then singleKind schema method else manyKind schema method

/-- The kind of a relation. -/
def kind (method : Method) : m RelationKind :=
  recallKind method.key <|
    during .kind method.key (schema.label method) <| computeKind schema method

/-- Whether a relation is a belongs-to. -/
def isBelongsTo (method : Method) : m Bool := do
  if method.returnsOne then return (← kind schema method) == .belongsTo else return false

/-- Whether a relation is a many-to-many. -/
def isManyToMany (method : Method) : m Bool := do
  return (← kind schema method) == .belongsToMany

end EntitySchema.Relation
