/-
Tracking of lookups.

To find the kind of a relation, the method on its other side is looked up, and that method may point
anywhere. Two things are done around such lookups. A lookup that is running is marked, so that
coming back to it is told as a cycle instead of going round forever. And what was found may be
remembered, since the same methods are asked for again and again.

`LookupMonad` is the interface: the rules of `EntitySchema.Relation` are written once over it. In
`Except Error` nothing is marked or remembered, which is the plain meaning of the rules. `Tracked`
marks lookups, and remembers them if it is told to.

The rules do not recurse through the monad: what calls what is fixed, so even the plain reading is
total and needs no fuel. That no lookup ever meets its own mark, and that a memory does not change
an answer, are theorems about these rules (`EntitySchema.Proofs.Tracking.Nesting` and
`EntitySchema.Proofs.Tracking.Agreement`).

What is known about lookups is kept when an action fails. A mark is taken off in either case, and
only answers are remembered, never errors. So a failed query leaves a memory from which later ones
can go on.
-/
import EntitySchema.Relation.Kind
import EntitySchema.Schema.Lookup

set_option autoImplicit false

namespace EntitySchema

/-- A lookup that is marked while it runs. -/
inductive Lookup where
  | kind
  | inverse
  | foreignKey
  deriving DecidableEq, Repr, Inhabited

/-- What happens around lookups. -/
class LookupMonad (m : Type → Type) extends Monad m, MonadExceptOf Error m where
  /-- Runs an action that is a lookup for the method with a key. -/
  during {α : Type} (lookup : Lookup) (key : MethodKey) (label : String) (action : m α) : m α
  /-- The kind of the method with a key, remembered or computed. -/
  recallKind (key : MethodKey) (compute : m RelationKind) : m RelationKind
  /-- The inverse of the method with a key, remembered or computed. -/
  recallInverse (schema : Schema) (key : MethodKey) (compute : m Method) : m Method

export LookupMonad (during recallKind recallInverse)

namespace LookupMonad

variable {m : Type → Type} [LookupMonad m] {α : Type}

/-- The outcome of something that needs no tracking. -/
def lift (outcome : Except Error α) : m α :=
  match outcome with
  | .ok value => pure value
  | .error error => throw error

/-- What an action finds, or nothing if it fails in a way that is expected. -/
def attempt (isExpected : Error → Bool) (action : m α) : m (Option α) :=
  tryCatch (some <$> action) fun error => if isExpected error then pure none else throw error

end LookupMonad

/-! ## Without tracking -/

/-- Nothing is marked and nothing is remembered. -/
instance : LookupMonad (Except Error) where
  during _ _ _ action := action
  recallKind _ compute := compute
  recallInverse _ _ compute := compute

/-! ## With tracking -/

/-- A lookup that is running, and for which method. -/
structure RunningLookup where
  lookup : Lookup
  key : MethodKey
  label : String
  deriving DecidableEq, Repr, Inhabited

/-- What is known about lookups: what was found so far, and what is running. An inverse is
remembered by its key, so that it is always read from the schema as it is now. -/
structure Lookups where
  kinds : List (MethodKey × RelationKind) := []
  inverses : List (MethodKey × MethodKey) := []
  /-- The lookups that are running, the first one first. -/
  running : List RunningLookup := []
  deriving DecidableEq, Repr, Inhabited

namespace Lookups

/-- Whether a lookup is running for a method. -/
def isRunning (lookups : Lookups) (lookup : Lookup) (key : MethodKey) : Bool :=
  lookups.running.any fun running => running.lookup == lookup && running.key == key

/-- Marks a lookup as running. One that is running already is a cycle. -/
def enter (lookups : Lookups) (lookup : Lookup) (key : MethodKey) (label : String) :
    Except Error Lookups :=
  if lookups.isRunning lookup key then
    .error (.inverseCycle (lookups.running.map (·.label) ++ [label]))
  else
    .ok { lookups with running := lookups.running ++ [⟨lookup, key, label⟩] }

/-- Takes the mark off the lookup that was marked last. -/
def leave (lookups : Lookups) : Lookups := { lookups with running := lookups.running.dropLast }

end Lookups

/-- Actions with tracked lookups, which are told whether to remember answers. What is known about
lookups stays when they fail. -/
abbrev Tracked := ReaderT Bool (ExceptT Error (StateM Lookups))

namespace Tracked

variable {α : Type}

/-- The outcome of an action, and what is known about lookups afterwards. -/
def answer (action : Tracked α) (remembering : Bool) (lookups : Lookups) :
    Except Error α × Lookups :=
  action remembering lookups

/-- The outcome of an action that remembers its lookups, with nothing known at its start. -/
def evaluate (action : Tracked α) : Except Error α := (action.answer true {}).1

/-- Runs an action while a lookup is marked. The mark is taken off whether the action succeeds or
not. -/
def mark (lookup : Lookup) (key : MethodKey) (label : String) (action : Tracked α) :
    Tracked α := fun remembering lookups =>
  match lookups.enter lookup key label with
  | .error error => (.error error, lookups)
  | .ok marked =>
    let (outcome, after) := action.answer remembering marked
    (outcome, after.leave)

/-- What is known, or else what is computed, which is then kept. An action that is told to
remember nothing computes without a look at the memory. An error is never kept. -/
def remember (known : Lookups → Option α) (keep : α → Lookups → Lookups) (compute : Tracked α) :
    Tracked α := do
  if ← read then
    match known (← get) with
    | some value => return value
    | none =>
      let value ← compute
      modify (keep value)
      return value
  else
    compute

/-- The remembered kind, or else the computed one, which is remembered. -/
def rememberKind (key : MethodKey) (compute : Tracked RelationKind) : Tracked RelationKind :=
  remember (·.kinds.lookup key) (fun kind lookups =>
    { lookups with kinds := (key, kind) :: lookups.kinds }) compute

/-- The remembered inverse, or else the computed one, which is remembered by its key. -/
def rememberInverse (schema : Schema) (key : MethodKey) (compute : Tracked Method) :
    Tracked Method :=
  remember (fun lookups => (lookups.inverses.lookup key).bind schema.methodAt?)
    (fun inverse lookups =>
      { lookups with inverses := (key, inverse.key) :: lookups.inverses }) compute

end Tracked

/-- Lookups are marked, and remembered if the action is told to. -/
instance : LookupMonad Tracked where
  during := Tracked.mark
  recallKind := Tracked.rememberKind
  recallInverse := Tracked.rememberInverse

end EntitySchema
