/-
Asking many questions of one memory.

A program that compiles a document asks hundreds of questions about its relations, and it keeps what
it has found out for the next question. The order of the questions is the program's business, and
some of them fail half way, after a part of their lookups is already remembered. None of this may
show in an answer: `answers_eq_map_answerAlone` says that each question gets the answer that it
would get if it were the only one and nothing were ever remembered.

The questions are data here, so that a statement can speak of any list of them. `Query.ask` reads a
question over `LookupMonad` like the rules it stands for, and `answers` threads what is known
through a list, past the questions that fail.

The step is `Query.agrees_ask`: one question leaves a true memory and no marks behind, whatever its
answer. It is a case analysis over the questions, each case the agreement of one rule. The run is an
induction over the questions that carries these two facts, and it starts from the empty memory,
which holds nothing that could be false.

A question about a method that is in no schema is left out (`Query.IsAbout`). Its key would be that
of another method, and the memory of that one would answer for it.
-/
import EntitySchema.Proofs.Tracking.Relations

set_option autoImplicit false

namespace EntitySchema

open Tracked (Agrees)

/-! ## Questions -/

/-- A question about a schema. All but one are about a method. -/
inductive Query where
  | kind (method : Method)
  | inverse (method : Method)
  | join (method : Method)
  | foreignKey (method : Method)
  | related (method : Method)
  | pivotTable (method : Method)
  | pivotEntity (method : Method)
  | pivotKey (method : Method)
  | pivotColumns (method : Method)
  | isPivot (entity : Entity)
  | onward (method : Method)
  deriving DecidableEq, Repr, Inhabited

/-- What a question is answered with. -/
inductive Query.Answer where
  | ofKind (kind : RelationKind)
  | ofMethod (method : Option Method)
  | ofJoin (join : Option Join)
  | ofName (name : String)
  | ofEntity (entity : Option Entity)
  | ofColumns (columns : List (String × Bool))
  | ofBool (value : Bool)
  deriving DecidableEq, Repr, Inhabited

namespace Query

/-- Whether the method of a question is a method of the schema. -/
def IsAbout (schema : Schema) : Query → Prop
  | isPivot _ => True
  | kind method | inverse method | join method | foreignKey method | related method
  | pivotTable method | pivotEntity method | pivotKey method | pivotColumns method
  | onward method => method ∈ schema.methods

/-- Asks a question. -/
def ask {m : Type → Type} [LookupMonad m] (schema : Schema) : Query → m Answer
  | kind method => .ofKind <$> Relation.kind schema method
  | inverse method => (.ofMethod ∘ some) <$> Relation.inverse schema method
  | join method => .ofJoin <$> Relation.joinOfEitherSide schema method
  | foreignKey method => .ofName <$> Relation.foreignKeyName schema method
  | related method => .ofEntity <$> Relation.returnedEntity schema method
  | pivotTable method => .ofName <$> Relation.pivotTableOf schema method
  | pivotEntity method => .ofEntity <$> Relation.pivotEntityOf schema method
  | pivotKey method => .ofName <$> Relation.pivotKey schema method
  | pivotColumns method => .ofColumns <$> Relation.pivotColumns schema method
  | isPivot entity => .ofBool <$> Relation.isStoredAsPivot schema entity
  | onward method => .ofMethod <$> Relation.onwardMethod schema method

/-- The answers to questions that are asked one after the other. What is known about lookups after
one question is known at the start of the next, whether it was answered or failed. -/
def answers (schema : Schema) (remembering : Bool) (lookups : Lookups) :
    List Query → List (Except Error Answer)
  | [] => []
  | query :: queries =>
    let (outcome, after) := (query.ask (m := Tracked) schema).answer remembering lookups
    outcome :: answers schema remembering after queries

/-- The answer to a question that is asked alone and remembers nothing. -/
def answerAlone (schema : Schema) (query : Query) : Except Error Answer :=
  ((query.ask (m := Tracked) schema).answer false {}).1

variable {schema : Schema}

/-! ## One question -/

/-- **One question.** Whatever is remembered, a question has its plain answer. A question about
kinds needs the bound of three, and every other question is content with it. -/
theorem agrees_ask (hplaced : schema.IsPlaced) {query : Query} (h : query.IsAbout schema)
    {bound : Nat} (hbound : 3 ≤ bound) :
    Agrees schema bound (query.ask schema) (query.ask schema) := by
  have htwo : 2 ≤ bound := Nat.le_of_succ_le hbound
  have hone : 1 ≤ bound := Nat.le_of_succ_le htwo
  cases query with
  | kind method => exact (Relation.agrees_kind hplaced h hbound).map _
  | inverse method => exact (Relation.agrees_inverse hplaced h hone).map _
  | join method => exact (Relation.agrees_joinOfEitherSide hplaced h hone).map _
  | foreignKey method => exact (Relation.agrees_foreignKeyName hplaced h htwo).map _
  | related method => exact (Relation.agrees_returnedEntity hplaced h hone).map _
  | pivotTable method => exact (Relation.agrees_pivotTableOf hplaced h hone).map _
  | pivotEntity method => exact (Relation.agrees_pivotEntityOf hplaced h hone).map _
  | pivotKey method => exact (Relation.agrees_pivotKey hplaced h hone).map _
  | pivotColumns method => exact (Relation.agrees_pivotColumns hplaced h hone).map _
  | isPivot entity => exact (Relation.agrees_isStoredAsPivot hplaced hbound entity).map _
  | onward method => exact (Relation.agrees_onwardMethod method).map _

/-- A question that is asked alone has its plain answer, also with remembering switched off. -/
theorem answerAlone_eq (hplaced : schema.IsPlaced) {query : Query} (h : query.IsAbout schema) :
    answerAlone schema query = query.ask schema := by
  obtain ⟨after, hanswer, -⟩ := agrees_ask hplaced h (Nat.le_refl 3) false {}
    Lookups.IsTrue.empty Lookups.isIdleBelow_empty
  rw [answerAlone, hanswer]

/-! ## Many questions -/

/-- From any true memory the questions have their plain answers. The induction is on the questions,
over all memories, since each question starts from what the ones before it have left. -/
theorem answers_eq_of_isTrue (hplaced : schema.IsPlaced) (remembering : Bool)
    {queries : List Query} (hqueries : ∀ query ∈ queries, query.IsAbout schema)
    {lookups : Lookups} (htrue : lookups.IsTrue schema) (hidle : lookups.IsIdleBelow 3) :
    answers schema remembering lookups queries = queries.map (answerAlone schema) := by
  induction queries generalizing lookups with
  | nil => rfl
  | cons query queries ih =>
    have hquery : query.IsAbout schema := hqueries query List.mem_cons_self
    have hothers : ∀ other ∈ queries, other.IsAbout schema := fun other hother =>
      hqueries other (List.mem_cons_of_mem _ hother)
    obtain ⟨after, hanswer, htrue', hrunning⟩ :=
      agrees_ask hplaced hquery (Nat.le_refl 3) remembering lookups htrue hidle
    -- the marks are as they were, whether the question was answered or failed
    have hidle' : after.IsIdleBelow 3 := by
      rw [Lookups.IsIdleBelow, hrunning]
      exact hidle
    rw [answers, List.map_cons, answerAlone_eq hplaced hquery]
    simp only [hanswer]
    rw [ih hothers htrue' hidle']

/-- **Remembering never shows.** Of the schema of a document any number of questions may be asked,
in any order, of one memory. Each gets the answer, a value or an error, that it gets when it is
asked alone and nothing is remembered. -/
theorem answers_eq_map_answerAlone {config : Config} {text : String}
    (hparse : Schema.parse config text = .ok schema) {queries : List Query}
    (hqueries : ∀ query ∈ queries, query.IsAbout schema) :
    answers schema true {} queries = queries.map (answerAlone schema) :=
  answers_eq_of_isTrue (Schema.isPlaced_of_parse hparse) true hqueries Lookups.IsTrue.empty
    Lookups.isIdleBelow_empty

/-- The kinds of the example are asked for twice, before and after the inverses, so the second time
they are all remembered. -/
theorem answers_players :
    Schema.parse {} Schema.playersText = .ok Schema.players ∧
    answers Schema.players true {}
        ((Schema.players.methods.map kind ++ Schema.players.methods.map inverse) ++
          Schema.players.methods.map kind) =
      ((Schema.players.methods.map kind ++ Schema.players.methods.map inverse) ++
          Schema.players.methods.map kind).map (answerAlone Schema.players) := by
  refine ⟨Schema.parse_playersText,
    answers_eq_map_answerAlone Schema.parse_playersText ?_⟩
  intro query hquery
  simp only [List.mem_append, List.mem_map] at hquery
  rcases hquery with (⟨method, hmem, rfl⟩ | ⟨method, hmem, rfl⟩) | ⟨method, hmem, rfl⟩
  · exact hmem
  · exact hmem
  · exact hmem

end Query

end EntitySchema
