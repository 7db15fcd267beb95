/-
Outcomes of chains of steps.

Every stage of the compiler answers an `Except`: reading a document, adding the implied fields,
comparing with a snapshot and applying a change set are all chains of steps that end at the first
error. The lemmas here take a chain that succeeded apart, so that a proof about a stage seldom has
to look inside `Except` itself.

`bind_eq_ok` is the one that is used most: from the success of a chain of two steps it gives the
value in between and the success of both. A proof about a rule then goes down the rule with one
`obtain` for each line of it, and the rule is unfolded once, at the top.

`foldlM_induction` carries an invariant along a fold whose steps may fail. `exists_step_of_foldlM`
goes the other way: it picks one element of the list and says in which state it was met, together
with whatever relation the steps before and after it keep. `exists_split_of_foldlM_error` finds the
step at which a fold failed.

None of this is about schemas or snapshots. A property of a run is stated where the step is defined,
and the lemmas here are given the step as a parameter.
-/
import EntitySchema.Error

set_option autoImplicit false

namespace EntitySchema.Outcome

variable {ε α β γ σ : Type}

/-! ## One step after another -/

/-- A chain of two steps succeeds exactly when both do. -/
theorem bind_eq_ok {x : Except ε α} {f : α → Except ε β} {b : β} :
    x >>= f = .ok b ↔ ∃ a, x = .ok a ∧ f a = .ok b := by
  cases x with
  | ok a => simp [bind, Except.bind]
  | error e => simp [bind, Except.bind]

/-- A step whose value is only looked at succeeds exactly when the step does. -/
theorem bind_pure_eq_ok {x : Except ε α} {f : α → β} {b : β} :
    (x >>= fun a => pure (f a)) = .ok b ↔ ∃ a, x = .ok a ∧ f a = b := by
  rw [bind_eq_ok]
  constructor
  · rintro ⟨a, ha, h⟩
    exact ⟨a, ha, Except.ok.inj h⟩
  · rintro ⟨a, ha, h⟩
    exact ⟨a, ha, congrArg Except.ok h⟩

/-- A chain of two steps fails when the first one fails, and then with its error. -/
theorem error_bind (e : ε) (f : α → Except ε β) : (Except.error e >>= f) = .error e := rfl

/-- After a step that succeeds the chain goes on with its value. -/
theorem ok_bind (a : α) (f : α → Except ε β) : (Except.ok a >>= f) = f a := rfl

/-- Changing the error of an outcome leaves a success as it is. -/
theorem mapError_eq_ok {ε' : Type} {x : Except ε α} {f : ε → ε'} {a : α} :
    x.mapError f = .ok a ↔ x = .ok a := by
  cases x with
  | ok b =>
    constructor
    · intro h
      exact congrArg Except.ok (Except.ok.inj h)
    · intro h
      exact congrArg Except.ok (Except.ok.inj h)
  | error e =>
    constructor
    · intro h
      cases h
    · intro h
      cases h

/-- Two chains of two steps have the same outcome, up to a change of the error, if their steps
do. -/
theorem mapError_bind_congr {ε' : Type} {x y : Except ε α} {first second : α → Except ε β}
    {f : ε → ε'} (hx : x.mapError f = y.mapError f)
    (hnext : ∀ a, (first a).mapError f = (second a).mapError f) :
    (x >>= first).mapError f = (y >>= second).mapError f := by
  cases x with
  | ok a =>
    cases y with
    | ok b =>
      obtain rfl := Except.ok.inj hx
      exact hnext a
    | error e => cases hx
  | error e =>
    cases y with
    | ok b => cases hx
    | error e' => exact congrArg Except.error (Except.error.inj hx)

/-- An outcome with a value is a success. On closed terms the left side can be decided without
comparing errors. -/
theorem eq_ok_of_toOption {x : Except ε α} {a : α} (h : x.toOption = some a) : x = .ok a := by
  cases x with
  | ok b => exact congrArg Except.ok (Option.some.inj h)
  | error e => cases h

/-! ## Folds -/

/-- **An invariant of a fold.** What holds at the start and is kept by every step that succeeds
holds at the end. -/
theorem foldlM_induction {P : σ → Prop} {step : σ → α → Except ε σ} {items : List α}
    {start last : σ} (hstart : P start)
    (hstep : ∀ state item next, item ∈ items → P state → step state item = .ok next → P next)
    (hlast : items.foldlM step start = .ok last) : P last := by
  induction items generalizing start with
  | nil =>
    obtain rfl : start = last := by simpa [pure, Except.pure] using hlast
    exact hstart
  | cons item items ih =>
    rw [List.foldlM_cons, bind_eq_ok] at hlast
    obtain ⟨next, hnext, hlast⟩ := hlast
    refine ih (hstep start item next (by simp) hstart hnext) ?_ hlast
    intro state other after hmem
    exact hstep state other after (List.mem_cons_of_mem _ hmem)

/-- **An invariant that knows what is done.** What holds at the start of nothing and is kept by
every step that succeeds, with its item added to those that are done, holds at the end of all. -/
theorem foldlM_induction_done {P : List α → σ → Prop} {step : σ → α → Except ε σ}
    {items : List α} {start last : σ} (hstart : P [] start)
    (hstep : ∀ done state item next, item ∈ items → P done state → step state item = .ok next →
      P (done ++ [item]) next)
    (hlast : items.foldlM step start = .ok last) : P items last := by
  -- the items from here on are added to those that are done
  have hrest : ∀ (rest done : List α) (state : σ), (∀ item ∈ rest, item ∈ items) →
      P done state → rest.foldlM step state = .ok last → P (done ++ rest) last := by
    intro rest
    induction rest with
    | nil =>
      intro done state _ hstate hrun
      obtain rfl : state = last := Except.ok.inj hrun
      rwa [List.append_nil]
    | cons item rest ih =>
      intro done state hmem hstate hrun
      rw [List.foldlM_cons, bind_eq_ok] at hrun
      obtain ⟨next, hnext, hrun⟩ := hrun
      have hdone := hstep done state item next (hmem item List.mem_cons_self) hstate hnext
      have hlater := ih (done ++ [item]) next
        (fun other hother => hmem other (List.mem_cons_of_mem _ hother)) hdone hrun
      rwa [List.append_assoc] at hlater
  exact hrest items [] start (fun _ hmem => hmem) hstart hlast

/-- **The moment of one item.** In a fold that succeeded every item was met in some state. If all
steps keep to a relation that is reflexive and transitive, that state is reached from the start by
the relation, and the end is reached from the state after it. -/
theorem exists_step_of_foldlM {R : σ → σ → Prop} (hrefl : ∀ state, R state state)
    (htrans : ∀ {first second third}, R first second → R second third → R first third)
    {step : σ → α → Except ε σ} {items : List α} {start last : σ}
    (hstep : ∀ state item next, item ∈ items → step state item = .ok next → R state next)
    (hlast : items.foldlM step start = .ok last) {item : α} (hitem : item ∈ items) :
    ∃ before after, R start before ∧ step before item = .ok after ∧ R after last := by
  have hkeep : ∀ {others : List α} {state : σ}, (∀ other ∈ others, other ∈ items) →
      others.foldlM step state = .ok last → R state last := by
    intro others state hsub hrun
    refine foldlM_induction (P := fun reached => R state reached) (hrefl state) ?_ hrun
    intro reached other next hmem hreached hnext
    exact htrans hreached (hstep reached other next (hsub other hmem) hnext)
  obtain ⟨front, back, rfl⟩ := List.append_of_mem hitem
  rw [List.foldlM_append, bind_eq_ok] at hlast
  obtain ⟨before, hfront, hback⟩ := hlast
  rw [List.foldlM_cons, bind_eq_ok] at hback
  obtain ⟨after, hitem, hback⟩ := hback
  refine ⟨before, after, ?_, hitem, hkeep (by simp +contextual) hback⟩
  refine foldlM_induction (P := fun reached => R start reached) (hrefl start) ?_ hfront
  intro reached other next hmem hreached hnext
  exact htrans hreached (hstep reached other next (by simp [hmem]) hnext)

/-- A fold fails at some item, in the state that the items before it have led to. -/
theorem exists_split_of_foldlM_error {step : σ → α → Except ε σ} {items : List α} {start : σ}
    {error : ε} (h : items.foldlM step start = .error error) :
    ∃ done item rest state, items = done ++ item :: rest ∧
      done.foldlM step start = .ok state ∧ step state item = .error error := by
  induction items generalizing start with
  | nil => cases h
  | cons item items ih =>
    rw [List.foldlM_cons] at h
    cases hfirst : step start item with
    | error other =>
      rw [hfirst, error_bind] at h
      exact ⟨[], item, items, start, rfl, rfl, by rw [hfirst, h]⟩
    | ok next =>
      rw [hfirst, ok_bind] at h
      obtain ⟨done, later, rest, state, rfl, hdone, hlater⟩ := ih h
      refine ⟨item :: done, later, rest, state, rfl, ?_, hlater⟩
      rw [List.foldlM_cons, hfirst, ok_bind, hdone]

/-- A fold whose every step leaves the state as it is leaves it as it is. -/
theorem foldlM_eq_self {step : σ → α → Except ε σ} {items : List α} {state : σ}
    (hstep : ∀ item ∈ items, step state item = .ok state) :
    items.foldlM step state = .ok state := by
  induction items with
  | nil => rfl
  | cons item items ih =>
    rw [List.foldlM_cons, hstep item (by simp), ok_bind]
    exact ih fun other hother => hstep other (List.mem_cons_of_mem _ hother)

/-! ## Traversals -/

section MapM

variable {f : α → Except ε β} {items : List α} {results : List β}

/-- A traversal that succeeds at every item succeeds. -/
theorem exists_mapM (h : ∀ item ∈ items, ∃ result, f item = .ok result) :
    ∃ results, items.mapM f = .ok results := by
  induction items with
  | nil => exact ⟨[], rfl⟩
  | cons item items ih =>
    obtain ⟨result, hresult⟩ := h item List.mem_cons_self
    obtain ⟨results, hresults⟩ := ih fun other hother => h other (List.mem_cons_of_mem _ hother)
    refine ⟨result :: results, ?_⟩
    rw [List.mapM_cons, hresult, ok_bind, hresults]
    rfl

/-- The results of a traversal are the results of its items. -/
theorem mem_of_mapM (h : items.mapM f = .ok results) {result : β} :
    result ∈ results ↔ ∃ item ∈ items, f item = .ok result := by
  induction items generalizing results with
  | nil =>
    obtain rfl : [] = results := Except.ok.inj h
    simp
  | cons item items ih =>
    simp only [List.mapM_cons, bind_eq_ok] at h
    obtain ⟨first, hfirst, rest, hrest, h⟩ := h
    obtain rfl := Except.ok.inj h
    simp [hfirst, ih hrest, eq_comm]

/-- In a traversal that succeeded every item has its result. -/
theorem exists_of_mapM (h : items.mapM f = .ok results) {item : α} (hitem : item ∈ items) :
    ∃ result ∈ results, f item = .ok result := by
  induction items generalizing results with
  | nil => cases hitem
  | cons other items ih =>
    simp only [List.mapM_cons, bind_eq_ok] at h
    obtain ⟨first, hfirst, rest, hrest, h⟩ := h
    obtain rfl := Except.ok.inj h
    rcases List.mem_cons.1 hitem with rfl | hitem
    · exact ⟨first, List.mem_cons_self, hfirst⟩
    · obtain ⟨result, hresult, hmade⟩ := ih hrest hitem
      exact ⟨result, List.mem_cons_of_mem _ hresult, hmade⟩

/-- If every result has the name of its item, the results are named as the items are. -/
theorem map_of_mapM (h : items.mapM f = .ok results) {name : β → γ} {itemName : α → γ}
    (hname : ∀ item ∈ items, ∀ result, f item = .ok result → name result = itemName item) :
    results.map name = items.map itemName := by
  induction items generalizing results with
  | nil =>
    obtain rfl : [] = results := Except.ok.inj h
    rfl
  | cons item items ih =>
    simp only [List.mapM_cons, bind_eq_ok] at h
    obtain ⟨first, hfirst, rest, hrest, h⟩ := h
    obtain rfl := Except.ok.inj h
    rw [List.map_cons, List.map_cons, hname item List.mem_cons_self first hfirst,
      ih hrest fun other hother => hname other (List.mem_cons_of_mem _ hother)]

end MapM

end EntitySchema.Outcome
