import Mathlib.Data.List.Infix
import Mathlib.Data.List.Perm.Basic

/-!
# Runs

Step after step: a fold over calls, seen next to the history of those calls, and
runs of a step function that refuses the actions which are not enabled. Each
comes with the rule that derives what holds after a whole run from what one step
keeps.
-/

namespace ReplxEdge.Foundation

/-!
## Time
-/

/-- Nanoseconds since a fixed start. -/
abbrev Instant := Int

/-- Nanoseconds, as Go counts a duration. -/
abbrev Duration := Int

def second : Duration := 1000000000

def minute : Duration := 60 * second

/-!
## Iteration order

A Go map is visited in an order that the language leaves open.
-/

structure Order (alpha : Type) where
  visit : List alpha -> List alpha
  perm : forall l, (visit l).Perm l

namespace Order

def stored (alpha : Type) : Order alpha where
  visit := id
  perm := List.Perm.refl

theorem visit_ne_nil {alpha : Type} (order : Order alpha) {l : List alpha} (h : l ≠ []) :
    order.visit l ≠ [] := by
  intro hnil
  have hperm := order.perm l
  rw [hnil] at hperm
  exact h hperm.symm.eq_nil

end Order

/-!
## Optional values
-/

/-- A condition on what an optional value holds can be checked. -/
instance decidableForallSome {alpha : Type} (p : alpha -> Prop) [DecidablePred p] :
    (found : Option alpha) -> Decidable (forall x, found = some x -> p x)
  | none => isTrue fun _ h => nomatch h
  | some x =>
    decidable_of_iff (p x)
      ⟨fun h _ hx => Option.some.inj hx ▸ h, fun h => h x rfl⟩

theorem exists_of_any {alpha : Type} {found : Option alpha} {p : alpha -> Bool}
    (h : found.any p = true) : exists x, found = some x ∧ p x = true := by
  cases found with
  | none => cases h
  | some x => exact ⟨x, rfl, h⟩

/-!
## Folds with a history
-/

section Folds

variable {State Event : Type}

/-- What holds of the start and is kept by one event holds of every fold, next to
the events so far. -/
theorem foldl_invariant (apply : State -> Event -> State)
    (inv : State -> List Event -> Prop) {start : State} (hstart : inv start [])
    (hstep : forall s past event, inv s past -> inv (apply s event) (past ++ [event]))
    (events : List Event) : inv (events.foldl apply start) events := by
  have hfrom : forall (rest past : List Event) (s : State), inv s past ->
      inv (rest.foldl apply s) (past ++ rest) := by
    intro rest
    induction rest with
    | nil =>
      intro past s h
      simpa using h
    | cons event rest ih =>
      intro past s h
      have hnext := ih (past ++ [event]) (apply s event) (hstep s past event h)
      simpa using hnext
  simpa using hfrom events [] start hstart

theorem foldlM_invariant {apply : State -> Event -> Option State} {inv : State -> Prop}
    (hstep : forall s event t, inv s -> apply s event = some t -> inv t)
    {events : List Event} {s t : State} (hs : inv s)
    (h : events.foldlM apply s = some t) : inv t := by
  induction events generalizing s with
  | nil =>
    cases h
    exact hs
  | cons event rest ih =>
    rw [List.foldlM_cons] at h
    rcases Option.bind_eq_some_iff.mp h with ⟨next, hnext, hrest⟩
    exact ih (hstep s event next hs hnext) hrest

/-- A fold over states that show what another fold works on does the same to it. -/
theorem foldlM_simulation {View : Type} {apply : State -> Event -> Option State}
    {shown : View -> Event -> Option View} (view : State -> View) (inv : State -> Prop)
    (hstep : forall s event t, inv s -> apply s event = some t ->
      shown (view s) event = some (view t) ∧ inv t) {events : List Event} {s t : State} (hs : inv s)
    (h : events.foldlM apply s = some t) :
    events.foldlM shown (view s) = some (view t) ∧ inv t := by
  induction events generalizing s with
  | nil =>
    cases h
    exact ⟨rfl, hs⟩
  | cons event rest ih =>
    rw [List.foldlM_cons] at h
    rcases Option.bind_eq_some_iff.mp h with ⟨next, hnext, hrest⟩
    rcases hstep s event next hs hnext with ⟨hshown, hinv⟩
    rw [List.foldlM_cons, hshown]
    exact ih hinv hrest

/-- A search that keeps one of what it has seen ends with one that comes before all. -/
theorem foldl_pick {alpha beta : Type} {pick : Option beta -> alpha -> Option beta}
    (value : alpha -> beta) (le : beta -> beta -> Prop) (hrefl : forall a, le a a)
    (htrans : forall a b c, le a b -> le b c -> le a c)
    (hnone : forall x, pick none x = some (value x))
    (hsome : forall old x, exists y, pick (some old) x = some y ∧ (y = old ∨ y = value x) ∧
      le y old ∧ le y (value x)) {l : List alpha} (hne : l ≠ []) :
    exists x, x ∈ l ∧ l.foldl pick none = some (value x) ∧
      forall z, z ∈ l -> le (value x) (value z) := by
  -- the search in front of the rest of the list has an element already
  have hfrom : forall (rest : List alpha) (best : beta),
      exists y, rest.foldl pick (some best) = some y ∧
        (y = best ∨ exists x, x ∈ rest ∧ y = value x) ∧ le y best ∧
        forall z, z ∈ rest -> le y (value z) := by
    intro rest
    induction rest with
    | nil =>
      intro best
      exact ⟨best, rfl, Or.inl rfl, hrefl best, fun _ hz => nomatch hz⟩
    | cons x rest ih =>
      intro best
      rcases hsome best x with ⟨next, hnext, hsource, hbest, hx⟩
      rcases ih next with ⟨y, hy, hfound, hle, hall⟩
      refine ⟨y, by rw [List.foldl_cons, hnext, hy], ?_, htrans _ _ _ hle hbest, ?_⟩
      · rcases hfound with rfl | ⟨z, hz, rfl⟩
        · rcases hsource with hold | hnew
          · exact Or.inl hold
          · exact Or.inr ⟨x, List.mem_cons_self, hnew⟩
        · exact Or.inr ⟨z, List.mem_cons_of_mem x hz, rfl⟩
      intro z hz
      rcases List.mem_cons.mp hz with rfl | hrest
      · exact htrans _ _ _ hle hx
      · exact hall z hrest
  cases l with
  | nil => exact absurd rfl hne
  | cons head rest =>
    rcases hfrom rest (value head) with ⟨y, hy, hfound, hhead, hrest⟩
    have hfold : (head :: rest).foldl pick none = some y := by rw [List.foldl_cons, hnone, hy]
    have hall : forall z, z ∈ head :: rest -> le y (value z) := by
      intro z hz
      rcases List.mem_cons.mp hz with rfl | hz
      · exact hhead
      · exact hrest z hz
    rcases hfound with rfl | ⟨x, hx, rfl⟩
    · exact ⟨head, List.mem_cons_self, hfold, hall⟩
    · exact ⟨x, List.mem_cons_of_mem head hx, hfold, hall⟩

end Folds

/-!
## Guarded runs
-/

section Steps

variable {State Action : Type}

/-- Run a list of actions; `none` when one of them is not enabled. -/
def run (step : State -> Action -> Option State) :
    State -> List Action -> Option State
  | s, [] => some s
  | s, a :: rest =>
    match step s a with
    | none => none
    | some t => run step t rest

theorem run_cons {step : State -> Action -> Option State} {s t : State} {a : Action}
    {rest : List Action} (h : run step s (a :: rest) = some t) :
    exists next, step s a = some next ∧ run step next rest = some t := by
  rw [run] at h
  cases hstep : step s a with
  | none =>
    rw [hstep] at h
    cases h
  | some next =>
    rw [hstep] at h
    exact ⟨next, rfl, h⟩

theorem run_append (step : State -> Action -> Option State) (s : State)
    (first second : List Action) :
    run step s (first ++ second) = (run step s first).bind fun t => run step t second := by
  induction first generalizing s with
  | nil => rfl
  | cons a rest ih =>
    rw [List.cons_append, run, run]
    cases step s a with
    | none => rfl
    | some t => exact ih t

/-- Every step of a run meets a condition on the state before it. -/
def Along (step : State -> Action -> Option State) (cond : State -> Action -> Prop) :
    State -> List Action -> Prop
  | _, [] => True
  | s, a :: rest =>
    cond s a ∧
      match step s a with
      | none => True
      | some t => Along step cond t rest

/-- The run lemma: what one step keeps under a condition holds after every run
whose steps all meet it. -/
theorem run_invariant {step : State -> Action -> Option State}
    {cond : State -> Action -> Prop} {inv : State -> Prop}
    (hstep : forall s a t, inv s -> cond s a -> step s a = some t -> inv t)
    {s t : State} {actions : List Action} (hs : inv s)
    (hcond : Along step cond s actions) (hrun : run step s actions = some t) :
    inv t := by
  induction actions generalizing s with
  | nil =>
    cases hrun
    exact hs
  | cons a rest ih =>
    unfold run at hrun
    unfold Along at hcond
    cases hnext : step s a with
    | none =>
      rw [hnext] at hrun
      cases hrun
    | some u =>
      rw [hnext] at hrun hcond
      exact ih (hstep s a u hs hcond.left hnext) hcond.right hrun

theorem along_of_forall {step : State -> Action -> Option State}
    {cond : State -> Action -> Prop} (h : forall s a, cond s a) (s : State)
    (actions : List Action) : Along step cond s actions := by
  induction actions generalizing s with
  | nil => trivial
  | cons a rest ih =>
    unfold Along
    refine ⟨h s a, ?_⟩
    cases step s a with
    | none => trivial
    | some t => exact ih t

theorem run_keeps {step : State -> Action -> Option State} {inv : State -> Prop}
    (hstep : forall s a t, inv s -> step s a = some t -> inv t)
    {s t : State} {actions : List Action} (hs : inv s)
    (hrun : run step s actions = some t) : inv t :=
  run_invariant (fun s a t h _ => hstep s a t h) hs
    (along_of_forall (fun _ _ => trivial) s actions) hrun

/-- The rule for an invariant that speaks of the actions so far. -/
theorem run_history {step : State -> Action -> Option State} {inv : List Action -> State -> Prop}
    (hstep : forall past s a t, inv past s -> step s a = some t -> inv (past ++ [a]) t)
    {s t : State} {past actions : List Action} (hs : inv past s)
    (hrun : run step s actions = some t) : inv (past ++ actions) t := by
  induction actions generalizing past s with
  | nil =>
    cases hrun
    rwa [List.append_nil]
  | cons a rest ih =>
    rcases run_cons hrun with ⟨next, hnext, hrest⟩
    have htail := ih (hstep past s a next hs hnext) hrest
    rwa [List.append_assoc] at htail

/-- What a step keeps, with a condition on it, gives another condition along the run. -/
theorem Along.of_invariant {step : State -> Action -> Option State}
    {cond conclusion : State -> Action -> Prop} {inv : State -> Prop}
    (hstep : forall s a t, inv s -> step s a = some t -> inv t)
    (himp : forall s a, inv s -> cond s a -> conclusion s a)
    {s : State} {actions : List Action} (hs : inv s) (h : Along step cond s actions) :
    Along step conclusion s actions := by
  induction actions generalizing s with
  | nil => trivial
  | cons a rest ih =>
    unfold Along at h ⊢
    refine ⟨himp s a hs h.left, ?_⟩
    cases hnext : step s a with
    | none => trivial
    | some t =>
      have hrest := h.right
      rw [hnext] at hrest
      exact ih (hstep s a t hs hnext) hrest

theorem Along.imp {step : State -> Action -> Option State}
    {strong weak : State -> Action -> Prop} (himp : forall s a, strong s a -> weak s a)
    {s : State} {actions : List Action} (h : Along step strong s actions) :
    Along step weak s actions :=
  Along.of_invariant (fun _ _ _ h _ => h) (fun s a (_ : True) => himp s a) trivial h

theorem along_cons_none {step : State -> Action -> Option State}
    {cond : State -> Action -> Prop} {s : State} {a : Action} {rest : List Action}
    (h : step s a = none) : cond s a <-> Along step cond s (a :: rest) := by
  unfold Along
  rw [h]
  simp

theorem along_cons_some {step : State -> Action -> Option State}
    {cond : State -> Action -> Prop} {s t : State} {a : Action} {rest : List Action}
    (h : step s a = some t) :
    cond s a ∧ Along step cond t rest <-> Along step cond s (a :: rest) := by
  rw [Along, h]

instance Along.decidable (step : State -> Action -> Option State)
    (cond : State -> Action -> Prop) [forall s a, Decidable (cond s a)] :
    (s : State) -> (actions : List Action) -> Decidable (Along step cond s actions)
  | _, [] => isTrue trivial
  | s, a :: rest =>
    match h : step s a with
    | none => decidable_of_iff (cond s a) (along_cons_none h)
    | some t =>
      have := Along.decidable step cond t rest
      decidable_of_iff (cond s a ∧ Along step cond t rest) (along_cons_some h)

end Steps

end ReplxEdge.Foundation
