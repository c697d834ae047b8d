import Mathlib.Order.Basic

/-!
# Loops over answers

A loop that sends one request after the other. It may leave before a request, and an
answer makes it go on or leave. What is answered is a sequence without an end, so that a
loop which never leaves can be told from one that does, and requests can be counted.
-/

namespace ReplxEdge.Foundation

structure Loop (State Answer Result : Type) where
  leave : State -> Option Result
  step : State -> Answer -> State ⊕ Result

namespace Loop

variable {State Answer Result : Type} (l : Loop State Answer Result)

def enter (s : State) : State ⊕ Result :=
  match l.leave s with
  | some r => Sum.inr r
  | none => Sum.inl s

def proceed (s : State) (answer : Answer) : State ⊕ Result :=
  match l.step s answer with
  | Sum.inr r => Sum.inr r
  | Sum.inl t => l.enter t

/-- The loop when it has sent a number of requests, or has left before. -/
def after (answers : Nat -> Answer) (s : State) : Nat -> State ⊕ Result
  | 0 => l.enter s
  | n + 1 =>
    match after answers s n with
    | Sum.inr r => Sum.inr r
    | Sum.inl t => l.proceed t (answers n)

def EndsWithin (answers : Nat -> Answer) (s : State) (n : Nat) : Prop :=
  exists r, l.after answers s n = Sum.inr r

def Ends (answers : Nat -> Answer) (s : State) : Prop :=
  exists n, l.EndsWithin answers s n

variable {l} {answers : Nat -> Answer} {s : State}

/-!
## One request
-/

theorem enter_inl {t : State} : l.enter s = Sum.inl t <-> s = t ∧ l.leave s = none := by
  unfold enter
  cases l.leave s with
  | none | some =>
    simp

theorem proceed_inl {answer : Answer} {t : State} :
    l.proceed s answer = Sum.inl t <-> l.step s answer = Sum.inl t ∧ l.leave t = none := by
  unfold proceed
  cases l.step s answer with
  | inl u =>
    rw [enter_inl, Sum.inl.injEq]
    constructor
    · intro h
      rw [← h.left]
      exact ⟨rfl, h.right⟩
    intro h
    rw [h.left]
    exact ⟨rfl, h.right⟩
  | inr r =>
    simp

variable {n : Nat}

theorem after_succ_of_inl {t : State} (h : l.after answers s n = Sum.inl t) :
    l.after answers s (n + 1) = l.proceed t (answers n) := by
  rw [after, h]

theorem after_succ_of_inr {r : Result} (h : l.after answers s n = Sum.inr r) :
    l.after answers s (n + 1) = Sum.inr r := by
  rw [after, h]

/-!
## Runs
-/

theorem after_succ_inl {t : State} (h : l.after answers s (n + 1) = Sum.inl t) :
    exists u, l.after answers s n = Sum.inl u ∧ l.step u (answers n) = Sum.inl t ∧
      l.leave t = none := by
  cases hn : l.after answers s n with
  | inl u =>
    rw [after_succ_of_inl hn, proceed_inl] at h
    exact ⟨u, rfl, h⟩
  | inr r =>
    rw [after_succ_of_inr hn] at h
    cases h

/-- What holds in front of the first request and is kept from one request to the next holds
whenever the loop waits. -/
theorem after_invariant {inv : Nat -> State -> Prop} (hstart : l.leave s = none -> inv 0 s)
    (hstep : forall n t u, l.after answers s n = Sum.inl t -> inv n t ->
      l.step t (answers n) = Sum.inl u -> l.leave u = none -> inv (n + 1) u)
    {t : State} (h : l.after answers s n = Sum.inl t) : inv n t := by
  induction n generalizing t with
  | zero =>
    rcases enter_inl.mp h with ⟨rfl, hleave⟩
    exact hstart hleave
  | succ n ih =>
    rcases after_succ_inl h with ⟨u, hu, hnext, hleave⟩
    exact hstep n u t hu (ih hu) hnext hleave

theorem not_ends_of_waits {inv : Nat -> State -> Prop} (hstep : forall n t, inv n t ->
      exists u, l.step t (answers n) = Sum.inl u ∧ l.leave u = none ∧ inv (n + 1) u)
    (hleave : l.leave s = none) (hstart : inv 0 s) : ¬ l.Ends answers s := by
  have hwaits : forall n, exists t, l.after answers s n = Sum.inl t ∧ inv n t := by
    intro n
    induction n with
    | zero => exact ⟨s, enter_inl.mpr ⟨rfl, hleave⟩, hstart⟩
    | succ n ih =>
      rcases ih with ⟨t, ht, hinv⟩
      rcases hstep n t hinv with ⟨u, hu, hstay, hnext⟩
      refine ⟨u, ?_, hnext⟩
      rw [after_succ_of_inl ht]
      exact proceed_inl.mpr ⟨hu, hstay⟩
  intro hends
  rcases hends with ⟨n, r, hr⟩
  rcases hwaits n with ⟨t, ht, _⟩
  rw [ht] at hr
  cases hr

end Loop

end ReplxEdge.Foundation
