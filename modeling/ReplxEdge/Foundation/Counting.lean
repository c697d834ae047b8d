import ReplxEdge.Foundation.Runs
import Mathlib.Algebra.BigOperators.Group.List.Basic
import Mathlib.Algebra.Order.Monoid.Prod

/-!
# Counting runs

A run whose steps only ever add to a shown amount: the amount after a run is the
one before it plus the gains of its calls, so an amount that has changed never
comes back.
-/

namespace ReplxEdge.Foundation

section Split

variable {State Action : Type} {step : State -> Action -> Option State}
variable {cond : State -> Action -> Prop}

theorem Along.append {s t : State} {first second : List Action}
    (h : Along step cond s (first ++ second)) (hrun : run step s first = some t) :
    Along step cond s first ∧ Along step cond t second := by
  induction first generalizing s with
  | nil =>
    cases hrun
    exact ⟨trivial, h⟩
  | cons a rest ih =>
    rcases run_cons hrun with ⟨next, hnext, hrest⟩
    rw [List.cons_append, ← along_cons_some hnext] at h
    have hparts := ih h.right hrest
    constructor
    · rw [← along_cons_some hnext]
      exact ⟨h.left, hparts.left⟩
    · exact hparts.right

theorem Along.and_mem {extra : Action -> Prop} {s : State} {actions : List Action}
    (h : Along step cond s actions) (hextra : forall a, a ∈ actions -> extra a) :
    Along step (fun s a => cond s a ∧ extra a) s actions := by
  induction actions generalizing s with
  | nil => trivial
  | cons a rest ih =>
    have hhere := hextra a List.mem_cons_self
    have hrest := fun b hb => hextra b (List.mem_cons_of_mem a hb)
    cases hnext : step s a with
    | none =>
      rw [← along_cons_none hnext] at h ⊢
      exact ⟨h, hhere⟩
    | some t =>
      rw [← along_cons_some hnext] at h ⊢
      exact ⟨⟨h.left, hhere⟩, ih h.right hrest⟩

end Split

section Counts

variable {State Call Amount : Type} [AddCommMonoid Amount]
variable {step : State -> Call -> Option State} {cond : State -> Call -> Prop}
variable {shown : State -> Amount} {gain : Call -> Amount}

/-- Under a condition on the state before it, each call adds its gain to what is shown. -/
def Counts (step : State -> Call -> Option State) (cond : State -> Call -> Prop)
    (shown : State -> Amount) (gain : Call -> Amount) : Prop :=
  forall s call t, cond s call -> step s call = some t -> shown t = shown s + gain call

theorem Counts.run (h : Counts step cond shown gain) {s t : State} {calls : List Call}
    (hcond : Along step cond s calls) (hrun : run step s calls = some t) :
    shown t = shown s + (calls.map gain).sum := by
  induction calls generalizing s with
  | nil =>
    cases hrun
    simp
  | cons call rest ih =>
    rcases run_cons hrun with ⟨next, hnext, hrest⟩
    rw [← along_cons_some hnext] at hcond
    rw [ih hcond.right hrest, h s call next hcond.left hnext, List.map_cons, List.sum_cons,
      add_assoc]

variable [PartialOrder Amount] [CanonicallyOrderedAdd Amount]

theorem Counts.le_run (h : Counts step cond shown gain) {s t : State} {calls : List Call}
    (hcond : Along step cond s calls) (hrun : Foundation.run step s calls = some t) :
    shown s ≤ shown t := by
  rw [h.run hcond hrun]
  exact le_self_add

/-- Once what is shown has changed, it is never again what it was. -/
theorem Counts.no_return (h : Counts step cond shown gain) {s t u : State}
    {first second : List Call} (hcond : Along step cond s (first ++ second))
    (hfirst : Foundation.run step s first = some t)
    (hsecond : Foundation.run step t second = some u) (hchanged : shown t ≠ shown s) :
    shown u ≠ shown s := by
  have hparts := hcond.append hfirst
  intro hback
  have hle := h.le_run hparts.right hsecond
  rw [hback] at hle
  exact hchanged (le_antisymm hle (h.le_run hparts.left hfirst))

variable [IsOrderedCancelAddMonoid Amount]

theorem Counts.lt_step (h : Counts step cond shown gain) {s t : State} {call : Call}
    (hcond : cond s call) (hstep : step s call = some t) (hgain : gain call ≠ 0) :
    shown s < shown t := by
  rw [h s call t hcond hstep]
  exact lt_add_of_pos_right _ (pos_iff_ne_zero.mpr hgain)

end Counts

end ReplxEdge.Foundation
