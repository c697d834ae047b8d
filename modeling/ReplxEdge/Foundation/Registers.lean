import Mathlib.Order.Basic

/-!
# Growing registers

A family of registers whose values only grow, next to the timed history of the
reads and of the raises that made covered registers strictly larger. Two reads
with the same value have no covering raise between them: this is how a value
read from a register dates the read.
-/

namespace ReplxEdge.Foundation

/-- What a history records: for a read its time, register and value, for a raise its
time and the registers it covers. -/
structure Register (Read Raise Key Value : Type) where
  readAt : Read -> Nat
  key : Read -> Key
  value : Read -> Value
  raisedAt : Raise -> Nat
  covers : Raise -> Key -> Prop

namespace Register

variable {Read Raise Key Value : Type} [PartialOrder Value]

structure Ordered (R : Register Read Raise Key Value) (current : Key -> Value)
    (reads : List Read) (raises : List Raise) : Prop where
  below : forall r, r ∈ reads -> R.value r ≤ current (R.key r)
  raised : forall r, r ∈ reads -> forall b, b ∈ raises -> R.covers b (R.key r) ->
    R.readAt r ≤ R.raisedAt b -> R.value r < current (R.key r)
  monotone : forall r, r ∈ reads -> forall q, q ∈ reads -> R.key r = R.key q ->
    R.readAt r ≤ R.readAt q -> R.value r ≤ R.value q
  separated : forall r, r ∈ reads -> forall q, q ∈ reads -> R.key r = R.key q ->
    forall b, b ∈ raises -> R.covers b (R.key r) ->
    R.readAt r ≤ R.raisedAt b -> R.raisedAt b < R.readAt q -> R.value r < R.value q

namespace Ordered

variable {R : Register Read Raise Key Value} {current next : Key -> Value}
variable {reads : List Read} {raises : List Raise}

theorem start (R : Register Read Raise Key Value) (current : Key -> Value) :
    R.Ordered current [] [] where
  below := by simp
  raised := by simp
  monotone := by simp
  separated := by simp

theorem grow (h : R.Ordered current reads raises) (hgrow : forall k, current k ≤ next k) :
    R.Ordered next reads raises :=
  { h with
    below := fun r hr => (h.below r hr).trans (hgrow _)
    raised := fun r hr b hb hcovers htime =>
      (h.raised r hr b hb hcovers htime).trans_le (hgrow _) }

/-- A read of the current value, later than everything recorded. -/
theorem read (h : R.Ordered current reads raises) {r : Read}
    (hvalue : R.value r = current (R.key r))
    (hreads : forall q, q ∈ reads -> R.readAt q < R.readAt r)
    (hraises : forall b, b ∈ raises -> R.raisedAt b < R.readAt r) :
    R.Ordered current (r :: reads) raises where
  below := by
    intro q hq
    rcases List.mem_cons.mp hq with rfl | hold
    · exact le_of_eq hvalue
    · exact h.below q hold
  raised := by
    intro q hq b hb hcovers htime
    rcases List.mem_cons.mp hq with rfl | hold
    · exact absurd htime (Nat.not_le.mpr (hraises b hb))
    · exact h.raised q hold b hb hcovers htime
  monotone := by
    intro q hq p hp hkey htime
    rcases List.mem_cons.mp hp with rfl | hpold
    · rcases List.mem_cons.mp hq with rfl | hqold
      · exact le_refl _
      rw [hvalue, ← hkey]
      exact h.below q hqold
    rcases List.mem_cons.mp hq with rfl | hqold
    · exact absurd htime (Nat.not_le.mpr (hreads p hpold))
    · exact h.monotone q hqold p hpold hkey htime
  separated := by
    intro q hq p hp hkey b hb hcovers hbefore hafter
    rcases List.mem_cons.mp hq with rfl | hqold
    · exact absurd hbefore (Nat.not_le.mpr (hraises b hb))
    rcases List.mem_cons.mp hp with rfl | hpold
    · rw [hvalue, ← hkey]
      exact h.raised q hqold b hb hcovers hbefore
    · exact h.separated q hqold p hpold hkey b hb hcovers hbefore hafter

/-- A raise, later than every read: the covered registers grow strictly. -/
theorem raise (h : R.Ordered current reads raises) {b : Raise}
    (hgrow : forall k, current k ≤ next k) (hcovered : forall k, R.covers b k -> current k < next k)
    (hreads : forall r, r ∈ reads -> R.readAt r < R.raisedAt b) :
    R.Ordered next reads (b :: raises) where
  below := fun r hr => (h.below r hr).trans (hgrow _)
  raised := by
    intro r hr c hc hcovers htime
    rcases List.mem_cons.mp hc with rfl | hold
    · exact (h.below r hr).trans_lt (hcovered _ hcovers)
    · exact (h.raised r hr c hold hcovers htime).trans_le (hgrow _)
  monotone := h.monotone
  separated := by
    intro r hr q hq hkey c hc hcovers hbefore hafter
    rcases List.mem_cons.mp hc with rfl | hold
    · exact absurd hafter (Nat.not_lt.mpr (Nat.le_of_lt (hreads q hq)))
    · exact h.separated r hr q hq hkey c hold hcovers hbefore hafter

/-- A read that gave at least the value of a read behind a raise is itself behind
that raise. -/
theorem read_after (h : R.Ordered current reads raises) {r q : Read} {b : Raise}
    (hr : r ∈ reads) (hq : q ∈ reads) (hb : b ∈ raises) (hkey : R.key r = R.key q)
    (hcovers : R.covers b (R.key r)) (hvalue : R.value q ≤ R.value r)
    (hafter : R.raisedAt b < R.readAt q) : R.raisedAt b < R.readAt r := by
  by_contra hnot
  have hlt := h.separated r hr q hq hkey b hb hcovers (Nat.not_lt.mp hnot) hafter
  exact absurd hvalue (not_le_of_gt hlt)

end Ordered

end Register

end ReplxEdge.Foundation
