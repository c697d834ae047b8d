import ReplxEdge.Foundation.Bytes
import ReplxEdge.Foundation.Table

/-!
# Rates

A key may be used so many times within a window. The calls that are let through
are remembered by their times; those that have left the window are dropped when
the key is used again.
-/

namespace ReplxEdge.Admin

open Foundation

def fresh (window : Duration) (now : Instant) (hits : List Instant) : List Instant :=
  hits.filter fun t => decide (now - t < window)

def checkRate (rate : Table GoString (List Instant)) (now : Instant) (key : GoString)
    (window : Duration) (max : Nat) : Bool × Table GoString (List Instant) :=
  let kept := fresh window now ((rate.lookup key).getD [])
  if max ≤ kept.length then (false, rate.set key kept)
  else (true, rate.set key (kept ++ [now]))

structure RateCall where
  key : GoString
  now : Instant

structure Throttle where
  rate : Table GoString (List Instant)
  accepted : List RateCall

section Rates

variable (window : GoString -> Duration) (max : GoString -> Nat)

def Throttle.accepts (y : Throttle) (c : RateCall) : Bool :=
  (checkRate y.rate c.now c.key (window c.key) (max c.key)).1

def Throttle.call (y : Throttle) (c : RateCall) : Throttle where
  rate := (checkRate y.rate c.now c.key (window c.key) (max c.key)).2
  accepted := if y.accepts window max c then y.accepted ++ [c] else y.accepted

def throttled (calls : List RateCall) : Throttle :=
  calls.foldl (Throttle.call window max) ⟨Table.empty, []⟩

def timesOf (key : GoString) (calls : List RateCall) : List Instant :=
  (calls.filter fun c => c.key == key).map RateCall.now

/-!
## One key
-/

def Throttle.shown (y : Throttle) (key : GoString) : List Instant × List Instant :=
  ((y.rate.lookup key).getD [], timesOf key y.accepted)

def limit (w : Duration) (most : Nat) (s : List Instant × List Instant) (now : Instant) :
    List Instant × List Instant :=
  if most ≤ (fresh w now s.1).length then (fresh w now s.1, s.2)
  else (fresh w now s.1 ++ [now], s.2 ++ [now])

variable {window max}

theorem shown_call (y : Throttle) (c : RateCall) (key : GoString) :
    (y.call window max c).shown key =
      if c.key = key then limit (window key) (max key) (y.shown key) c.now else y.shown key := by
  unfold Throttle.call Throttle.accepts Throttle.shown checkRate limit timesOf
  by_cases hkey : c.key = key
  · subst hkey
    simp only
    split
    · simp_all [Table.lookup_set]
    · simp_all [Table.lookup_set]
  simp only [if_neg hkey]
  split
  · simp [Table.lookup_set, Ne.symm hkey]
  · simp [Table.lookup_set, Ne.symm hkey, hkey]

theorem shown_throttled (calls : List RateCall) (key : GoString) :
    (throttled window max calls).shown key =
      (timesOf key calls).foldl (limit (window key) (max key)) ([], []) := by
  refine foldl_invariant (Throttle.call window max) (fun y past => y.shown key =
    (timesOf key past).foldl (limit (window key) (max key)) ([], [])) rfl ?_ calls
  intro y past c h
  rw [shown_call, h]
  unfold timesOf
  rw [List.filter_append, List.map_append, List.foldl_append, List.filter_singleton]
  by_cases hkey : c.key = key
  · simp [hkey]
  · simp [hkey, beq_eq_false_iff_ne.mpr hkey]

variable {w : Duration} {most : Nat} {times : List Instant}

theorem fresh_hits {now : Instant} (hpast : forall t, t ∈ times -> t ≤ now) :
    fresh w now (times.foldl (limit w most) ([], [])).1 =
      fresh w now (times.foldl (limit w most) ([], [])).2 := by
  induction times using List.reverseRecOn with
  | nil => rfl
  | append_singleton past t ih =>
    have hold := ih fun old hmem => hpast old (List.mem_append_left _ hmem)
    have ht := hpast t (List.mem_append_right _ List.mem_cons_self)
    have hkept : forall l, fresh w now (fresh w t l) = fresh w now l := by
      intro l
      unfold fresh
      rw [List.filter_filter]
      refine List.filter_congr fun old _ => ?_
      rw [Bool.eq_iff_iff, Bool.and_eq_true, decide_eq_true_eq, decide_eq_true_eq]
      exact ⟨And.left, fun h => ⟨h, Int.lt_of_le_of_lt (Int.sub_le_sub_right ht old) h⟩⟩
    rw [List.foldl_append]
    simp only [List.foldl_cons, List.foldl_nil, limit]
    split
    · exact (hkept _).trans hold
    have happend : forall l, fresh w now (l ++ [t]) = fresh w now l ++ fresh w now [t] :=
      fun l => List.filter_append l [t]
    rw [happend, happend, hkept, hold]

theorem length_within_le (hclock : times.Pairwise (· ≤ ·)) {first last : Instant}
    (hspan : last - first < w) :
    ((times.foldl (limit w most) ([], [])).2.filter fun t =>
      decide (first ≤ t ∧ t ≤ last)).length ≤ most := by
  induction times using List.reverseRecOn with
  | nil => exact Nat.zero_le _
  | append_singleton past t ih =>
    rw [List.pairwise_append] at hclock
    have hfresh : fresh w t (past.foldl (limit w most) ([], [])).1 = _ :=
      fresh_hits fun old hmem => hclock.right.right old hmem t List.mem_cons_self
    rw [List.foldl_append]
    simp only [List.foldl_cons, List.foldl_nil, limit]
    split
    · exact ih hclock.left
    rename_i hroom
    rw [hfresh] at hroom
    rw [List.filter_append, List.length_append]
    by_cases hin : first ≤ t ∧ t ≤ last
    · -- whatever lies in the span with this call lies in the window before it
      have hsub : forall l : List Instant, (l.filter fun old =>
          decide (first ≤ old ∧ old ≤ last)).length ≤ (fresh w t l).length := by
        intro l
        refine (List.monotone_filter_right l fun old hold => ?_).length_le
        rw [decide_eq_true_eq] at hold ⊢
        exact Int.lt_of_le_of_lt (Int.sub_le_sub hin.right hold.left) hspan
      have hone : ([t].filter fun old => decide (first ≤ old ∧ old ≤ last)) = [t] := by
        simp [hin]
      rw [hone]
      exact Nat.lt_of_le_of_lt (hsub _) (Nat.lt_of_not_le hroom)
    · simpa [hin] using ih hclock.left

/-!
## Every key
-/

theorem timesOf_pairwise {calls : List RateCall}
    (hclock : calls.Pairwise fun a b => a.now ≤ b.now) (key : GoString) :
    (timesOf key calls).Pairwise (· ≤ ·) :=
  List.pairwise_map.mpr (hclock.filter _)

/-- No span shorter than the window holds more calls than allowed; a call is refused exactly
when so many were let through within the window before it; other keys change nothing. -/
theorem rate_window (calls : List RateCall)
    (hclock : calls.Pairwise fun a b => a.now ≤ b.now) :
    (forall key first last, last - first < window key ->
      ((timesOf key (throttled window max calls).accepted).filter fun t =>
        decide (first ≤ t ∧ t ≤ last)).length ≤ max key) ∧
    (forall past c later, calls = past ++ c :: later ->
      ((throttled window max past).accepts window max c = false <->
        max c.key ≤ (fresh (window c.key) c.now
          (timesOf c.key (throttled window max past).accepted)).length)) ∧
    forall key, timesOf key (throttled window max calls).accepted =
      timesOf key (throttled window max (calls.filter fun c => c.key == key)).accepted := by
  have hshown : forall (calls : List RateCall) key,
      timesOf key (throttled window max calls).accepted =
        ((timesOf key calls).foldl (limit (window key) (max key)) ([], [])).2 :=
    fun calls key => congrArg Prod.snd (shown_throttled calls key)
  refine ⟨?_, ?_, ?_⟩
  · intro key first last hspan
    rw [hshown]
    exact length_within_le (timesOf_pairwise hclock key) hspan
  · intro past c later hcalls
    rw [hcalls, List.pairwise_append] at hclock
    have hpast : forall t, t ∈ timesOf c.key past -> t ≤ c.now := by
      intro t ht
      rcases List.mem_map.mp ht with ⟨old, hold, rfl⟩
      exact hclock.right.right old (List.mem_of_mem_filter hold) c List.mem_cons_self
    have hhits : ((throttled window max past).shown c.key).1 = _ :=
      congrArg Prod.fst (shown_throttled past c.key)
    rw [hshown, ← fresh_hits hpast, ← hhits]
    unfold Throttle.accepts checkRate Throttle.shown
    simp only
    split
    · simp_all
    · simp_all
  intro key
  rw [hshown, hshown]
  unfold timesOf
  rw [List.filter_filter]
  simp only [Bool.and_self]

end Rates

theorem rate_window_login :
    (throttled (fun _ => 5 * minute) (fun _ => 1) [⟨str "login", 0⟩]).accepts
      (fun _ => 5 * minute) (fun _ => 1) ⟨str "login", minute⟩ = false :=
  ((rate_window [⟨str "login", 0⟩, ⟨str "login", minute⟩] (by decide)).right.left _ _ _
    rfl).mpr (by decide)

end ReplxEdge.Admin
