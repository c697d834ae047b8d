import ReplxEdge.Warming.Confinement

/-!
# Forgetting a scope

A revocation forgets a scope: its context and its jobs go, and the refresh that is on its
way is told to stop. The check before a publication sees that; the write behind the check
does not.
-/

namespace ReplxEdge.Warming

open Foundation
open Serving

/-- Whatever is written with the credential of a scope, no revocation has come since that
credential was tracked. -/
def Final (past : List Deed) (r : Deed) : Prop :=
  forall c storeKey token version, r = .written c storeKey ->
    c.lease = .context token version ->
      Since (fun _ d => exists seen, d = .observed c.scope token version seen)
        (fun d => d = .forgot c.scope) past

/-- No revocation comes between the check of a refresh and its write. -/
def Unhindered (past : List Deed) (r : Deed) : Prop :=
  forall c storeKey token version, r = .written c storeKey ->
    c.lease = .context token version ->
      Since (fun _ d => exists checked, d = .permitted c checked)
        (fun d => d = .forgot c.scope) past

section Forgetting

variable {past : List Deed} {c : Candidate} {token : GoString} {version : Nat}

theorem since_observed {checked : Instant} (hlease : c.lease = .context token version)
    (h : Vouched past c checked) :
    Since (fun _ d => exists seen, d = .observed c.scope token version seen)
      (fun d => d = .forgot c.scope) past := by
  unfold Vouched at h
  rw [hlease] at h
  simp only at h
  rcases h.exists_append with ⟨new, before, r, rfl, ⟨seen, hr, _⟩, hnew⟩
  refine Since.append ?_ (Since.here ⟨seen, hr⟩)
  intro d hd hforgot
  refine hnew d hd ?_
  rw [hforgot]
  rfl

variable {r : Deed}

theorem final_of_unhindered (hadmitted : Throughout Admitted past)
    (h : Unhindered past r) : Final past r := by
  intro c storeKey token version hr hlease
  rcases (h c storeKey token version hr hlease).exists_append with
    ⟨new, before, d, rfl, ⟨checked, rfl⟩, hnew⟩
  have hsuffix : (.permitted c checked :: before) <:+
      new ++ .permitted c checked :: before := List.suffix_append new _
  have hvouched := (hadmitted.of_suffix hsuffix).left c checked rfl
  exact Since.append hnew (Since.later (by simp) (since_observed hlease hvouched))

theorem unhindered_of_final (hnumbered : Throughout Numbered past)
    (hconfined : Confined past r) (h : Final past r) : Unhindered past r := by
  intro c storeKey token version hr hlease
  rcases (hconfined c storeKey hr).exists_append with
    ⟨new, before, d, rfl, ⟨checked, rfl, hvouched⟩, _⟩
  -- the credential was tracked before the check, so not once more after it
  rcases (since_observed hlease hvouched).exists_suffix with ⟨early, d, hearly, ⟨seen, rfl⟩⟩
  have hobserved : .observed c.scope token version seen ∈ before :=
    hearly.subset List.mem_cons_self
  have honce : forall d, d ∈ new ->
      ¬ exists seen, d = .observed c.scope token version seen := by
    intro d hd hagain
    rcases hagain with ⟨again, rfl⟩
    rcases List.append_of_mem hd with ⟨front, back, rfl⟩
    have hsuffix : (.observed c.scope token version again ::
        (back ++ .permitted c checked :: before)) <:+
          (front ++ .observed c.scope token version again :: back) ++
            .permitted c checked :: before := by
      rw [List.append_assoc]
      exact List.suffix_append front _
    have hlt := (hnumbered.of_suffix hsuffix).left _ _ _ _ rfl _ _ _ _
      (List.mem_append_right back (List.mem_cons_of_mem _ hobserved))
    exact Nat.lt_irrefl version hlt
  have hnew := ((h c storeKey token version hr hlease).of_append fun _ => honce).left
  exact Since.append hnew (Since.here ⟨checked, rfl⟩)

end Forgetting

/-- At every point of every run: what was written after a revocation was fetched with a
credential that was tracked after it, exactly if no revocation of the scope came between a
check and its write. -/
theorem forgetting_final_iff (strip : GoString -> GoString) (now : Instant)
    (actions : List Action) (y : Scheduler)
    (hrun : run (Scheduler.step strip) (Scheduler.start now) actions = some y) :
    Throughout Final y.log <-> Throughout Unhindered y.log := by
  have hsound := sound_run hrun
  constructor
  · intro h
    refine h.imp_suffix ?_
    intro past r hsuffix hfinal
    exact unhindered_of_final (hsound.counted.numbered.of_suffix hsuffix).right
      (hsound.confined.of_suffix hsuffix).left hfinal
  intro h
  refine h.imp_suffix ?_
  intro past r hsuffix hunhindered
  exact final_of_unhindered (hsound.admitted.of_suffix hsuffix).right hunhindered

def firstWrite : List Deed -> Bool
  | .written _ _ :: .permitted _ _ :: past => !past.any Deed.isWritten
  | _ => false

variable {log : List Deed}

theorem unhindered_firstWrite (hconfined : Throughout Confined log)
    (h : firstWrite log = true) : Throughout Unhindered log := by
  unfold firstWrite at h
  split at h
  · rename_i c storeKey c' checked past
    have hnone : forall d, d ∈ past -> d.isWritten = false := by simpa using h
    have hpast : Throughout Unhindered (past ++ []) := by
      refine Throughout.append ?_ trivial
      intro _ d hd other key token version heq
      have hwritten := hnone d hd
      rw [heq] at hwritten
      cases hwritten
    rw [List.append_nil] at hpast
    refine ⟨?_, ?_, hpast⟩
    · intro other key token version heq _
      rcases hconfined.left other key heq with ⟨time, hhere, _⟩ | ⟨hnot, _⟩
      · exact Since.here ⟨time, hhere⟩
      · exact absurd rfl hnot
    intro other key token version heq
    cases heq
  · cases h

/-- A user is revoked, comes back and has a request refreshed. -/
theorem forgetting_final_returning :
    exists y, run (Scheduler.step id) (Scheduler.start 0)
        (.track storedOrders (str "key") sectionsSnapshot minute .low
            (some (str "token")) ::
          .forgetScope (str "user:1") :: refreshing ++ [.publish true true]) =
          some y ∧ y.log.any Deed.isWritten = true ∧ Throughout Final y.log := by
  have hcheck : ((run (Scheduler.step id) (Scheduler.start 0)
      (.track storedOrders (str "key") sectionsSnapshot minute .low
          (some (str "token")) ::
        .forgetScope (str "user:1") :: refreshing ++ [.publish true true])).any
          fun y => y.log.any Deed.isWritten && firstWrite y.log) = true := by
    decide +kernel
  rcases exists_of_any hcheck with ⟨y, hrun, hboth⟩
  rw [Bool.and_eq_true] at hboth
  exact ⟨y, hrun, hboth.left, (forgetting_final_iff id 0 _ y hrun).mpr
    (unhindered_firstWrite (sound_run hrun).confined hboth.right)⟩

def writeBehindForget : List Deed -> Bool
  | .written c _ :: .forgot scope :: _ =>
    c.scope == scope &&
      match c.lease with
      | .context _ _ => true
      | .owner _ => false
  | _ => false

theorem not_final_writeBehindForget (h : writeBehindForget log = true) :
    ¬ Throughout Final log := by
  unfold writeBehindForget at h
  split at h
  · rename_i c storeKey scope past
    rw [Bool.and_eq_true, beq_iff_eq] at h
    intro hfinal
    cases hlease : c.lease with
    | context token version =>
      rcases hfinal.left c storeKey token version rfl hlease with ⟨seen, hhere⟩ | ⟨hnot, _⟩
      · cases hhere
      · exact hnot (congrArg Deed.forgot h.left.symm)
    | owner token =>
      rw [hlease] at h
      cases h.right
  · cases h

/-- The user is revoked between the check and the write. -/
theorem forgetting_overtaken :
    exists y, run (Scheduler.step id) (Scheduler.start 0)
        (refreshing ++ [.forgetScope (str "user:1"), .publish true true]) =
          some y ∧ writeBehindForget y.log = true ∧ ¬ Throughout Final y.log := by
  have hcheck : ((run (Scheduler.step id) (Scheduler.start 0)
      (refreshing ++ [.forgetScope (str "user:1"), .publish true true])).any
        fun y => writeBehindForget y.log) = true := by
    decide +kernel
  rcases exists_of_any hcheck with ⟨y, hrun, hwrite⟩
  exact ⟨y, hrun, hwrite, not_final_writeBehindForget hwrite⟩

end ReplxEdge.Warming
