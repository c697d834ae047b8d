import ReplxEdge.Serving.Requests

/-!
# Every step keeps the invariant

Invalidation calls and background refreshes keep the invariant as requests do, and
a run keeps what each of its steps keeps.
-/

namespace ReplxEdge.Serving

open Foundation
open Cache
open Identity

variable {A : Assumptions} {cfg : Config} {s s' : State} {i : Nat}

/-!
## Invalidation calls
-/

variable {c : Call}

theorem sound_executeCall (hs : Sound A s) (hlookup : s.calls.lookup i = some c) (ok applied : Bool)
    (hsat : A.unsaturated -> Unsaturated s.shared.generations) :
    Sound A (executeCall s i c ok applied) := by
  have hpassed := (hs.parties.calls i c hlookup).passed
  unfold executeCall
  cases ok with
  | true =>
    apply (hs.bumpGeneration c.space (Nat.le_of_lt hpassed) hsat).setCall i
    refine ⟨Nat.lt_succ_of_lt hpassed, ?_⟩
    intro _ hall
    exact ⟨_, List.mem_cons_self, hall, rfl⟩
  | false =>
    refine (hs.bumpUnreported c.space applied).setCall i ⟨?_, fun hne => by cases hne⟩
    exact Nat.lt_of_lt_of_le hpassed (later_bumpUnreported s c.space applied).clock

theorem sound_recordCall (hs : Sound A s) (hlookup : s.calls.lookup i = some c)
    (hclear : A.clears -> ClearSound s (.record i)) :
    Sound A (recordCall s i c) := by
  have hcall := hs.parties.calls i c hlookup
  unfold recordCall
  cases hphase : c.phase with
  | started | returned => exact hs
  | failed =>
    exact hs.raiseFlag.setCall i
      ⟨Nat.lt_succ_of_lt hcall.passed, fun hne => by cases hne⟩
  | committed =>
    simp only
    split
    · rename_i hall
      have hcleared : Sound A s.clearFlag := by
        apply hs.clearFlag
        intro hA n hn
        rcases hclear hA c hlookup hphase hall n hn with hbefore | hfollowed
        · rcases hcall.committed hphase hall with ⟨b, hb, hspace, hstart⟩
          exact ⟨b, hb, hspace, hstart ▸ hbefore⟩
        · exact hfollowed
      exact hcleared.setCall i ⟨hcall.passed, fun hne => by cases hne⟩
    · exact hs.setCall i ⟨hcall.passed, fun hne => by cases hne⟩

/-!
## Background refreshes
-/

theorem sound_warmStart (hs : Sound A s) (n : Snapshot) : Sound A (warmStart s i n) := by
  apply (hs.readGeneration n.scope n.cls).setJob i
  constructor
  · exact List.mem_cons_self
  · exact keyOf_snapshot n rfl rfl
  · exact Nat.lt_succ_self _
  · exact fun sentAt hne => by cases hne
  · exact fun sentAt body hne => by cases hne

theorem sound_warmAdvance (hs : Sound A s) {j : Job} (hlookup : s.jobs.lookup i = some j)
    (body : GoString) : Sound A (warmAdvance s i j body) := by
  have hj := hs.parties.jobs i j hlookup
  unfold warmAdvance
  cases hphase : j.phase with
  | keyed =>
    apply hs.stamp.setJob i
    constructor
    · exact hj.known
    · exact hj.keyOf
    · exact Nat.lt_succ_of_lt hj.passed
    · intro sentAt hsent
      cases hsent
      exact hj.passed
    · exact fun sentAt stored hne => by cases hne
  | sent sentAt =>
    simp only
    split
    · apply (hs.readGeneration _ _).setJob i
      constructor
      · exact List.mem_cons_of_mem _ hj.known
      · exact hj.keyOf
      · exact Nat.lt_succ_of_lt hj.passed
      · exact fun later hne => by cases hne
      intro later stored hchecked
      cases hchecked
      exact hj.sent sentAt hphase
    · exact (hs.readGeneration _ _).dropJob i
  | checked sentAt stored =>
    exact (hs.publish ⟨hj.known, hj.keyOf, hj.checked sentAt stored hphase⟩).dropJob i

/-!
## The system
-/

theorem sound_tick (hs : Sound A s) (d : Nat) :
    Sound A { s with shared := { s.shared with now := s.shared.now + d } } where
  memory := { hs.memory with }
  parties := hs.parties.later (later_of_history (Nat.le_refl _) rfl)
    (Renewed.of_records rfl)

theorem sound_step {action : Action} (hs : Sound A s) (hrespects : Respects A cfg s action)
    (hstep : step cfg s action = some s') : Sound A s' := by
  cases action with
  | tick d =>
    cases hstep
    exact sound_tick hs d
  | arrive i r =>
    simp only [step] at hstep
    split at hstep
    · cases hstep
    cases hstep
    exact sound_arrive hs r hrespects.writes
  | advance i a =>
    rcases Option.map_eq_some_iff.mp hstep with ⟨t, hlookup, rfl⟩
    exact sound_advance hs hlookup hrespects
  | invalidate i scope cls =>
    simp only [step] at hstep
    split at hstep
    · cases hstep
    cases hstep
    exact hs.stamp.setCall i ⟨Nat.lt_succ_self _, fun hne => by cases hne⟩
  | execute i ok applied =>
    simp only [step] at hstep
    split at hstep
    · rename_i c hlookup
      split at hstep
      · cases hstep
        exact sound_executeCall hs hlookup ok applied hrespects.unsaturated
      · cases hstep
    · cases hstep
  | record i =>
    rcases Option.map_eq_some_iff.mp hstep with ⟨c, hlookup, rfl⟩
    exact sound_recordCall hs hlookup hrespects.clears
  | warm i n =>
    simp only [step] at hstep
    split at hstep
    · cases hstep
    cases hstep
    exact sound_warmStart hs n
  | warmAdvance i body =>
    rcases Option.map_eq_some_iff.mp hstep with ⟨j, hlookup, rfl⟩
    exact sound_warmAdvance hs hlookup body

theorem sound_start (A : Assumptions) (generations : GenerationTable) (now : Instant) :
    Sound A (State.start generations now) where
  memory :=
    { reads := by simp [State.start, History.empty]
      bumps := by simp [State.start, History.empty]
      started := by simp [State.start, History.empty]
      failures := by simp [State.start, History.empty]
      revocations := by simp [State.start, History.empty]
      granted := by simp [State.start, History.empty]
      generations := fun _ => Register.Ordered.start _ _
      global := Register.Ordered.start _ _
      leases := by simp [State.start, ResourceGrants.empty]
      latched := by simp [State.start, History.empty]
      fetched := by simp [State.start, History.empty] }
  parties :=
    { threads := by simp [State.start]
      calls := by simp [State.start]
      jobs := by simp [State.start]
      entries := by simp [State.start]
      hits := by simp [State.start, History.empty]
      artworkHits := by simp [State.start, History.empty]
      relayed := by simp [State.start, History.empty] }

theorem sound_run {generations : GenerationTable} {now : Instant} {actions : List Action}
    (hrespects : Along (step cfg) (Respects A cfg) (State.start generations now) actions)
    (hrun : run (step cfg) (State.start generations now) actions = some s) : Sound A s :=
  run_invariant (fun _ _ _ hs hcond hstep => sound_step hs hcond hstep)
    (sound_start A generations now) hrespects hrun

end ReplxEdge.Serving
