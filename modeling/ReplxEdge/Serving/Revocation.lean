import ReplxEdge.Serving.Invalidation

/-!
# Rejections by the origin

A 401 or 403 revokes the leases of a credential. Until a fetch that started after
it is completed, the credential should be served nothing from either store; a
fetch that was on its way when the rejection came is what can break this.
-/

namespace ReplxEdge.Serving

open Foundation
open Net
open Cache
open Identity

variable {A : Assumptions} {cfg : Config} {s : State}
variable {generations : GenerationTable} {now : Instant} {actions : List Action}

/-- A request that is served locally after its credential was rejected: a fetch with
the credential was started after the rejection and completed before. -/
def ProvenAgain (s : State) (fingerprint : GoString) (arrivedAt servedAt : Moment) : Prop :=
  forall v, v ∈ s.history.revocations -> v.rejected = true ->
    v.fingerprint = fingerprint -> v.time < arrivedAt ->
    exists g, g ∈ s.history.granted ∧ g.fingerprint = fingerprint ∧ v.time < g.sentAt ∧
      g.time < servedAt

instance (s : State) (f : GoString) (arrivedAt servedAt : Moment) :
    Decidable (ProvenAgain s f arrivedAt servedAt) :=
  inferInstanceAs (Decidable (forall v, v ∈ s.history.revocations -> _))

def RejectionSupersedes (s : State) : Prop :=
  (forall x, x ∈ s.history.hits -> ProvenAgain s x.fingerprint x.arrivedAt x.time) ∧
    forall x, x ∈ s.history.artworkHits -> ProvenAgain s x.fingerprint x.arrivedAt x.time

instance (s : State) : Decidable (RejectionSupersedes s) :=
  inferInstanceAs (Decidable (_ ∧ _))

theorem Leased.provenAgain (hs : MemoryOK A s) (hA : A.grants) {f : GoString}
    {arrivedAt checkedAt servedAt : Moment} (h : Leased s f arrivedAt checkedAt)
    (hserved : checkedAt < servedAt) : ProvenAgain s f arrivedAt servedAt := by
  intro v hv hrejected hvf hbefore
  rcases h.backed with ⟨g, hg, hf, htime, hlast⟩
  have hvg : v.time < g.time := hlast v hv hvf (Nat.lt_trans hbefore h.after)
  rcases hs.fetched hA g hg v hv hrejected (hvf.trans hf.symm) hvg with
    ⟨g', hg', hf', hsent, hle⟩
  refine ⟨g', hg', hf'.trans hf, hsent, ?_⟩
  calc
    g'.time ≤ g.time := hle
    _ < checkedAt := htime
    _ < servedAt := hserved

/-- Every run in which leases are only given for fetches that started after the
rejections of their credential. -/
theorem rejection_supersedes
    (hgrants : Along (step cfg) GrantSound (State.start generations now) actions)
    (hrun : run (step cfg) (State.start generations now) actions = some s) :
    RejectionSupersedes s := by
  have hsound : Sound ⟨False, False, True, False, False⟩ s := by
    refine sound_run (hgrants.imp ?_) hrun
    exact fun _ _ h => ⟨False.elim, False.elim, fun _ => h, False.elim, False.elim⟩
  constructor
  · intro x hx
    have hhit := hsound.parties.hits x hx
    exact hhit.leased.provenAgain hsound.memory trivial hhit.leasedBefore
  intro x hx
  have hhit := hsound.parties.artworkHits x hx
  exact hhit.leased.provenAgain hsound.memory trivial hhit.leasedBefore

theorem rejection_supersedes_recovered :
    exists s, run (step edge) (State.start Table.empty 0) recoveredRun = some s ∧
      Recovered s ∧ RejectionSupersedes s := by
  rcases recoveredRun_respects with ⟨hcond, s, hrun, hserved⟩
  refine ⟨s, hrun, hserved, rejection_supersedes ?_ hrun⟩
  exact hcond.imp fun _ _ h => h.right.right.right.left

/-- A fetch is sent, another request of the credential is rejected, and then the fetch
completes; the next request is served what it stored. -/
def overtakenFetchRun : List Action :=
  [.arrive 0 sections] ++ passes 0 9 answered ++ rejected 1 ++ passes 0 7 answered ++
    lookUp 2 sections jodie

theorem overtaken_fetch_restores_lease :
    exists s, run (step edge) (State.start Table.empty 0) overtakenFetchRun = some s ∧
      ¬ RejectionSupersedes s := by
  have hcheck : ((run (step edge) (State.start Table.empty 0) overtakenFetchRun).any fun s =>
      decide (¬ RejectionSupersedes s)) = true := by
    decide +kernel
  exact run_of_any hcheck

end ReplxEdge.Serving
