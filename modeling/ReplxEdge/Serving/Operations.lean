import ReplxEdge.Serving.Invariant

/-!
# Operations keep the invariant

One lemma for each operation on the shared state: the history grows, the memory
still agrees with it, and the running programs are not touched.
-/

namespace ReplxEdge.Serving

open Foundation
open Net
open Cache
open Identity

def State.records (s : State) :=
  (s.threads, s.calls, s.jobs, s.shared.entries, s.history.hits, s.history.artworkHits,
    s.history.relayed)

/-- Every program and record of the later state is an old one or is in order. -/
structure Renewed (A : Assumptions) (s s' : State) : Prop where
  threads : forall i t, s'.threads.lookup i = some t ->
    s.threads.lookup i = some t ∨ ThreadOK A s' t
  calls : forall i c, s'.calls.lookup i = some c ->
    s.calls.lookup i = some c ∨ CallOK s' c
  jobs : forall i j, s'.jobs.lookup i = some j ->
    s.jobs.lookup i = some j ∨ JobOK s' j
  entries : forall e, e ∈ s'.shared.entries -> e ∈ s.shared.entries ∨ EntryOK s' e
  hits : forall x, x ∈ s'.history.hits -> x ∈ s.history.hits ∨ HitOK A s' x
  artworkHits : forall x, x ∈ s'.history.artworkHits ->
    x ∈ s.history.artworkHits ∨ ArtworkHitOK s' x
  relayed : forall answer, answer ∈ s'.history.relayed ->
    answer ∈ s.history.relayed ∨ RelayedOK A s' answer

section Growth

variable {A : Assumptions} {s s' : State}

theorem Renewed.of_records (h : s'.records = s.records) : Renewed A s s' := by
  simp only [State.records, Prod.mk.injEq] at h
  rcases h with ⟨hthreads, hcalls, hjobs, hentries, hhits, hartwork, hrelayed⟩
  constructor
  · exact fun _ _ hold => Or.inl (hthreads ▸ hold)
  · exact fun _ _ hold => Or.inl (hcalls ▸ hold)
  · exact fun _ _ hold => Or.inl (hjobs ▸ hold)
  · exact fun _ hold => Or.inl (hentries ▸ hold)
  · exact fun _ hold => Or.inl (hhits ▸ hold)
  · exact fun _ hold => Or.inl (hartwork ▸ hold)
  · exact fun _ hold => Or.inl (hrelayed ▸ hold)

theorem PartiesOK.later (h : PartiesOK A s) (hl : Later s s') (hnew : Renewed A s s') :
    PartiesOK A s' where
  threads := fun i t ht =>
    (hnew.threads i t ht).elim (fun hold => (h.threads i t hold).later hl) id
  calls := fun i c hc =>
    (hnew.calls i c hc).elim (fun hold => (h.calls i c hold).later hl) id
  jobs := fun i j hj =>
    (hnew.jobs i j hj).elim (fun hold => (h.jobs i j hold).later hl) id
  entries := fun e he =>
    (hnew.entries e he).elim (fun hold => (h.entries e hold).later hl) id
  hits := fun x hx =>
    (hnew.hits x hx).elim (fun hold => (h.hits x hold).later hl) id
  artworkHits := fun x hx =>
    (hnew.artworkHits x hx).elim (fun hold => (h.artworkHits x hold).later hl) id
  relayed := fun answer hanswer =>
    (hnew.relayed answer hanswer).elim (fun hold => (h.relayed answer hold).later hl) id

theorem later_of_history (hclock : s.clock ≤ s'.clock) (hhistory : s'.history = s.history) :
    Later s s' := by
  constructor
  · exact hclock
  all_goals rw [hhistory]
  · exact List.Subset.refl _
  · exact List.Subset.refl _
  · exact List.Subset.refl _
  · exact List.Subset.refl _
  · exact fun n hn => Or.inl hn
  · exact fun v hv => Or.inl hv
  · exact fun answer hanswer => Or.inl hanswer

theorem Later.refl (s : State) : Later s s :=
  later_of_history (Nat.le_refl _) rfl

theorem later_stamp (s : State) : Later s s.stamp :=
  later_of_history (Nat.le_succ _) rfl

end Growth

/-!
## Memory
-/

variable {startedAt : Moment}

section Memory

variable {A : Assumptions} {s : State}

theorem MemoryOK.stamp (h : MemoryOK A s) : MemoryOK A s.stamp :=
  { h with
    reads := fun q hq => Nat.lt_succ_of_lt (h.reads q hq)
    bumps := fun b hb => Nat.lt_succ_of_lt (h.bumps b hb)
    failures := fun n hn => Nat.lt_succ_of_lt (h.failures n hn)
    revocations := fun v hv => Nat.lt_succ_of_lt (h.revocations v hv)
    granted := fun g hg => Nat.lt_succ_of_lt (h.granted g hg) }

theorem MemoryOK.readGeneration (h : MemoryOK A s) (scope : GoString) (cls : ResponseClass) :
    MemoryOK A (s.readGeneration scope cls) :=
  { h.stamp with
    reads := List.forall_mem_cons.mpr ⟨Nat.lt_succ_self _, h.stamp.reads⟩
    generations := fun hA => (h.generations hA).read rfl h.reads h.bumps
    global := h.global.read rfl h.reads h.bumps }

theorem row_global_le_bump (g : GenerationTable) (n : Namespace) :
    row g [] [] ≤ row (bump g n) [] [] :=
  row_le_bump g n [] []

theorem MemoryOK.bumpGeneration (h : MemoryOK A s) (space : Namespace)
    (hstarted : startedAt ≤ s.clock) (hsat : A.unsaturated -> Unsaturated s.shared.generations) :
    MemoryOK A (s.bumpGeneration space startedAt) :=
  { h.stamp with
    bumps := List.forall_mem_cons.mpr ⟨Nat.lt_succ_self _, h.stamp.bumps⟩
    started := List.forall_mem_cons.mpr ⟨hstarted, h.started⟩
    generations := fun hA => (h.generations hA).raise
      (fun k => getGeneration_le_bump _ _ k.1 k.2)
      (fun k hcovers => getGeneration_lt_bump (hsat hA) hcovers) h.reads
    global := h.global.raise (fun _ => row_global_le_bump _ _)
      (fun _ hall => by
        have hspace : space = .all := hall
        rw [hspace]
        exact row_lt_bump _ .all [] [] rfl) h.reads
    latched := by
      intro hA n hn
      rcases h.latched hA n hn with hbroken | ⟨b, hb, hall, hstart⟩
      · exact Or.inl hbroken
      · exact Or.inr ⟨b, List.mem_cons_of_mem _ hb, hall, hstart⟩ }

theorem MemoryOK.bumpUnreported (h : MemoryOK A s) (space : Namespace) (applied : Bool) :
    MemoryOK A (s.bumpUnreported space applied) := by
  cases applied with
  | false => exact h
  | true =>
    exact
      { h with
        generations := fun hA => (h.generations hA).grow
          fun k => getGeneration_le_bump _ _ k.1 k.2
        global := h.global.grow fun _ => row_global_le_bump _ _ }

theorem MemoryOK.raiseFlag (h : MemoryOK A s) : MemoryOK A s.raiseFlag :=
  { h.stamp with
    failures := List.forall_mem_cons.mpr ⟨Nat.lt_succ_self _, h.stamp.failures⟩
    latched := fun _ _ _ => Or.inl rfl }

theorem MemoryOK.clearFlag (h : MemoryOK A s)
    (hclear : A.clears -> forall n, n ∈ s.history.failures ->
      exists b, b ∈ s.history.bumps ∧ b.space = .all ∧ n < b.startedAt) :
    MemoryOK A s.clearFlag :=
  { h with latched := fun hA n hn => Or.inr (hclear hA n hn) }

theorem MemoryOK.revoke (h : MemoryOK A s) (f : GoString) (rejected : Bool) :
    MemoryOK A (s.revoke f rejected) :=
  { h.stamp with
    revocations := List.forall_mem_cons.mpr ⟨Nat.lt_succ_self _, h.stamp.revocations⟩
    leases := by
      intro lease hlease
      rcases ResourceGrants.mem_revoke hlease with ⟨hmem, hother⟩
      rcases h.leases lease hmem with ⟨g, hg, hf, hlast⟩
      refine ⟨g, hg, hf, ?_⟩
      intro v hv hvf
      rcases List.mem_cons.mp hv with rfl | hold
      · exact absurd hvf.symm hother
      · exact hlast v hold hvf
    fetched := by
      intro hA g hg v hv hrejected hvf htime
      rcases List.mem_cons.mp hv with rfl | hold
      · exact absurd (h.granted g hg) (Nat.lt_asymm htime)
      · exact h.fetched hA g hg v hold hrejected hvf htime }

theorem MemoryOK.checkLease (h : MemoryOK A s) (f key : GoString) :
    MemoryOK A (s.checkLease f key) :=
  { h.stamp with
    leases := fun lease hlease =>
      h.leases lease (ResourceGrants.mem_authorized hlease) }

theorem MemoryOK.grant (h : MemoryOK A s) (order : Order Lease) (f key : GoString) (sentAt : Moment)
    (hgrant : A.grants -> FetchFresh s f sentAt) :
    MemoryOK A (s.grant order f key sentAt) :=
  { h.stamp with
    granted := List.forall_mem_cons.mpr ⟨Nat.lt_succ_self _, h.stamp.granted⟩
    leases := by
      intro lease hlease
      rcases ResourceGrants.mem_grant hlease with hold | rfl
      · rcases h.leases lease hold with ⟨g, hg, hf, hlast⟩
        exact ⟨g, List.mem_cons_of_mem _ hg, hf, hlast⟩
      exact ⟨⟨s.clock, f, sentAt⟩, List.mem_cons_self, rfl,
        fun v hv _ => h.revocations v hv⟩
    fetched := by
      intro hA g hg v hv hrejected hvf htime
      rcases List.mem_cons.mp hg with rfl | hold
      · rcases hgrant hA v hv hrejected hvf with hafter | ⟨g', hg', hf, hafter⟩
        · exact ⟨_, List.mem_cons_self, rfl, hafter, Nat.le_refl _⟩
        exact ⟨g', List.mem_cons_of_mem _ hg', hf, hafter,
          Nat.le_of_lt (h.granted g' hg')⟩
      rcases h.fetched hA g hold v hv hrejected hvf htime with ⟨g', hg', hrest⟩
      exact ⟨g', List.mem_cons_of_mem _ hg', hrest⟩ }

end Memory

/-!
## Growth of the history
-/

section Later

variable (s : State)

theorem later_readGeneration (scope : GoString) (cls : ResponseClass) :
    Later s (s.readGeneration scope cls) :=
  { later_stamp s with reads := List.subset_cons_self _ _ }

theorem later_bumpGeneration (space : Namespace) (startedAt : Moment) :
    Later s (s.bumpGeneration space startedAt) :=
  { later_stamp s with bumps := List.subset_cons_self _ _ }

theorem later_bumpUnreported (space : Namespace) (applied : Bool) :
    Later s (s.bumpUnreported space applied) := by
  cases applied with
  | false => exact Later.refl s
  | true => exact later_of_history (Nat.le_refl _) rfl

theorem later_raiseFlag : Later s s.raiseFlag :=
  { later_stamp s with
    failures := List.subset_cons_self _ _
    newFailures := fun n hn => by
      rcases List.mem_cons.mp hn with rfl | hold
      · exact Or.inr (Nat.le_refl _)
      · exact Or.inl hold }

theorem later_revoke (f : GoString) (rejected : Bool) : Later s (s.revoke f rejected) :=
  { later_stamp s with
    newRevocations := fun v hv => by
      rcases List.mem_cons.mp hv with rfl | hold
      · exact Or.inr (Nat.le_refl _)
      · exact Or.inl hold }

theorem later_publish (entry : Entry) : Later s (s.publish entry) :=
  later_of_history (Nat.le_refl _) rfl

theorem later_setThread (i : Nat) (t : Thread) : Later s (s.setThread i t) :=
  later_of_history (Nat.le_refl _) rfl

theorem later_setCall (i : Nat) (c : Call) : Later s (s.setCall i c) :=
  later_of_history (Nat.le_refl _) rfl

theorem later_setJob (i : Nat) (j : Job) : Later s (s.setJob i j) :=
  later_of_history (Nat.le_refl _) rfl

theorem later_dropJob (i : Nat) : Later s (s.dropJob i) :=
  later_of_history (Nat.le_refl _) rfl

theorem later_checkLease (f key : GoString) : Later s (s.checkLease f key) :=
  later_of_history (Nat.le_succ _) rfl

theorem later_grant (order : Order Lease) (f key : GoString) (sentAt : Moment) :
    Later s (s.grant order f key sentAt) :=
  { later_stamp s with granted := List.subset_cons_self _ _ }

theorem later_logHit (hit : CacheHit) : Later s (s.logHit hit) :=
  { later_stamp s with }

theorem later_logArtworkHit (hit : ArtworkHit) : Later s (s.logArtworkHit hit) :=
  { later_stamp s with }

theorem later_relay (answer : Relayed) (htime : answer.time = s.clock) :
    Later s (s.relay answer) :=
  { later_stamp s with
    newRelayed := fun other hother => by
      rcases List.mem_cons.mp hother with rfl | hold
      · exact Or.inr (Nat.le_of_eq htime.symm)
      · exact Or.inl hold }

end Later

/-!
## The invariant
-/

section Sound

variable {A : Assumptions} {s : State}

theorem Sound.stamp (h : Sound A s) : Sound A s.stamp where
  memory := h.memory.stamp
  parties := h.parties.later (later_stamp s) (Renewed.of_records rfl)

theorem Sound.readGeneration (h : Sound A s) (scope : GoString) (cls : ResponseClass) :
    Sound A (s.readGeneration scope cls) where
  memory := h.memory.readGeneration scope cls
  parties := h.parties.later (later_readGeneration s scope cls)
    (Renewed.of_records rfl)

theorem Sound.bumpGeneration (h : Sound A s) (space : Namespace) (hstarted : startedAt ≤ s.clock)
    (hsat : A.unsaturated -> Unsaturated s.shared.generations) :
    Sound A (s.bumpGeneration space startedAt) where
  memory := h.memory.bumpGeneration space hstarted hsat
  parties := h.parties.later (later_bumpGeneration s space startedAt)
    (Renewed.of_records rfl)

theorem Sound.bumpUnreported (h : Sound A s) (space : Namespace) (applied : Bool) :
    Sound A (s.bumpUnreported space applied) := by
  cases applied with
  | false => exact h
  | true =>
    exact ⟨h.memory.bumpUnreported space true,
      h.parties.later (later_bumpUnreported s space true)
        (Renewed.of_records rfl)⟩

theorem Sound.raiseFlag (h : Sound A s) : Sound A s.raiseFlag where
  memory := h.memory.raiseFlag
  parties := h.parties.later (later_raiseFlag s) (Renewed.of_records rfl)

theorem Sound.clearFlag (h : Sound A s) (hclear : A.clears -> forall n, n ∈ s.history.failures ->
      exists b, b ∈ s.history.bumps ∧ b.space = .all ∧ n < b.startedAt) :
    Sound A s.clearFlag where
  memory := h.memory.clearFlag hclear
  parties := h.parties.later (later_of_history (Nat.le_refl _) rfl)
    (Renewed.of_records rfl)

theorem Sound.revoke (h : Sound A s) (f : GoString) (rejected : Bool) :
    Sound A (s.revoke f rejected) where
  memory := h.memory.revoke f rejected
  parties := h.parties.later (later_revoke s f rejected) (Renewed.of_records rfl)

theorem Sound.checkLease (h : Sound A s) (f key : GoString) :
    Sound A (s.checkLease f key) where
  memory := h.memory.checkLease f key
  parties := h.parties.later (later_checkLease s f key) (Renewed.of_records rfl)

theorem Sound.grant (h : Sound A s) (order : Order Lease) (f key : GoString) (sentAt : Moment)
    (hgrant : A.grants -> FetchFresh s f sentAt) :
    Sound A (s.grant order f key sentAt) where
  memory := h.memory.grant order f key sentAt hgrant
  parties := h.parties.later (later_grant s order f key sentAt)
    (Renewed.of_records rfl)

theorem Sound.publish (h : Sound A s) {entry : Entry} (hentry : EntryOK s entry) :
    Sound A (s.publish entry) where
  memory := { h.memory with }
  parties := by
    apply h.parties.later (later_publish s entry)
    constructor
    case entries =>
      intro e he
      rcases List.mem_cons.mp he with rfl | hold
      · exact Or.inr (hentry.later (later_publish s e))
      · exact Or.inl hold
    all_goals intros; left; assumption

theorem Sound.publishArtwork (h : Sound A s) (entry : ArtworkEntry) :
    Sound A (s.publishArtwork entry) where
  memory := { h.memory with }
  parties := h.parties.later (later_of_history (Nat.le_refl _) rfl) (Renewed.of_records rfl)

theorem Sound.logHit (h : Sound A s) {hit : CacheHit} (hhit : HitOK A s hit) :
    Sound A (s.logHit hit) where
  memory := { h.memory.stamp with }
  parties := by
    apply h.parties.later (later_logHit s hit)
    constructor
    case hits =>
      intro x hx
      rcases List.mem_cons.mp hx with rfl | hold
      · exact Or.inr (hhit.later (later_logHit s x))
      · exact Or.inl hold
    all_goals intros; left; assumption

theorem Sound.logArtworkHit (h : Sound A s) {hit : ArtworkHit} (hhit : ArtworkHitOK s hit) :
    Sound A (s.logArtworkHit hit) where
  memory := { h.memory.stamp with }
  parties := by
    apply h.parties.later (later_logArtworkHit s hit)
    constructor
    case artworkHits =>
      intro x hx
      rcases List.mem_cons.mp hx with rfl | hold
      · exact Or.inr (hhit.later (later_logArtworkHit s x))
      · exact Or.inl hold
    all_goals intros; left; assumption

theorem Sound.relay (h : Sound A s) {answer : Relayed} (htime : answer.time = s.clock)
    (hanswer : RelayedOK A s.stamp answer) : Sound A (s.relay answer) where
  memory := { h.memory.stamp with }
  parties := by
    apply h.parties.later (later_relay s answer htime)
    constructor
    case relayed =>
      intro other hother
      rcases List.mem_cons.mp hother with rfl | hold
      · exact Or.inr { hanswer with }
      · exact Or.inl hold
    all_goals intros; left; assumption

theorem Sound.beginFlight (h : Sound A s) (key : GoString) : Sound A (s.beginFlight key) where
  memory := { h.memory with }
  parties := h.parties.later (later_of_history (Nat.le_refl _) rfl) (Renewed.of_records rfl)

theorem Sound.endFlight (h : Sound A s) (key : GoString) : Sound A (s.endFlight key) where
  memory := { h.memory with }
  parties := h.parties.later (later_of_history (Nat.le_refl _) rfl) (Renewed.of_records rfl)

theorem Sound.setThread (h : Sound A s) (i : Nat) {t : Thread} (ht : ThreadOK A s t) :
    Sound A (s.setThread i t) where
  memory := { h.memory with }
  parties := by
    apply h.parties.later (later_setThread s i t)
    constructor
    case threads =>
      intro j u hu
      rcases Table.lookup_set_cases hu with rfl | hold
      · exact Or.inr (ht.later (later_setThread s i u))
      · exact Or.inl hold
    all_goals intros; left; assumption

theorem Sound.setCall (h : Sound A s) (i : Nat) {c : Call} (hc : CallOK s c) :
    Sound A (s.setCall i c) where
  memory := { h.memory with }
  parties := by
    apply h.parties.later (later_setCall s i c)
    constructor
    case calls =>
      intro j d hd
      rcases Table.lookup_set_cases hd with rfl | hold
      · exact Or.inr (hc.later (later_setCall s i d))
      · exact Or.inl hold
    all_goals intros; left; assumption

theorem Sound.setJob (h : Sound A s) (i : Nat) {j : Job} (hj : JobOK s j) :
    Sound A (s.setJob i j) where
  memory := { h.memory with }
  parties := by
    apply h.parties.later (later_setJob s i j)
    constructor
    case jobs =>
      intro m other hother
      rcases Table.lookup_set_cases hother with rfl | hold
      · exact Or.inr (hj.later (later_setJob s i other))
      · exact Or.inl hold
    all_goals intros; left; assumption

theorem Sound.dropJob (h : Sound A s) (i : Nat) : Sound A (s.dropJob i) where
  memory := { h.memory with }
  parties := by
    apply h.parties.later (later_dropJob s i)
    constructor
    case jobs =>
      exact fun m other hother => Or.inl (Table.lookup_of_delete hother)
    all_goals intros; left; assumption

end Sound

end ReplxEdge.Serving
