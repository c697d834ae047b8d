import ReplxEdge.Serving.Operations

/-!
# Requests keep the invariant

One lemma for each point of a request: what is known there is enough for the next
point, and what is recorded on the way is in order.
-/

namespace ReplxEdge.Serving

open Foundation
open Net
open Cache
open Identity
open Gateway
open Trace
open Proxy

variable {p : Phase} {k : Keyed} {sentAt leasedAt : Moment} {status : Nat} {attempt : Attempt}
variable {entry : Entry} {body : GoString}

variable {A : Assumptions} {cfg : Config} {s s' : State} {i : Nat} {t : Thread} {a : Answer}

/-!
## A request that goes on
-/

/-- A request past its first point, in a state that is in order. -/
structure Standing (A : Assumptions) (s : State) (t : Thread) : Prop where
  sound : Sound A s
  thread : ThreadOK A s t
  running : t.phase ≠ .arrived

theorem Standing.after (h : Standing A s t) (hsound : Sound A s') (hl : Later s s') :
    Standing A s' t :=
  ⟨hsound, h.thread.later hl, h.running⟩

theorem Standing.stamp (h : Standing A s t) : Standing A s.stamp t :=
  h.after h.sound.stamp (later_stamp s)

theorem ThreadOK.known (h : ThreadOK A s t) (hphase : t.phase = p) :
    PhaseOK A s t p :=
  hphase ▸ h.phase

theorem ThreadOK.moved (h : ThreadOK A s t) (hrunning : t.phase ≠ .arrived)
    (flight : Bool) (p : Phase)
    (hp : PhaseOK A s { t with flight := flight, phase := p } p) :
    ThreadOK A s { t with flight := flight, phase := p } :=
  { h with
    keyed := fun k hk => { h.keyed k hk with }
    attributed := fun _ => h.attributed hrunning
    written := fun hA _ => h.written hA hrunning
    phase := hp }

theorem Standing.move (h : Standing A s t) (hp : PhaseOK A s { t with phase := p } p) :
    Sound A (move s i t p) :=
  h.sound.setThread i (h.thread.moved h.running t.flight p hp)

theorem Standing.keyedOK (h : Standing A s t) (hk : t.keyed = some k) :
    KeyedOK t k :=
  h.thread.keyed k hk

theorem Standing.keyed_passed (h : Standing A s t) (hk : t.keyed = some k) :
    k.read.time < s.clock :=
  h.sound.memory.reads k.read (h.thread.reads k.read (h.keyedOK hk).read).left

theorem sound_finish (h : Standing A s t) : Sound A (finish s i t) := by
  unfold finish
  cases hkeyed : t.keyed with
  | none => exact h.move trivial
  | some k =>
    cases hflight : t.flight with
    | false => exact h.move trivial
    | true =>
      have hended := h.after (h.sound.endFlight k.key)
        (later_of_history (Nat.le_refl _) rfl)
      exact hended.move trivial

theorem afterMiss_ok (attempt : Attempt) (hk : t.keyed = some k) :
    PhaseOK A s t (afterMiss attempt k) := by
  cases attempt with
  | first | waited => exact hk
  | lost => trivial

/-!
## Identity and key
-/

theorem observedScope_ne_nil (f : GoString) (res : Resolved) : observedScope f res ≠ [] := by
  unfold observedScope
  split
  · simp [str]
  split
  · assumption
  · simp [tokenScope, str]

theorem nextScope_ne_nil (h : extractToken t.original ≠ []) : nextScope cfg t a ≠ [] := by
  unfold nextScope
  simp only [h, if_false]
  split
  · exact observedScope_ne_nil _ _
  · simp [tokenScope, str]

theorem identified_ok (h : ThreadOK A s t) (hphase : t.phase = .arrived)
    (hwrites : A.writes -> forall answer, WroteBefore s t.original t.arrivedAt answer ->
      nextScope cfg t a = answer.scope) :
    ThreadOK A s (identified cfg t a) := by
  rcases h.known hphase with ⟨hreads, hkeyed, hrequest, hfingerprint, hscope⟩
  have hnone : forall k, t.keyed ≠ some k := fun k hk =>
    absurd (hkeyed.symm.trans hk) (by simp)
  unfold identified
  split
  · rename_i htoken
    exact
      { h with
        keyed := fun k hk => absurd hk (hnone k)
        attributed := fun _ hne => absurd htoken hne
        written := fun hA _ answer hanswer => by
          rw [← hwrites hA answer hanswer]
          simp [nextScope, htoken, hscope]
        phase := ⟨hreads, hkeyed, hrequest⟩ }
  rename_i htoken
  exact
    { h with
      reads := fun q hq => absurd (hreads ▸ hq : q ∈ []) List.not_mem_nil
      keyed := fun k hk => absurd hk (hnone k)
      identified := fun _ => htoken
      fingerprinted := fun k hk => absurd hk (hnone k)
      attributed := fun _ _ => nextScope_ne_nil htoken
      written := fun hA _ => hwrites hA
      phase := ⟨hreads, hkeyed, hrequest⟩ }

theorem sound_observeToken (hs : Sound A s) (ht : ThreadOK A s t) (hphase : t.phase = .arrived)
    (hwrites : A.writes -> forall answer, WroteBefore s t.original t.arrivedAt answer ->
      nextScope cfg t a = answer.scope) :
    Sound A (observeToken cfg s i t a) := by
  have hseen := identified_ok ht hphase hwrites
  unfold observeToken
  simp only
  split
  · exact (hs.revoke _ false).setThread i (hseen.later (later_revoke s _ false))
  · exact hs.setThread i hseen

theorem admitted_spec (h : admitted t = true) :
    t.fingerprint ≠ [] ∧ (requestCacheable t.original).isSome = true := by
  unfold admitted at h
  simp only [Bool.and_eq_true, bne_iff_ne] at h
  exact ⟨h.left.left.left, h.right⟩

theorem keyed_ok (h : Standing A s t) (hrequest : t.request = t.original)
    (hadmitted : admitted t = true) :
    let read := s.currentRead t.scope (classOf t.original.path)
    ThreadOK A (s.readGeneration t.scope (classOf t.original.path))
      { t with
        keyed := some
          ⟨requestKeyGen t.scope (classOf t.original.path).label t.original
            read.value.1 read.value.2, read⟩
        reads := [read]
        phase := .keyed } := by
  intro read
  have hlater := h.thread.later (later_readGeneration s t.scope (classOf t.original.path))
  have honly : forall k, some (Keyed.mk (requestKeyGen t.scope
      (classOf t.original.path).label t.original read.value.1 read.value.2) read) = some k ->
      k.read = read := fun k hk => congrArg Keyed.read (Option.some.inj hk).symm
  exact
    { hlater with
      reads := fun q hq => by
        rw [List.mem_singleton.mp hq]
        exact ⟨List.mem_cons_self, h.thread.arrived, rfl⟩
      keyed := fun k hk => by
        rw [← Option.some.inj hk]
        exact ⟨List.mem_singleton_self _, keyOf_request t.original read, rfl⟩
      classes := fun k hk q hq => by
        rw [honly k hk]
        exact Or.inl (List.mem_singleton.mp hq)
      cacheable := fun _ => (admitted_spec hadmitted).right
      fingerprinted := fun _ _ => (admitted_spec hadmitted).left
      attributed := fun _ => h.thread.attributed h.running
      written := fun hA _ => hlater.written hA h.running
      phase := ⟨hrequest, fun k hk q hq => by
        rw [honly k hk]
        exact List.mem_singleton.mp hq⟩ }

theorem sound_observeGeneration (h : Standing A s t) (hphase : t.phase = .resolved) :
    Sound A (observeGeneration s i t a) := by
  have hresolved := h.thread.known hphase
  rcases hresolved with ⟨_, hkeyed, hrequest⟩
  unfold observeGeneration
  split
  · rename_i hadmitted
    simp only [Bool.and_eq_true] at hadmitted
    exact (h.sound.readGeneration _ _).setThread i (keyed_ok h hrequest hadmitted.left)
  refine h.move ⟨hrequest, ?_⟩
  intro k hk
  exact absurd (hkeyed.symm.trans hk) (by simp)

theorem sound_observeFlag (h : Standing A s t) (hphase : t.phase = .keyed) :
    Sound A (observeFlag s i t) := by
  have hkeyed := h.thread.known hphase
  have hsub : forall k, (if s.shared.broken then none else t.keyed) = some k ->
      t.keyed = some k := by
    intro k hk
    split at hk
    · cases hk
    · exact hk
  exact h.sound.setThread i
    { h.thread with
      keyed := fun k hk => { h.keyedOK (hsub k hk) with }
      classes := fun k hk => h.thread.classes k (hsub k hk)
      fingerprinted := fun k hk => h.thread.fingerprinted k (hsub k hk)
      attributed := fun _ => h.thread.attributed h.running
      written := fun hA _ => h.thread.written hA h.running
      phase := ⟨hkeyed.left, fun k hk => hkeyed.right k (hsub k hk)⟩ }

/-!
## Routing
-/

theorem artworkAdmitted_match (h : artworkAdmitted cfg t = true) :
    artworkMatch t.request.path = true := by
  unfold artworkAdmitted at h
  simp only [Bool.and_eq_true] at h
  exact h.left.left.left.left.left.left.left.left.left.left.right

theorem ThreadOK.artwork_reads (h : ThreadOK A s t) (hrequest : t.request = t.original)
    (hartwork : artworkMatch t.request.path = true) : t.reads = [] := by
  by_contra hreads
  have hcacheable := h.cacheable hreads
  rw [hrequest] at hartwork
  rw [requestCacheable_artwork hartwork] at hcacheable
  cases hcacheable

theorem controlTail_ok (hreads : artworkMatch t.request.path = true -> t.reads = []) :
    PhaseOK A s t (controlTail cfg t) := by
  unfold controlTail
  split
  · rename_i hadmitted
    have hartwork := artworkAdmitted_match hadmitted
    exact ⟨hartwork, hreads hartwork⟩
  · trivial

theorem controlRoute_ok (hreads : artworkMatch t.request.path = true -> t.reads = [])
    (hrequest : t.request = t.original) : PhaseOK A s t (controlRoute cfg t) := by
  unfold controlRoute
  split
  · trivial
  split
  · rename_i hdecision
    exact ⟨hdecision, hrequest⟩
  · exact controlTail_ok hreads

theorem mediaRoute_ok : PhaseOK A s t (mediaRoute t) := by
  unfold mediaRoute
  split
  · trivial
  cases hkeyed : t.keyed with
  | none => trivial
  | some k => exact hkeyed

theorem substituted_ok (h : Standing A s t) (hphase : t.phase = .routing)
    (hclass : classify t.request.path = .mediaRedirect) (r : Net.Request)
    (hp : PhaseOK A s { t with request := r, phase := p } p) :
    ThreadOK A s { t with request := r, phase := p } := by
  have hrouting := h.thread.known hphase
  exact
    { h.thread with
      keyed := fun k hk => { h.keyedOK hk with }
      classes := fun k hk q hq => Or.inl (hrouting.right k hk q hq)
      substituted := Or.inr (hrouting.left ▸ hclass)
      attributed := fun _ => h.thread.attributed h.running
      written := fun hA _ => h.thread.written hA h.running
      phase := hp }

theorem sound_directMedia (h : Standing A s t) (hphase : t.phase = .routing)
    (hclass : classify t.request.path = .mediaRedirect) :
    Sound A (directMedia s i t a) := by
  unfold directMedia
  split
  · cases hpart : a.part with
    | deny => exact h.move trivial
    | allow => exact h.move mediaRoute_ok
    | substitute key => exact h.sound.setThread i (substituted_ok h hphase hclass _ mediaRoute_ok)
  · exact h.move mediaRoute_ok

theorem sound_route (h : Standing A s t) (hphase : t.phase = .routing) :
    Sound A (route cfg s i t a) := by
  have hrouting := h.thread.known hphase
  have hrequest : t.request = t.original := hrouting.left
  have hreads := h.thread.artwork_reads hrequest
  unfold route
  split
  · exact h.move trivial
  cases hclass : classify t.request.path with
  | denySessions => exact h.move trivial
  | denyUnknownMedia =>
    cases hmode : cfg.mode with
    | cloudflareTunnel => exact h.move trivial
    | direct => exact h.move (controlRoute_ok hreads hrequest)
  | mediaRedirect =>
    cases hmode : cfg.mode with
    | cloudflareTunnel => exact h.move trivial
    | direct => exact sound_directMedia h hphase hclass
  | playQueueObserve | control => exact h.move (controlRoute_ok hreads hrequest)

/-!
## Answers of the origin
-/

theorem ThreadOK.request_of_plain (h : ThreadOK A s t) (hplain : Plain t.original) :
    t.request = t.original := by
  rcases h.substituted with hsame | hredirect
  · exact hsame
  · exact absurd hredirect hplain.right.right

theorem Standing.relay (h : Standing A s t) (sentAt : Moment) (status : Nat)
    (hretired : IsWrite ⟨s.clock, t.original, t.scope, sentAt, status⟩ ->
      Plain t.original -> t.scope ≠ [] -> Retired s t.scope sentAt) :
    Standing A (s.relay ⟨s.clock, t.original, t.scope, sentAt, status⟩) t := by
  refine h.after (h.sound.relay rfl ?_) (later_relay s _ rfl)
  constructor
  · exact Nat.lt_succ_self _
  · exact h.thread.attributed h.running
  · exact h.thread.plain
  intro hwrite hplain hscope
  rcases hretired hwrite hplain hscope with ⟨b, hb, hspace, htime⟩ | ⟨n, hn, htime⟩
  · exact Or.inl ⟨b, hb, hspace, htime, h.sound.memory.bumps b hb⟩
  · exact Or.inr ⟨n, hn, htime, h.sound.memory.failures n hn⟩

theorem Standing.relay_special (h : Standing A s t) (sentAt : Moment) (status : Nat)
    (hspecial : isDecision t.request.path = true ∨ artworkMatch t.request.path = true) :
    Standing A (s.relay ⟨s.clock, t.original, t.scope, sentAt, status⟩) t := by
  apply h.relay sentAt status
  intro _ hplain _
  rw [h.thread.request_of_plain hplain] at hspecial
  rcases hspecial with hdecision | hartwork
  · exact absurd hdecision (by simp [hplain.left])
  · exact absurd hartwork (by simp [hplain.right.left])

theorem Standing.revokeRejected (h : Standing A s t) (status : Nat) :
    Standing A (revokeRejectedAuthorization s t status) t := by
  unfold revokeRejectedAuthorization
  split
  · exact h.after (h.sound.revoke _ true) (later_revoke s _ true)
  · exact h

theorem revokeRejected_clock (status : Nat) :
    s.clock ≤ (revokeRejectedAuthorization s t status).clock := by
  unfold revokeRejectedAuthorization
  split
  · exact Nat.le_succ _
  · exact Nat.le_refl _

theorem Standing.grant (h : Standing A s t) (order : Order Lease) (key : GoString) (sentAt : Moment)
    (hgrant : A.grants -> FetchFresh s t.fingerprint sentAt) :
    Standing A (s.grant order t.fingerprint key sentAt) t :=
  h.after (h.sound.grant order t.fingerprint key sentAt hgrant)
    (later_grant s order t.fingerprint key sentAt)

theorem Standing.checkLease (h : Standing A s t) (key : GoString) :
    Standing A (s.checkLease t.fingerprint key) t :=
  h.after (h.sound.checkLease t.fingerprint key) (later_checkLease s t.fingerprint key)

theorem Standing.leased (h : Standing A s t) {key : GoString}
    (hleased : s.leased t.fingerprint key = true) :
    Leased (s.checkLease t.fingerprint key) t.fingerprint t.arrivedAt s.clock := by
  rcases ResourceGrants.authorized_true hleased with ⟨lease, hmem, hkey, _⟩
  rcases h.sound.memory.leases lease hmem with ⟨g, hg, hf, hlast⟩
  have hfingerprint : lease.key.fingerprint = t.fingerprint :=
    congrArg GrantKey.fingerprint hkey
  rw [hfingerprint] at hf hlast
  constructor
  · exact h.thread.arrived
  · exact Nat.lt_succ_self _
  · exact ⟨g, hg, hf, h.sound.memory.granted g hg, fun v hv hvf _ => hlast v hv hvf⟩

theorem sound_handleDecision (h : Standing A s t) (hphase : t.phase = .decision) :
    Sound A (handleDecision cfg s i t a) := by
  have hpath := h.thread.known hphase
  rcases hpath with ⟨hdecision, hrequest⟩
  unfold handleDecision
  cases hanswer : a.decision with
  | refuse => exact h.move trivial
  | transparent => exact h.move (controlTail_ok (h.thread.artwork_reads hrequest))
  | forward => exact h.stamp.move hdecision

theorem sound_relayDecision (h : Standing A s t) (hphase : t.phase = .decisionSent sentAt) :
    Sound A (relayDecision s i t a sentAt) := by
  have hpath := h.thread.known hphase
  unfold relayDecision
  split
  · exact (h.relay_special sentAt a.status (Or.inl hpath)).move trivial
  · exact h.move trivial

/-!
## Artwork
-/

theorem sound_artworkDeclined (h : Standing A s t) : Sound A (artworkDeclined s i t) :=
  h.move trivial

theorem sound_artworkLease (h : Standing A s t) (hphase : t.phase = .artwork) :
    Sound A (artworkLease s i t a) := by
  have hpath := h.thread.known hphase
  unfold artworkLease
  split
  · simp only
    split
    · rename_i hleased
      exact (h.checkLease _).move ⟨hpath, h.leased hleased⟩
    · exact (h.checkLease _).move hpath
  · exact sound_artworkDeclined h

theorem sound_artworkServe (h : Standing A s t) (hphase : t.phase = .artworkGet leasedAt) :
    Sound A (artworkServe s i t a leasedAt) := by
  have hget := h.thread.known hphase
  rcases hget with ⟨hpath, hleased⟩
  unfold artworkServe
  split
  · rename_i entry _
    have hhit : ArtworkHitOK s
        ⟨s.clock, t.original, t.arrivedAt, t.fingerprint, t.reads, leasedAt, entry⟩ :=
      ⟨hpath.right, hleased, hleased.passed⟩
    exact (h.after (h.sound.logArtworkHit hhit) (later_logArtworkHit s _)).move trivial
  · exact h.move hpath

theorem sound_artworkSend (h : Standing A s t) (hphase : t.phase = .artworkFetch) :
    Sound A (artworkSend s i t a) := by
  have hpath := h.thread.known hphase
  unfold artworkSend
  split
  · exact h.stamp.move hpath
  · exact sound_artworkDeclined h

theorem sound_artworkReceive (h : Standing A s t) (hphase : t.phase = .artworkSent sentAt) :
    Sound A (artworkReceive s i t a sentAt) := by
  have hpath := h.thread.known hphase
  unfold artworkReceive
  split
  · exact (h.revokeRejected a.status).move hpath
  · exact sound_artworkDeclined h

theorem sound_artworkStore (h : Standing A s t)
    (hphase : t.phase = .artworkReceived sentAt status) :
    Sound A (artworkStore s i t a sentAt status) := by
  have hpath := h.thread.known hphase
  unfold artworkStore
  split
  · split
    · have hstored := h.after (h.sound.publishArtwork
        ⟨artworkCacheKey t.scope t.request, a.body⟩)
        (later_of_history (Nat.le_refl _) rfl)
      exact hstored.move hpath
    · exact h.move hpath
  · exact sound_artworkDeclined h

theorem sound_artworkGrant (h : Standing A s t) (hphase : t.phase = .artworkGranting sentAt)
    (hgrant : A.grants -> FetchFresh s t.fingerprint sentAt) :
    Sound A (artworkGrant s i t a sentAt) := by
  have hpath := h.thread.known hphase
  exact (h.grant a.order _ sentAt hgrant).move hpath

theorem sound_artworkRelay (h : Standing A s t)
    (hphase : t.phase = .artworkRelaying sentAt status) :
    Sound A (artworkRelay s i t sentAt status) := by
  have hpath := h.thread.known hphase
  exact (h.relay_special sentAt status (Or.inr hpath.left)).move trivial

/-!
## Lookups
-/

theorem sound_lookupStart (h : Standing A s t) (attempt : Attempt) :
    Sound A (lookupStart s i t attempt) := by
  unfold lookupStart
  cases hkeyed : t.keyed with
  | none => exact h.move trivial
  | some k =>
    cases hbroken : s.shared.broken with
    | true => exact h.move (afterMiss_ok attempt hkeyed)
    | false => exact h.move hkeyed

theorem sound_lookupLease (h : Standing A s t) (hphase : t.phase = .lookupLease attempt k) :
    Sound A (lookupLease s i t attempt k) := by
  have hkeyed := h.thread.known hphase
  unfold lookupLease
  split
  · rename_i hleased
    exact (h.checkLease k.key).move ⟨hkeyed, h.leased hleased⟩
  · exact (h.checkLease k.key).move (afterMiss_ok attempt hkeyed)

theorem foundEntry_spec {key : GoString} (h : foundEntry s a key = some entry) :
    entry ∈ s.shared.entries ∧ entry.key = key := by
  unfold foundEntry at h
  rcases Option.filter_eq_some_iff.mp h with ⟨hbind, hkey⟩
  rcases Option.bind_eq_some_iff.mp hbind with ⟨n, _, hget⟩
  exact ⟨List.mem_of_getElem? hget, by simpa using hkey⟩

theorem sound_lookupGet (h : Standing A s t) (hphase : t.phase = .lookupGet attempt k leasedAt) :
    Sound A (lookupGet s i t a attempt k leasedAt) := by
  have hget := h.thread.known hphase
  rcases hget with ⟨hkeyed, hleased⟩
  unfold lookupGet
  cases hfound : foundEntry s a k.key with
  | none => exact h.move (afterMiss_ok attempt hkeyed)
  | some entry =>
    rcases foundEntry_spec hfound with ⟨hmem, hkey⟩
    exact h.move ⟨hkeyed, hleased, h.sound.parties.entries entry hmem, hkey⟩

theorem Standing.flagClear (h : Standing A s t) (hbroken : s.shared.broken = false) :
    FlagClear A s.stamp t.arrivedAt s.clock where
  after := h.thread.arrived
  passed := Nat.lt_succ_self _
  recovered := by
    intro hA n hn _
    rcases h.sound.memory.latched hA n hn with hraised | ⟨b, hb, hall, hstart⟩
    · rw [hbroken] at hraised
      cases hraised
    · exact ⟨b, hb, hall, hstart, h.sound.memory.bumps b hb⟩

theorem sound_lookupFlag (h : Standing A s t)
    (hphase : t.phase = .lookupFlag attempt k leasedAt entry) :
    Sound A (lookupFlag s i t attempt k leasedAt entry) := by
  have hflag := h.thread.known hphase
  rcases hflag with ⟨hkeyed, hleased, hentry, hkey⟩
  unfold lookupFlag
  cases hbroken : s.shared.broken with
  | true => exact h.move (afterMiss_ok attempt hkeyed)
  | false =>
    exact h.stamp.move ⟨hkeyed, hleased.later (later_stamp s),
      hentry.later (later_stamp s), hkey, h.flagClear hbroken⟩

theorem Standing.recheck (h : Standing A s t) (hkeyed : t.keyed ≠ none) (hp : p ≠ .arrived)
    (hphase : PhaseOK A (afterRecheck s t) { rechecked s t with phase := p } p) :
    Standing A (afterRecheck s t) { rechecked s t with phase := p } := by
  have hlater := h.thread.later (later_readGeneration s t.scope (classOf t.request.path))
  rcases Option.ne_none_iff_exists'.mp hkeyed with ⟨k, hk⟩
  have hcacheable := h.thread.cacheable (List.ne_nil_of_mem (h.keyedOK hk).read)
  refine ⟨h.sound.readGeneration _ _, ?_, hp⟩
  exact
    { hlater with
      reads := fun q hq => by
        rcases List.mem_cons.mp hq with rfl | hold
        · exact ⟨List.mem_cons_self, h.thread.arrived, rfl⟩
        · exact hlater.reads q hold
      keyed := fun k hk =>
        { h.keyedOK hk with read := List.mem_cons_of_mem _ (h.keyedOK hk).read }
      classes := fun k hk q hq => by
        rcases List.mem_cons.mp hq with rfl | hold
        · exact Or.inr rfl
        · exact h.thread.classes k hk q hold
      cacheable := fun _ => hcacheable
      attributed := fun _ => h.thread.attributed h.running
      written := fun hA _ => hlater.written hA h.running
      phase := hphase }

variable {flagAt : Moment}

theorem hit_ok (h : Standing A s t)
    (hphase : t.phase = .lookupGeneration attempt k leasedAt entry flagAt)
    (hclass : A.classes -> classOf t.request.path = classOf t.original.path)
    (hvalue : (Serving.recheck s t).value = k.read.value) :
    HitOK A (afterRecheck s t) ⟨s.clock + 1, t.original, t.arrivedAt, t.fingerprint, t.scope,
        Serving.recheck s t :: t.reads, leasedAt, flagAt, entry⟩ := by
  have hcheck := h.thread.known hphase
  rcases hcheck with ⟨hkeyed, hleased, hentry, hkey, hflag⟩
  have hlater := later_readGeneration s t.scope (classOf t.request.path)
  have hk := h.keyedOK hkeyed
  constructor
  case entry => exact hentry.later hlater
  case reads =>
    intro q hq
    rcases List.mem_cons.mp hq with rfl | hold
    · exact ⟨List.mem_cons_self, h.thread.arrived, rfl⟩
    · exact (h.thread.later hlater).reads q hold
  case keyed =>
    refine ⟨k, Serving.recheck s t, List.mem_cons_of_mem _ hk.read, hk.keyOf, hk.cls,
      hkey, ?_⟩
    constructor
    case mem => exact List.mem_cons_self
    case value => exact hvalue
    case flag => exact hflag.passed
    case latest =>
      intro q hq
      rcases List.mem_cons.mp hq with rfl | hold
      · exact Nat.le_refl _
      · exact Nat.le_of_lt (h.sound.memory.reads q (h.thread.reads q hold).left)
    case classes =>
      intro q hq
      rcases List.mem_cons.mp hq with rfl | hold
      · exact Or.inr rfl
      · exact h.thread.classes k hkeyed q hold
  case classes =>
    intro hA q hq
    rcases List.mem_cons.mp hq with rfl | hold
    · exact hclass hA
    rcases h.thread.classes k hkeyed q hold with rfl | hcls
    · exact hk.cls
    · exact hcls.trans (hclass hA)
  case leased => exact hleased.later hlater
  case leasedBefore => exact Nat.lt_succ_of_lt hleased.passed
  case flag => exact hflag.later hlater
  case token => exact h.thread.identified (h.thread.fingerprinted k hkeyed)
  case flagBefore => exact Nat.lt_succ_of_lt hflag.passed
  case written => exact fun hA => (h.thread.later hlater).written hA h.running

theorem sound_lookupGeneration (h : Standing A s t)
    (hphase : t.phase = .lookupGeneration attempt k leasedAt entry flagAt)
    (hclass : A.classes -> classOf t.request.path = classOf t.original.path) :
    Sound A (lookupGeneration s i t a attempt k leasedAt entry flagAt) := by
  have hcheck := h.thread.known hphase
  have hkeyed : t.keyed = some k := hcheck.left
  have hread : Standing A (afterRecheck s t) { rechecked s t with phase := .done } :=
    h.recheck (by simp [hkeyed]) (by simp) trivial
  unfold lookupGeneration
  split
  · split
    · rename_i hvalue
      have hhit := hit_ok h hphase hclass hvalue
      exact (hread.after (hread.sound.logHit hhit) (later_logHit _ _)).move trivial
    · exact hread.move (afterMiss_ok attempt hkeyed)
  · exact h.move (afterMiss_ok attempt hkeyed)

theorem sound_wait (h : Standing A s t) (hphase : t.phase = .waiting k) :
    Sound A (wait s i t a k) := by
  have hkeyed := h.thread.known hphase
  unfold wait
  split
  · exact h.move trivial
  · exact h.move hkeyed

theorem sound_acquire (h : Standing A s t) (k : Keyed) : Sound A (acquire s i t k) := by
  unfold acquire
  split
  · exact h.move trivial
  have hbegun := h.after (h.sound.beginFlight k.key)
    (later_of_history (Nat.le_refl _) rfl)
  exact hbegun.sound.setThread i
    (hbegun.thread.moved h.running true .proxying trivial)

/-!
## The origin
-/

theorem sound_send (h : Standing A s t) : Sound A (send s i t a) := by
  unfold send
  split
  · exact h.stamp.move ⟨Nat.lt_succ_self _, fun k hk => h.keyed_passed hk⟩
  · exact sound_finish h

theorem sound_receive (h : Standing A s t) (hphase : t.phase = .sent sentAt)
    : Sound A (receive s i t a sentAt) := by
  have hsent := h.thread.known hphase
  have hpassed : sentAt < (revokeRejectedAuthorization s t a.status).clock :=
    Nat.lt_of_lt_of_le hsent.passed (revokeRejected_clock a.status)
  unfold receive
  split
  · split
    · exact (h.revokeRejected a.status).move ⟨hpassed, hsent.keyed⟩
    rename_i hretires
    exact (h.revokeRejected a.status).move
      ⟨⟨hpassed, hsent.keyed⟩, fun hyes => absurd hyes hretires⟩
  · exact sound_finish h

theorem sound_bumpStateGeneration (h : Standing A s t) (hphase : t.phase = .retiring sentAt status)
    (hsat : A.unsaturated -> Unsaturated s.shared.generations) :
    Sound A (bumpStateGeneration s i t a sentAt status) := by
  have hsent := h.thread.known hphase
  unfold bumpStateGeneration
  split
  · have hbumped := h.after
      (h.sound.bumpGeneration (.scope t.scope) (Nat.le_refl _) hsat)
      (later_bumpGeneration s (.scope t.scope) s.clock)
    exact hbumped.move ⟨⟨Nat.lt_succ_of_lt hsent.passed, hsent.keyed⟩, fun _ =>
      Or.inl ⟨_, List.mem_cons_self, rfl, hsent.passed⟩⟩
  have hlater := later_bumpUnreported s (.scope t.scope) a.applied
  have hfailed := h.after (h.sound.bumpUnreported (.scope t.scope) a.applied) hlater
  exact hfailed.move ⟨Nat.lt_of_lt_of_le hsent.passed hlater.clock, hsent.keyed⟩

theorem sound_recordRetireFailure (h : Standing A s t)
    (hphase : t.phase = .retireFailed sentAt status) :
    Sound A (recordRetireFailure s i t sentAt status) := by
  have hsent := h.thread.known hphase
  have hraised := h.after h.sound.raiseFlag (later_raiseFlag s)
  exact hraised.move ⟨⟨Nat.lt_succ_of_lt hsent.passed, hsent.keyed⟩, fun _ =>
    Or.inr ⟨s.clock, List.mem_cons_self, hsent.passed⟩⟩

theorem retires_of_write (h : ThreadOK A s t) {n : Moment}
    (hwrite : IsWrite ⟨n, t.original, t.scope, sentAt, status⟩)
    (hplain : Plain t.original) (hscope : t.scope ≠ []) : retires t status = true := by
  rcases hwrite with ⟨hpath, hhead, hoptions, hstatus⟩
  have hrequest := h.request_of_plain hplain
  simp only [successful, Bool.and_eq_true, decide_eq_true_eq] at hstatus
  simp only [retires, hrequest, Bool.and_eq_true, bne_iff_ne, decide_eq_true_eq]
  exact ⟨⟨⟨⟨hhead, hoptions⟩, hstatus.left, Nat.lt_succ_of_le hstatus.right⟩, hpath⟩, hscope⟩

theorem sound_relayAnswer (h : Standing A s t) (hphase : t.phase = .relaying sentAt status) :
    Sound A (relayAnswer s i t a sentAt status) := by
  have hsent := h.thread.known hphase
  rcases hsent with ⟨hsent, hretired⟩
  have htold := h.relay sentAt status fun hwrite hplain hscope =>
    hretired (retires_of_write h.thread hwrite hplain hscope)
  unfold relayAnswer
  simp only
  cases hkeyed : t.keyed with
  | none => exact sound_finish htold
  | some k =>
    simp only
    split
    · exact htold.move ⟨hkeyed, hsent.keyed k hkeyed⟩
    · exact sound_finish htold

theorem sound_copyBody (h : Standing A s t) (hphase : t.phase = .copying sentAt k)
    : Sound A (copyBody s i t a sentAt k) := by
  have hfill := h.thread.known hphase
  unfold copyBody
  split
  · exact h.move ⟨hfill.keyed, hfill.before⟩
  · exact sound_finish h

theorem sound_publishFlag (h : Standing A s t) (hphase : t.phase = .copied sentAt k body) :
    Sound A (publishFlag s i t sentAt k body) := by
  have hfill := h.thread.known hphase
  unfold publishFlag
  split
  · exact sound_finish h
  · exact h.move ⟨hfill.keyed, hfill.before⟩

theorem sound_publishGeneration (h : Standing A s t)
    (hphase : t.phase = .publishing sentAt k body) :
    Sound A (publishGeneration s i t a sentAt k body) := by
  have hfill := h.thread.known hphase
  have hchecked : Standing A (afterRecheck s t) { rechecked s t with phase := t.phase } := by
    apply h.recheck (by simp [hfill.keyed]) h.running
    rw [hphase]
    exact ⟨hfill.keyed, hfill.before⟩
  unfold publishGeneration
  split
  · split
    · exact hchecked.move ⟨hfill.keyed, hfill.before⟩
    · exact sound_finish hchecked
  · exact sound_finish h

theorem sound_storeEntry (h : Standing A s t) (hphase : t.phase = .storing sentAt k body) :
    Sound A (storeEntry s i t a sentAt k body) := by
  have hfill := h.thread.known hphase
  have hk := h.keyedOK hfill.keyed
  have hentry : EntryOK s ⟨k.key, body, k.read, sentAt⟩ :=
    ⟨(h.thread.reads k.read hk.read).left, hk.keyOf, hfill.before⟩
  unfold storeEntry
  split
  · exact (h.after (h.sound.publish hentry) (later_publish s _)).move
      ⟨hfill.keyed, hfill.before⟩
  · exact sound_finish h

theorem sound_grantEntry (h : Standing A s t)
    (hgrant : A.grants -> FetchFresh s t.fingerprint sentAt) :
    Sound A (grantEntry s i t a sentAt k) :=
  sound_finish (h.grant a.order k.key sentAt hgrant)

theorem Standing.advance (h : Standing A s t)
    (hgrants : A.grants -> forall sentAt, grantedFetch t.phase = some sentAt ->
      FetchFresh s t.fingerprint sentAt)
    (hsat : A.unsaturated -> Unsaturated s.shared.generations)
    (hclass : A.classes -> rechecks t.phase = true ->
      classOf t.request.path = classOf t.original.path) :
    Sound A (advance cfg s i t a) := by
  unfold Serving.advance
  cases hphase : t.phase with
  | arrived => exact absurd hphase h.running
  | resolved => exact sound_observeGeneration h hphase
  | keyed => exact sound_observeFlag h hphase
  | routing => exact sound_route h hphase
  | decision => exact sound_handleDecision h hphase
  | decisionSent sentAt => exact sound_relayDecision h hphase
  | artwork => exact sound_artworkLease h hphase
  | artworkGet leasedAt => exact sound_artworkServe h hphase
  | artworkFetch => exact sound_artworkSend h hphase
  | artworkSent sentAt => exact sound_artworkReceive h hphase
  | artworkReceived sentAt status => exact sound_artworkStore h hphase
  | artworkGranting sentAt =>
    exact sound_artworkGrant h hphase fun hA =>
      hgrants hA sentAt (by rw [hphase]; rfl)
  | artworkRelaying sentAt status => exact sound_artworkRelay h hphase
  | lookup attempt => exact sound_lookupStart h attempt
  | lookupLease attempt k => exact sound_lookupLease h hphase
  | lookupGet attempt k leasedAt => exact sound_lookupGet h hphase
  | lookupFlag attempt k leasedAt entry => exact sound_lookupFlag h hphase
  | lookupGeneration attempt k leasedAt entry flagAt =>
    exact sound_lookupGeneration h hphase fun hA => hclass hA (by rw [hphase]; rfl)
  | waiting k => exact sound_wait h hphase
  | acquiring k => exact sound_acquire h k
  | proxying => exact sound_send h
  | sent sentAt => exact sound_receive h hphase
  | retiring sentAt status =>
    exact sound_bumpStateGeneration h hphase hsat
  | retireFailed sentAt status => exact sound_recordRetireFailure h hphase
  | relaying sentAt status => exact sound_relayAnswer h hphase
  | copying sentAt k => exact sound_copyBody h hphase
  | copied sentAt k body => exact sound_publishFlag h hphase
  | publishing sentAt k body => exact sound_publishGeneration h hphase
  | storing sentAt k body => exact sound_storeEntry h hphase
  | granting sentAt k =>
    exact sound_grantEntry h fun hA =>
      hgrants hA sentAt (by rw [hphase]; rfl)
  | done => exact h.sound

theorem sound_advance (hs : Sound A s) (hlookup : s.threads.lookup i = some t)
    (hrespects : Respects A cfg s (.advance i a)) : Sound A (advance cfg s i t a) := by
  have ht := hs.parties.threads i t hlookup
  by_cases hphase : t.phase = .arrived
  · have hadvance : advance cfg s i t a = observeToken cfg s i t a := by rw [advance, hphase]
    rw [hadvance]
    exact sound_observeToken hs ht hphase fun hA => hrespects.writes hA t hlookup hphase
  have hstanding : Standing A s t := ⟨hs, ht, hphase⟩
  exact hstanding.advance (fun hA => hrespects.grants hA t hlookup) hrespects.unsaturated
    fun hA => hrespects.classes hA t hlookup

theorem sound_arrive (hs : Sound A s) (r : Net.Request)
    (hplain : A.writes -> isStateWrite r.path = true -> Plain r) :
    Sound A (s.stamp.setThread i (arrival s r)) := by
  apply hs.stamp.setThread i
  constructor
  case arrived => exact Nat.lt_succ_self _
  case reads => exact fun q hq => absurd hq (by simp [arrival])
  case keyed => exact fun k hk => absurd hk (by simp [arrival])
  case classes => exact fun k hk => absurd hk (by simp [arrival])
  case cacheable => exact fun hne => absurd rfl hne
  case substituted => exact Or.inl rfl
  case identified => exact fun hne => absurd rfl hne
  case fingerprinted => exact fun k hk => absurd hk (by simp [arrival])
  case attributed => exact fun hne => absurd rfl hne
  case plain => exact hplain
  case written => exact fun _ hne => absurd rfl hne
  case phase => exact ⟨rfl, rfl, rfl, rfl, rfl⟩

end ReplxEdge.Serving
