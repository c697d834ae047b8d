import ReplxEdge.Serving.Traces

/-!
# Requests are explained

One lemma for each point of a request: what the journal says there, with what is
noted on the way, is enough for the next point.
-/

namespace ReplxEdge.Serving

open Foundation
open Net
open Cache
open Identity
open Gateway
open Trace

variable {k : Keyed} {body : GoString} {leasedAt sentAt : Moment} {status : Nat}
variable {attempt : Attempt}

def noAssumptions : Assumptions :=
  ⟨False, False, False, False, False⟩

structure Walking (cfg : Config) (s : State) (log : List Record) (i : Nat) (t : Thread) :
    Prop where
  thread : ThreadOK noAssumptions s t
  traced : Traced cfg log i t
  memory : MemoryTraced log s
  justified : Throughout (Justified cfg) log

/-- A request passed a point: the journal explains it, the stores and the new notes. -/
structure Passed (cfg : Config) (s : State) (log : List Record) (i : Nat) (ns : List Note)
    (s' : State) : Prop where
  others : forall j, j ≠ i -> s'.threads.lookup j = s.threads.lookup j
  thread : exists t', s'.threads.lookup i = some t' ∧
    Traced cfg (journal s.shared.now ns log) i t'
  jobs : s'.jobs = s.jobs
  now : s'.shared.now = s.shared.now
  memory : MemoryTraced (journal s.shared.now ns log) s'
  justified : Throughout (Justified cfg) (journal s.shared.now ns log)

section Passing

variable {cfg : Config} {s s' : State} {log : List Record} {i : Nat} {t u : Thread}
variable {a : Answer} {ns : List Note} {p : Phase}

/-!
## A request that goes on
-/

theorem Walking.phase (h : Walking cfg s log i t) (hphase : t.phase = p) :
    PhaseTraced cfg log i t p :=
  hphase ▸ h.traced.phase

theorem Walking.goes (h : Walking cfg s log i t) (ha : Aside s ns s')
    (hu : Traced cfg (journal s.shared.now ns log) i u)
    (hj : Throughout (Justified cfg) (journal s.shared.now ns log)) :
    Passed cfg s log i ns (s'.setThread i u) where
  others := by
    intro j hj
    change (s'.threads.set i u).lookup j = _
    rw [Table.lookup_set, if_neg hj, ha.threads]
  thread := by
    refine ⟨u, ?_, hu⟩
    change (s'.threads.set i u).lookup i = _
    rw [Table.lookup_set, if_pos rfl]
  jobs := ha.jobs
  now := ha.now
  memory :=
    { leases := (h.memory.aside ha).leases
      entries := (h.memory.aside ha).entries
      artwork := (h.memory.aside ha).artwork }
  justified := hj

theorem Known.moved (h : Known cfg log i t) (r : Net.Request) (reads : List GenRead)
    (flight : Bool) (p : Phase) :
    Known cfg log i { t with request := r, reads := reads, flight := flight, phase := p } :=
  ⟨h.resolved, h.only, h.keyed⟩

theorem Pictured.moved (h : Pictured t) (p : Phase) : Pictured { t with phase := p } :=
  ⟨h.request, h.valid, h.fingerprint⟩

theorem Walking.moveNoted (h : Walking cfg s log i t) (ha : Aside s ns s')
    (hns : forall n, n ∈ ns -> forall token scope invalid, n ≠ .resolved i token scope invalid)
    (hj : Throughout (Justified cfg) (journal s.shared.now ns log))
    (hp : PhaseTraced cfg (journal s.shared.now ns log) i { t with phase := p } p) :
    Passed cfg s log i ns (move s' i t p) :=
  h.goes ha ⟨(h.traced.known.journal hns).moved _ _ _ _, hp⟩ hj

theorem Walking.move (h : Walking cfg s log i t) (hsame : SameStores s s')
    (hp : PhaseTraced cfg log i { t with phase := p } p) :
    Passed cfg s log i [] (move s' i t p) :=
  h.goes (hsame.aside (by simp)) ⟨h.traced.known.moved _ _ _ _, hp⟩ h.justified

theorem Walking.finish (h : Walking cfg s log i t) (ha : Aside s ns s')
    (hu : Known cfg (journal s.shared.now ns log) i u)
    (hj : Throughout (Justified cfg) (journal s.shared.now ns log)) :
    Passed cfg s log i ns (finish s' i u) := by
  unfold Serving.finish
  cases u.keyed with
  | none => exact h.goes ha ⟨hu.moved _ _ _ _, trivial⟩ hj
  | some k =>
    cases u.flight with
    | false => exact h.goes ha ⟨hu.moved _ _ _ _, trivial⟩ hj
    | true =>
      have hended : SameStores s' (s'.endFlight k.key) :=
        ⟨rfl, rfl, rfl, rfl, rfl, rfl⟩
      exact h.goes (ha.then hended) ⟨hu.moved _ _ _ _, trivial⟩ hj

theorem Walking.finishQuietly (h : Walking cfg s log i t) (hsame : SameStores s s') :
    Passed cfg s log i [] (Serving.finish s' i t) := by
  have ha : Aside s [] s' := hsame.aside (by simp)
  exact h.finish ha h.traced.known h.justified

def Note.plain : Note -> Bool
  | .stored _ _ _ _ => false
  | .granted _ _ _ => false
  | .served _ _ _ _ => false
  | _ => true

theorem Walking.plainly (h : Walking cfg s log i t) (hns : forall n, n ∈ ns -> n.plain = true) :
    Throughout (Justified cfg) (journal s.shared.now ns log) := by
  refine Throughout.append ?_ h.justified
  intro past r hr
  have hplain := hns r.note (note_of_mem_journal hr).right
  unfold Justified
  split
  · rename_i heq
    rw [heq] at hplain
    cases hplain
  · rename_i heq
    rw [heq] at hplain
    cases hplain
  · rename_i heq
    rw [heq] at hplain
    cases hplain
  · trivial

variable {n : Note}

theorem Walking.plainNote (h : Walking cfg s log i t) (hn : n.plain = true) :
    Throughout (Justified cfg) (journal s.shared.now [n] log) := by
  refine h.plainly fun other hother => ?_
  rw [List.mem_singleton.mp hother]
  exact hn

/-!
## What is known of a request
-/

theorem Known.notRejected (h : Known cfg log i t) (hf : t.fingerprint ≠ [])
    (hvalid : t.invalid = false) : NotRejected cfg log i t.fingerprint where
  resolved := by
    rcases h.resolved hf with ⟨hresolved, hfingerprint⟩
    rw [hvalid] at hresolved
    exact ⟨_, _, hresolved, hfingerprint⟩
  never := by
    intro token scope hnoted
    exact absurd (h.only token scope true hnoted) (by simp [hvalid])

theorem Known.tokenOf (h : Known cfg log i t) (hf : t.fingerprint ≠ [])
    (hvalid : t.invalid = false) : TokenOf log (extractToken t.original) t.scope :=
  ⟨i, hvalid ▸ (h.resolved hf).left⟩

theorem pictured_hasScope (t : Thread) : (pictured t).HasScope t.scope :=
  ⟨requestKeyParts t.scope .artwork t.request 0 0, requestKeyGen_eq_text _ _ _ _ _, rfl⟩

structure KeyedTraced (t : Thread) (k : Keyed) : Prop where
  fingerprint : t.fingerprint ≠ []
  valid : t.invalid = false
  scope : (Resource.response k.key).HasScope t.scope

theorem Walking.keyed (h : Walking cfg s log i t) (hk : t.keyed = some k) :
    KeyedTraced t k where
  fingerprint := h.thread.fingerprinted k hk
  valid := h.traced.known.keyed (by simp [hk])
  scope := by
    have hkeyed := h.thread.keyed k hk
    rcases hkeyed.keyOf with ⟨parts, htext, hscope, _⟩
    exact ⟨parts, htext, hscope.trans (h.thread.reads k.read hkeyed.read).right.right⟩

variable {x : Resource}

theorem Known.fetched (h : Known cfg log i t) (hf : t.fingerprint ≠ [])
    (hvalid : t.invalid = false) (hscope : x.HasScope t.scope)
    {token : GoString} (hanswered : Noted log (.answered (.request i) 200))
    (hread : Noted log (.read (.request i) token body))
    (hstored : Noted log (.stored (.request i) x body token)) :
    Fetched cfg log i t.fingerprint x where
  identified := by
    rcases h.resolved hf with ⟨hresolved, hfingerprint⟩
    exact ⟨_, _, hvalid ▸ hresolved, hfingerprint, hscope⟩
  answered := hanswered
  kept := ⟨token, body, hread, hstored⟩

/-!
## Identity, key and route
-/

theorem known_identified (hfresh : Unknown log i) (hnone : t.keyed = none) (now : Instant)
    (htoken : extractToken t.original ≠ [])
    (hnoted : .resolved i (extractToken t.original) (identified cfg t a).scope
      (identified cfg t a).invalid ∈ ns)
    (honly : forall token scope invalid, .resolved i token scope invalid ∈ ns ->
      invalid = (identified cfg t a).invalid) :
    Known cfg (journal now ns log) i (identified cfg t a) where
  resolved := by
    intro _
    have horiginal : (identified cfg t a).original = t.original := by
      rw [identified, if_neg htoken]
    refine ⟨?_, ?_⟩
    · rw [horiginal]
      exact noted_journal.mpr (Or.inl hnoted)
    · rw [horiginal, identified, if_neg htoken]
  only := by
    intro token scope invalid h
    rcases noted_journal.mp h with hnew | hold
    · exact honly token scope invalid hnew
    · exact absurd hold (hfresh token scope invalid)
  keyed := by
    intro hne
    rw [identified, if_neg htoken] at hne
    exact absurd hnone hne

theorem identified_phase : (identified cfg t a).phase = .resolved := by
  unfold identified
  split
  all_goals rfl

theorem traced_observeToken (h : Walking cfg s log i t) (hphase : t.phase = .arrived) :
    Passed cfg s log i (noteToken cfg i t a) (observeToken cfg s i t a) := by
  have hfresh : Unknown log i := h.phase hphase
  have hknown := h.thread.known hphase
  have hnone : t.keyed = none := hknown.right.left
  unfold observeToken noteToken
  by_cases htoken : extractToken t.original = []
  · have hseen : identified cfg t a = { t with phase := .resolved } := by
      rw [identified, if_pos htoken]
    simp only [htoken, hseen, ne_eq, not_true_eq_false, and_false, if_false, if_true]
    exact h.move (SameStores.refl s) trivial
  have htraced : forall ns : List Note,
      Known cfg (journal s.shared.now ns log) i (identified cfg t a) ->
      Traced cfg (journal s.shared.now ns log) i (identified cfg t a) := by
    intro ns hknown
    refine ⟨hknown, ?_⟩
    rw [identified_phase]
    trivial
  simp only [htoken, ne_eq, not_false_eq_true, and_true, if_false]
  split
  · refine h.goes (aside_revoke s _ false ?_) (htraced _ ?_) (h.plainly ?_)
    · intro other hother
      simpa using hother
    · refine known_identified hfresh hnone _ htoken (by simp) ?_
      intro token scope invalid hnew
      simp only [List.mem_cons, Note.resolved.injEq, List.not_mem_nil, or_false,
        reduceCtorEq, false_or] at hnew
      exact hnew.right.right.right
    intro n hn
    rcases List.mem_cons.mp hn with rfl | hn
    · rfl
    rw [List.mem_singleton.mp hn]
    rfl
  refine h.goes ((SameStores.refl s).aside (by simp)) (htraced _ ?_) (h.plainNote rfl)
  refine known_identified hfresh hnone _ htoken (by simp) ?_
  intro token scope invalid hnew
  simp only [List.mem_singleton, Note.resolved.injEq] at hnew
  exact hnew.right.right.right

theorem admitted_valid (h : admitted t = true) : t.invalid = false := by
  unfold admitted at h
  simp only [Bool.and_eq_true, Bool.not_eq_true'] at h
  exact h.left.right

theorem traced_observeGeneration (h : Walking cfg s log i t) :
    Passed cfg s log i [] (observeGeneration s i t a) := by
  have hsame : SameStores s (s.readGeneration t.scope (classOf t.original.path)) :=
    ⟨rfl, rfl, rfl, rfl, rfl, rfl⟩
  unfold observeGeneration
  split
  · rename_i hadmitted
    simp only [Bool.and_eq_true] at hadmitted
    refine h.goes (hsame.aside (by simp)) ⟨?_, trivial⟩ h.justified
    exact ⟨h.traced.known.resolved, h.traced.known.only, fun _ => admitted_valid hadmitted.left⟩
  · exact h.move (SameStores.refl s) trivial

theorem traced_observeFlag (h : Walking cfg s log i t) :
    Passed cfg s log i [] (observeFlag s i t) := by
  refine h.goes ((SameStores.refl s).aside (by simp)) ⟨?_, trivial⟩ h.justified
  refine ⟨h.traced.known.resolved, h.traced.known.only, fun hne => h.traced.known.keyed ?_⟩
  intro hnone
  apply hne
  simp [hnone]

theorem artworkAdmitted_pictured (hrequest : t.request = t.original)
    (h : artworkAdmitted cfg t = true) : Pictured t := by
  unfold artworkAdmitted at h
  simp only [Bool.and_eq_true, Bool.not_eq_true', bne_iff_ne] at h
  exact ⟨hrequest, h.left.right, h.left.left.left.left.left.left.left.left.left.left.left.left⟩

theorem controlTail_traced (hrequest : t.request = t.original) :
    PhaseTraced cfg log i t (controlTail cfg t) := by
  unfold controlTail
  split
  · rename_i hadmitted
    exact artworkAdmitted_pictured hrequest hadmitted
  · trivial

theorem controlRoute_traced (hrequest : t.request = t.original) :
    PhaseTraced cfg log i t (controlRoute cfg t) := by
  unfold controlRoute
  split
  · trivial
  split
  · trivial
  · exact controlTail_traced hrequest

theorem mediaRoute_traced : PhaseTraced cfg log i t (mediaRoute t) := by
  unfold mediaRoute
  split
  · trivial
  split
  · trivial
  · trivial

theorem traced_directMedia (h : Walking cfg s log i t) :
    Passed cfg s log i [] (directMedia s i t a) := by
  have hsame := SameStores.refl s
  unfold directMedia
  split
  · cases a.part with
    | deny => exact h.move hsame trivial
    | allow => exact h.move hsame mediaRoute_traced
    | substitute key =>
      exact h.goes (hsame.aside (by simp))
        ⟨h.traced.known.moved _ _ _ _, mediaRoute_traced⟩ h.justified
  · exact h.move hsame mediaRoute_traced

theorem traced_route (h : Walking cfg s log i t) (hphase : t.phase = .routing) :
    Passed cfg s log i [] (route cfg s i t a) := by
  have hrequest : t.request = t.original := (h.thread.known hphase).left
  have hsame := SameStores.refl s
  unfold route
  split
  · exact h.move hsame trivial
  cases classify t.request.path with
  | denySessions => exact h.move hsame trivial
  | denyUnknownMedia =>
    cases cfg.mode with
    | cloudflareTunnel => exact h.move hsame trivial
    | direct => exact h.move hsame (controlRoute_traced hrequest)
  | mediaRedirect =>
    cases cfg.mode with
    | cloudflareTunnel => exact h.move hsame trivial
    | direct => exact traced_directMedia h
  | playQueueObserve | control => exact h.move hsame (controlRoute_traced hrequest)

theorem traced_handleDecision (h : Walking cfg s log i t) (hphase : t.phase = .decision) :
    Passed cfg s log i [] (handleDecision cfg s i t a) := by
  have hrequest : t.request = t.original := (h.thread.known hphase).right
  unfold handleDecision
  cases a.decision with
  | refuse => exact h.move (SameStores.refl s) trivial
  | transparent => exact h.move (SameStores.refl s) (controlTail_traced hrequest)
  | forward => exact h.move ⟨rfl, rfl, rfl, rfl, rfl, rfl⟩ trivial

theorem traced_relayDecision (h : Walking cfg s log i t) (sentAt : Moment) :
    Passed cfg s log i [] (relayDecision s i t a sentAt) := by
  unfold relayDecision
  split
  · exact h.move ⟨rfl, rfl, rfl, rfl, rfl, rfl⟩ trivial
  · exact h.move (SameStores.refl s) trivial

/-!
## Lease checks
-/

theorem MemoryTraced.checked (h : MemoryTraced log s) {f : GoString}
    (hyes : s.leased f x.key = true) (i : Nat) :
    CheckedSince (journal s.shared.now [.checked i f x (s.leased f x.key)] log) i f x := by
  rw [hyes]
  exact Since.here ⟨rfl, h.leased hyes⟩

theorem Walking.check (h : Walking cfg s log i t) (x : Resource)
    (hp : PhaseTraced cfg (journal s.shared.now
        [.checked i t.fingerprint x (s.leased t.fingerprint x.key)] log) i
      { t with phase := p } p) :
    Passed cfg s log i [.checked i t.fingerprint x (s.leased t.fingerprint x.key)]
      (Serving.move (s.checkLease t.fingerprint x.key) i t p) := by
  refine h.moveNoted (aside_checkLease s _ _ (by simp)) ?_ (h.plainNote rfl) hp
  intro n hn token scope invalid heq
  rw [List.mem_singleton.mp hn] at heq
  cases heq

theorem afterMiss_traced (attempt : Attempt) (k : Keyed) :
    PhaseTraced cfg log i t (afterMiss attempt k) := by
  cases attempt with
  | first | waited | lost => trivial

theorem traced_lookupLease (h : Walking cfg s log i t) (attempt : Attempt) (k : Keyed) :
    Passed cfg s log i [.checked i t.fingerprint (.response k.key) (s.leased t.fingerprint k.key)]
      (lookupLease s i t attempt k) := by
  unfold lookupLease
  split
  · rename_i hyes
    exact h.check (.response k.key)
      (h.memory.checked (x := .response k.key) hyes i)
  · exact h.check (.response k.key) (afterMiss_traced attempt k)

/-!
## Artwork
-/

theorem traced_artworkDeclined (h : Walking cfg s log i t) :
    Passed cfg s log i [] (artworkDeclined s i t) :=
  h.move (SameStores.refl s) trivial

theorem traced_artworkLease (h : Walking cfg s log i t) (hphase : t.phase = .artwork) :
    Passed cfg s log i (noteArtworkLease s i t a) (artworkLease s i t a) := by
  have hpictured : Pictured t := h.phase hphase
  unfold artworkLease noteArtworkLease
  split
  · simp only
    split
    · rename_i hyes
      exact h.check (pictured t)
        ⟨hpictured.moved _, h.memory.checked (x := pictured t) hyes i⟩
    · exact h.check (pictured t) (hpictured.moved _)
  · exact traced_artworkDeclined h

theorem foundArtwork_spec {key : GoString} {entry : ArtworkEntry}
    (h : foundArtwork s a key = some entry) :
    entry ∈ s.shared.artwork ∧ entry.key = key := by
  unfold foundArtwork at h
  rcases Option.filter_eq_some_iff.mp h with ⟨hbind, hkey⟩
  rcases Option.bind_eq_some_iff.mp hbind with ⟨n, _, hget⟩
  exact ⟨List.mem_of_getElem? hget, by simpa using hkey⟩

theorem Walking.serves (h : Walking cfg s log i t) (hf : t.fingerprint ≠ [])
    (hvalid : t.invalid = false) {y : Resource} (hchecked : CheckedSince log i t.fingerprint x)
    (hsame : SameDigest y x) (hbody : Published log y body) :
    Throughout (Justified cfg) (journal s.shared.now [.served i t.fingerprint x body] log) :=
  ⟨⟨h.traced.known.notRejected hf hvalid, hchecked, y, hsame, hbody⟩, h.justified⟩

theorem traced_artworkServe (h : Walking cfg s log i t) (hphase : t.phase = .artworkGet leasedAt) :
    Passed cfg s log i (noteArtworkHit s i t a) (artworkServe s i t a leasedAt) := by
  have hget : Pictured t ∧ CheckedSince log i t.fingerprint (pictured t) := h.phase hphase
  rcases hget with ⟨hpictured, hchecked⟩
  have hartwork : artworkCacheKey t.scope t.request = (pictured t).key := rfl
  unfold artworkServe noteArtworkHit
  rw [hartwork]
  cases hfound : foundArtwork s a (pictured t).key with
  | none => exact h.move (SameStores.refl s) (hpictured.moved _)
  | some entry =>
    rcases foundArtwork_spec hfound with ⟨hmem, hkey⟩
    rcases h.memory.artwork entry hmem with ⟨text, htext, hbody⟩
    have hdigest : SameDigest (.artwork text) (pictured t) := by
      unfold SameDigest
      rw [← htext, hkey]
    have hsame : SameStores s (s.logArtworkHit
        ⟨s.clock, t.original, t.arrivedAt, t.fingerprint, t.reads, leasedAt, entry⟩) :=
      ⟨rfl, rfl, rfl, rfl, rfl, rfl⟩
    refine h.moveNoted (hsame.aside (by simp)) (by simp) ?_ trivial
    exact h.serves hpictured.fingerprint hpictured.valid hchecked hdigest hbody

theorem traced_artworkSend (h : Walking cfg s log i t) (hphase : t.phase = .artworkFetch) :
    Passed cfg s log i [] (artworkSend s i t a) := by
  have hpictured : Pictured t := h.phase hphase
  unfold artworkSend
  split
  · exact h.move ⟨rfl, rfl, rfl, rfl, rfl, rfl⟩ (hpictured.moved _)
  · exact traced_artworkDeclined h

theorem aside_answer (hok : a.ok = true) :
    Aside s (noteAnswer i t a) (revokeRejectedAuthorization s t a.status) := by
  unfold noteAnswer revokeRejectedAuthorization
  rw [if_pos hok]
  split
  · refine aside_revoke s _ true ?_
    intro other hother
    simpa using hother
  · exact (SameStores.refl s).aside (by simp)

theorem mem_noteAnswer (h : n ∈ noteAnswer i t a) :
    n = .revoked t.fingerprint ∨ n = .answered (.request i) a.status := by
  unfold noteAnswer at h
  split at h
  · split at h
    · simpa using h
    · exact Or.inr (List.mem_singleton.mp h)
  · cases h

theorem answered_mem (hok : a.ok = true) :
    .answered (.request i) a.status ∈ noteAnswer i t a := by
  unfold noteAnswer
  rw [if_pos hok]
  split
  all_goals simp

theorem noteAnswer_failed (hok : a.ok = false) : noteAnswer i t a = [] := by
  simp [noteAnswer, hok]

theorem Walking.answer (h : Walking cfg s log i t) (hok : a.ok = true)
    (hp : Noted (journal s.shared.now (noteAnswer i t a) log) (.answered (.request i) a.status) ->
      PhaseTraced cfg (journal s.shared.now (noteAnswer i t a) log) i
        { t with phase := p } p) :
    Passed cfg s log i (noteAnswer i t a)
      (Serving.move (revokeRejectedAuthorization s t a.status) i t p) := by
  refine h.moveNoted (aside_answer hok) ?_ (h.plainly ?_)
    (hp (noted_journal.mpr (Or.inl (answered_mem hok))))
  · intro n hn token scope invalid heq
    rcases mem_noteAnswer hn with hrevoked | hanswered
    · cases hrevoked.symm.trans heq
    · cases hanswered.symm.trans heq
  intro n hn
  rcases mem_noteAnswer hn with rfl | rfl
  · rfl
  · rfl

theorem traced_artworkReceive (h : Walking cfg s log i t) (hphase : t.phase = .artworkSent sentAt) :
    Passed cfg s log i (noteAnswer i t a) (artworkReceive s i t a sentAt) := by
  have hpictured : Pictured t := h.phase hphase
  unfold artworkReceive
  cases hok : a.ok with
  | true =>
    simp only [if_true]
    exact h.answer hok fun hanswered => ⟨hpictured.moved _, hanswered⟩
  | false =>
    rw [noteAnswer_failed hok]
    exact traced_artworkDeclined h

theorem traced_artworkStore (h : Walking cfg s log i t)
    (hphase : t.phase = .artworkReceived sentAt status) :
    Passed cfg s log i (noteArtworkStore i t a status) (artworkStore s i t a sentAt status) := by
  have hreceived : Pictured t ∧ Noted log (.answered (.request i) status) :=
    h.phase hphase
  rcases hreceived with ⟨hpictured, hanswered⟩
  unfold artworkStore noteArtworkStore
  split
  · simp only
    split
    · rename_i hcommit
      simp only [Bool.and_eq_true, beq_iff_eq] at hcommit
      have htoken : TokenOf log (extractToken t.request) t.scope := by
        rw [hpictured.request]
        exact h.traced.known.tokenOf hpictured.fingerprint hpictured.valid
      refine h.moveNoted (aside_publishArtwork s _ a.body List.mem_cons_self (by simp))
        (by simp) ⟨⟨?_, t.scope, pictured_hasScope t, ?_⟩, trivial, h.justified⟩ ?_
      · exact List.mem_cons_self
      · exact htoken.journal s.shared.now [.read _ _ _]
      refine (h.traced.known.journal (by simp)).fetched hpictured.fingerprint hpictured.valid
        (pictured_hasScope t) ?_ (noted_journal.mpr (Or.inl ?_))
        (noted_journal.mpr (Or.inl List.mem_cons_self))
      · rw [← hcommit.left]
        exact hanswered.journal _ _
      · exact List.mem_cons_of_mem _ (List.mem_singleton_self _)
    exact h.moveNoted ((SameStores.refl s).aside (by simp)) (by simp) (h.plainNote rfl)
      trivial
  · exact traced_artworkDeclined h

theorem traced_artworkGrant (h : Walking cfg s log i t)
    (hphase : t.phase = .artworkGranting sentAt) :
    Passed cfg s log i [.granted i t.fingerprint (pictured t)] (artworkGrant s i t a sentAt) := by
  have hfetched : Fetched cfg log i t.fingerprint (pictured t) := h.phase hphase
  exact h.moveNoted (aside_grant s a.order i t.fingerprint (pictured t) sentAt) (by simp)
    ⟨hfetched, h.justified⟩ trivial

/-!
## The response store
-/

theorem traced_lookupStart (h : Walking cfg s log i t) (attempt : Attempt) :
    Passed cfg s log i [] (lookupStart s i t attempt) := by
  unfold lookupStart
  split
  · exact h.move (SameStores.refl s) trivial
  split
  · exact h.move (SameStores.refl s) (afterMiss_traced attempt _)
  · exact h.move (SameStores.refl s) trivial

theorem traced_lookupGet (h : Walking cfg s log i t)
    (hphase : t.phase = .lookupGet attempt k leasedAt) :
    Passed cfg s log i [] (lookupGet s i t a attempt k leasedAt) := by
  have hchecked : CheckedSince log i t.fingerprint (.response k.key) :=
    h.phase hphase
  unfold lookupGet
  cases hfound : foundEntry s a k.key with
  | none => exact h.move (SameStores.refl s) (afterMiss_traced attempt k)
  | some entry =>
    rcases foundEntry_spec hfound with ⟨hmem, hkey⟩
    have hbody := h.memory.entries entry hmem
    rw [hkey] at hbody
    exact h.move (SameStores.refl s) ⟨hchecked, hbody⟩

variable {entry : Entry}

theorem traced_lookupFlag (h : Walking cfg s log i t)
    (hphase : t.phase = .lookupFlag attempt k leasedAt entry) :
    Passed cfg s log i [] (lookupFlag s i t attempt k leasedAt entry) := by
  have hknown : CheckedSince log i t.fingerprint (.response k.key) ∧
      Published log (.response k.key) entry.body := h.phase hphase
  unfold lookupFlag
  split
  · exact h.move (SameStores.refl s) (afterMiss_traced attempt k)
  · exact h.move ⟨rfl, rfl, rfl, rfl, rfl, rfl⟩ hknown

/-- A read of the generations on the way changes nothing that the journal speaks of. -/
theorem Walking.moveRechecked (h : Walking cfg s log i t)
    (hp : PhaseTraced cfg log i { rechecked s t with phase := p } p) :
    Passed cfg s log i [] (Serving.move (afterRecheck s t) i (rechecked s t) p) := by
  have hsame : SameStores s (afterRecheck s t) := ⟨rfl, rfl, rfl, rfl, rfl, rfl⟩
  exact h.goes (hsame.aside (by simp)) ⟨h.traced.known.moved _ _ _ _, hp⟩ h.justified

theorem traced_lookupGeneration (h : Walking cfg s log i t) {flagAt : Moment}
    (hphase : t.phase = .lookupGeneration attempt k leasedAt entry flagAt) :
    Passed cfg s log i (noteHit s i t a k entry)
    (lookupGeneration s i t a attempt k leasedAt entry flagAt) := by
  have hknown : CheckedSince log i t.fingerprint (.response k.key) ∧
      Published log (.response k.key) entry.body := h.phase hphase
  have hkeyed := h.keyed (h.thread.known hphase).left
  unfold lookupGeneration noteHit
  cases hok : a.ok with
  | false =>
    simp only [Bool.false_and, Bool.false_eq_true, if_false]
    exact h.move (SameStores.refl s) (afterMiss_traced attempt k)
  | true =>
    simp only [Bool.true_and, decide_eq_true_eq, if_true]
    split
    · have hsame : SameStores s ((afterRecheck s t).logHit
          ⟨s.clock + 1, t.original, t.arrivedAt, t.fingerprint, t.scope,
            recheck s t :: t.reads, leasedAt, flagAt, entry⟩) :=
        ⟨rfl, rfl, rfl, rfl, rfl, rfl⟩
      have hserved := h.serves hkeyed.fingerprint hkeyed.valid hknown.left rfl hknown.right
      exact h.goes (hsame.aside (by simp))
        ⟨(h.traced.known.journal (by simp)).moved _ _ _ _, trivial⟩ hserved
    · exact h.moveRechecked (afterMiss_traced attempt k)

theorem traced_wait (h : Walking cfg s log i t) (k : Keyed) :
    Passed cfg s log i [] (wait s i t a k) := by
  unfold wait
  split
  all_goals exact h.move (SameStores.refl s) trivial

theorem traced_acquire (h : Walking cfg s log i t) (k : Keyed) :
    Passed cfg s log i [] (acquire s i t k) := by
  unfold acquire
  split
  · exact h.move (SameStores.refl s) trivial
  have hsame : SameStores s (s.beginFlight k.key) := ⟨rfl, rfl, rfl, rfl, rfl, rfl⟩
  exact h.goes (hsame.aside (by simp)) ⟨h.traced.known.moved _ _ _ _, trivial⟩ h.justified

/-!
## The origin
-/

theorem traced_send (h : Walking cfg s log i t) : Passed cfg s log i [] (send s i t a) := by
  unfold send
  split
  · exact h.move ⟨rfl, rfl, rfl, rfl, rfl, rfl⟩ trivial
  · exact h.finishQuietly (SameStores.refl s)

theorem traced_receive (h : Walking cfg s log i t) (sentAt : Moment) :
    Passed cfg s log i (noteAnswer i t a) (receive s i t a sentAt) := by
  unfold receive
  cases hok : a.ok with
  | true =>
    simp only [if_true]
    split
    all_goals exact h.answer hok fun hanswered => hanswered
  | false =>
    rw [noteAnswer_failed hok]
    exact h.finishQuietly (SameStores.refl s)

theorem traced_bumpStateGeneration (h : Walking cfg s log i t)
    (hphase : t.phase = .retiring sentAt status) :
    Passed cfg s log i [] (bumpStateGeneration s i t a sentAt status) := by
  have hanswered : Noted log (.answered (.request i) status) := h.phase hphase
  unfold bumpStateGeneration
  split
  · exact h.move ⟨rfl, rfl, rfl, rfl, rfl, rfl⟩ hanswered
  cases happlied : a.applied with
  | true | false => exact h.move ⟨rfl, rfl, rfl, rfl, rfl, rfl⟩ hanswered

theorem traced_recordRetireFailure (h : Walking cfg s log i t)
    (hphase : t.phase = .retireFailed sentAt status) :
    Passed cfg s log i [] (recordRetireFailure s i t sentAt status) := by
  have hanswered : Noted log (.answered (.request i) status) := h.phase hphase
  exact h.move ⟨rfl, rfl, rfl, rfl, rfl, rfl⟩ hanswered

theorem traced_relayAnswer (h : Walking cfg s log i t)
    (hphase : t.phase = .relaying sentAt status) :
    Passed cfg s log i [] (relayAnswer s i t a sentAt status) := by
  have hanswered : Noted log (.answered (.request i) status) := h.phase hphase
  have hsame : SameStores s (s.relay ⟨s.clock, t.original, t.scope, sentAt, status⟩) :=
    ⟨rfl, rfl, rfl, rfl, rfl, rfl⟩
  unfold relayAnswer
  simp only
  split
  · exact h.finishQuietly hsame
  split
  · rename_i hstatus
    simp only [Bool.and_eq_true, beq_iff_eq] at hstatus
    rw [hstatus.left] at hanswered hsame ⊢
    exact h.move hsame hanswered
  · exact h.finishQuietly hsame

theorem traced_copyBody (h : Walking cfg s log i t) (hphase : t.phase = .copying sentAt k) :
    Passed cfg s log i (noteBody i t a) (copyBody s i t a sentAt k) := by
  have hanswered : Noted log (.answered (.request i) 200) := h.phase hphase
  unfold copyBody noteBody
  split
  · exact h.moveNoted ((SameStores.refl s).aside (by simp)) (by simp) (h.plainNote rfl)
      ⟨hanswered.journal _ _, List.mem_cons_self⟩
  · exact h.finishQuietly (SameStores.refl s)

theorem traced_publishFlag (h : Walking cfg s log i t) (hphase : t.phase = .copied sentAt k body) :
    Passed cfg s log i [] (publishFlag s i t sentAt k body) := by
  have hread : ReadWhole log i t body := h.phase hphase
  unfold publishFlag
  split
  · exact h.finishQuietly (SameStores.refl s)
  · exact h.move (SameStores.refl s) hread

theorem traced_publishGeneration (h : Walking cfg s log i t)
    (hphase : t.phase = .publishing sentAt k body) :
    Passed cfg s log i [] (publishGeneration s i t a sentAt k body) := by
  have hread : ReadWhole log i t body := h.phase hphase
  unfold publishGeneration
  split
  · split
    · exact h.moveRechecked hread
    have hsame : SameStores s (afterRecheck s t) := ⟨rfl, rfl, rfl, rfl, rfl, rfl⟩
    exact h.finish (hsame.aside (by simp)) (h.traced.known.moved _ _ _ _) h.justified
  · exact h.finishQuietly (SameStores.refl s)

theorem traced_storeEntry (h : Walking cfg s log i t) (hphase : t.phase = .storing sentAt k body)
    (hkept : extractToken t.request = extractToken t.original) :
    Passed cfg s log i (noteStore i t a k body) (storeEntry s i t a sentAt k body) := by
  have hread : ReadWhole log i t body := h.phase hphase
  have hfill := h.thread.known hphase
  have hkeyed := h.keyed hfill.keyed
  have htoken : TokenOf log (extractToken t.request) t.scope := by
    rw [hkept]
    exact h.traced.known.tokenOf hkeyed.fingerprint hkeyed.valid
  unfold storeEntry noteStore
  split
  · refine h.moveNoted (aside_publish s ⟨k.key, body, k.read, sentAt⟩ _ _) (by simp)
      ⟨⟨hread.right, t.scope, hkeyed.scope, htoken⟩, h.justified⟩ ⟨?_, hkept⟩
    exact (h.traced.known.journal (by simp)).fetched hkeyed.fingerprint hkeyed.valid
      hkeyed.scope (hread.left.journal _ _) (hread.right.journal _ _) List.mem_cons_self
  · exact h.finishQuietly (SameStores.refl s)

theorem traced_grantEntry (h : Walking cfg s log i t) (hphase : t.phase = .granting sentAt k) :
    Passed cfg s log i [.granted i t.fingerprint (.response k.key)]
      (grantEntry s i t a sentAt k) := by
  have hgranting : Fetched cfg log i t.fingerprint (.response k.key) ∧
      extractToken t.request = extractToken t.original := h.phase hphase
  exact h.finish (aside_grant s a.order i t.fingerprint (.response k.key) sentAt)
    (h.traced.known.journal (by simp)) ⟨hgranting.left, h.justified⟩

end Passing

end ReplxEdge.Serving
