import ReplxEdge.Serving.TracedRequests

/-!
# The whole system is explained

Every step keeps the journal's explanation of the requests, the stores and the
warmer, provided that a body is only stored for a request that still carries the
token it was identified by. A refresh uses the token of a context, a context the
token of a request that was stored.
-/

namespace ReplxEdge.Serving

open Foundation
open Net
open Cache
open Identity
open Gateway
open Trace

/-!
## Every point of a request
-/

def storesBody : Phase -> Bool
  | .storing _ _ _ => true
  | _ => false

section Advance

variable {cfg : Config} {s : State} {log : List Record} {i : Nat} {t : Thread} {a : Answer}

theorem Walking.advance (h : Walking cfg s log i t) (hlookup : s.threads.lookup i = some t)
    (hkept : storesBody t.phase = true -> extractToken t.request = extractToken t.original) :
    Passed cfg s log i (notes cfg s i t a) (advance cfg s i t a) := by
  unfold Serving.advance notes
  cases hphase : t.phase with
  | arrived => exact traced_observeToken h hphase
  | resolved => exact traced_observeGeneration h
  | keyed => exact traced_observeFlag h
  | routing => exact traced_route h hphase
  | decision => exact traced_handleDecision h hphase
  | decisionSent sentAt => exact traced_relayDecision h sentAt
  | artwork => exact traced_artworkLease h hphase
  | artworkGet leasedAt => exact traced_artworkServe h hphase
  | artworkFetch => exact traced_artworkSend h hphase
  | artworkSent sentAt => exact traced_artworkReceive h hphase
  | artworkReceived sentAt status => exact traced_artworkStore h hphase
  | artworkGranting sentAt => exact traced_artworkGrant h hphase
  | artworkRelaying sentAt status => exact h.move ⟨rfl, rfl, rfl, rfl, rfl, rfl⟩ trivial
  | lookup attempt => exact traced_lookupStart h attempt
  | lookupLease attempt k => exact traced_lookupLease h attempt k
  | lookupGet attempt k leasedAt => exact traced_lookupGet h hphase
  | lookupFlag attempt k leasedAt entry => exact traced_lookupFlag h hphase
  | lookupGeneration attempt k leasedAt entry flagAt => exact traced_lookupGeneration h hphase
  | waiting k => exact traced_wait h k
  | acquiring k => exact traced_acquire h k
  | proxying => exact traced_send h
  | sent sentAt => exact traced_receive h sentAt
  | retiring sentAt status => exact traced_bumpStateGeneration h hphase
  | retireFailed sentAt status => exact traced_recordRetireFailure h hphase
  | relaying sentAt status => exact traced_relayAnswer h hphase
  | copying sentAt k => exact traced_copyBody h hphase
  | copied sentAt k body => exact traced_publishFlag h hphase
  | publishing sentAt k body => exact traced_publishGeneration h hphase
  | storing sentAt k body => exact traced_storeEntry h hphase (hkept (by rw [hphase]; rfl))
  | granting sentAt k => exact traced_grantEntry h hphase
  | done =>
    exact
      { others := fun _ _ => rfl
        thread := ⟨t, hlookup, h.traced⟩
        jobs := rfl
        now := rfl
        memory := h.memory
        justified := h.justified }

theorem notes_concern {j : Nat} (hj : j ≠ i) {n : Note} (hn : n ∈ notes cfg s i t a) :
    n.concerns j = false := by
  have hij : (i == j) = false := by simpa using fun heq => hj heq.symm
  have hany : ((notes cfg s i t a).any fun n => n.concerns j) = false := by
    unfold notes
    split
    · unfold noteToken
      simp only
      split
      · rfl
      split
      · simp [Note.concerns, hij]
      · simp [Note.concerns, hij]
    · unfold noteArtworkLease
      split
      · simp [Note.concerns, hij]
      · rfl
    · unfold noteArtworkHit
      split
      all_goals rfl
    · unfold noteAnswer
      split
      · split
        · rfl
        · rfl
      · rfl
    · unfold noteArtworkStore
      simp only
      split
      · split
        · rfl
        · rfl
      · rfl
    · rfl
    · simp [Note.concerns, hij]
    · unfold noteHit
      split
      all_goals rfl
    · unfold noteAnswer
      split
      · split
        · rfl
        · rfl
      · rfl
    · unfold noteBody
      split
      all_goals rfl
    · unfold noteStore
      split
      all_goals rfl
    · rfl
    · rfl
  rw [List.any_eq_false] at hany
  simpa using hany n hn

theorem Walking.tracks (h : Walking cfg s log i t) {key credential : GoString}
    {snap : Snapshot} {ttl : Duration}
    (hcall : .trackAuthorized key snap ttl credential ∈ warmerCalls cfg t a) :
    TokenOf log credential snap.scope := by
  unfold warmerCalls at hcall
  simp only at hcall
  split at hcall
  · split at hcall
    · simp at hcall
    · cases hcall
  · split at hcall
    · simp at hcall
    · cases hcall
  · split at hcall
    · simp at hcall
    · cases hcall
  · rename_i sentAt k hphase
    split at hcall
    · rw [List.mem_singleton, WarmerCall.trackAuthorized.injEq] at hcall
      rcases hcall with ⟨_, rfl, _, rfl⟩
      have hkept : extractToken t.request = extractToken t.original := (h.phase hphase).right
      have hkeyed := h.keyed (h.thread.known hphase).keyed
      rw [hkept]
      exact h.traced.known.tokenOf hkeyed.fingerprint hkeyed.valid
    · cases hcall
  · cases hcall

end Advance

/-!
## The warmer
-/

structure JobTraced (log : List Record) (c : Candidate) (j : Job) : Prop where
  scope : (Resource.response j.k.key).HasScope c.job.snap.scope
  body : forall body, j.phase.body = some body ->
    Noted log (.read .warmer c.token body)

def PassTraced (log : List Record) (jobs : Table Nat Job) : Pass -> Prop
  | .idle => True
  | .picked c => TokenOf log c.token c.job.snap.scope
  | .confirmed c => TokenOf log c.token c.job.snap.scope
  | .running c n => TokenOf log c.token c.job.snap.scope ∧
      forall j, jobs.lookup n = some j -> JobTraced log c j
  | .permitted c n => TokenOf log c.token c.job.snap.scope ∧
      forall j, jobs.lookup n = some j -> JobTraced log c j

def ContextsTraced (log : List Record) (w : Warmer) : Prop :=
  forall scope c, w.contexts.lookup scope = some c -> TokenOf log c.token scope

def CallsTraced (log : List Record) (pending : List WarmerCall) : Prop :=
  forall key snap ttl credential,
    .trackAuthorized key snap ttl credential ∈ pending ->
      TokenOf log credential snap.scope

structure Attested (cfg : Config) (y : System) : Prop where
  sound : Sound noAssumptions y.serving
  threads : forall i t, y.serving.threads.lookup i = some t -> Traced cfg y.log i t
  absent : forall i, y.serving.threads.lookup i = none -> Unknown y.log i
  memory : MemoryTraced y.log y.serving
  justified : Throughout (Justified cfg) y.log
  contexts : ContextsTraced y.log y.warmer
  calls : CallsTraced y.log y.pending
  pass : PassTraced y.log y.serving.jobs y.pass

section Steps

variable {cfg : Config} {rewrite : GoString -> GoString} {y y' : System}
variable {log : List Record} {now : Instant} {ns : List Note} {s' : State}

variable {p : Pass}

theorem PassTraced.journal {jobs : Table Nat Job} (h : PassTraced log jobs p)
    (now : Instant) (ns : List Note) : PassTraced (journal now ns log) jobs p := by
  have hjob : forall {c : Candidate} {j : Job}, JobTraced log c j ->
      JobTraced (Serving.journal now ns log) c j := fun hj =>
    ⟨hj.scope, fun body hbody => (hj.body body hbody).journal now ns⟩
  cases p with
  | idle => trivial
  | picked c | confirmed c => exact TokenOf.journal h now ns
  | running c n | permitted c n => exact ⟨h.left.journal now ns, fun j hj => hjob (h.right j hj)⟩

variable {w : Warmer}

theorem ContextsTraced.journal (h : ContextsTraced log w) (now : Instant)
    (ns : List Note) : ContextsTraced (journal now ns log) w :=
  fun scope c hc => (h scope c hc).journal now ns

theorem CallsTraced.journal {pending : List WarmerCall} (h : CallsTraced log pending)
    (now : Instant) (ns : List Note) : CallsTraced (journal now ns log) pending :=
  fun key snap ttl credential hcall => (h key snap ttl credential hcall).journal now ns

variable {action : Action}

theorem sound_any {s : State} (hs : Sound noAssumptions s)
    (hstep : Serving.step cfg s action = some s') : Sound noAssumptions s' :=
  sound_step hs ⟨False.elim, False.elim, False.elim, False.elim, False.elim⟩ hstep

theorem Attested.warmed (h : Attested cfg y) (hsound : Sound noAssumptions s')
    (hthreads : s'.threads = y.serving.threads) (hmemory : MemoryTraced (journal y.now ns y.log) s')
    (hns : forall n, n ∈ ns -> forall i, n.concerns i = false)
    (hj : Throughout (Justified cfg) (journal y.now ns y.log))
    (hcontexts : forall scope c, w.contexts.lookup scope = some c ->
      y.warmer.contexts.lookup scope = some c)
    (hp : PassTraced (journal y.now ns y.log) s'.jobs p) :
    Attested cfg
    { y with serving := s', warmer := w, pass := p, log := journal y.now ns y.log } where
  sound := hsound
  threads := by
    intro i t ht
    rw [hthreads] at ht
    exact (h.threads i t ht).journal fun n hn => hns n hn i
  absent := by
    intro i ht
    rw [hthreads] at ht
    exact (h.absent i ht).journal fun n hn => hns n hn i
  memory := hmemory
  justified := hj
  contexts := fun scope c hc => (h.contexts scope c (hcontexts scope c hc)).journal _ _
  calls := h.calls.journal _ _
  pass := hp

theorem Attested.inside (h : Attested cfg y)
    (hcontexts : forall scope c, w.contexts.lookup scope = some c ->
      y.warmer.contexts.lookup scope = some c) (hp : PassTraced y.log y.serving.jobs p) :
    Attested cfg { y with warmer := w, pass := p } := by
  have hmemory : MemoryTraced (journal y.now [] y.log) y.serving := h.memory
  exact h.warmed h.sound rfl hmemory (by simp) h.justified hcontexts hp

/-!
## Requests, calls and the clock
-/

theorem Attested.beside (h : Attested cfg y) (hsound : Sound noAssumptions s')
    (hsame : SameStores y.serving s') : Attested cfg { y with serving := s' } :=
  { h with
    sound := hsound
    threads := fun i t ht => h.threads i t (hsame.threads ▸ ht)
    absent := fun i ht => h.absent i (hsame.threads ▸ ht)
    memory := by
      have ha : Aside y.serving [] s' := hsame.aside (by simp)
      exact h.memory.aside ha
    pass := by
      change PassTraced y.log s'.jobs y.pass
      rw [hsame.jobs]
      exact h.pass }

theorem Attested.tick (h : Attested cfg y) (hsound : Sound noAssumptions s') (d : Nat)
    (hs : s' = { y.serving with
      shared := { y.serving.shared with now := y.serving.shared.now + d } }) :
    Attested cfg { y with serving := s' } := by
  subst hs
  refine
    { h with
      sound := hsound
      memory := { leases := ?_, entries := h.memory.entries, artwork := h.memory.artwork } }
  intro lease hlease
  rcases h.memory.leases lease hlease with ⟨x, g, hkey, hpast, hgranted⟩
  refine ⟨x, g, hkey, ?_, hgranted⟩
  exact le_trans hpast (Int.le_add_of_nonneg_right (Int.natCast_nonneg d))

theorem Attested.arrive (h : Attested cfg y) {i : Nat} {r : Net.Request}
    (hnone : y.serving.threads.lookup i = none)
    (hsound : Sound noAssumptions (y.serving.stamp.setThread i (arrival y.serving r))) :
    Attested cfg { y with serving := y.serving.stamp.setThread i (arrival y.serving r) } := by
  have hfresh := h.absent i hnone
  have hlookup : forall j, (y.serving.stamp.setThread i (arrival y.serving r)).threads.lookup j =
      if j = i then some (arrival y.serving r) else y.serving.threads.lookup j := fun j =>
    y.serving.threads.lookup_set i j (arrival y.serving r)
  refine
    { h with
      sound := hsound
      threads := ?_
      absent := ?_
      memory :=
        { leases := h.memory.leases
          entries := h.memory.entries
          artwork := h.memory.artwork } }
  · intro j t ht
    change (y.serving.stamp.setThread i (arrival y.serving r)).threads.lookup j = some t at ht
    rw [hlookup] at ht
    split at ht
    · rename_i hji
      cases ht
      rw [hji]
      exact ⟨⟨fun hne => absurd rfl hne,
        fun token scope invalid hnoted => absurd hnoted (hfresh token scope invalid),
        fun hne => absurd rfl hne⟩, hfresh⟩
    · exact h.threads j t ht
  intro j ht
  change (y.serving.stamp.setThread i (arrival y.serving r)).threads.lookup j = none at ht
  rw [hlookup] at ht
  split at ht
  · cases ht
  · exact h.absent j ht

theorem Attested.advance (h : Attested cfg y) {i : Nat} {t : Thread} {a : Answer}
    (hlookup : y.serving.threads.lookup i = some t)
    (hkept : storesBody t.phase = true -> extractToken t.request = extractToken t.original)
    (hsound : Sound noAssumptions (advance cfg y.serving i t a)) :
    Attested cfg
      { y with
        serving := Serving.advance cfg y.serving i t a
        pending := y.pending ++ warmerCalls cfg t a
        log := journal y.now (notes cfg y.serving i t a) y.log } := by
  have hwalking : Walking cfg y.serving y.log i t :=
    ⟨h.sound.parties.threads i t hlookup, h.threads i t hlookup, h.memory, h.justified⟩
  have hpassed : Passed cfg y.serving y.log i (notes cfg y.serving i t a)
      (Serving.advance cfg y.serving i t a) := hwalking.advance hlookup hkept
  refine
    { sound := hsound
      threads := ?_
      absent := ?_
      memory := hpassed.memory
      justified := hpassed.justified
      contexts := h.contexts.journal _ _
      calls := ?_
      pass := ?_ }
  · intro j u hu
    by_cases hji : j = i
    · subst hji
      rcases hpassed.thread with ⟨t', ht', htraced⟩
      cases ht'.symm.trans hu
      exact htraced
    exact (h.threads j u ((hpassed.others j hji).symm.trans hu)).journal
      fun n hn => notes_concern hji hn
  · intro j hj
    by_cases hji : j = i
    · subst hji
      rcases hpassed.thread with ⟨t', ht', _⟩
      cases ht'.symm.trans hj
    exact (h.absent j ((hpassed.others j hji).symm.trans hj)).journal
      fun n hn => notes_concern hji hn
  · intro key snap ttl credential hcall
    rcases List.mem_append.mp hcall with hold | hnew
    · exact (h.calls key snap ttl credential hold).journal _ _
    · exact (hwalking.tracks hnew).journal _ _
  change PassTraced _ (Serving.advance cfg y.serving i t a).jobs y.pass
  rw [hpassed.jobs]
  exact h.pass.journal _ _

/-- A body is only stored for a request that carries the token it was identified by. -/
def KeepsToken (y : System) : Move -> Prop
  | .serve (.advance i _) =>
    forall t, y.serving.threads.lookup i = some t -> storesBody t.phase = true ->
      extractToken t.request = extractToken t.original
  | _ => True

theorem sameStores_record (s : State) (i : Nat) (c : Call) :
    SameStores s (recordCall s i c) := by
  unfold recordCall
  split
  · split
    · exact ⟨rfl, rfl, rfl, rfl, rfl, rfl⟩
    · exact ⟨rfl, rfl, rfl, rfl, rfl, rfl⟩
  · exact ⟨rfl, rfl, rfl, rfl, rfl, rfl⟩
  · exact SameStores.refl s

theorem sameStores_execute (s : State) (i : Nat) (c : Call) (ok applied : Bool) :
    SameStores s (executeCall s i c ok applied) := by
  cases ok with
  | true => exact ⟨rfl, rfl, rfl, rfl, rfl, rfl⟩
  | false =>
    cases applied with
    | true | false => exact ⟨rfl, rfl, rfl, rfl, rfl, rfl⟩

theorem Attested.serve (h : Attested cfg y)
    (hkept : KeepsToken y (.serve action)) (hstep : y.serve cfg action = some y') :
    Attested cfg y' := by
  unfold System.serve at hstep
  split at hstep
  · rename_i hserved
    rcases Option.map_eq_some_iff.mp hstep with ⟨s', hs', rfl⟩
    have hsound := sound_any h.sound hs'
    cases action with
    | tick d =>
      show Attested cfg { y with serving := s', pending := y.pending ++ [], log := y.log }
      rw [List.append_nil]
      exact h.tick hsound d (Option.some.inj hs').symm
    | arrive i r =>
      show Attested cfg { y with serving := s', pending := y.pending ++ [], log := y.log }
      rw [List.append_nil]
      simp only [Serving.step] at hs'
      split at hs'
      · cases hs'
      rename_i hnone
      cases hs'
      exact h.arrive hnone hsound
    | advance i a =>
      rcases Option.map_eq_some_iff.mp hs' with ⟨t, hlookup, rfl⟩
      simp only [callsOf, notesOf, hlookup, Option.elim_some]
      exact h.advance hlookup (hkept t hlookup) hsound
    | invalidate i scope cls =>
      show Attested cfg { y with serving := s', pending := y.pending ++ [], log := y.log }
      rw [List.append_nil]
      simp only [Serving.step] at hs'
      split at hs'
      · cases hs'
      cases hs'
      exact h.beside hsound ⟨rfl, rfl, rfl, rfl, rfl, rfl⟩
    | execute i ok applied =>
      show Attested cfg { y with serving := s', pending := y.pending ++ [], log := y.log }
      rw [List.append_nil]
      simp only [Serving.step] at hs'
      split at hs'
      · split at hs'
        · cases hs'
          exact h.beside hsound (sameStores_execute _ _ _ ok applied)
        · cases hs'
      · cases hs'
    | record i =>
      show Attested cfg { y with serving := s', pending := y.pending ++ [], log := y.log }
      rw [List.append_nil]
      rcases Option.map_eq_some_iff.mp hs' with ⟨c, _, rfl⟩
      exact h.beside hsound (sameStores_record _ _ _)
    | warm | warmAdvance => cases hserved
  · cases hstep

variable {n : Nat}

theorem Attested.call (h : Attested cfg y) {orders : WarmerOrders}
    (hstep : y.call rewrite n orders = some y') : Attested cfg y' := by
  rcases Option.map_eq_some_iff.mp hstep with ⟨waiting, hwaiting, rfl⟩
  have hmem : waiting ∈ y.pending := List.mem_of_getElem? hwaiting
  refine
    { h with
      contexts := ?_
      calls := fun key snap ttl credential hcall =>
        h.calls key snap ttl credential (List.mem_of_mem_eraseIdx hcall) }
  intro scope c hc
  cases waiting with
  | forgetScope gone => exact h.contexts scope c (Warmer.lookup_forgetScope hc)
  | trackAuthorized key snap ttl credential =>
    rcases Warmer.lookup_trackAuthorized hc with hold | ⟨rfl, rfl⟩
    · exact h.contexts scope c hold
    · exact h.calls key snap ttl c.token hmem

/-!
## Refreshes
-/

theorem Attested.pick (h : Attested cfg y) {id : GoString} (hstep : y.pick id = some y') :
    Attested cfg y' := by
  unfold System.pick at hstep
  split at hstep
  · split at hstep
    · rcases Option.map_eq_some_iff.mp hstep with ⟨c, hc, rfl⟩
      rcases Warmer.candidate_token hc with ⟨context, hcontext, htoken⟩
      have hlive := Table.lookup_of_keep hcontext
      refine h.inside (fun _ _ hc => Table.lookup_of_keep hc) ?_
      show TokenOf y.log c.token c.job.snap.scope
      rw [← htoken]
      exact h.contexts _ context hlive
    · cases hstep
  · cases hstep

theorem Attested.confirm (h : Attested cfg y) {ok : Bool} (hstep : y.confirm ok = some y') :
    Attested cfg y' := by
  have hpass := h.pass
  unfold System.confirm at hstep
  split at hstep
  · rename_i c hc
    rw [hc] at hpass
    split at hstep
    · cases hstep
      exact h.inside (fun _ _ hc => hc) hpass
    cases hstep
    exact h.inside (w := y.warmer.forgetJob c.id) (p := .idle) (fun _ _ hc => hc) trivial
  · cases hstep

theorem Attested.leave (h : Attested cfg y) (hstep : y.leave = some y') :
    Attested cfg y' := by
  unfold System.leave at hstep
  split at hstep
  · cases hstep
    exact h.inside (fun _ _ hc => hc) trivial
  · cases hstep
    exact h.inside (fun _ _ hc => hc) trivial
  · cases hstep

theorem lookup_setJob {s : State} {j found : Job}
    (h : (s.setJob n j).jobs.lookup n = some found) : found = j := by
  change (s.jobs.set n j).lookup n = some found at h
  rw [Table.lookup_set, if_pos rfl] at h
  exact (Option.some.inj h).symm

theorem Attested.refresh (h : Attested cfg y) (hstep : y.refresh cfg n = some y') :
    Attested cfg y' := by
  have hpass := h.pass
  unfold System.refresh at hstep
  split at hstep
  · rename_i c hc
    rw [hc] at hpass
    split at hstep
    · rcases Option.map_eq_some_iff.mp hstep with ⟨s', hs', rfl⟩
      have hsound := sound_any h.sound hs'
      simp only [Serving.step] at hs'
      split at hs'
      · cases hs'
      cases hs'
      have hmemory : MemoryTraced (journal y.now [] y.log)
          (warmStart y.serving n c.job.snap) :=
        ⟨h.memory.leases, h.memory.entries, h.memory.artwork⟩
      refine h.warmed hsound rfl hmemory (by simp) h.justified (fun _ _ hc => hc)
        ⟨hpass, ?_⟩
      intro j hj
      rw [lookup_setJob hj]
      refine ⟨?_, fun body hbody => by cases hbody⟩
      have hkeyOf : KeyOf (y.keyFunc c.job.snap)
          (y.serving.currentRead c.job.snap.scope c.job.snap.cls) :=
        keyOf_snapshot c.job.snap rfl rfl
      rcases hkeyOf with ⟨parts, htext, hscope, _⟩
      exact ⟨parts, htext, hscope⟩
    · cases hstep
  · cases hstep

theorem Attested.runningAt (h : Attested cfg y) {test : JobPhase -> Bool}
    {active : Candidate × Nat} (hactive : y.runningAt test = some active) :
    y.pass = .running active.1 active.2 ∧ TokenOf y.log active.1.token active.1.job.snap.scope ∧
      exists j, y.serving.jobs.lookup active.2 = some j ∧ test j.phase = true ∧
        JobTraced y.log active.1 j := by
  have hpass := h.pass
  unfold System.runningAt at hactive
  split at hactive
  · rename_i c n hrunning
    rw [hrunning] at hpass
    split at hactive
    · rename_i htest
      cases hactive
      rcases exists_of_any htest with ⟨j, hj, hphase⟩
      exact ⟨hrunning, hpass.left, j, hj, hphase, hpass.right j hj⟩
    · cases hactive
  · cases hactive

theorem Attested.send (h : Attested cfg y) (hstep : y.send cfg = some y') :
    Attested cfg y' := by
  rcases Option.bind_eq_some_iff.mp hstep with ⟨active, hactive, hsent⟩
  rcases Option.map_eq_some_iff.mp hsent with ⟨s', hs', rfl⟩
  rcases h.runningAt hactive with ⟨hpass, htoken, j, hj, hkeyed, hjob⟩
  have hsound := sound_any h.sound hs'
  rcases Option.map_eq_some_iff.mp hs' with ⟨found, hfound, rfl⟩
  cases hj.symm.trans hfound
  unfold warmAdvance at hsound ⊢
  cases hphase : j.phase with
  | keyed =>
    simp only [hphase] at hsound ⊢
    have hmemory : MemoryTraced (journal y.now [] y.log)
        (y.serving.stamp.setJob active.2
          { j with phase := .sent y.serving.clock }) :=
      ⟨h.memory.leases, h.memory.entries, h.memory.artwork⟩
    have hnext : PassTraced (journal y.now [] y.log)
        (y.serving.stamp.setJob active.2
          { j with phase := .sent y.serving.clock }).jobs y.pass := by
      rw [hpass]
      refine ⟨htoken, ?_⟩
      intro j' hj'
      rw [lookup_setJob hj']
      exact ⟨hjob.scope, fun body hbody => by cases hbody⟩
    exact h.warmed hsound rfl hmemory (by simp) h.justified (fun _ _ hc => hc) hnext
  | sent sentAt | checked sentAt body =>
    rw [hphase] at hkeyed
    cases hkeyed

theorem Attested.deliver (h : Attested cfg y) {body : GoString}
    (hstep : y.deliver cfg body = some y') : Attested cfg y' := by
  rcases Option.bind_eq_some_iff.mp hstep with ⟨active, hactive, hdelivered⟩
  rcases Option.map_eq_some_iff.mp hdelivered with ⟨s', hs', rfl⟩
  rcases h.runningAt hactive with ⟨hpass, htoken, j, hj, hsent, hjob⟩
  have hsound := sound_any h.sound hs'
  rcases Option.map_eq_some_iff.mp hs' with ⟨found, hfound, rfl⟩
  cases hj.symm.trans hfound
  have hplain : Throughout (Justified cfg)
      (journal y.now [.read .warmer active.1.token body,
        .answered .warmer 200] y.log) :=
    ⟨trivial, trivial, h.justified⟩
  have hstores : MemoryTraced (journal y.now [.read .warmer active.1.token body,
      .answered .warmer 200] y.log) y.serving :=
    h.memory.aside ((SameStores.refl y.serving).aside (by simp))
  have hconcerns : forall n, n ∈ [.read .warmer active.1.token body,
      Note.answered .warmer 200] -> forall i, n.concerns i = false := by
    intro n hn i
    rcases List.mem_cons.mp hn with rfl | hn
    · rfl
    rw [List.mem_singleton.mp hn]
    rfl
  unfold warmAdvance at hsound ⊢
  cases hphase : j.phase with
  | sent sentAt =>
    simp only [hphase] at hsound ⊢
    split at hsound
    · rename_i hkey
      rw [if_pos hkey]
      refine h.warmed hsound rfl ⟨hstores.leases, hstores.entries, hstores.artwork⟩
        hconcerns hplain (fun _ _ hc => hc) ?_
      rw [hpass]
      refine ⟨htoken.journal _ _, ?_⟩
      intro j' hj'
      rw [lookup_setJob hj']
      refine ⟨hjob.scope, fun stored hstored => ?_⟩
      cases hstored
      exact List.mem_cons_self
    rename_i hkey
    rw [if_neg hkey]
    refine h.warmed hsound rfl ⟨hstores.leases, hstores.entries, hstores.artwork⟩
      hconcerns hplain (fun _ _ hc => hc) ?_
    rw [hpass]
    refine ⟨htoken.journal _ _, ?_⟩
    intro j' hj'
    change (y.serving.jobs.delete active.2).lookup active.2 = some j' at hj'
    rw [Table.lookup_delete_self] at hj'
    cases hj'
  | keyed | checked =>
    rw [hphase] at hsent
    cases hsent

theorem Attested.permit (h : Attested cfg y) (hstep : y.permit = some y') :
    Attested cfg y' := by
  rcases Option.bind_eq_some_iff.mp hstep with ⟨active, hactive, hpermitted⟩
  rcases h.runningAt hactive with ⟨hpass, _⟩
  have hrunning := h.pass
  rw [hpass] at hrunning
  split at hpermitted
  · cases hpermitted
    exact h.inside (fun _ _ hc => hc) hrunning
  · cases hpermitted

theorem Attested.publish (h : Attested cfg y) (hstep : y.publish cfg = some y') :
    Attested cfg y' := by
  have hpass := h.pass
  unfold System.publish at hstep
  split at hstep
  · rename_i c n hc
    rw [hc] at hpass
    rcases Option.bind_eq_some_iff.mp hstep with ⟨j, hj, hbodied⟩
    rcases Option.bind_eq_some_iff.mp hbodied with ⟨body, hbody, hstored⟩
    rcases Option.map_eq_some_iff.mp hstored with ⟨s', hs', rfl⟩
    have hsound := sound_any h.sound hs'
    rcases Option.map_eq_some_iff.mp hs' with ⟨found, hfound, rfl⟩
    cases hj.symm.trans hfound
    have hjob := hpass.right j hj
    unfold warmAdvance at hsound ⊢
    cases hphase : j.phase with
    | checked sentAt stored =>
      rw [hphase] at hbody
      cases hbody
      simp only [hphase] at hsound ⊢
      have hstores := h.memory.aside (aside_publish y.serving
        ⟨j.k.key, body, j.k.read, sentAt⟩ .warmer c.token)
      have hread := hjob.body body (by rw [hphase]; rfl)
      have hcontexts : forall scope context,
          (y.warmer.succeeded y.now c).contexts.lookup scope = some context ->
            y.warmer.contexts.lookup scope = some context := by
        intro scope context hcontext
        rw [Warmer.succeeded, Warmer.contexts_updateJob] at hcontext
        exact hcontext
      refine h.warmed hsound rfl ⟨hstores.leases, hstores.entries, hstores.artwork⟩ ?_
        ⟨⟨hread, _, hjob.scope, hpass.left⟩, h.justified⟩ hcontexts trivial
      intro note hnote i
      rw [List.mem_singleton.mp hnote]
      rfl
    | keyed | sent =>
      rw [hphase] at hbody
      cases hbody
  · cases hstep

theorem Attested.fail (h : Attested cfg y) {status : Nat} (hstep : y.fail status = some y') :
    Attested cfg y' := by
  unfold System.fail at hstep
  split at hstep
  · cases hstep
    exact h.inside (fun _ _ hc => Warmer.lookup_failed hc) trivial
  · cases hstep
    exact h.inside (fun _ _ hc => Warmer.lookup_failed hc) trivial
  · cases hstep

/-!
## Runs
-/

theorem attested_step {m : Move} (h : Attested cfg y) (hkept : KeepsToken y m)
    (hstep : System.step cfg rewrite y m = some y') : Attested cfg y' := by
  cases m with
  | serve action => exact h.serve hkept hstep
  | call n orders => exact h.call hstep
  | pick id => exact h.pick hstep
  | confirm ok => exact h.confirm hstep
  | leave => exact h.leave hstep
  | refresh n => exact h.refresh hstep
  | send => exact h.send hstep
  | deliver body => exact h.deliver hstep
  | permit => exact h.permit hstep
  | publish => exact h.publish hstep
  | fail status => exact h.fail hstep
  | configure order config =>
    cases hstep
    exact h.inside (w := y.warmer.configure order config)
      (fun _ _ hc => Warmer.lookup_configure hc) h.pass
  | pause paused =>
    cases hstep
    exact h.inside (w := y.warmer.setPaused paused) (fun _ _ hc => hc) h.pass

theorem attested_start (cfg : Config) (generations : GenerationTable) (now : Instant) :
    Attested cfg (System.start generations now) where
  sound := sound_start noAssumptions generations now
  threads := fun _ _ ht => by cases ht
  absent := fun _ _ _ _ _ hnoted => by cases hnoted
  memory :=
    { leases := fun _ hlease => by cases hlease
      entries := fun _ he => by cases he
      artwork := fun _ he => by cases he }
  justified := trivial
  contexts := fun _ _ hc => by cases hc
  calls := fun _ _ _ _ hcall => by cases hcall
  pass := trivial

theorem attested_run {generations : GenerationTable} {moves : List Move}
    (hkept : Along (System.step cfg rewrite) KeepsToken (System.start generations now) moves)
    (hrun : run (System.step cfg rewrite) (System.start generations now) moves = some y) :
    Attested cfg y :=
  run_invariant (fun _ _ _ h hcond hstep => attested_step h hcond hstep)
    (attested_start cfg generations now) hkept hrun

end Steps

end ReplxEdge.Serving
