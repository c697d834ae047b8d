import ReplxEdge.Warming.Scheduler

/-!
# Whose credential a refresh uses

The journal tells when a request showed a credential of a scope, and what took it away
again. A context stands for the latest of these observations, its version for the number
of the observation, and so the check before a publication can tell a credential from an
earlier one of the same scope.
-/

namespace ReplxEdge.Warming

open Foundation
open Serving

variable {order : Order (GoString × Job)} {incoming : Option Priority}
variable {byScope : Table GoString Candidate} {orders : Orders} {key : GoString}
variable {strip : GoString -> GoString}

/-!
## The journal
-/

/-- What takes the credential of a scope away, or replaces it. -/
def Deed.Retires (scope : GoString) : Deed -> Prop
  | .observed other _ _ _ => other = scope
  | .forgot other => other = scope
  | .rejected other => other = scope
  | .disabled => True
  | _ => False

def Deed.isBegan : Deed -> Bool
  | .began _ _ => true
  | _ => false

def Deed.isPermitted : Deed -> Bool
  | .permitted _ _ => true
  | _ => false

/-- What entitles a refresh to be published: its credential was observed for its scope
less than two minutes ago and not taken away since; or the job was tracked without a
credential, and its scope and the token are those that the pass has for the owner. -/
def Vouched (past : List Deed) (c : Candidate) (checked : Instant) : Prop :=
  match c.lease with
  | .context token version =>
    Since (fun _ r => exists seen, r = .observed c.scope token version seen ∧
      checked < seen + credentialTTL) (Deed.Retires c.scope) past
  | .owner token =>
    .tracked c.job.sequence c.scope false ∈ past ∧
      Since (fun _ r => r = .began token c.scope) (fun r => r.isBegan = true) past

/-- A check lets a candidate pass only if it is entitled to it. -/
def Admitted (past : List Deed) (r : Deed) : Prop :=
  forall c checked, r = .permitted c checked -> Vouched past c checked

/-- The last check before this point let the candidate pass, and was right. -/
def Passed (c : Candidate) (past : List Deed) : Prop :=
  Since (fun before r => exists checked, r = .permitted c checked ∧
    Vouched before c checked) (fun r => r.isPermitted = true) past

/-- A response is written only for a candidate that was entitled to it. -/
def Confined (past : List Deed) (r : Deed) : Prop :=
  forall c storeKey, r = .written c storeKey -> Passed c past

/-- The context of a scope is its latest observation, and expires two minutes after it. -/
def Observed (scope : GoString) (context : CredentialContext) (log : List Deed) : Prop :=
  Since (fun _ r => r = .observed scope context.token context.version
    (context.expires - credentialTTL)) (Deed.Retires scope) log

def Numbered (past : List Deed) (r : Deed) : Prop :=
  forall scope token version seen, r = .observed scope token version seen ->
    forall scope' token' version' seen', .observed scope' token' version' seen' ∈ past ->
      version' < version

theorem numbered_unique {log : List Deed} (h : Throughout Numbered log)
    {scope scope' token token' : GoString} {version : Nat} {seen seen' : Instant}
    (hmem : .observed scope token version seen ∈ log)
    (hmem' : .observed scope' token' version seen' ∈ log) :
    .observed scope token version seen = Deed.observed scope' token' version seen' := by
  induction log with
  | nil => cases hmem
  | cons r past ih =>
    rcases List.mem_cons.mp hmem with heq | hold
    · rcases List.mem_cons.mp hmem' with heq' | hold'
      · exact heq.trans heq'.symm
      · exact absurd (h.left _ _ _ _ heq.symm _ _ _ _ hold') (Nat.lt_irrefl _)
    rcases List.mem_cons.mp hmem' with heq' | hold'
    · exact absurd (h.left _ _ _ _ heq'.symm _ _ _ _ hold) (Nat.lt_irrefl _)
    · exact ih h.right hold hold'

/-!
## The invariant
-/

def Taken (p : Pass) (c : Candidate) (log : List Deed) : Prop :=
  match c.lease with
  | .context token version =>
    exists seen, .observed c.scope token version seen ∈ log
  | .owner token =>
    token = p.owner ∧ c.scope = p.ownerScope ∧
      .tracked c.job.sequence c.scope false ∈ log

def Began (p : Pass) (log : List Deed) : Prop :=
  Since (fun _ r => r = .began p.owner p.ownerScope) (fun r => r.isBegan = true) log

def Phase.Explained (log : List Deed) : Phase -> Prop
  | .idle => True
  | .resolving => True
  | .looping p => Began p log
  | .chosen p c => Began p log ∧ Taken p c log
  | .keyed p c => Began p log ∧ Taken p c log
  | .active p c => Began p log ∧ Taken p c log
  | .fetching p c _ => Began p log ∧ Taken p c log
  | .fetched p c _ _ => Began p log ∧ Taken p c log
  | .confirmed p c _ _ => Began p log ∧ Taken p c log
  | .permitted p c _ _ => Began p log ∧ Passed c log
  | .ending p _ _ _ => Began p log

def ContextsExplained (contexts : Table GoString CredentialContext) (log : List Deed) : Prop :=
  forall scope context, contexts.lookup scope = some context -> Observed scope context log

def JobsExplained (tracked : Table GoString Job) (log : List Deed) : Prop :=
  forall id job, tracked.lookup id = some job ->
    .tracked job.sequence job.snap.scope job.requiresContext ∈ log

structure Counted (contextVersion : Nat) (log : List Deed) : Prop where
  bound : forall scope token version seen,
    .observed scope token version seen ∈ log -> version ≤ contextVersion
  numbered : Throughout Numbered log

structure Sound (y : Scheduler) : Prop where
  contexts : ContextsExplained y.contexts y.log
  jobs : JobsExplained y.tracked y.log
  counted : Counted y.contextVersion y.log
  phase : y.phase.Explained y.log
  admitted : Throughout Admitted y.log
  confined : Throughout Confined y.log

theorem sound_start (now : Instant) : Sound (Scheduler.start now) where
  contexts := fun _ _ h => (nomatch h)
  jobs := fun _ _ h => (nomatch h)
  counted := ⟨fun _ _ _ _ h => (nomatch h), trivial⟩
  phase := trivial
  admitted := trivial
  confined := trivial

theorem Phase.Explained.note {phase : Phase} {log : List Deed} (h : phase.Explained log)
    {d : Deed} (hbegan : d.isBegan = false) (hpermitted : d.isPermitted = false) :
    phase.Explained (d :: log) := by
  have hpass : forall p, Began p log -> Began p (d :: log) :=
    fun p hp => Since.later (by simp [hbegan]) hp
  have htaken : forall p c, Taken p c log -> Taken p c (d :: log) := by
    intro p c hc
    unfold Taken at hc ⊢
    split at hc
    · rcases hc with ⟨seen, hmem⟩
      exact ⟨seen, List.mem_cons_of_mem d hmem⟩
    · exact ⟨hc.left, hc.right.left, List.mem_cons_of_mem d hc.right.right⟩
  cases phase with
  | idle | resolving => trivial
  | looping p => exact hpass p h
  | permitted p c storeKey n => exact ⟨hpass p h.left, Since.later (by simp [hpermitted]) h.right⟩
  | ending p c n result => exact hpass p h
  | _ => exact ⟨hpass _ h.left, htaken _ _ h.right⟩

section Parts

variable {contexts left : Table GoString CredentialContext} {tracked : Table GoString Job}
variable {log : List Deed} {d : Deed} {scope : GoString} {contextVersion : Nat}

theorem ContextsExplained.fewer (h : ContextsExplained contexts log)
    (hfewer : forall other context, left.lookup other = some context ->
      contexts.lookup other = some context) : ContextsExplained left log :=
  fun other context hfound => h other context (hfewer other context hfound)

theorem ContextsExplained.note (h : ContextsExplained contexts log)
    (hd : forall other, ¬ d.Retires other) : ContextsExplained contexts (d :: log) :=
  fun other context hfound => Since.later (hd other) (h other context hfound)

theorem ContextsExplained.drop (h : ContextsExplained contexts log)
    (hd : forall other, d.Retires other -> other = scope) :
    ContextsExplained (contexts.delete scope) (d :: log) := by
  intro other context hfound
  refine Since.later ?_ (h other context (Table.lookup_of_delete hfound))
  intro hretires
  rw [hd other hretires, Table.lookup_delete_self] at hfound
  cases hfound

theorem ContextsExplained.observe (h : ContextsExplained contexts log) (token : GoString)
    (version : Nat) (seen : Instant) :
    ContextsExplained (contexts.set scope ⟨token, seen + credentialTTL, version⟩)
      (.observed scope token version seen :: log) := by
  intro other context hfound
  rw [Table.lookup_set] at hfound
  split at hfound
  · rename_i hother
    cases hfound
    rw [hother]
    refine Since.here ?_
    simp
  rename_i hother
  refine Since.later ?_ (h other context hfound)
  intro hretires
  exact hother hretires.symm

theorem JobsExplained.fewer {left : Table GoString Job} (h : JobsExplained tracked log)
    (hfewer : forall id job, left.lookup id = some job -> tracked.lookup id = some job) :
    JobsExplained left log :=
  fun id job hfound => h id job (hfewer id job hfound)

theorem JobsExplained.note (h : JobsExplained tracked log) (d : Deed) :
    JobsExplained tracked (d :: log) :=
  fun id job hfound => List.mem_cons_of_mem d (h id job hfound)

theorem JobsExplained.set {id : GoString} {job : Job} (h : JobsExplained tracked log)
    (hjob : .tracked job.sequence job.snap.scope job.requiresContext ∈ log) :
    JobsExplained (tracked.set id job) log := by
  intro other found hfound
  rcases Table.lookup_set_cases hfound with hnew | hold
  · rw [hnew]
    exact hjob
  · exact h other found hold

theorem Counted.note (h : Counted contextVersion log)
    (hd : forall scope token version seen, d ≠ .observed scope token version seen) :
    Counted contextVersion (d :: log) where
  bound := by
    intro scope token version seen hmem
    rcases List.mem_cons.mp hmem with heq | hold
    · exact absurd heq.symm (hd scope token version seen)
    · exact h.bound scope token version seen hold
  numbered := ⟨fun scope token version seen heq => absurd heq (hd scope token version seen),
    h.numbered⟩

theorem Counted.observe (h : Counted contextVersion log) (token : GoString) (seen : Instant) :
    Counted (contextVersion + 1) (.observed scope token (contextVersion + 1) seen :: log) where
  bound := by
    intro other found version observed hmem
    rcases List.mem_cons.mp hmem with heq | hold
    · rw [(Deed.observed.inj heq).right.right.left]
    · exact Nat.le_succ_of_le (h.bound other found version observed hold)
  numbered := by
    refine ⟨?_, h.numbered⟩
    intro other found version observed heq scope' token' version' seen' hmem
    rw [← (Deed.observed.inj heq).right.right.left]
    exact Nat.lt_succ_of_le (h.bound scope' token' version' seen' hmem)

theorem admitted_note (h : Throughout Admitted log) (hd : d.isPermitted = false) :
    Throughout Admitted (d :: log) := by
  refine ⟨?_, h⟩
  intro c checked heq
  rw [heq] at hd
  cases hd

theorem confined_note (h : Throughout Confined log)
    (hd : forall c storeKey, d ≠ .written c storeKey) : Throughout Confined (d :: log) :=
  ⟨fun c storeKey heq => absurd heq (hd c storeKey), h⟩

end Parts

namespace Sound

variable {y y' : Scheduler} {scope : GoString}

theorem goTo {phase : Phase} (h : Sound y) (hphase : phase.Explained y.log) :
    Sound (y.goTo phase) :=
  { h with phase := hphase }

theorem expireContexts (h : Sound y) : Sound y.expireContexts :=
  { h with contexts := h.contexts.fewer fun _ _ => Table.lookup_of_keep }

theorem jobsFewer {left : Table GoString Job} (h : Sound y)
    (hfewer : forall id job, left.lookup id = some job -> y.tracked.lookup id = some job) :
    Sound { y with tracked := left } :=
  { h with jobs := h.jobs.fewer hfewer }

theorem evictJob (h : Sound y) (hevicted : y.evictJob order incoming = some y') : Sound y' := by
  rcases Option.map_eq_some_iff.mp hevicted with ⟨w, hw, rfl⟩
  rcases Warmer.evictJob_cases hw with rfl | ⟨id, rfl⟩
  · exact h
  · exact h.jobsFewer fun _ _ => Table.lookup_of_delete

theorem setContext (h : Sound y) (order : Order (GoString × CredentialContext))
    (token : GoString) : Sound (y.setContext order scope token) where
  contexts := by
    refine ContextsExplained.observe (h.contexts.fewer ?_) token _ y.now
    exact fun _ _ => Warmer.lookup_contextRoom
  jobs := h.jobs.note _
  counted := h.counted.observe token y.now
  phase := h.phase.note rfl rfl
  admitted := admitted_note h.admitted rfl
  confined := confined_note h.confined (by simp)

theorem setJob (h : Sound y) (key : GoString) (n : Snapshot) (ttl : Duration)
    (priority : Priority) (requiresContext : Bool) :
    Sound (y.setJob key n ttl priority requiresContext) where
  contexts := h.contexts.note fun _ hretires => hretires
  jobs := (h.jobs.note _).set List.mem_cons_self
  counted := h.counted.note (by simp)
  phase := h.phase.note rfl rfl
  admitted := admitted_note h.admitted rfl
  confined := confined_note h.confined (by simp)

theorem observe (h : Sound y) (orders : Orders) (credential : Option GoString) :
    Sound (y.observe orders scope credential) := by
  cases credential with
  | none => exact h.expireContexts
  | some token => exact h.expireContexts.setContext orders.contexts token

theorem track (h : Sound y) (strip : GoString -> GoString) (orders : Orders) (key : GoString)
    (n : Snapshot) (ttl : Duration) (priority : Priority) (credential : Option GoString) :
    Sound (y.track strip orders key n ttl priority credential) := by
  unfold Scheduler.track
  split
  · have hseen : Sound (y.observe orders n.scope credential) :=
      h.observe orders credential
    simp only
    split
    · split
      · exact hseen
      rename_i evicted hevicted
      exact (hseen.evictJob hevicted).setJob _ _ _ _ _
    · exact hseen.setJob _ _ _ _ _
  · exact h

theorem drop {d : Deed} (h : Sound y) (hd : forall other, d.Retires other -> other = scope)
    (hobserved : forall scope token version seen, d ≠ .observed scope token version seen)
    (hwritten : forall c storeKey, d ≠ .written c storeKey)
    (hbegan : d.isBegan = false) (hpermitted : d.isPermitted = false) :
    Sound ((y.dropScope scope).note d) where
  contexts := h.contexts.drop hd
  jobs := (h.jobs.fewer fun _ _ => Table.lookup_of_keep).note d
  counted := h.counted.note hobserved
  phase := h.phase.note hbegan hpermitted
  admitted := admitted_note h.admitted hpermitted
  confined := confined_note h.confined hwritten

theorem forgetScope (h : Sound y) : Sound (y.forgetScope scope) := by
  unfold Scheduler.forgetScope
  split
  · exact h
  have hdrop : Sound ((y.dropScope scope).note (.forgot scope)) :=
    h.drop (fun _ heq => heq.symm) (by simp) (by simp) rfl rfl
  exact { hdrop with }

theorem reject (h : Sound y) : Sound (y.reject scope) :=
  h.drop (fun _ heq => heq.symm) (by simp) (by simp) rfl rfl

theorem disable (h : Sound y) : Sound y.disable where
  contexts := fun _ _ hfound => (nomatch hfound)
  jobs := h.jobs.note _
  counted := h.counted.note (by simp)
  phase := h.phase.note rfl rfl
  admitted := admitted_note h.admitted rfl
  confined := confined_note h.confined (by simp)

theorem trim {n : Nat} (h : Sound y) : Sound (y.trim order n) :=
  Warmer.trim_rule (P := fun w => Sound { y with toWarmer := w })
    (fun _ _ hw => hw.jobsFewer fun _ _ => Table.lookup_of_delete) n h

theorem configure (h : Sound y) (order : Order (GoString × Job)) (c : WarmerConfig) :
    Sound (y.configure order c) := by
  unfold Scheduler.configure
  split
  · apply Sound.trim
    cases c.enabled with
    | false =>
      have hoff := h.disable
      exact { hoff with }
    | true => exact { h with }
  · exact h

/-!
### A pass
-/

theorem beginPass (h : Sound y) : Sound y.beginPass := by
  unfold Scheduler.beginPass
  split
  · split
    · exact h
    · exact h.goTo trivial
  · exact h

theorem resolve {token found : Option GoString} (h : Sound y)
    (hstep : y.resolve token found = some y') : Sound y' := by
  unfold Scheduler.resolve at hstep
  split at hstep
  · cases hstep
    apply Sound.expireContexts
    refine ⟨h.contexts.note fun _ hretires => hretires, h.jobs.note _, h.counted.note (by simp),
      ?_, admitted_note h.admitted rfl, confined_note h.confined (by simp)⟩
    show Began _ _
    exact Since.here rfl
  · cases hstep

end Sound

/-!
### The choice
-/

section Choice

variable {y : Scheduler} {p : Pass} {c : Candidate}

structure Choosable (y : Scheduler) (p : Pass) (c : Candidate) : Prop where
  tracked : y.tracked.lookup c.id = some c.job
  lease : y.lease p c.job = some c.lease

theorem choosable_candidate {id : GoString} {job : Job} (hjob : y.tracked.lookup id = some job)
    (h : y.candidate p id job = some c) : Choosable y p c := by
  unfold Scheduler.candidate at h
  split at h
  · rcases Option.map_eq_some_iff.mp h with ⟨l, hl, rfl⟩
    exact ⟨hjob, hl⟩
  · cases h

theorem choosable_consider {entry : GoString × Job} (hjob : y.tracked.lookup entry.1 = some entry.2)
    (h : forall scope found, byScope.lookup scope = some found -> Choosable y p found)
    {scope : GoString} (hfound : (y.consider p byScope entry).lookup scope = some c) :
    Choosable y p c := by
  have hset : forall new, y.candidate p entry.1 entry.2 = some new ->
      (byScope.set new.scope new).lookup scope = some c -> Choosable y p c := by
    intro new hnew hlookup
    rcases Table.lookup_set_cases hlookup with heq | hold
    · rw [heq]
      exact choosable_candidate hjob hnew
    · exact h scope c hold
  unfold Scheduler.consider at hfound
  split at hfound
  · exact h scope c hfound
  rename_i new hnew
  split at hfound
  · exact hset new hnew hfound
  split at hfound
  · exact hset new hnew hfound
  · exact h scope c hfound

theorem choosable_foldl {entries : List (GoString × Job)}
    (hjobs : forall entry, entry ∈ entries -> y.tracked.lookup entry.1 = some entry.2)
    (h : forall scope found, byScope.lookup scope = some found -> Choosable y p found)
    {scope : GoString} (hfound : (entries.foldl (y.consider p) byScope).lookup scope = some c) :
    Choosable y p c := by
  induction entries generalizing byScope with
  | nil => exact h scope c hfound
  | cons entry rest ih =>
    refine ih (fun other hother => hjobs other (List.mem_cons_of_mem entry hother)) ?_ hfound
    intro other found hother
    exact choosable_consider (hjobs entry List.mem_cons_self) h hother

theorem mem_foldl_first {entries : List (GoString × Candidate)} {found : Option Candidate}
    (h : entries.foldl Scheduler.first found = some c) :
    found = some c ∨ exists scope, (scope, c) ∈ entries := by
  induction entries generalizing found with
  | nil => exact Or.inl h
  | cons entry rest ih =>
    rcases ih h with hfirst | ⟨scope, hmem⟩
    · unfold Scheduler.first at hfirst
      split at hfirst
      · cases hfirst
        exact Or.inr ⟨entry.1, List.mem_cons_self⟩
      split at hfirst
      · cases hfirst
        exact Or.inr ⟨entry.1, List.mem_cons_self⟩
      · exact Or.inl hfirst
    · exact Or.inr ⟨scope, List.mem_cons_of_mem entry hmem⟩

theorem choosable_nextCandidate (h : y.nextCandidate orders p = some c) :
    Choosable y p c := by
  unfold Scheduler.nextCandidate at h
  rcases mem_foldl_first h with hnone | ⟨scope, hmem⟩
  · cases hnone
  have hentry := (orders.scopes.perm _).mem_iff.mp hmem
  refine choosable_foldl ?_ (fun _ _ hnone => absurd hnone (by simp))
    (Table.lookup_of_mem hentry)
  intro entry hentry
  exact Table.lookup_of_mem ((orders.jobs.perm _).mem_iff.mp hentry)

theorem Choosable.taken (h : Choosable y p c) (hsound : Sound y) : Taken p c y.log := by
  have hlease := h.lease
  have hjob := hsound.jobs c.id c.job h.tracked
  unfold Scheduler.lease at hlease
  unfold Taken
  split at hlease
  · rename_i context hcontext
    rw [← Option.some.inj hlease]
    have hfound := (Option.filter_eq_some_iff.mp hcontext).left
    rcases (hsound.contexts c.scope context hfound).exists_suffix with ⟨past, r, hsuffix, rfl⟩
    exact ⟨_, hsuffix.subset List.mem_cons_self⟩
  split at hlease
  · rename_i howner
    rw [← Option.some.inj hlease]
    refine ⟨rfl, howner.right.right, ?_⟩
    rw [← howner.left]
    exact hjob
  · cases hlease

theorem vouched_of_permitted (h : Sound y) (hbegan : Began p y.log) (htaken : Taken p c y.log)
    (hpermitted : y.permitted c = true) : Vouched y.log c y.now := by
  have hcurrent := (Bool.and_eq_true_iff.mp hpermitted).right
  unfold Scheduler.current at hcurrent
  unfold Taken at htaken
  unfold Vouched
  split
  · rename_i token version hlease
    rw [hlease] at hcurrent htaken
    simp only at hcurrent htaken
    rcases htaken with ⟨taken, htaken⟩
    rcases exists_of_any hcurrent with ⟨context, hfound, hgood⟩
    rw [Bool.and_eq_true, beq_iff_eq, decide_eq_true_eq] at hgood
    have hobserved := h.contexts c.scope context hfound
    refine hobserved.imp_suffix ?_
    intro past r hsuffix hr
    -- the version of the context is that of the lease, so they are one observation
    have hmem : .observed c.scope context.token version
        (context.expires - credentialTTL) ∈ y.log := by
      rw [← hgood.left, ← hr]
      exact hsuffix.subset List.mem_cons_self
    have hsame := Deed.observed.inj (numbered_unique h.counted.numbered htaken hmem)
    refine ⟨context.expires - credentialTTL, ?_, ?_⟩
    · rw [hr, hgood.left, hsame.right.left]
    rw [Int.sub_add_cancel]
    exact hgood.right
  rename_i token hlease
  rw [hlease] at htaken
  simp only at htaken
  rcases htaken with ⟨rfl, hscope, hjob⟩
  refine ⟨hjob, ?_⟩
  rw [hscope]
  exact hbegan

end Choice

namespace Sound

variable {y y' : Scheduler}

theorem choose (h : Sound y) (hstep : y.choose orders = some y') :
    Sound y' := by
  unfold Scheduler.choose at hstep
  split at hstep
  · rename_i p hphase
    have hbegan : Began p y.log := by
      have hexplained := h.phase
      rw [hphase] at hexplained
      exact hexplained
    split at hstep
    · cases hstep
      exact h.goTo trivial
    simp only at hstep
    have hfresh := h.expireContexts
    have hdrop : Sound (y.expireContexts.dropHopeless p) :=
      hfresh.jobsFewer fun _ _ => Table.lookup_of_keep
    split at hstep
    · cases hstep
      exact hfresh.goTo trivial
    split at hstep
    · cases hstep
      exact hdrop.goTo trivial
    rename_i c hnext
    cases hstep
    exact hdrop.goTo ⟨hbegan, (choosable_nextCandidate hnext).taken hfresh⟩
  · cases hstep

theorem stop (h : Sound y) (hstep : y.stop = some y') : Sound y' := by
  unfold Scheduler.stop at hstep
  split at hstep
  · cases hstep
    exact h.goTo trivial
  · cases hstep

theorem matchKey (h : Sound y) (hstep : y.matchKey key = some y') :
    Sound y' := by
  unfold Scheduler.matchKey at hstep
  split at hstep
  · rename_i p c hphase
    have hexplained := h.phase
    rw [hphase] at hexplained
    split at hstep
    · cases hstep
      exact h.goTo hexplained
    cases hstep
    exact (h.jobsFewer fun _ _ => Table.lookup_of_delete).goTo hexplained.left
  · cases hstep

theorem activate {canWarm : Bool} (h : Sound y) (hstep : y.activate canWarm = some y') :
    Sound y' := by
  unfold Scheduler.activate at hstep
  split at hstep
  · rename_i p c hphase
    have hexplained := h.phase
    rw [hphase] at hexplained
    split at hstep
    · cases hstep
      exact h.goTo trivial
    cases hstep
    exact { h with phase := hexplained }
  · cases hstep

theorem captureKey (h : Sound y) (hstep : y.captureKey key = some y') :
    Sound y' := by
  unfold Scheduler.captureKey at hstep
  split at hstep
  · rename_i p c hphase
    have hexplained := h.phase
    rw [hphase] at hexplained
    split at hstep
    · cases hstep
      exact h.goTo hexplained.left
    cases hstep
    exact h.goTo hexplained
  · cases hstep

theorem fetch {outcome : Fetch} (h : Sound y) (hstep : y.fetch outcome = some y') :
    Sound y' := by
  unfold Scheduler.fetch at hstep
  split at hstep
  · rename_i p c storeKey hphase
    have hexplained := h.phase
    rw [hphase] at hexplained
    cases outcome with
    | error | answer =>
      cases hstep
      exact h.goTo hexplained.left
    | body n =>
      cases hstep
      exact h.goTo hexplained
  · cases hstep

theorem confirmKey (h : Sound y) (hstep : y.confirmKey key = some y') :
    Sound y' := by
  unfold Scheduler.confirmKey at hstep
  split at hstep
  · rename_i p c storeKey n hphase
    have hexplained := h.phase
    rw [hphase] at hexplained
    split at hstep
    · cases hstep
      exact h.goTo hexplained
    cases hstep
    exact h.goTo hexplained.left
  · cases hstep

theorem permit (h : Sound y) (hstep : y.permit = some y') : Sound y' := by
  unfold Scheduler.permit at hstep
  split at hstep
  · rename_i p c storeKey n hphase
    have hexplained := h.phase
    rw [hphase] at hexplained
    split at hstep
    · rename_i hpermitted
      cases hstep
      have hvouched := vouched_of_permitted h hexplained.left hexplained.right hpermitted
      refine ⟨h.contexts.note fun _ hretires => hretires, h.jobs.note _,
        h.counted.note (by simp), ?_, ⟨?_, h.admitted⟩, confined_note h.confined (by simp)⟩
      · exact ⟨Since.later (by simp [Deed.isBegan]) hexplained.left,
          Since.here ⟨y.now, rfl, hvouched⟩⟩
      intro other checked heq
      rcases Deed.permitted.inj heq with ⟨hsame, htime⟩
      rw [← hsame, ← htime]
      exact hvouched
    cases hstep
    exact h.goTo hexplained.left
  · cases hstep

theorem publish {applied acknowledged : Bool} (h : Sound y)
    (hstep : y.publish applied acknowledged = some y') : Sound y' := by
  unfold Scheduler.publish at hstep
  split at hstep
  · rename_i p c storeKey n hphase
    have hexplained := h.phase
    rw [hphase] at hexplained
    cases hstep
    cases applied with
    | false => exact h.goTo hexplained.left
    | true =>
      refine ⟨h.contexts.note fun _ hretires => hretires, h.jobs.note _,
        h.counted.note (by simp), Since.later (by simp [Deed.isBegan]) hexplained.left,
        admitted_note h.admitted rfl, ?_, h.confined⟩
      intro other key heq
      rw [← (Deed.written.inj heq).left]
      exact hexplained.right
  · cases hstep

theorem updateJob {c : Candidate} {f : Job -> Job} (h : Sound y)
    (hf : forall job, (f job).sequence = job.sequence ∧ (f job).snap = job.snap ∧
      (f job).requiresContext = job.requiresContext) : Sound (y.updateJob c f) := by
  unfold Scheduler.updateJob
  rcases Warmer.updateJob_cases y.toWarmer c.id c.job.sequence f with hsame | ⟨job, hjob, hset⟩
  · rw [hsame]
    exact h
  rw [hset]
  refine ⟨h.contexts, h.jobs.set ?_, h.counted, h.phase, h.admitted, h.confined⟩
  rw [(hf job).left, (hf job).right.left, (hf job).right.right]
  exact h.jobs c.id job hjob

theorem settle (h : Sound y) (hstep : y.settle = some y') : Sound y' := by
  unfold Scheduler.settle at hstep
  split at hstep
  · rename_i p c n result hphase
    have hgo : forall (left : Scheduler) (spent : Pass), Sound left ->
        left.phase = y.phase -> spent.owner = p.owner -> spent.ownerScope = p.ownerScope ->
          Sound (left.goTo (.looping spent)) := by
      intro left spent hleft hsame howner hscope
      have hexplained := hleft.phase
      rw [hsame, hphase] at hexplained
      refine hleft.goTo ?_
      show Since _ _ _
      rw [howner, hscope]
      exact hexplained
    cases hstep
    cases result with
    | succeeded =>
      exact hgo _ _ (h.updateJob fun _ => ⟨rfl, rfl, rfl⟩) rfl rfl rfl
    | failed status =>
      have hdropped : Sound (if rejectedStatus status then y.reject c.scope else y) ∧
          (if rejectedStatus status then y.reject c.scope else y).phase = y.phase := by
        split
        · exact ⟨h.reject, rfl⟩
        · exact ⟨h, rfl⟩
      exact hgo _ _ (hdropped.left.updateJob fun _ => ⟨rfl, rfl, rfl⟩) hdropped.right rfl rfl
  · cases hstep

end Sound

theorem sound_step {y y' : Scheduler} {a : Action}
    (h : Sound y) (hstep : y.step strip a = some y') : Sound y' := by
  cases a with
  | tick | setPaused | foreground =>
    cases hstep
    exact { h with }
  | track orders key n ttl priority credential =>
    cases hstep
    exact h.track strip orders key n ttl priority credential
  | forgetScope scope =>
    cases hstep
    exact h.forgetScope
  | configure order c =>
    cases hstep
    exact h.configure order c
  | background =>
    simp only [Scheduler.step] at hstep
    split at hstep
    · cases hstep
      exact { h with }
    · cases hstep
  | stats =>
    cases hstep
    exact h.expireContexts
  | beginPass =>
    cases hstep
    exact h.beginPass
  | resolve token found => exact h.resolve hstep
  | choose orders => exact h.choose hstep
  | stop => exact h.stop hstep
  | matchKey key => exact h.matchKey hstep
  | activate canWarm => exact h.activate hstep
  | captureKey key => exact h.captureKey hstep
  | fetch outcome => exact h.fetch hstep
  | confirmKey key => exact h.confirmKey hstep
  | permit => exact h.permit hstep
  | publish applied acknowledged => exact h.publish hstep
  | settle => exact h.settle hstep

theorem sound_run {now : Instant} {actions : List Action} {y : Scheduler}
    (hrun : run (Scheduler.step strip) (Scheduler.start now) actions = some y) : Sound y :=
  run_keeps (fun _ _ _ => sound_step) (sound_start now) hrun

/-!
## Renewal

Only a request that is stored sets a context or a job, and only the operator changes the
configuration; every other step keeps what there is or drops it.
-/

namespace Scheduler

variable {y y' : Scheduler}

def Shrinks (y y' : Scheduler) : Prop :=
  forall scope context, y'.contexts.lookup scope = some context ->
    y.contexts.lookup scope = some context

/-- A step that brings neither a job nor a context, under the same configuration. -/
structure Fewer (y y' : Scheduler) : Prop where
  config : y'.config = y.config
  tracked : forall id, y'.tracked.lookup id ≠ none -> y.tracked.lookup id ≠ none
  contexts : Shrinks y y'

theorem Fewer.of_eq (hconfig : y'.config = y.config) (htracked : y'.tracked = y.tracked)
    (hcontexts : y'.contexts = y.contexts) : Fewer y y' := by
  refine ⟨hconfig, ?_, ?_⟩
  · rw [htracked]
    exact fun _ hid => hid
  unfold Shrinks
  rw [hcontexts]
  exact fun _ _ hfound => hfound

theorem shrinks_configure (order : Order (GoString × Job)) (c : WarmerConfig) :
    Shrinks y (y.configure order c) := by
  intro scope context hfound
  rw [configure_toWarmer] at hfound
  exact Warmer.lookup_configure hfound

theorem updateJob_fewer (c : Candidate) (f : Job -> Job) : Fewer y (y.updateJob c f) := by
  unfold updateJob
  rcases Warmer.updateJob_cases y.toWarmer c.id c.job.sequence f with hsame | ⟨job, hjob, hset⟩
  · rw [hsame]
    exact .of_eq rfl rfl rfl
  rw [hset]
  refine ⟨rfl, ?_, fun _ _ hfound => hfound⟩
  intro id hid
  rw [Table.lookup_set] at hid
  split at hid
  · rename_i hsame
    rw [hsame, hjob]
    exact Option.some_ne_none job
  · exact hid

theorem step_fewer {a : Action} (hstep : y.step strip a = some y') (htrack : a.isTrack = false) :
    Fewer y y' ∨ exists order c, y' = y.configure order c := by
  have hkeep : forall {test : GoString -> Job -> Bool} (id : GoString),
      (y.tracked.keep test).lookup id ≠ none -> y.tracked.lookup id ≠ none :=
    fun _ => Table.ne_none_mono fun _ => Table.lookup_of_keep
  cases a with
  | track => cases htrack
  | configure order c =>
    cases hstep
    exact Or.inr ⟨order, c, rfl⟩
  | tick | setPaused | foreground =>
    cases hstep
    exact Or.inl (.of_eq rfl rfl rfl)
  | stats =>
    cases hstep
    exact Or.inl ⟨rfl, fun _ hid => hid, fun _ _ => Table.lookup_of_keep⟩
  | forgetScope scope =>
    cases hstep
    unfold forgetScope
    split
    · exact Or.inl (.of_eq rfl rfl rfl)
    · exact Or.inl ⟨rfl, hkeep, fun _ _ => Table.lookup_of_delete⟩
  | beginPass =>
    cases hstep
    unfold beginPass
    repeat' split
    all_goals exact Or.inl (.of_eq rfl rfl rfl)
  | background | stop | activate | captureKey | fetch | confirmKey | permit =>
    simp only [step, stop, activate, captureKey, fetch, confirmKey, permit] at hstep
    repeat' split at hstep
    all_goals cases hstep
    all_goals exact Or.inl (.of_eq rfl rfl rfl)
  | resolve =>
    simp only [step, resolve] at hstep
    split at hstep
    · cases hstep
      exact Or.inl ⟨rfl, fun _ hid => hid, fun _ _ => Table.lookup_of_keep⟩
    · cases hstep
  | publish applied acknowledged =>
    simp only [step, publish] at hstep
    split at hstep
    · cases hstep
      cases applied with
      | false | true => exact Or.inl (.of_eq rfl rfl rfl)
    · cases hstep
  | matchKey key =>
    simp only [step, matchKey] at hstep
    repeat' split at hstep
    all_goals cases hstep
    · exact Or.inl (.of_eq rfl rfl rfl)
    · exact Or.inl ⟨rfl, fun _ => Table.ne_none_mono fun _ => Table.lookup_of_delete,
        fun _ _ hfound => hfound⟩
  | choose orders =>
    have hkept : Shrinks y y.expireContexts := fun _ _ => Table.lookup_of_keep
    simp only [step, choose] at hstep
    repeat' split at hstep
    all_goals cases hstep
    · exact Or.inl (.of_eq rfl rfl rfl)
    · exact Or.inl ⟨rfl, fun _ hid => hid, hkept⟩
    · exact Or.inl ⟨rfl, hkeep, hkept⟩
    · exact Or.inl ⟨rfl, hkeep, hkept⟩
  | settle =>
    simp only [step, settle] at hstep
    split at hstep
    · rename_i p c n result hphase
      cases hstep
      left
      cases result with
      | succeeded =>
        have hupdate := updateJob_fewer (y := y) c (Warmer.refreshedNow y.now)
        exact ⟨hupdate.config, hupdate.tracked, hupdate.contexts⟩
      | failed status =>
        have hleft : Fewer y (if rejectedStatus status then y.reject c.scope else y) := by
          split
          · exact ⟨rfl, hkeep, fun _ _ => Table.lookup_of_delete⟩
          · exact .of_eq rfl rfl rfl
        have hupdate := updateJob_fewer (y := if rejectedStatus status then y.reject c.scope
          else y) c (Warmer.backOff y.now)
        exact ⟨hupdate.config.trans hleft.config,
          fun id hid => hleft.tracked id (hupdate.tracked id hid),
          fun scope context hfound =>
            hleft.contexts scope context (hupdate.contexts scope context hfound)⟩
    · cases hstep

theorem shrinks_step {a : Action} (hstep : y.step strip a = some y') (htrack : a.isTrack = false) :
    Shrinks y y' := by
  rcases step_fewer hstep htrack with hfewer | ⟨order, c, rfl⟩
  · exact hfewer.contexts
  · exact shrinks_configure order c

end Scheduler

/-!
## Confinement
-/

/-- At every point of every run: each response that was written belongs to a candidate
whose last check found its credential observed for its scope, less than two minutes old
and neither replaced nor taken away, or to a job of the owner's scope that was tracked
without a credential; each context expires two minutes after the request that showed it;
and no step but the tracking of a request sets or renews one. -/
theorem credentials_confined (strip : GoString -> GoString) (now : Instant)
    (actions : List Action) (y : Scheduler)
    (hrun : run (Scheduler.step strip) (Scheduler.start now) actions = some y) :
    Throughout Confined y.log ∧ (forall scope context, y.contexts.lookup scope = some context ->
        Observed scope context y.log) ∧
      forall a y', y.step strip a = some y' -> a.isTrack = false ->
        forall scope context, y'.contexts.lookup scope = some context ->
          y.contexts.lookup scope = some context := by
  have hsound := sound_run hrun
  exact ⟨hsound.confined, hsound.contexts,
    fun _ _ hstep htrack => Scheduler.shrinks_step hstep htrack⟩

def storedOrders : Orders where
  contexts := Order.stored _
  jobs := Order.stored _
  scopes := Order.stored _

def sectionsSnapshot : Snapshot where
  method := str "GET"
  path := str "/library/sections"
  rawQuery := []
  accept := []
  scope := str "user:1"
  cls := .sections

/-- The request is tracked with its token, and half a minute later a pass refreshes it up
to the check before the publication. -/
def refreshing : List Action :=
  [.track storedOrders (str "key") sectionsSnapshot minute .low
      (some (str "token")),
    .tick 30000000000, .beginPass, .resolve none none,
    .choose storedOrders, .matchKey (str "key"), .activate true,
    .captureKey (str "key"), .fetch (.body 5), .confirmKey (str "key"),
    .permit]

def Deed.isWritten : Deed -> Bool
  | .written _ _ => true
  | _ => false

theorem credentials_confined_refreshing :
    exists y, run (Scheduler.step id) (Scheduler.start 0)
        (refreshing ++ [.publish true true, .settle]) = some y ∧
      y.log.any Deed.isWritten = true ∧ Throughout Confined y.log := by
  have hcheck : ((run (Scheduler.step id) (Scheduler.start 0)
      (refreshing ++ [.publish true true, .settle])).any fun y =>
        y.log.any Deed.isWritten) = true := by
    decide +kernel
  rcases exists_of_any hcheck with ⟨y, hrun, hwritten⟩
  exact ⟨y, hrun, hwritten, (credentials_confined id 0 _ y hrun).left⟩

end ReplxEdge.Warming
