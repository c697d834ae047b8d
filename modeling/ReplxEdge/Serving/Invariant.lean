import ReplxEdge.Foundation.Registers
import ReplxEdge.Serving.Step

/-!
# What every run keeps

The invariant ties the shared memory and every running program to the history:
a key names the read it was made from, a lease the fetch it was given for, and a
request that passed a check remembers what that check stood for. Facts about a
program speak of moments that have passed, so a longer history keeps them.
-/

namespace ReplxEdge.Serving

open Foundation
open Net
open Cache
open Identity
open Gateway
open Trace
open Proxy

/-!
## Keys and registers
-/

def KeyOf (key : GoString) (read : GenRead) : Prop :=
  exists parts : KeyParts, key = parts.text ∧ parts.scope = read.scope ∧
    parts.cls = read.cls ∧ (parts.scopeGen, parts.globalGen) = read.value

theorem KeyOf.same {key : GoString} {p q : GenRead} (hp : KeyOf key p) (hq : KeyOf key q) :
    p.scope = q.scope ∧ p.cls = q.cls ∧ p.value = q.value := by
  rcases hp with ⟨parts, hkey, hscope, hcls, hvalue⟩
  rcases hq with ⟨other, hother, hoscope, hocls, hovalue⟩
  have hparts : parts = other := KeyParts.text_inj (hkey.symm.trans hother)
  subst hparts
  exact ⟨hscope.symm.trans hoscope, hcls.symm.trans hocls, hvalue.symm.trans hovalue⟩

theorem keyOf_request (r : Net.Request) (read : GenRead) :
    KeyOf (requestKeyGen read.scope read.cls.label r read.value.1 read.value.2) read :=
  ⟨requestKeyParts read.scope read.cls r read.value.1 read.value.2,
    requestKeyGen_eq_text _ _ _ _ _, rfl, rfl, rfl⟩

theorem keyOf_snapshot (n : Snapshot) {read : GenRead} (hscope : read.scope = n.scope)
    (hcls : read.cls = n.cls) : KeyOf (snapshotKey n read) read :=
  ⟨responseKeyParts n.scope n.cls n.method n.path (parseQuery n.rawQuery) n.accept
      read.value.1 read.value.2,
    responseKeyGen_eq_text _ _ _ _ _ _ _ _, hscope.symm, hcls.symm, rfl⟩

def generationRegister : Register GenRead Bump (GoString × ResponseClass) (Nat × Nat) where
  readAt := GenRead.time
  key := fun read => (read.scope, read.cls)
  value := GenRead.value
  raisedAt := Bump.time
  covers := fun b k => b.space.covers k.1 k.2 = true

/-- The server's own generation, which every read returns. -/
def globalRegister : Register GenRead Bump Unit Nat where
  readAt := GenRead.time
  key := fun _ => ()
  value := fun read => read.value.2
  raisedAt := Bump.time
  covers := fun b _ => b.space = .all

/-!
## Watch writes
-/

/-- An answered watch mutation: a state write that the origin accepted. -/
def IsWrite (answer : Relayed) : Prop :=
  isStateWrite answer.request.path = true ∧ answer.request.method ≠ str "HEAD" ∧
    answer.request.method ≠ str "OPTIONS" ∧ successful answer.status = true

instance (answer : Relayed) : Decidable (IsWrite answer) :=
  inferInstanceAs (Decidable (_ ∧ _))

/-- A path that only the proxy answers: no negotiation, no artwork, no part. -/
def Plain (r : Net.Request) : Prop :=
  isDecision r.path = false ∧ artworkMatch r.path = false ∧
    classify r.path ≠ .mediaRedirect

instance (r : Net.Request) : Decidable (Plain r) :=
  inferInstanceAs (Decidable (_ ∧ _))

def WroteBefore (s : State) (r : Net.Request) (arrivedAt : Moment) (answer : Relayed) :
    Prop :=
  answer ∈ s.history.relayed ∧ IsWrite answer ∧
    extractToken answer.request = extractToken r ∧ answer.time < arrivedAt

/-!
## Assumptions

What the steps of a run may be known to respect. Facts that rest on one of them
are stated under it, so that one invariant serves every result.
-/

structure Assumptions where
  unsaturated : Prop
  clears : Prop
  grants : Prop
  writes : Prop
  classes : Prop

/-- The flag is cleared by a call that started after every failure, apart from
failures that another bump of everything followed. -/
def ClearSound (s : State) : Action -> Prop
  | .record i =>
    forall c, s.calls.lookup i = some c -> c.phase = .committed ->
      c.space = .all -> forall n, n ∈ s.history.failures ->
        n < c.startedAt ∨
          exists b, b ∈ s.history.bumps ∧ b.space = .all ∧ n < b.startedAt
  | _ => True

instance (s : State) : (a : Action) -> Decidable (ClearSound s a)
  | .record i => decidableForallSome _ (s.calls.lookup i)
  | .tick _ | .arrive _ _ | .advance _ _ | .invalidate _ _ _
  | .execute _ _ _ | .warm _ _ | .warmAdvance _ _ => isTrue trivial

def grantedFetch : Phase -> Option Moment
  | .artworkGranting sentAt => some sentAt
  | .granting sentAt _ => some sentAt
  | _ => none

/-- Some lease of the credential rests on a fetch that started after a moment. -/
def Refetched (s : State) (fingerprint : GoString) (n : Moment) : Prop :=
  exists g, g ∈ s.history.granted ∧ g.fingerprint = fingerprint ∧ n < g.sentAt

/-- A fetch that started after every rejection of a credential, apart from rejections
that another fetch was started and granted after. -/
def FetchFresh (s : State) (fingerprint : GoString) (sentAt : Moment) : Prop :=
  forall v, v ∈ s.history.revocations -> v.rejected = true ->
    v.fingerprint = fingerprint -> v.time < sentAt ∨ Refetched s fingerprint v.time

def GrantSound (s : State) : Action -> Prop
  | .advance i _ =>
    forall t, s.threads.lookup i = some t -> forall sentAt,
      grantedFetch t.phase = some sentAt -> FetchFresh s t.fingerprint sentAt
  | _ => True

instance (s : State) (f : GoString) (n : Moment) : Decidable (Refetched s f n) :=
  inferInstanceAs (Decidable (exists g, g ∈ s.history.granted ∧ _))

instance (s : State) (f : GoString) (n : Moment) : Decidable (FetchFresh s f n) :=
  inferInstanceAs (Decidable (forall v, v ∈ s.history.revocations -> _))

instance (s : State) : (a : Action) -> Decidable (GrantSound s a)
  | .advance i _ => decidableForallSome _ (s.threads.lookup i)
  | .tick _ | .arrive _ _ | .record _ | .invalidate _ _ _
  | .execute _ _ _ | .warm _ _ | .warmAdvance _ _ => isTrue trivial

/-- Watch writes are plain, and a later request with the token of one gets its
scope. -/
def WriteSound (cfg : Config) (s : State) : Action -> Prop
  | .arrive _ r => isStateWrite r.path = true -> Plain r
  | .advance i a =>
    forall t, s.threads.lookup i = some t -> t.phase = .arrived ->
      forall answer, WroteBefore s t.original t.arrivedAt answer ->
        nextScope cfg t a = answer.scope
  | _ => True

def unresolved : Phase -> Bool
  | .arrived => true
  | _ => false

theorem unresolved_iff (p : Phase) : unresolved p = true <-> p = .arrived := by
  cases p <;> simp [unresolved]

instance (p : Phase) : Decidable (p = .arrived) :=
  decidable_of_iff _ (unresolved_iff p)

instance decidableForallWrote (s : State) (r : Net.Request) (arrivedAt : Moment)
    (p : Relayed -> Prop) [DecidablePred p] :
    Decidable (forall answer, WroteBefore s r arrivedAt answer -> p answer) :=
  decidable_of_iff
    (forall answer, answer ∈ s.history.relayed -> (IsWrite answer ∧
      extractToken answer.request = extractToken r ∧ answer.time < arrivedAt) -> p answer)
    ⟨fun h answer hwrote => h answer hwrote.left hwrote.right,
      fun h answer hmem hrest => h answer ⟨hmem, hrest⟩⟩

instance (cfg : Config) (s : State) : (a : Action) -> Decidable (WriteSound cfg s a)
  | .arrive _ r => inferInstanceAs (Decidable (isStateWrite r.path = true -> Plain r))
  | .advance i _ => decidableForallSome _ (s.threads.lookup i)
  | .tick _ | .record _ | .invalidate _ _ _ | .execute _ _ _
  | .warm _ _ | .warmAdvance _ _ => isTrue trivial

def rechecks : Phase -> Bool
  | .lookupGeneration _ _ _ _ _ => true
  | _ => false

/-- Generations are read again under the class of the path that the client sent, which the
path of a substituted part need not have. -/
def ClassSound (s : State) : Action -> Prop
  | .advance i _ =>
    forall t, s.threads.lookup i = some t -> rechecks t.phase = true ->
      classOf t.request.path = classOf t.original.path
  | _ => True

instance (s : State) : (a : Action) -> Decidable (ClassSound s a)
  | .advance i _ => decidableForallSome _ (s.threads.lookup i)
  | .tick _ | .arrive _ _ | .record _ | .invalidate _ _ _
  | .execute _ _ _ | .warm _ _ | .warmAdvance _ _ => isTrue trivial

structure Respects (A : Assumptions) (cfg : Config) (s : State) (a : Action) : Prop where
  unsaturated : A.unsaturated -> Unsaturated s.shared.generations
  clears : A.clears -> ClearSound s a
  grants : A.grants -> GrantSound s a
  writes : A.writes -> WriteSound cfg s a
  classes : A.classes -> ClassSound s a

/-!
## Facts about programs
-/

section Facts

variable (A : Assumptions) (s : State)

/-- The key of an entry names a read from before its fetch. -/
structure EntryOK (e : Entry) : Prop where
  known : e.read ∈ s.history.reads
  keyOf : KeyOf e.key e.read
  before : e.read.time < e.sentAt

/-- A lease check that passed: a grant to the credential, with no revocation between
it and the check. -/
structure Leased (fingerprint : GoString) (arrivedAt checkedAt : Moment) : Prop where
  after : arrivedAt < checkedAt
  passed : checkedAt < s.clock
  backed : exists g, g ∈ s.history.granted ∧ g.fingerprint = fingerprint ∧
    g.time < checkedAt ∧
    forall v, v ∈ s.history.revocations -> v.fingerprint = fingerprint ->
      v.time < checkedAt -> v.time < g.time

/-- A flag check that passed: every earlier failure was followed by a bump of
everything. -/
structure FlagClear (arrivedAt checkedAt : Moment) : Prop where
  after : arrivedAt < checkedAt
  passed : checkedAt < s.clock
  recovered : A.clears -> forall n, n ∈ s.history.failures -> n < checkedAt ->
    exists b, b ∈ s.history.bumps ∧ b.space = .all ∧ n < b.startedAt ∧
      b.time < checkedAt

def Retired (scope : GoString) (sentAt : Moment) : Prop :=
  (exists b, b ∈ s.history.bumps ∧ b.space = .scope scope ∧ sentAt < b.time) ∨
    exists n, n ∈ s.history.failures ∧ sentAt < n

structure KeyedOK (t : Thread) (k : Keyed) : Prop where
  read : k.read ∈ t.reads
  keyOf : KeyOf k.key k.read
  cls : k.read.cls = classOf t.original.path

structure SentOK (t : Thread) (sentAt : Moment) : Prop where
  passed : sentAt < s.clock
  keyed : forall k, t.keyed = some k -> k.read.time < sentAt

structure FillOK (t : Thread) (k : Keyed) (sentAt : Moment) : Prop where
  keyed : t.keyed = some k
  before : k.read.time < sentAt

def ArtworkOK (t : Thread) : Prop :=
  artworkMatch t.request.path = true ∧ t.reads = []

def UnroutedOK (t : Thread) : Prop :=
  t.request = t.original ∧
    forall k, t.keyed = some k -> forall q, q ∈ t.reads -> q = k.read

def PhaseOK (t : Thread) : Phase -> Prop
  | .arrived =>
    t.reads = [] ∧ t.keyed = none ∧ t.request = t.original ∧ t.fingerprint = [] ∧
      t.scope = []
  | .resolved => t.reads = [] ∧ t.keyed = none ∧ t.request = t.original
  | .keyed => UnroutedOK t
  | .routing => UnroutedOK t
  | .decision => isDecision t.request.path = true ∧ t.request = t.original
  | .decisionSent _ => isDecision t.request.path = true
  | .artwork => ArtworkOK t
  | .artworkGet leasedAt =>
    ArtworkOK t ∧ Leased s t.fingerprint t.arrivedAt leasedAt
  | .artworkFetch => ArtworkOK t
  | .artworkSent _ => ArtworkOK t
  | .artworkReceived _ _ => ArtworkOK t
  | .artworkGranting _ => ArtworkOK t
  | .artworkRelaying _ _ => ArtworkOK t
  | .lookup _ => True
  | .lookupLease _ k => t.keyed = some k
  | .lookupGet _ k leasedAt =>
    t.keyed = some k ∧ Leased s t.fingerprint t.arrivedAt leasedAt
  | .lookupFlag _ k leasedAt entry =>
    t.keyed = some k ∧ Leased s t.fingerprint t.arrivedAt leasedAt ∧
      EntryOK s entry ∧ entry.key = k.key
  | .lookupGeneration _ k leasedAt entry flagAt =>
    t.keyed = some k ∧ Leased s t.fingerprint t.arrivedAt leasedAt ∧
      EntryOK s entry ∧ entry.key = k.key ∧ FlagClear A s t.arrivedAt flagAt
  | .waiting k => t.keyed = some k
  | .acquiring k => t.keyed = some k
  | .proxying => True
  | .sent sentAt => SentOK s t sentAt
  | .retiring sentAt _ => SentOK s t sentAt
  | .retireFailed sentAt _ => SentOK s t sentAt
  | .relaying sentAt status =>
    SentOK s t sentAt ∧ (retires t status = true -> Retired s t.scope sentAt)
  | .copying sentAt k => FillOK t k sentAt
  | .copied sentAt k _ => FillOK t k sentAt
  | .publishing sentAt k _ => FillOK t k sentAt
  | .storing sentAt k _ => FillOK t k sentAt
  | .granting sentAt k => FillOK t k sentAt
  | .done => True

structure ThreadOK (t : Thread) : Prop where
  arrived : t.arrivedAt < s.clock
  reads : forall q, q ∈ t.reads ->
    q ∈ s.history.reads ∧ t.arrivedAt < q.time ∧ q.scope = t.scope
  keyed : forall k, t.keyed = some k -> KeyedOK t k
  classes : forall k, t.keyed = some k -> forall q, q ∈ t.reads ->
    q = k.read ∨ q.cls = classOf t.request.path
  cacheable : t.reads ≠ [] -> (requestCacheable t.original).isSome = true
  substituted : t.request = t.original ∨
    classify t.original.path = .mediaRedirect
  identified : t.fingerprint ≠ [] -> extractToken t.original ≠ []
  fingerprinted : forall k, t.keyed = some k -> t.fingerprint ≠ []
  attributed : t.phase ≠ .arrived -> extractToken t.original ≠ [] -> t.scope ≠ []
  plain : A.writes -> isStateWrite t.original.path = true -> Plain t.original
  written : A.writes -> t.phase ≠ .arrived -> forall answer,
    WroteBefore s t.original t.arrivedAt answer -> t.scope = answer.scope
  phase : PhaseOK A s t t.phase

structure JobOK (j : Job) : Prop where
  known : j.k.read ∈ s.history.reads
  keyOf : KeyOf j.k.key j.k.read
  passed : j.k.read.time < s.clock
  sent : forall sentAt, j.phase = .sent sentAt -> j.k.read.time < sentAt
  checked : forall sentAt body, j.phase = .checked sentAt body ->
    j.k.read.time < sentAt

structure CallOK (c : Call) : Prop where
  passed : c.startedAt < s.clock
  committed : c.phase = .committed -> c.space = .all ->
    exists b, b ∈ s.history.bumps ∧ b.space = .all ∧ b.startedAt = c.startedAt

structure LastRead (x : CacheHit) (k : Keyed) (last : GenRead) : Prop where
  mem : last ∈ x.reads
  value : last.value = k.read.value
  flag : x.flagAt < last.time
  latest : forall q, q ∈ x.reads -> q.time ≤ last.time
  classes : forall q, q ∈ x.reads -> q = k.read ∨ q.cls = last.cls

structure HitOK (x : CacheHit) : Prop where
  entry : EntryOK s x.entry
  reads : forall q, q ∈ x.reads ->
    q ∈ s.history.reads ∧ x.arrivedAt < q.time ∧ q.scope = x.scope
  keyed : exists k last, k.read ∈ x.reads ∧ KeyOf k.key k.read ∧
    k.read.cls = classOf x.request.path ∧ x.entry.key = k.key ∧ LastRead x k last
  classes : A.classes -> forall q, q ∈ x.reads -> q.cls = classOf x.request.path
  leased : Leased s x.fingerprint x.arrivedAt x.leasedAt
  leasedBefore : x.leasedAt < x.time
  flag : FlagClear A s x.arrivedAt x.flagAt
  token : extractToken x.request ≠ []
  flagBefore : x.flagAt < x.time
  written : A.writes -> forall answer, WroteBefore s x.request x.arrivedAt answer ->
    x.scope = answer.scope

structure ArtworkHitOK (x : ArtworkHit) : Prop where
  reads : x.reads = []
  leased : Leased s x.fingerprint x.arrivedAt x.leasedAt
  leasedBefore : x.leasedAt < x.time

/-- An answer of the origin: a plain watch write retired the writer's scope first. -/
structure RelayedOK (answer : Relayed) : Prop where
  passed : answer.time < s.clock
  attributed : extractToken answer.request ≠ [] -> answer.scope ≠ []
  plain : A.writes -> isStateWrite answer.request.path = true -> Plain answer.request
  retired : IsWrite answer -> Plain answer.request -> answer.scope ≠ [] ->
    (exists b, b ∈ s.history.bumps ∧ b.space = .scope answer.scope ∧
      answer.sentAt < b.time ∧ b.time < answer.time) ∨
    exists n, n ∈ s.history.failures ∧ answer.sentAt < n ∧ n < answer.time

structure MemoryOK : Prop where
  reads : forall q, q ∈ s.history.reads -> q.time < s.clock
  bumps : forall b, b ∈ s.history.bumps -> b.time < s.clock
  started : forall b, b ∈ s.history.bumps -> b.startedAt ≤ b.time
  failures : forall n, n ∈ s.history.failures -> n < s.clock
  revocations : forall v, v ∈ s.history.revocations -> v.time < s.clock
  granted : forall g, g ∈ s.history.granted -> g.time < s.clock
  generations : A.unsaturated -> generationRegister.Ordered
    (fun k => getGeneration s.shared.generations k.1 k.2) s.history.reads s.history.bumps
  global : globalRegister.Ordered (fun _ => row s.shared.generations [] [])
    s.history.reads s.history.bumps
  leases : forall lease, lease ∈ s.shared.grants.grants ->
    exists g, g ∈ s.history.granted ∧ g.fingerprint = lease.key.fingerprint ∧
      forall v, v ∈ s.history.revocations -> v.fingerprint = lease.key.fingerprint ->
        v.time < g.time
  latched : A.clears -> forall n, n ∈ s.history.failures -> s.shared.broken = true ∨
    exists b, b ∈ s.history.bumps ∧ b.space = .all ∧ n < b.startedAt
  fetched : A.grants -> forall g, g ∈ s.history.granted ->
    forall v, v ∈ s.history.revocations -> v.rejected = true ->
      v.fingerprint = g.fingerprint -> v.time < g.time ->
      exists g', g' ∈ s.history.granted ∧ g'.fingerprint = g.fingerprint ∧
        v.time < g'.sentAt ∧ g'.time ≤ g.time

structure PartiesOK : Prop where
  threads : forall i t, s.threads.lookup i = some t -> ThreadOK A s t
  calls : forall i c, s.calls.lookup i = some c -> CallOK s c
  jobs : forall i j, s.jobs.lookup i = some j -> JobOK s j
  entries : forall e, e ∈ s.shared.entries -> EntryOK s e
  hits : forall x, x ∈ s.history.hits -> HitOK A s x
  artworkHits : forall x, x ∈ s.history.artworkHits -> ArtworkHitOK s x
  relayed : forall answer, answer ∈ s.history.relayed -> RelayedOK A s answer

structure Sound : Prop where
  memory : MemoryOK A s
  parties : PartiesOK A s

end Facts

/-!
## A longer history
-/

/-- The history grew: nothing was lost, and what is new carries a later moment. -/
structure Later (s s' : State) : Prop where
  clock : s.clock ≤ s'.clock
  reads : s.history.reads ⊆ s'.history.reads
  bumps : s.history.bumps ⊆ s'.history.bumps
  granted : s.history.granted ⊆ s'.history.granted
  failures : s.history.failures ⊆ s'.history.failures
  newFailures : forall n, n ∈ s'.history.failures -> n ∈ s.history.failures ∨ s.clock ≤ n
  newRevocations : forall v, v ∈ s'.history.revocations ->
    v ∈ s.history.revocations ∨ s.clock ≤ v.time
  newRelayed : forall answer, answer ∈ s'.history.relayed ->
    answer ∈ s.history.relayed ∨ s.clock ≤ answer.time

section Growth

variable {A : Assumptions} {s s' : State} (hl : Later s s')

include hl

theorem EntryOK.later {e : Entry} (h : EntryOK s e) : EntryOK s' e :=
  { h with
    known := hl.reads h.known }

variable {n arrivedAt : Moment}

theorem Leased.later {f : GoString} (h : Leased s f arrivedAt n) :
    Leased s' f arrivedAt n where
  after := h.after
  passed := Nat.lt_of_lt_of_le h.passed hl.clock
  backed := by
    rcases h.backed with ⟨g, hg, hf, hbefore, hlast⟩
    refine ⟨g, hl.granted hg, hf, hbefore, ?_⟩
    intro v hv hvf hvn
    rcases hl.newRevocations v hv with hold | hnew
    · exact hlast v hold hvf hvn
    · exact absurd (Nat.lt_of_lt_of_le h.passed hnew) (Nat.lt_asymm hvn)

theorem FlagClear.later (h : FlagClear A s arrivedAt n) :
    FlagClear A s' arrivedAt n where
  after := h.after
  passed := Nat.lt_of_lt_of_le h.passed hl.clock
  recovered := by
    intro hA m hm hmn
    rcases hl.newFailures m hm with hold | hnew
    · rcases h.recovered hA m hold hmn with ⟨b, hb, hall, hstart, htime⟩
      exact ⟨b, hl.bumps hb, hall, hstart, htime⟩
    · exact absurd (Nat.lt_of_lt_of_le h.passed hnew) (Nat.lt_asymm hmn)

theorem Retired.later {scope : GoString} (h : Retired s scope n) :
    Retired s' scope n := by
  rcases h with ⟨b, hb, hspace, htime⟩ | ⟨m, hm, htime⟩
  · exact Or.inl ⟨b, hl.bumps hb, hspace, htime⟩
  · exact Or.inr ⟨m, hl.failures hm, htime⟩

variable {t : Thread}

theorem SentOK.later (h : SentOK s t n) : SentOK s' t n where
  passed := Nat.lt_of_lt_of_le h.passed hl.clock
  keyed := h.keyed

theorem WroteBefore.earlier {r : Net.Request} {answer : Relayed}
    (harrived : arrivedAt < s.clock) (h : WroteBefore s' r arrivedAt answer) :
    WroteBefore s r arrivedAt answer := by
  rcases h with ⟨hmem, hwrite, htoken, htime⟩
  rcases hl.newRelayed answer hmem with hold | hnew
  · exact ⟨hold, hwrite, htoken, htime⟩
  · exact absurd (Nat.lt_of_lt_of_le harrived hnew) (Nat.lt_asymm htime)

theorem PhaseOK.later {p : Phase} (h : PhaseOK A s t p) :
    PhaseOK A s' t p := by
  cases p with
  | artworkGet | lookupGet => exact ⟨h.left, h.right.later hl⟩
  | lookupFlag attempt k leasedAt entry =>
    rcases h with ⟨hkeyed, hleased, hentry, hkey⟩
    exact ⟨hkeyed, hleased.later hl, hentry.later hl, hkey⟩
  | lookupGeneration attempt k leasedAt entry flagAt =>
    rcases h with ⟨hkeyed, hleased, hentry, hkey, hflag⟩
    exact ⟨hkeyed, hleased.later hl, hentry.later hl, hkey, hflag.later hl⟩
  | sent | retiring | retireFailed => exact SentOK.later hl h
  | relaying sentAt status => exact ⟨h.left.later hl, fun hretires => (h.right hretires).later hl⟩
  | _ => exact h

theorem ThreadOK.later (h : ThreadOK A s t) : ThreadOK A s' t :=
  { h with
    arrived := Nat.lt_of_lt_of_le h.arrived hl.clock
    reads := by
      intro q hq
      rcases h.reads q hq with ⟨hmem, htime, hscope⟩
      exact ⟨hl.reads hmem, htime, hscope⟩
    written := fun hA hphase answer hanswer =>
      h.written hA hphase answer (hanswer.earlier hl h.arrived)
    phase := h.phase.later hl }

theorem JobOK.later {j : Job} (h : JobOK s j) : JobOK s' j :=
  { h with
    known := hl.reads h.known
    passed := Nat.lt_of_lt_of_le h.passed hl.clock }

theorem CallOK.later {c : Call} (h : CallOK s c) : CallOK s' c where
  passed := Nat.lt_of_lt_of_le h.passed hl.clock
  committed := by
    intro hphase hall
    rcases h.committed hphase hall with ⟨b, hb, hspace, hstart⟩
    exact ⟨b, hl.bumps hb, hspace, hstart⟩

theorem HitOK.later {x : CacheHit} (h : HitOK A s x) : HitOK A s' x :=
  { h with
    entry := h.entry.later hl
    reads := by
      intro q hq
      rcases h.reads q hq with ⟨hmem, htime, hscope⟩
      exact ⟨hl.reads hmem, htime, hscope⟩
    leased := h.leased.later hl
    flag := h.flag.later hl
    written := fun hA answer hanswer =>
      h.written hA answer (hanswer.earlier hl (Nat.lt_trans h.flag.after h.flag.passed)) }

theorem ArtworkHitOK.later {x : ArtworkHit} (h : ArtworkHitOK s x) : ArtworkHitOK s' x :=
  { h with
    leased := h.leased.later hl }

theorem RelayedOK.later {answer : Relayed} (h : RelayedOK A s answer) :
    RelayedOK A s' answer :=
  { h with
    passed := Nat.lt_of_lt_of_le h.passed hl.clock
    retired := by
      intro hwrite hplain hscope
      rcases h.retired hwrite hplain hscope with ⟨b, hb, hrest⟩ | ⟨n, hn, hrest⟩
      · exact Or.inl ⟨b, hl.bumps hb, hrest⟩
      · exact Or.inr ⟨n, hl.failures hn, hrest⟩ }

end Growth

end ReplxEdge.Serving
