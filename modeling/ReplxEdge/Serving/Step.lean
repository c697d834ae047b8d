import ReplxEdge.Serving.State

/-!
# Steps

The programs of a request, of an invalidation call and of a background refresh,
cut at every access to shared memory, to the database and to the origin. A step
lets one of them pass one such point; what the outside answers there is part of
the action.
-/

namespace ReplxEdge.Serving

open Foundation
open Net
open Cache
open Identity
open Gateway
open Trace
open Proxy

structure Config where
  secret : GoString
  mode : IngressMode
  identity : Bool

inductive PartAnswer where
  | allow
  | deny
  | substitute (key : GoString)

/-- What the playback engine does with a negotiation: answer it on its own, forward it,
or leave it to the proxy. -/
inductive DecisionAnswer where
  | refuse
  | forward
  | transparent

/-- What the outside answers at one point. `ok` is the success of the call that is
made there, `applied` whether a failed bump was applied all the same, `found` the
stored entry that a lookup returns. -/
structure Answer where
  ok : Bool
  resolved : Resolved
  part : PartAnswer
  decision : DecisionAnswer
  found : Option Nat
  status : Nat
  body : GoString
  commit : Bool
  applied : Bool
  order : Order Lease

/-!
## A request
-/

section Request

variable (cfg : Config) (s : State) (i : Nat) (t : Thread) (a : Answer)

def move (p : Phase) : State :=
  s.setThread i { t with phase := p }

def tokenScope (f : GoString) : GoString :=
  str "tok:" ++ f

def observedScope (f : GoString) (res : Resolved) : GoString :=
  if res.identityID ≠ [] then str "user:" ++ res.identityID
  else if res.scope ≠ [] then res.scope
  else tokenScope f

def nextScope : GoString :=
  let token := extractToken t.original
  if token = [] then []
  else if cfg.identity then observedScope (fingerprint cfg.secret token) a.resolved
  else tokenScope (fingerprint cfg.secret token)

def identified : Thread :=
  if extractToken t.original = [] then { t with phase := .resolved }
  else
    { t with
      fingerprint := fingerprint cfg.secret (extractToken t.original)
      scope := nextScope cfg t a
      fresh := cfg.identity && a.resolved.fresh
      invalid := cfg.identity && a.resolved.invalid
      phase := .resolved }

/-- Resolve the token. A credential that plex.tv rejected loses its leases. -/
def observeToken : State :=
  let seen := identified cfg t a
  if seen.invalid ∧ extractToken t.original ≠ [] then
    (s.revoke seen.fingerprint false).setThread i seen
  else s.setThread i seen

def admitted : Bool :=
  t.fingerprint != [] && t.scope != [] && !t.invalid &&
    (requestCacheable t.original).isSome

def observeGeneration : State :=
  if admitted t && a.ok then
    let read := s.currentRead t.scope (classOf t.original.path)
    (s.readGeneration t.scope (classOf t.original.path)).setThread i
      { t with
        keyed := some
          ⟨requestKeyGen t.scope (classOf t.original.path).label t.original
            read.value.1 read.value.2, read⟩
        reads := [read]
        phase := .keyed }
  else move s i t .routing

def observeFlag : State :=
  s.setThread i
    { t with
      keyed := if s.shared.broken then none else t.keyed
      phase := .routing }

def artworkAdmitted : Bool :=
  let h := t.request.header
  t.fingerprint != [] && t.scope != [] && artworkMatch t.request.path &&
    t.request.method == str "GET" && h.get (str "Range") == [] &&
    h.get (str "Cookie") == [] && h.get (str "Authorization") == [] &&
    !conditional h &&
    !contains (toLower (h.get (str "Cache-Control"))) (str "no-store") &&
    !contains (toLower (h.get (str "Cache-Control"))) (str "no-cache") &&
    !contains (toLower (h.get (str "Pragma"))) (str "no-cache") &&
    !t.invalid && (!cfg.identity || t.fresh)

def controlTail : Phase :=
  if artworkAdmitted cfg t then .artwork else .lookup .first

def controlRoute : Phase :=
  if isWebSocket t.request || isSSE t.request then .done
  else if isDecision t.request.path then .decision
  else controlTail cfg t

/-- The media route in direct mode has no first lookup. -/
def mediaRoute : Phase :=
  if isWebSocket t.request || isSSE t.request then .done
  else
    match t.keyed with
    | some k => .waiting k
    | none => .proxying

def directMedia : State :=
  if partIDFromPath t.request.path ≠ [] ∨ isManifest t.request.path = true then
    match a.part with
    | .deny => move s i t .done
    | .allow => move s i t (mediaRoute t)
    | .substitute key =>
      let substituted := { t with request := substitutePartRequest t.request key }
      move s i substituted (mediaRoute substituted)
  else move s i t (mediaRoute t)

def route : State :=
  if t.request.host ≠ [] ∨ hasPrefix t.request.path (str "//") = true then
    move s i t .done
  else
    match classify t.request.path with
    | .denySessions => move s i t .done
    | .denyUnknownMedia =>
      match cfg.mode with
      | .cloudflareTunnel => move s i t .done
      | .direct => move s i t (controlRoute cfg t)
    | .mediaRedirect =>
      match cfg.mode with
      | .cloudflareTunnel => move s i t .done
      | .direct => directMedia s i t a
    | .playQueueObserve => move s i t (controlRoute cfg t)
    | .control => move s i t (controlRoute cfg t)

def handleDecision : State :=
  match a.decision with
  | .refuse => move s i t .done
  | .transparent => move s i t (controlTail cfg t)
  | .forward => move s.stamp i t (.decisionSent s.clock)

def successful (status : Nat) : Bool :=
  200 ≤ status && status ≤ 299

/-- The engine relays a negotiation that PMS accepted, and refuses otherwise. -/
def relayDecision (sentAt : Moment) : State :=
  if successful a.status then
    move (s.relay ⟨s.clock, t.original, t.scope, sentAt, a.status⟩) i t .done
  else move s i t .done

/-!
### Artwork
-/

def artworkCacheKey (scope : GoString) (r : Net.Request) : GoString :=
  hexEncode (sha256 (requestKeyGen scope ResponseClass.artwork.label r 0 0))

def artworkDeclined : State :=
  move s i t (.lookup .first)

def artworkLease : State :=
  if a.ok then
    let key := artworkCacheKey t.scope t.request
    if s.leased t.fingerprint key then
      move (s.checkLease t.fingerprint key) i t (.artworkGet s.clock)
    else move (s.checkLease t.fingerprint key) i t .artworkFetch
  else artworkDeclined s i t

def foundArtwork (key : GoString) : Option ArtworkEntry :=
  (a.found.bind fun n => s.shared.artwork[n]?).filter fun entry => entry.key == key

def artworkServe (leasedAt : Moment) : State :=
  match foundArtwork s a (artworkCacheKey t.scope t.request) with
  | some entry =>
    move (s.logArtworkHit
      ⟨s.clock, t.original, t.arrivedAt, t.fingerprint, t.reads, leasedAt, entry⟩)
      i t .done
  | none => move s i t .artworkFetch

def artworkSend : State :=
  if a.ok then move s.stamp i t (.artworkSent s.clock)
  else artworkDeclined s i t

def rejectedStatus (status : Nat) : Bool :=
  status == 401 || status == 403

def revokeRejectedAuthorization (status : Nat) : State :=
  if rejectedStatus status then s.revoke t.fingerprint true else s

def artworkReceive (sentAt : Moment) : State :=
  if a.ok then
    move (revokeRejectedAuthorization s t a.status) i t
      (.artworkReceived sentAt a.status)
  else artworkDeclined s i t

def artworkStore (sentAt : Moment) (status : Nat) : State :=
  if a.ok then
    if status == 200 && a.commit then
      move (s.publishArtwork ⟨artworkCacheKey t.scope t.request, a.body⟩) i t
        (.artworkGranting sentAt)
    else move s i t (.artworkRelaying sentAt status)
  else artworkDeclined s i t

def artworkGrant (sentAt : Moment) : State :=
  move (s.grant a.order t.fingerprint (artworkCacheKey t.scope t.request) sentAt) i t
    (.artworkRelaying sentAt 200)

def artworkRelay (sentAt : Moment) (status : Nat) : State :=
  move (s.relay ⟨s.clock, t.original, t.scope, sentAt, status⟩) i t .done

/-!
### The response store
-/

/-- Where a request goes after a lookup that served nothing. -/
def afterMiss (attempt : Attempt) (k : Keyed) : Phase :=
  match attempt with
  | .first => .waiting k
  | .waited => .acquiring k
  | .lost => .proxying

def lookupStart (attempt : Attempt) : State :=
  match t.keyed with
  | none => move s i t .proxying
  | some k =>
    if s.shared.broken then move s i t (afterMiss attempt k)
    else move s i t (.lookupLease attempt k)

def lookupLease (attempt : Attempt) (k : Keyed) : State :=
  if s.leased t.fingerprint k.key then
    move (s.checkLease t.fingerprint k.key) i t (.lookupGet attempt k s.clock)
  else move (s.checkLease t.fingerprint k.key) i t (afterMiss attempt k)

/-- The stored response that a lookup returns. -/
def foundEntry (key : GoString) : Option Entry :=
  (a.found.bind fun n => s.shared.entries[n]?).filter fun entry => entry.key == key

def lookupGet (attempt : Attempt) (k : Keyed) (leasedAt : Moment) : State :=
  match foundEntry s a k.key with
  | none => move s i t (afterMiss attempt k)
  | some entry => move s i t (.lookupFlag attempt k leasedAt entry)

def lookupFlag (attempt : Attempt) (k : Keyed) (leasedAt : Moment) (entry : Entry) : State :=
  if s.shared.broken then move s i t (afterMiss attempt k)
  else move s.stamp i t (.lookupGeneration attempt k leasedAt entry s.clock)

def recheck : GenRead :=
  s.currentRead t.scope (classOf t.request.path)

def rechecked : Thread :=
  { t with reads := recheck s t :: t.reads }

def afterRecheck : State :=
  s.readGeneration t.scope (classOf t.request.path)

def lookupGeneration (attempt : Attempt) (k : Keyed) (leasedAt : Moment) (entry : Entry)
    (flagAt : Moment) : State :=
  if a.ok then
    if (recheck s t).value = k.read.value then
      move ((afterRecheck s t).logHit ⟨s.clock + 1, t.original, t.arrivedAt, t.fingerprint, t.scope,
          recheck s t :: t.reads, leasedAt, flagAt, entry⟩) i (rechecked s t) .done
    else move (afterRecheck s t) i (rechecked s t) (afterMiss attempt k)
  else move s i t (afterMiss attempt k)

def wait (k : Keyed) : State :=
  if s.shared.flights.contains k.key && a.ok then
    move s i t (.lookup .waited)
  else move s i t (.acquiring k)

def acquire (k : Keyed) : State :=
  if s.shared.flights.contains k.key then move s i t (.lookup .lost)
  else move (s.beginFlight k.key) i { t with flight := true } .proxying

/-!
### The origin
-/

def finish : State :=
  match t.keyed with
  | some k => if t.flight then move (s.endFlight k.key) i t .done else move s i t .done
  | none => move s i t .done

def send : State :=
  if a.ok then move s.stamp i t (.sent s.clock) else finish s i t

/-- Whether an answer of the origin retires the writer's responses. -/
def retires (status : Nat) : Bool :=
  t.request.method != str "HEAD" && t.request.method != str "OPTIONS" &&
    (200 ≤ status && status < 300) && isStateWrite t.request.path && t.scope != []

def receive (sentAt : Moment) : State :=
  if a.ok then
    if retires t a.status then
      move (revokeRejectedAuthorization s t a.status) i t (.retiring sentAt a.status)
    else move (revokeRejectedAuthorization s t a.status) i t (.relaying sentAt a.status)
  else finish s i t

def bumpStateGeneration (sentAt : Moment) (status : Nat) : State :=
  if a.ok then
    move (s.bumpGeneration (.scope t.scope) s.clock) i t
      (.relaying sentAt status)
  else
    move (s.bumpUnreported (.scope t.scope) a.applied) i t
      (.retireFailed sentAt status)

def recordRetireFailure (sentAt : Moment) (status : Nat) : State :=
  move s.raiseFlag i t (.relaying sentAt status)

/-- Write the answer; a storable body of a keyed request is kept while it is copied. -/
def relayAnswer (sentAt : Moment) (status : Nat) : State :=
  let told := s.relay ⟨s.clock, t.original, t.scope, sentAt, status⟩
  match t.keyed with
  | none => finish told i t
  | some k =>
    if status == 200 && a.ok then move told i t (.copying sentAt k)
    else finish told i t

def copyBody (sentAt : Moment) (k : Keyed) : State :=
  if a.ok then move s i t (.copied sentAt k a.body) else finish s i t

def publishFlag (sentAt : Moment) (k : Keyed) (body : GoString) : State :=
  if s.shared.broken then finish s i t
  else move s i t (.publishing sentAt k body)

def publishGeneration (sentAt : Moment) (k : Keyed) (body : GoString) : State :=
  if a.ok then
    if (recheck s t).value = k.read.value then
      move (afterRecheck s t) i (rechecked s t) (.storing sentAt k body)
    else finish (afterRecheck s t) i (rechecked s t)
  else finish s i t

def storeEntry (sentAt : Moment) (k : Keyed) (body : GoString) : State :=
  if a.ok then
    move (s.publish ⟨k.key, body, k.read, sentAt⟩) i t (.granting sentAt k)
  else finish s i t

def grantEntry (sentAt : Moment) (k : Keyed) : State :=
  finish (s.grant a.order t.fingerprint k.key sentAt) i t

/-- Pass the point where the request stands. -/
def advance : State :=
  match t.phase with
  | .arrived => observeToken cfg s i t a
  | .resolved => observeGeneration s i t a
  | .keyed => observeFlag s i t
  | .routing => route cfg s i t a
  | .decision => handleDecision cfg s i t a
  | .decisionSent sentAt => relayDecision s i t a sentAt
  | .artwork => artworkLease s i t a
  | .artworkGet leasedAt => artworkServe s i t a leasedAt
  | .artworkFetch => artworkSend s i t a
  | .artworkSent sentAt => artworkReceive s i t a sentAt
  | .artworkReceived sentAt status => artworkStore s i t a sentAt status
  | .artworkGranting sentAt => artworkGrant s i t a sentAt
  | .artworkRelaying sentAt status => artworkRelay s i t sentAt status
  | .lookup attempt => lookupStart s i t attempt
  | .lookupLease attempt k => lookupLease s i t attempt k
  | .lookupGet attempt k leasedAt => lookupGet s i t a attempt k leasedAt
  | .lookupFlag attempt k leasedAt entry => lookupFlag s i t attempt k leasedAt entry
  | .lookupGeneration attempt k leasedAt entry flagAt =>
    lookupGeneration s i t a attempt k leasedAt entry flagAt
  | .waiting k => wait s i t a k
  | .acquiring k => acquire s i t k
  | .proxying => send s i t a
  | .sent sentAt => receive s i t a sentAt
  | .retiring sentAt status => bumpStateGeneration s i t a sentAt status
  | .retireFailed sentAt status => recordRetireFailure s i t sentAt status
  | .relaying sentAt status => relayAnswer s i t a sentAt status
  | .copying sentAt k => copyBody s i t a sentAt k
  | .copied sentAt k body => publishFlag s i t sentAt k body
  | .publishing sentAt k body => publishGeneration s i t a sentAt k body
  | .storing sentAt k body => storeEntry s i t a sentAt k body
  | .granting sentAt k => grantEntry s i t a sentAt k
  | .done => s

end Request

def arrival (s : State) (r : Net.Request) : Thread where
  original := r
  request := r
  arrivedAt := s.clock
  fingerprint := []
  scope := []
  fresh := false
  invalid := false
  keyed := none
  reads := []
  flight := false
  phase := .arrived

/-!
## An invalidation call
-/

def invalidated (scope cls : GoString) : Namespace :=
  if (scope = str "all" ∨ scope = []) ∧ cls ≠ [] then .serverClass cls
  else if scope = [] ∨ scope = str "all" then .all
  else if cls = [] then .scope scope
  else .scopeClass scope cls

section Call

variable (s : State) (i : Nat) (c : Call)

def executeCall (ok applied : Bool) : State :=
  if ok then
    (s.bumpGeneration c.space c.startedAt).setCall i { c with phase := .committed }
  else
    (s.bumpUnreported c.space applied).setCall i { c with phase := .failed }

def recordCall : State :=
  match c.phase with
  | .committed =>
    if c.space = .all then
      s.clearFlag.setCall i { c with phase := .returned }
    else s.setCall i { c with phase := .returned }
  | .failed => s.raiseFlag.setCall i { c with phase := .returned }
  | _ => s

end Call

/-!
## A background refresh
-/

def snapshotKey (n : Snapshot) (read : GenRead) : GoString :=
  responseKeyGen n.scope n.cls.label n.method n.path (parseQuery n.rawQuery) n.accept
    read.value.1 read.value.2

section Job

variable (s : State) (i : Nat)

def warmStart (n : Snapshot) : State :=
  (s.readGeneration n.scope n.cls).setJob i
    ⟨n, ⟨snapshotKey n (s.currentRead n.scope n.cls), s.currentRead n.scope n.cls⟩, .keyed⟩

/-- Fetch, check the key again, and publish; the flag is not consulted. -/
def warmAdvance (j : Job) (body : GoString) : State :=
  match j.phase with
  | .keyed => s.stamp.setJob i { j with phase := .sent s.clock }
  | .sent sentAt =>
    let checked := s.readGeneration j.snapshot.scope j.snapshot.cls
    if snapshotKey j.snapshot (s.currentRead j.snapshot.scope j.snapshot.cls) = j.k.key then
      checked.setJob i { j with phase := .checked sentAt body }
    else checked.dropJob i
  | .checked sentAt stored =>
    (s.publish ⟨j.k.key, stored, j.k.read, sentAt⟩).dropJob i

end Job

/-!
## The system
-/

inductive Action where
  | tick (d : Nat)
  | arrive (i : Nat) (r : Net.Request)
  | advance (i : Nat) (a : Answer)
  | invalidate (i : Nat) (scope cls : GoString)
  | execute (i : Nat) (ok applied : Bool)
  | record (i : Nat)
  | warm (i : Nat) (n : Snapshot)
  | warmAdvance (i : Nat) (body : GoString)

/-- One step; `none` when there is nothing to step, or the name is taken. -/
def step (cfg : Config) (s : State) : Action -> Option State
  | .tick d => some { s with shared := { s.shared with now := s.shared.now + d } }
  | .arrive i r =>
    match s.threads.lookup i with
    | some _ => none
    | none => some (s.stamp.setThread i (arrival s r))
  | .advance i a => (s.threads.lookup i).map fun t => advance cfg s i t a
  | .invalidate i scope cls =>
    match s.calls.lookup i with
    | some _ => none
    | none => some (s.stamp.setCall i ⟨invalidated scope cls, s.clock, .started⟩)
  | .execute i ok applied =>
    match s.calls.lookup i with
    | some c =>
      if c.phase = .started then some (executeCall s i c ok applied) else none
    | none => none
  | .record i => (s.calls.lookup i).map fun c => recordCall s i c
  | .warm i n =>
    match s.jobs.lookup i with
    | some _ => none
    | none => some (warmStart s i n)
  | .warmAdvance i body => (s.jobs.lookup i).map fun j => warmAdvance s i j body

def ends : Phase -> Bool
  | .done => true
  | _ => false

end ReplxEdge.Serving
