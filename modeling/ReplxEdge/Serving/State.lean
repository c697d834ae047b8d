import ReplxEdge.Cache.Generations
import ReplxEdge.Identity.Grants
import ReplxEdge.Identity.Resolver
import ReplxEdge.Proxy.Serve

/-!
# The shared state of concurrent requests

Requests, invalidation calls and background refreshes run side by side over one
generation table, one response store, one artwork store, one lease table and one
flag. Each of them is a record of where it stands in its own program. Next to
the shared memory a history keeps what happened, each event with the moment it
happened at; a moment is never used twice.
-/

namespace ReplxEdge.Serving

open Foundation
open Net
open Cache
open Identity

abbrev Moment := Nat

/-!
## Events
-/

structure GenRead where
  time : Moment
  scope : GoString
  cls : ResponseClass
  value : Nat × Nat
deriving DecidableEq

structure Bump where
  time : Moment
  startedAt : Moment
  space : Namespace
deriving DecidableEq

/-- A revocation, because the origin rejected the credential or because plex.tv did. -/
structure Revocation where
  time : Moment
  fingerprint : GoString
  rejected : Bool
deriving DecidableEq

/-- A lease given for a fetch that was completed and stored. -/
structure Granted where
  time : Moment
  fingerprint : GoString
  sentAt : Moment
deriving DecidableEq

/-- A stored response, with the read behind its key and the start of its fetch. -/
structure Entry where
  key : GoString
  body : GoString
  read : GenRead
  sentAt : Moment
deriving DecidableEq

structure ArtworkEntry where
  key : GoString
  body : GoString
deriving DecidableEq

/-- A request answered from the response store. `reads` are the generation reads that
it made, `leasedAt` and `flagAt` its last lease and flag checks. -/
structure CacheHit where
  time : Moment
  request : Request
  arrivedAt : Moment
  fingerprint : GoString
  scope : GoString
  reads : List GenRead
  leasedAt : Moment
  flagAt : Moment
  entry : Entry

structure ArtworkHit where
  time : Moment
  request : Request
  arrivedAt : Moment
  fingerprint : GoString
  reads : List GenRead
  leasedAt : Moment
  entry : ArtworkEntry

structure Relayed where
  time : Moment
  request : Request
  scope : GoString
  sentAt : Moment
  status : Nat

structure History where
  reads : List GenRead
  bumps : List Bump
  failures : List Moment
  revocations : List Revocation
  granted : List Granted
  hits : List CacheHit
  artworkHits : List ArtworkHit
  relayed : List Relayed

def History.empty : History where
  reads := []
  bumps := []
  failures := []
  revocations := []
  granted := []
  hits := []
  artworkHits := []
  relayed := []

/-!
## Shared memory
-/

/-- The stores keep everything that was ever set; a lookup may find any of it or
nothing. `broken` is the flag of a failed invalidation. -/
structure Shared where
  generations : GenerationTable
  entries : List Entry
  artwork : List ArtworkEntry
  grants : ResourceGrants
  flights : List GoString
  broken : Bool
  now : Instant

/-!
## Programs
-/

structure Keyed where
  key : GoString
  read : GenRead
deriving DecidableEq

/-- The lookups of one request: at once, after waiting for a flight, and after losing
the race for it. -/
inductive Attempt where
  | first
  | waited
  | lost
deriving DecidableEq

inductive Phase where
  | arrived
  | resolved
  | keyed
  | routing
  | decision
  | decisionSent (sentAt : Moment)
  | artwork
  | artworkGet (leasedAt : Moment)
  | artworkFetch
  | artworkSent (sentAt : Moment)
  | artworkReceived (sentAt : Moment) (status : Nat)
  | artworkGranting (sentAt : Moment)
  | artworkRelaying (sentAt : Moment) (status : Nat)
  | lookup (attempt : Attempt)
  | lookupLease (attempt : Attempt) (k : Keyed)
  | lookupGet (attempt : Attempt) (k : Keyed) (leasedAt : Moment)
  | lookupFlag (attempt : Attempt) (k : Keyed) (leasedAt : Moment) (entry : Entry)
  | lookupGeneration (attempt : Attempt) (k : Keyed) (leasedAt : Moment) (entry : Entry)
      (flagAt : Moment)
  | waiting (k : Keyed)
  | acquiring (k : Keyed)
  | proxying
  | sent (sentAt : Moment)
  | retiring (sentAt : Moment) (status : Nat)
  | retireFailed (sentAt : Moment) (status : Nat)
  | relaying (sentAt : Moment) (status : Nat)
  | copying (sentAt : Moment) (k : Keyed)
  | copied (sentAt : Moment) (k : Keyed) (body : GoString)
  | publishing (sentAt : Moment) (k : Keyed) (body : GoString)
  | storing (sentAt : Moment) (k : Keyed) (body : GoString)
  | granting (sentAt : Moment) (k : Keyed)
  | done

/-- One request. `original` is what the client sent; `request` is what is handled,
after the part boundary may have substituted another part. -/
structure Thread where
  original : Request
  request : Request
  arrivedAt : Moment
  fingerprint : GoString
  scope : GoString
  fresh : Bool
  invalid : Bool
  keyed : Option Keyed
  reads : List GenRead
  flight : Bool
  phase : Phase

inductive CallPhase where
  | started
  | committed
  | failed
  | returned
deriving DecidableEq

structure Call where
  space : Namespace
  startedAt : Moment
  phase : CallPhase

structure Snapshot where
  method : GoString
  path : GoString
  rawQuery : GoString
  accept : GoString
  scope : GoString
  cls : ResponseClass

inductive JobPhase where
  | keyed
  | sent (sentAt : Moment)
  | checked (sentAt : Moment) (body : GoString)

structure Job where
  snapshot : Snapshot
  k : Keyed
  phase : JobPhase

structure State where
  shared : Shared
  history : History
  clock : Moment
  threads : Table Nat Thread
  calls : Table Nat Call
  jobs : Table Nat Job

/-- Nothing runs, nothing is stored; the generation table is durable. -/
def State.start (generations : GenerationTable) (now : Instant) : State where
  shared := ⟨generations, [], [], ResourceGrants.empty, [], false, now⟩
  history := History.empty
  clock := 0
  threads := Table.empty
  calls := Table.empty
  jobs := Table.empty

/-!
## Operations on the shared state
-/

namespace State

def stamp (s : State) : State :=
  { s with clock := s.clock + 1 }

def setThread (s : State) (i : Nat) (t : Thread) : State :=
  { s with threads := s.threads.set i t }

def setCall (s : State) (i : Nat) (c : Call) : State :=
  { s with calls := s.calls.set i c }

def setJob (s : State) (i : Nat) (j : Job) : State :=
  { s with jobs := s.jobs.set i j }

def dropJob (s : State) (i : Nat) : State :=
  { s with jobs := s.jobs.delete i }

def currentRead (s : State) (scope : GoString) (cls : ResponseClass) : GenRead :=
  ⟨s.clock, scope, cls, getGeneration s.shared.generations scope cls⟩

def readGeneration (s : State) (scope : GoString) (cls : ResponseClass) : State :=
  { s.stamp with
    history := { s.history with reads := s.currentRead scope cls :: s.history.reads } }

def bumpGeneration (s : State) (space : Namespace) (startedAt : Moment) : State :=
  { s.stamp with
    shared := { s.shared with generations := bump s.shared.generations space }
    history := { s.history with bumps := ⟨s.clock, startedAt, space⟩ :: s.history.bumps } }

/-- A bump that is reported as failed may have been applied all the same. -/
def bumpUnreported (s : State) (space : Namespace) (applied : Bool) : State :=
  if applied then
    { s with shared := { s.shared with generations := bump s.shared.generations space } }
  else s

def raiseFlag (s : State) : State :=
  { s.stamp with
    shared := { s.shared with broken := true }
    history := { s.history with failures := s.clock :: s.history.failures } }

def clearFlag (s : State) : State :=
  { s with shared := { s.shared with broken := false } }

def revoke (s : State) (fingerprint : GoString) (rejected : Bool) : State :=
  { s.stamp with
    shared := { s.shared with grants := s.shared.grants.revoke fingerprint }
    history :=
      { s.history with
        revocations := ⟨s.clock, fingerprint, rejected⟩ :: s.history.revocations } }

def leased (s : State) (fingerprint key : GoString) : Bool :=
  (s.shared.grants.authorized s.shared.now fingerprint key).1

def checkLease (s : State) (fingerprint key : GoString) : State :=
  { s.stamp with
    shared :=
      { s.shared with
        grants := (s.shared.grants.authorized s.shared.now fingerprint key).2 } }

def grant (s : State) (order : Order Lease) (fingerprint key : GoString)
    (sentAt : Moment) : State :=
  { s.stamp with
    shared :=
      { s.shared with
        grants := s.shared.grants.grant order s.shared.now fingerprint key }
    history :=
      { s.history with
        granted := ⟨s.clock, fingerprint, sentAt⟩ :: s.history.granted } }

def publish (s : State) (entry : Entry) : State :=
  { s with shared := { s.shared with entries := entry :: s.shared.entries } }

def publishArtwork (s : State) (entry : ArtworkEntry) : State :=
  { s with shared := { s.shared with artwork := entry :: s.shared.artwork } }

def logHit (s : State) (hit : CacheHit) : State :=
  { s.stamp with history := { s.history with hits := hit :: s.history.hits } }

def logArtworkHit (s : State) (hit : ArtworkHit) : State :=
  { s.stamp with
    history := { s.history with artworkHits := hit :: s.history.artworkHits } }

def relay (s : State) (answer : Relayed) : State :=
  { s.stamp with history := { s.history with relayed := answer :: s.history.relayed } }

def beginFlight (s : State) (key : GoString) : State :=
  { s with shared := { s.shared with flights := key :: s.shared.flights } }

def endFlight (s : State) (key : GoString) : State :=
  { s with shared := { s.shared with flights := s.shared.flights.filter (· != key) } }

end State

end ReplxEdge.Serving
