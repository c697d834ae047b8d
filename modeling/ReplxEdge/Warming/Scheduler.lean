import ReplxEdge.Foundation.Journal
import ReplxEdge.Serving.Warmer

/-!
# The background scheduler

A pass of the warmer repeats tracked requests one after another. It chooses a job, fetches
it and publishes the answer, and takes the warmer's lock only in between, so requests,
revocations and the operator may come at any point. A step is one section under the lock
or one event outside. A job that was tracked without a credential may be refreshed with the
token of the owner, which a pass looks up when it begins.

The token is never part of a job: a job that was tracked with one needs the context of its
scope, which lives for two minutes.
-/

namespace ReplxEdge.Warming

open Foundation
open Serving

/-!
## State
-/

abbrev Job := Tracked

inductive Lease where
  | context (token : GoString) (version : Nat)
  | owner (token : GoString)

structure Candidate where
  id : GoString
  job : Job
  lease : Lease
  served : Nat

def Candidate.scope (c : Candidate) : GoString :=
  c.job.snap.scope

structure Pass where
  owner : GoString
  ownerScope : GoString
  perScope : Table GoString Nat
  used : Nat
  requests : Nat

inductive Ending where
  | succeeded
  | failed (status : Nat)

/-- Where the running pass stands. The last number is what was read of a body. -/
inductive Phase where
  | idle
  | resolving
  | looping (p : Pass)
  | chosen (p : Pass) (c : Candidate)
  | keyed (p : Pass) (c : Candidate)
  | active (p : Pass) (c : Candidate)
  | fetching (p : Pass) (c : Candidate) (storeKey : GoString)
  | fetched (p : Pass) (c : Candidate) (storeKey : GoString) (n : Nat)
  | confirmed (p : Pass) (c : Candidate) (storeKey : GoString) (n : Nat)
  | permitted (p : Pass) (c : Candidate) (storeKey : GoString) (n : Nat)
  | ending (p : Pass) (c : Candidate) (n : Nat) (result : Ending)

inductive Deed where
  | observed (scope token : GoString) (version : Nat) (seen : Instant)
  | forgot (scope : GoString)
  | rejected (scope : GoString)
  | disabled
  | tracked (sequence : Nat) (scope : GoString) (requiresContext : Bool)
  | began (owner ownerScope : GoString)
  | permitted (c : Candidate) (checked : Instant)
  | written (c : Candidate) (storeKey : GoString)

/-- The warmer with the pass that is running. `owner` is the owner scope that was looked up
last, and when. -/
structure Scheduler extends Warmer where
  now : Instant
  foreground : Nat
  served : Table GoString Nat
  servedSequence : Nat
  owner : Option (GoString × Instant)
  phase : Phase
  log : List Deed

def Scheduler.start (now : Instant) : Scheduler where
  toWarmer := Warmer.start
  now := now
  foreground := 0
  served := Table.empty
  servedSequence := 0
  owner := none
  phase := .idle
  log := []

structure Orders where
  contexts : Order (GoString × CredentialContext)
  jobs : Order (GoString × Job)
  scopes : Order (GoString × Candidate)

namespace Scheduler

/-!
## Tracking
-/

variable (y : Scheduler)

def note (d : Deed) : Scheduler :=
  { y with log := d :: y.log }

def goTo (phase : Phase) : Scheduler :=
  { y with phase := phase }

def expireContexts : Scheduler :=
  { y with
    toWarmer := y.toWarmer.expireContexts y.now
    served := y.served.keep fun scope _ =>
      y.tracked.entries.any fun entry => entry.2.snap.scope == scope }

def evictJob (order : Order (GoString × Job)) (incoming : Option Priority) :
    Option Scheduler :=
  (y.toWarmer.evictJob order incoming).map fun w => { y with toWarmer := w }

def setContext (order : Order (GoString × CredentialContext)) (scope token : GoString) :
    Scheduler :=
  { y with
    toWarmer := y.toWarmer.setContext order y.now scope token
    log := .observed scope token (y.contextVersion + 1) y.now :: y.log }

def setJob (key : GoString) (n : Snapshot) (ttl : Duration) (priority : Priority)
    (requiresContext : Bool) : Scheduler :=
  { y with
    toWarmer := y.toWarmer.setJob y.now key n ttl priority requiresContext
    log := .tracked (y.sequence + 1) n.scope requiresContext :: y.log }

def observe (orders : Orders) (scope : GoString) (credential : Option GoString) : Scheduler :=
  match credential with
  | none => y.expireContexts
  | some token => y.expireContexts.setContext orders.contexts scope token

/-- `Track` and `TrackAuthorized`; `strip` takes the credentials out of a query. -/
def track (strip : GoString -> GoString) (orders : Orders) (key : GoString) (n : Snapshot)
    (ttl : Duration) (priority : Priority) (credential : Option GoString) : Scheduler :=
  if Warmer.trackable key n ttl credential && y.config.enabled then
    let stripped := { n with rawQuery := strip n.rawQuery }
    let worth := if priority = .low then routePriority n.path else priority
    let seen := y.observe orders n.scope credential
    if (seen.tracked.lookup (snapshotID stripped)).isNone ∧
        y.config.maxTracked ≤ seen.tracked.entries.length then
      match seen.evictJob orders.jobs (some worth) with
      | none => seen
      | some evicted => evicted.setJob key stripped ttl worth credential.isSome
    else seen.setJob key stripped ttl worth credential.isSome
  else y

/-!
## Requests, revocations and the operator
-/

def dropScope (scope : GoString) : Scheduler :=
  { y with toWarmer := y.toWarmer.dropScope scope }

def forgetScope (scope : GoString) : Scheduler :=
  if scope = [] then y
  else
    { y.dropScope scope with
      served := y.served.delete scope
      log := .forgot scope :: y.log }

def trim (order : Order (GoString × Job)) (n : Nat) : Scheduler :=
  { y with toWarmer := Warmer.trim order n y.toWarmer }

def disable : Scheduler :=
  { y with contexts := Table.empty, log := .disabled :: y.log }

def configure (order : Order (GoString × Job)) (c : WarmerConfig) : Scheduler :=
  if c.valid then
    let kept := { (if c.enabled then y else y.disable) with config := c }
    kept.trim order kept.tracked.entries.length
  else y

/-- Foreground work, a pause or a disabled warmer stop a pass. -/
def held : Bool :=
  decide (0 < y.foreground) || y.paused || !y.config.enabled

/-!
## Choosing a job
-/

def ready (p : Pass) (job : Job) : Bool :=
  !decide (y.now - job.last < job.ttl / 2) && !(job.next.any fun next => y.now < next) &&
    decide (((p.perScope.lookup job.snap.scope).getD 0 : Int) < y.config.maxPerScopePerPass)

def lease (p : Pass) (job : Job) : Option Lease :=
  match (y.contexts.lookup job.snap.scope).filter fun c => y.now < c.expires with
  | some c => some (.context c.token c.version)
  | none =>
    if job.requiresContext = false ∧ p.owner ≠ [] ∧ job.snap.scope = p.ownerScope then
      some (.owner p.owner)
    else none

def candidate (p : Pass) (id : GoString) (job : Job) : Option Candidate :=
  if y.ready p job then
    (y.lease p job).map fun l => ⟨id, job, l, (y.served.lookup job.snap.scope).getD 0⟩
  else none

/-- A job without a credential that is not the owner's can never be refreshed. -/
def hopeless (p : Pass) (job : Job) : Bool :=
  y.ready p job && (y.lease p job).isNone && !job.requiresContext && p.ownerScope != [] &&
    job.snap.scope != p.ownerScope

def consider (p : Pass) (byScope : Table GoString Candidate) (entry : GoString × Job) :
    Table GoString Candidate :=
  match y.candidate p entry.1 entry.2 with
  | none => byScope
  | some c =>
    match byScope.lookup c.scope with
    | none => byScope.set c.scope c
    | some old =>
      if old.job.priority.rank < c.job.priority.rank ∨
          (c.job.priority = old.job.priority ∧ c.job.last < old.job.last) then
        byScope.set c.scope c
      else byScope

/-- Scopes take turns; then the tier and the age of a job decide. -/
def goesFirst (a b : Candidate) : Bool :=
  decide (a.served < b.served) || (a.served == b.served &&
    (decide (b.job.priority.rank < a.job.priority.rank) ||
      (a.job.priority.rank == b.job.priority.rank && decide (a.job.sequence < b.job.sequence))))

def first (found : Option Candidate) (entry : GoString × Candidate) : Option Candidate :=
  match found with
  | none => some entry.2
  | some best => if goesFirst entry.2 best then some entry.2 else some best

def nextCandidate (orders : Orders) (p : Pass) : Option Candidate :=
  (orders.scopes.visit ((orders.jobs.visit y.tracked.entries).foldl (y.consider p)
    Table.empty).entries).foldl first none

def dropHopeless (p : Pass) : Scheduler :=
  { y with tracked := y.tracked.keep fun _ job => !y.hopeless p job }

/-!
## A pass
-/

def maxEntryBytes : Nat := 2097152

/-- A pass begins unless one is running or something holds it. -/
def beginPass : Scheduler :=
  match y.phase with
  | .idle => if y.held then y else y.goTo .resolving
  | _ => y

/-- The scope of the owner is looked up at most once a minute; `found` is the answer, if
the account is known. -/
def ownerScope (found : Option GoString) : GoString × Option (GoString × Instant) :=
  match y.owner.filter fun known => decide (y.now - known.2 < minute) with
  | some known => (known.1, y.owner)
  | none => (found.getD [], found.map fun scope => (scope, y.now))

def resolve (token : Option GoString) (found : Option GoString) : Option Scheduler :=
  match y.phase with
  | .resolving =>
    let resolved := match token with
      | none => ([], y.owner)
      | some _ => y.ownerScope found
    let owner := token.getD []
    some ({ y with
      owner := resolved.2
      phase := .looping ⟨owner, resolved.1, Table.empty, 0, 0⟩
      log := .began owner resolved.1 :: y.log }.expireContexts)
  | _ => none

def choose (orders : Orders) : Option Scheduler :=
  match y.phase with
  | .looping p =>
    if y.config.requestsPerPass ≤ p.requests ∨
        y.config.bytesPerPass - p.used < maxEntryBytes + 1 then
      some (y.goTo .idle)
    else
      let fresh := y.expireContexts
      if fresh.held then some (fresh.goTo .idle)
      else
        match fresh.nextCandidate orders p with
        | none => some ((fresh.dropHopeless p).goTo .idle)
        | some c => some ((fresh.dropHopeless p).goTo (.chosen p c))
  | _ => none

def stop : Option Scheduler :=
  match y.phase with
  | .looping _ => some (y.goTo .idle)
  | _ => none

/-- A job whose key has moved on is given up. -/
def matchKey (key : GoString) : Option Scheduler :=
  match y.phase with
  | .chosen p c =>
    if key = c.job.key then some (y.goTo (.keyed p c))
    else some ({ y with tracked := y.tracked.delete c.id }.goTo (.looping p))
  | _ => none

def activate (canWarm : Bool) : Option Scheduler :=
  match y.phase with
  | .keyed p c =>
    if !canWarm || y.held then some (y.goTo .idle)
    else
      some ({ y with
        servedSequence := y.servedSequence + 1
        served := y.served.set c.scope (y.servedSequence + 1) }.goTo (.active p c))
  | _ => none

def captureKey (key : GoString) : Option Scheduler :=
  match y.phase with
  | .active p c =>
    if key = [] then some (y.goTo (.ending p c 0 (.failed 0)))
    else some (y.goTo (.fetching p c key))
  | _ => none

end Scheduler

inductive Fetch where
  | error (n : Nat)
  | answer (status n : Nat)
  | body (n : Nat)

namespace Scheduler

variable (y : Scheduler)

def fetch (outcome : Fetch) : Option Scheduler :=
  match y.phase with
  | .fetching p c storeKey =>
    match outcome with
    | .error n => some (y.goTo (.ending p c n (.failed 0)))
    | .answer status n => some (y.goTo (.ending p c n (.failed status)))
    | .body n => some (y.goTo (.fetched p c storeKey n))
  | _ => none

def confirmKey (key : GoString) : Option Scheduler :=
  match y.phase with
  | .fetched p c storeKey n =>
    if key = storeKey then some (y.goTo (.confirmed p c storeKey n))
    else some (y.goTo (.ending p c n (.failed 0)))
  | _ => none

def current (c : Candidate) : Bool :=
  match c.lease with
  | .owner _ => true
  | .context _ version =>
    (y.contexts.lookup c.scope).any fun credential =>
      credential.version == version && decide (y.now < credential.expires)

def permitted (c : Candidate) : Bool :=
  ((y.tracked.lookup c.id).any fun job => job.sequence == c.job.sequence) && !y.held &&
    y.current c

def permit : Option Scheduler :=
  match y.phase with
  | .confirmed p c storeKey n =>
    if y.permitted c then
      some ((y.goTo (.permitted p c storeKey n)).note (.permitted c y.now))
    else some (y.goTo (.ending p c n (.failed 0)))
  | _ => none

/-- The write to the store, which does not look at the context of the pass. It may work
without the warmer learning of it. -/
def publish (applied acknowledged : Bool) : Option Scheduler :=
  match y.phase with
  | .permitted p c storeKey n =>
    let result := if applied && acknowledged then .succeeded else .failed 0
    let left := y.goTo (.ending p c n result)
    some (if applied then left.note (.written c storeKey) else left)
  | _ => none

def updateJob (c : Candidate) (f : Job -> Job) : Scheduler :=
  { y with toWarmer := y.toWarmer.updateJob c.id c.job.sequence f }

def reject (scope : GoString) : Scheduler :=
  (y.dropScope scope).note (.rejected scope)

def settle : Option Scheduler :=
  match y.phase with
  | .ending p c n result =>
    let spent := { p with
      requests := p.requests + 1
      perScope := p.perScope.set c.scope ((p.perScope.lookup c.scope).getD 0 + 1)
      used := p.used + n }
    let left := match result with
      | .succeeded => y.updateJob c (Warmer.refreshedNow y.now)
      | .failed status =>
        (if rejectedStatus status then y.reject c.scope else y).updateJob c (Warmer.backOff y.now)
    some (left.goTo (.looping spent))
  | _ => none

/-!
### The warmer of the serving system

Its calls are those of the scheduler on the part that both share.
-/

theorem track_toWarmer (rewrite : GoString -> GoString) (orders : Orders) (key : GoString)
    (n : Snapshot) (ttl : Duration) (credential : GoString) :
    (y.track (stripSecrets rewrite) orders key n ttl .low (some credential)).toWarmer =
      y.toWarmer.trackAuthorized rewrite ⟨orders.contexts, orders.jobs⟩ y.now key n ttl
        credential := by
  unfold track Warmer.trackAuthorized
  split
  · simp only [observe, if_true, Option.isSome_some]
    split
    · rename_i hfull
      refine Eq.trans ?_ (if_pos hfull).symm
      unfold evictJob
      cases hevicted : (y.expireContexts.setContext orders.contexts n.scope
          credential).toWarmer.evictJob orders.jobs (some (routePriority n.path)) with
      | none | some =>
        rw [show ((y.toWarmer.expireContexts y.now).setContext orders.contexts y.now n.scope
          credential).evictJob orders.jobs (some (routePriority n.path)) = _ from hevicted]
        rfl
    · rename_i hroom
      exact (if_neg hroom).symm
  · rfl

theorem forgetScope_toWarmer (scope : GoString) :
    (y.forgetScope scope).toWarmer = y.toWarmer.forgetScope scope := by
  unfold forgetScope Warmer.forgetScope
  split
  · rfl
  · rfl

theorem configure_toWarmer (order : Order (GoString × Job)) (c : WarmerConfig) :
    (y.configure order c).toWarmer = y.toWarmer.configure order c := by
  unfold configure Warmer.configure
  split
  · cases c.enabled with
    | false | true => rfl
  · rfl

end Scheduler

/-!
## Steps
-/

inductive Action where
  | tick (elapsed : Nat)
  | track (orders : Orders) (key : GoString) (n : Snapshot) (ttl : Duration)
      (priority : Priority) (credential : Option GoString)
  | forgetScope (scope : GoString)
  | configure (order : Order (GoString × Job)) (c : WarmerConfig)
  | setPaused (paused : Bool)
  | foreground
  | background
  | stats
  | beginPass
  | resolve (token found : Option GoString)
  | choose (orders : Orders)
  | stop
  | matchKey (key : GoString)
  | activate (canWarm : Bool)
  | captureKey (key : GoString)
  | fetch (outcome : Fetch)
  | confirmKey (key : GoString)
  | permit
  | publish (applied acknowledged : Bool)
  | settle

/-- Requests that were stored track their jobs; everything else is not the foreground. -/
def Action.isTrack : Action -> Bool
  | .track _ _ _ _ _ _ => true
  | _ => false

/-- One step; `none` when the pass does not stand there. -/
def Scheduler.step (strip : GoString -> GoString) (y : Scheduler) : Action -> Option Scheduler
  | .tick elapsed => some { y with now := y.now + elapsed }
  | .track orders key n ttl priority credential =>
    some (y.track strip orders key n ttl priority credential)
  | .forgetScope scope => some (y.forgetScope scope)
  | .configure order c => some (y.configure order c)
  | .setPaused paused => some { y with paused := paused }
  | .foreground => some { y with foreground := y.foreground + 1 }
  | .background =>
    if 0 < y.foreground then some { y with foreground := y.foreground - 1 } else none
  | .stats => some y.expireContexts
  | .beginPass => some y.beginPass
  | .resolve token found => y.resolve token found
  | .choose orders => y.choose orders
  | .stop => y.stop
  | .matchKey key => y.matchKey key
  | .activate canWarm => y.activate canWarm
  | .captureKey key => y.captureKey key
  | .fetch outcome => y.fetch outcome
  | .confirmKey key => y.confirmKey key
  | .permit => y.permit
  | .publish applied acknowledged => y.publish applied acknowledged
  | .settle => y.settle

end ReplxEdge.Warming
