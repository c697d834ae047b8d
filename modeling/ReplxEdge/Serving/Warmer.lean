import ReplxEdge.Foundation.Json
import ReplxEdge.Serving.Step

/-!
# The warmer

Background refreshes repeat requests that were stored. A job holds how to repeat a
request, without its credential; the credential of a scope stands in a context of its
own that lives for two minutes and is only renewed by requests.
-/

namespace ReplxEdge.Serving

open Foundation
open Net
open Cache

def credentialTTL : Duration :=
  2 * minute

def maxContexts : Nat :=
  32

def maxTracked : Nat :=
  512

inductive Priority where
  | low
  | normal
  | high
  | protectedWork
deriving DecidableEq

def Priority.rank : Priority -> Nat
  | .low => 0
  | .normal => 1
  | .high => 2
  | .protectedWork => 3

structure WarmerConfig where
  enabled : Bool
  maxTracked : Int
  requestsPerPass : Int
  maxPerScopePerPass : Int
  bytesPerPass : Int

def WarmerConfig.default : WarmerConfig where
  enabled := true
  maxTracked := 512
  requestsPerPass := 16
  maxPerScopePerPass := 4
  bytesPerPass := 64 * 2 ^ 20

def WarmerConfig.valid (c : WarmerConfig) : Bool :=
  1 ≤ c.maxTracked && c.maxTracked ≤ Serving.maxTracked &&
    (1 ≤ c.requestsPerPass && c.requestsPerPass ≤ 64) &&
    (1 ≤ c.maxPerScopePerPass && c.maxPerScopePerPass ≤ 16) &&
    c.maxPerScopePerPass ≤ c.requestsPerPass &&
    (8 * 2 ^ 20 ≤ c.bytesPerPass && c.bytesPerPass ≤ 256 * 2 ^ 20)

structure CredentialContext where
  token : GoString
  expires : Instant
  version : Nat

/-- A job. `next` is the end of its backoff, if it failed last; one that was tracked with a
credential requires a context. -/
structure Tracked where
  key : GoString
  snap : Snapshot
  ttl : Duration
  priority : Priority
  last : Instant
  observed : Instant
  next : Option Instant
  failures : Nat
  sequence : Nat
  requiresContext : Bool

structure Warmer where
  config : WarmerConfig
  paused : Bool
  tracked : Table GoString Tracked
  contexts : Table GoString CredentialContext
  contextVersion : Nat
  sequence : Nat

def Warmer.start : Warmer where
  config := WarmerConfig.default
  paused := false
  tracked := Table.empty
  contexts := Table.empty
  contextVersion := 0
  sequence := 0

/-!
## Names of jobs
-/

/-- A query without its credentials. `rewrite` is what becomes of a value that is a URL
with a query of its own. -/
def stripSecrets (rewrite : GoString -> GoString) (raw : GoString) : GoString :=
  if raw = [] ∨ (segments raw).any Segment.isMalformed = true then []
  else
    Values.encode ((canonicalQuery (parseQuery raw)).map fun pair =>
      (pair.1, rewrite pair.2))

def snapshotID (n : Snapshot) : GoString :=
  hexEncode (sha256 (marshalTexts [n.scope, n.method, n.path, n.rawQuery, n.accept]))

def routePriority (path : GoString) : Priority :=
  let p := toLower path
  if contains p (str "/collections") then .protectedWork
  else if hasPrefix p (str "/library/sections") then .high
  else if hasPrefix p (str "/library/metadata") then .normal
  else .low

structure WarmerOrders where
  contexts : Order (GoString × CredentialContext)
  jobs : Order (GoString × Tracked)

namespace Warmer

/-!
## Tracking
-/

variable (w : Warmer)

def expireContexts (now : Instant) : Warmer :=
  { w with contexts := w.contexts.keep fun _ c => decide (now < c.expires) }

/-- One turn of the search for the job to give up. -/
def weaker (found : Option (GoString × Tracked)) (entry : GoString × Tracked) :
    Option (GoString × Tracked) :=
  match found with
  | none => some entry
  | some old =>
    if entry.2.priority.rank < old.2.priority.rank ∨
        (entry.2.priority = old.2.priority ∧ entry.2.observed < old.2.observed) then
      some entry
    else some old

/-- Give a job up; `none` when every job is worth more than the incoming one. -/
def evictJob (order : Order (GoString × Tracked)) (incoming : Option Priority) :
    Option Warmer :=
  match (order.visit w.tracked.entries).foldl weaker none with
  | none => some w
  | some (id, old) =>
    if incoming.any fun p => p.rank < old.priority.rank then none
    else some { w with tracked := w.tracked.delete id }

def contextRoom (order : Order (GoString × CredentialContext)) (scope : GoString) :
    Table GoString CredentialContext :=
  if (w.contexts.lookup scope).isNone ∧ maxContexts ≤ w.contexts.entries.length then
    match w.contexts.oldest order CredentialContext.expires with
    | some oldest => w.contexts.delete oldest
    | none => w.contexts
  else w.contexts

def setContext (order : Order (GoString × CredentialContext)) (now : Instant)
    (scope token : GoString) : Warmer :=
  { w with
    contextVersion := w.contextVersion + 1
    contexts := (w.contextRoom order scope).set scope
      ⟨token, now + credentialTTL, w.contextVersion + 1⟩ }

def setJob (now : Instant) (key : GoString) (n : Snapshot) (ttl : Duration)
    (priority : Priority) (requiresContext : Bool) : Warmer :=
  { w with
    sequence := w.sequence + 1
    tracked := w.tracked.set (snapshotID n)
      ⟨key, n, ttl, priority, now, now, none, 0, w.sequence + 1, requiresContext⟩ }

/-- Whether a call has something to track; `Track` has no credential. -/
def trackable (key : GoString) (n : Snapshot) (ttl : Duration)
    (credential : Option GoString) : Bool :=
  key != [] && key.length ≤ 512 && n.scope != [] && n.scope.length ≤ 256 &&
    n.path.length ≤ 4096 && n.rawQuery.length ≤ 8192 && n.accept.length ≤ 512 &&
    0 < ttl && credential.all fun token => token != [] && token.length ≤ 8192

/-- A request that was stored renews the context of its scope and its own job. The proxy
gives no priority, so the path decides. -/
def trackAuthorized (rewrite : GoString -> GoString) (orders : WarmerOrders)
    (now : Instant) (key : GoString) (n : Snapshot) (ttl : Duration)
    (credential : GoString) : Warmer :=
  if trackable key n ttl (some credential) && w.config.enabled then
    let stripped := { n with rawQuery := stripSecrets rewrite n.rawQuery }
    let seen := (w.expireContexts now).setContext orders.contexts now n.scope credential
    if (seen.tracked.lookup (snapshotID stripped)).isNone ∧
        w.config.maxTracked ≤ seen.tracked.entries.length then
      match seen.evictJob orders.jobs (some (routePriority n.path)) with
      | none => seen
      | some evicted => evicted.setJob now key stripped ttl (routePriority n.path) true
    else seen.setJob now key stripped ttl (routePriority n.path) true
  else w

/-!
## Giving up
-/

def dropScope (scope : GoString) : Warmer :=
  { w with
    contexts := w.contexts.delete scope
    tracked := w.tracked.keep fun _ job => job.snap.scope != scope }

def forgetScope (scope : GoString) : Warmer :=
  if scope = [] then w else w.dropScope scope

/-- Give up jobs until the limit is met. -/
def trim (order : Order (GoString × Tracked)) : Nat -> Warmer -> Warmer
  | 0, w => w
  | n + 1, w =>
    if w.config.maxTracked < w.tracked.entries.length then
      trim order n ((w.evictJob order none).getD w)
    else w

def configure (order : Order (GoString × Tracked)) (c : WarmerConfig) : Warmer :=
  if c.valid then
    let kept := if c.enabled then w.contexts else Table.empty
    trim order w.tracked.entries.length { w with config := c, contexts := kept }
  else w

def setPaused (paused : Bool) : Warmer :=
  { w with paused := paused }

/-!
## Refreshing
-/

end Warmer

structure Candidate where
  id : GoString
  job : Tracked
  token : GoString
  version : Nat

namespace Warmer

variable (w : Warmer) (now : Instant)

def due (job : Tracked) : Bool :=
  !decide (now - job.last < job.ttl / 2) && !job.next.any fun next => now < next

/-- A due job whose scope has a context. Which of them a pass takes, and how many, is
left open. -/
def candidate (id : GoString) : Option Candidate :=
  (w.tracked.lookup id).bind fun job =>
    if due now job then
      ((w.contexts.lookup job.snap.scope).filter fun c => now < c.expires).map fun c =>
        ⟨id, job, c.token, c.version⟩
    else none

/-- Whether a body that was fetched may still be published. -/
def permit (c : Candidate) : Bool :=
  ((w.tracked.lookup c.id).any fun current => current.sequence == c.job.sequence) &&
    !w.paused && w.config.enabled &&
    (w.contexts.lookup c.job.snap.scope).any fun credential =>
      credential.version == c.version && decide (now < credential.expires)

/-- The job under an id changes, unless it was tracked anew. -/
def updateJob (id : GoString) (sequence : Nat) (f : Tracked -> Tracked) : Warmer :=
  match w.tracked.lookup id with
  | some current =>
    if current.sequence = sequence then { w with tracked := w.tracked.set id (f current) }
    else w
  | none => w

def backOff (job : Tracked) : Tracked :=
  { job with
    failures := job.failures + 1
    next := some (now + 15 * second * 2 ^ min job.failures 4) }

/-- A refresh that failed; `status` is the answer of the origin, if it was one. -/
def failed (c : Candidate) (status : Nat) : Warmer :=
  (if rejectedStatus status then w.dropScope c.job.snap.scope else w).updateJob c.id
    c.job.sequence (backOff now)

def refreshedNow (job : Tracked) : Tracked :=
  { job with last := now, next := none, failures := 0 }

def succeeded (c : Candidate) : Warmer :=
  w.updateJob c.id c.job.sequence (refreshedNow now)

def forgetJob (id : GoString) : Warmer :=
  { w with tracked := w.tracked.delete id }

end Warmer

/-!
## Where contexts come from
-/

namespace Warmer

variable {w : Warmer} {scope : GoString} {c : CredentialContext}

variable {order : Order (GoString × Tracked)}

theorem evictJob_cases {incoming : Option Priority} {w' : Warmer}
    (h : w.evictJob order incoming = some w') :
    w' = w ∨ exists id, w' = { w with tracked := w.tracked.delete id } := by
  unfold evictJob at h
  split at h
  · cases h
    exact Or.inl rfl
  split at h
  · cases h
  cases h
  exact Or.inr ⟨_, rfl⟩

theorem contexts_evictJob {incoming : Option Priority}
    {w' : Warmer} (h : w.evictJob order incoming = some w') : w'.contexts = w.contexts := by
  rcases evictJob_cases h with rfl | ⟨id, rfl⟩
  · rfl
  · rfl

/-- What is kept when a job is given up is kept when the queue is trimmed. -/
theorem trim_rule {P : Warmer -> Prop}
    (hdelete : forall w id, P w -> P { w with tracked := w.tracked.delete id })
    (n : Nat) (h : P w) : P (trim order n w) := by
  induction n generalizing w with
  | zero => exact h
  | succ n ih =>
    unfold trim
    split
    · apply ih
      cases hevicted : w.evictJob order none with
      | none => exact h
      | some w' =>
        rcases evictJob_cases hevicted with rfl | ⟨id, rfl⟩
        · exact h
        · exact hdelete w id h
    · exact h

theorem contexts_trim (n : Nat) : (trim order n w).contexts = w.contexts :=
  trim_rule (P := fun left => left.contexts = w.contexts) (fun _ _ h => h) n rfl

theorem updateJob_cases (w : Warmer) (id : GoString) (sequence : Nat) (f : Tracked -> Tracked) :
    w.updateJob id sequence f = w ∨ exists job, w.tracked.lookup id = some job ∧
      w.updateJob id sequence f = { w with tracked := w.tracked.set id (f job) } := by
  unfold updateJob
  split
  · rename_i job hjob
    split
    · exact Or.inr ⟨job, hjob, rfl⟩
    · exact Or.inl rfl
  · exact Or.inl rfl

theorem contexts_updateJob (w : Warmer) (id : GoString) (sequence : Nat)
    (f : Tracked -> Tracked) : (w.updateJob id sequence f).contexts = w.contexts := by
  rcases updateJob_cases w id sequence f with hsame | ⟨job, _, hset⟩
  · rw [hsame]
  · rw [hset]

theorem lookup_contextRoom {order : Order (GoString × CredentialContext)}
    {other : GoString} (h : (w.contextRoom order scope).lookup other = some c) :
    w.contexts.lookup other = some c := by
  unfold contextRoom at h
  split at h
  · split at h
    · exact Table.lookup_of_delete h
    · exact h
  · exact h

theorem lookup_trackAuthorized {rewrite : GoString -> GoString} {orders : WarmerOrders}
    {now : Instant} {key : GoString} {n : Snapshot} {ttl : Duration} {credential : GoString}
    (h : (w.trackAuthorized rewrite orders now key n ttl credential).contexts.lookup scope =
      some c) :
    w.contexts.lookup scope = some c ∨ (scope = n.scope ∧ c.token = credential) := by
  have hseen : ((w.expireContexts now).setContext orders.contexts now n.scope
      credential).contexts.lookup scope = some c ->
      w.contexts.lookup scope = some c ∨ (scope = n.scope ∧ c.token = credential) := by
    intro hset
    unfold setContext at hset
    rw [Table.lookup_set] at hset
    split at hset
    · rename_i hscope
      cases hset
      exact Or.inr ⟨hscope, rfl⟩
    · exact Or.inl (Table.lookup_of_keep (lookup_contextRoom hset))
  unfold trackAuthorized at h
  split at h
  · simp only at h
    split at h
    · split at h
      · exact hseen h
      rename_i evicted hevicted
      apply hseen
      rw [← contexts_evictJob hevicted]
      exact h
    · exact hseen h
  · exact Or.inl h

theorem lookup_forgetScope {gone : GoString}
    (h : (w.forgetScope gone).contexts.lookup scope = some c) :
    w.contexts.lookup scope = some c := by
  unfold forgetScope at h
  split at h
  · exact h
  · exact Table.lookup_of_delete h

theorem lookup_configure {config : WarmerConfig}
    (h : (w.configure order config).contexts.lookup scope = some c) :
    w.contexts.lookup scope = some c := by
  unfold configure at h
  split at h
  · simp only at h
    rw [contexts_trim] at h
    simp only at h
    split at h
    · exact h
    · cases h
  · exact h

variable {chosen : Candidate}

theorem lookup_failed {now : Instant} {status : Nat}
    (h : (w.failed now chosen status).contexts.lookup scope = some c) :
    w.contexts.lookup scope = some c := by
  unfold failed at h
  rw [contexts_updateJob] at h
  split at h
  · exact Table.lookup_of_delete h
  · exact h

theorem candidate_token {now : Instant} {id : GoString} (h : w.candidate now id = some chosen) :
    exists c, w.contexts.lookup chosen.job.snap.scope = some c ∧ c.token = chosen.token := by
  unfold candidate at h
  rcases Option.bind_eq_some_iff.mp h with ⟨job, _, hdue⟩
  split at hdue
  · rcases Option.map_eq_some_iff.mp hdue with ⟨c, hlive, rfl⟩
    exact ⟨c, (Option.filter_eq_some_iff.mp hlive).left, rfl⟩
  · cases hdue

end Warmer

end ReplxEdge.Serving
