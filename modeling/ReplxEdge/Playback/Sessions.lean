import ReplxEdge.Playback.Boundary
import ReplxEdge.Proxy.Serve

/-!
# Sessions under requests of others

Negotiations open sessions and stop requests close them, each under the session
id that its request carries. Nobody but the owner of that id is asked for, so a
session is undisturbed only as long as no other request carries its id. All requests
share one resolver of identities, which forgets the callers it has no room for.
-/

namespace ReplxEdge.Playback

open Foundation
open Net
open Trace
open Gateway
open Identity
open Proxy (IngressMode isWebSocket isSSE)

/-!
## Stores
-/

/-- A store of sessions. `key` is the id that a session is stored under; writes leave
what is found under other ids alone. -/
structure SessionStore (State : Type) where
  key : Session -> GoString
  create : State -> Instant -> Session -> State
  findActive : State -> GoString -> Option Session
  endSession : State -> GoString -> State
  find_create : forall st now session id, key session ≠ id ->
    findActive (create st now session) id = findActive st id
  find_end : forall st ended id, ended ≠ id ->
    findActive (endSession st ended) id = findActive st id

structure SessionRow where
  session : Session
  startedAt : Instant
  ended : Bool

def SessionRow.isOpen (row : SessionRow) (id : GoString) : Bool :=
  !row.ended && row.session.plexSessionID == id

def newest (rows : List SessionRow) : Option SessionRow :=
  rows.foldl (fun found row =>
    match found with
    | none => some row
    | some best => if best.startedAt < row.startedAt then some row else some best) none

def closeRow (id : GoString) (row : SessionRow) : SessionRow :=
  if row.isOpen id then { row with ended := true } else row

variable {id ended : GoString}

theorem isOpen_closeRow (h : ended ≠ id) (row : SessionRow) :
    (closeRow ended row).isOpen id = row.isOpen id := by
  unfold closeRow
  split
  · rename_i hopen
    unfold SessionRow.isOpen at hopen ⊢
    rw [Bool.and_eq_true, beq_iff_eq] at hopen
    rw [hopen.right]
    simp [h]
  · rfl

theorem closeRow_of_isOpen (h : ended ≠ id) {row : SessionRow}
    (hopen : row.isOpen id = true) : closeRow ended row = row := by
  unfold closeRow
  rw [if_neg]
  intro hended
  unfold SessionRow.isOpen at hopen hended
  rw [Bool.and_eq_true, beq_iff_eq] at hopen hended
  exact h (hended.right.symm.trans hopen.right)

theorem filter_closeRow (h : ended ≠ id) (rows : List SessionRow) :
    ((rows.map (closeRow ended)).filter fun row => row.isOpen id) =
      rows.filter fun row => row.isOpen id := by
  induction rows with
  | nil => rfl
  | cons row rows ih =>
    rw [List.map_cons, List.filter_cons, List.filter_cons, isOpen_closeRow h, ih]
    split
    · rename_i hopen
      rw [closeRow_of_isOpen h hopen]
    · rfl

/-- The production store. Rows of one start are read in an order that the database
chooses. -/
def pgStore (order : Order SessionRow) : SessionStore (List SessionRow) where
  key := Session.plexSessionID
  create := fun rows now session => rows ++ [⟨session, now, false⟩]
  findActive := fun rows id =>
    if id = [] then none
    else (newest (order.visit (rows.filter fun row => row.isOpen id))).map SessionRow.session
  endSession := fun rows id => if id = [] then rows else rows.map (closeRow id)
  find_create := by
    intro rows now session id h
    have hother : SessionRow.isOpen ⟨session, now, false⟩ id = false := by
      simpa [SessionRow.isOpen] using h
    rw [List.filter_append, List.filter_singleton, hother]
    simp
  find_end := by
    intro rows ended id h
    split
    · rfl
    split
    · rfl
    · rw [filter_closeRow h]

/-- The in-process store, which names a session without an id after its title. -/
def memoryKey (session : Session) : GoString :=
  if session.plexSessionID = [] then str "mem-" ++ session.ratingKey
  else session.plexSessionID

def memoryStore : SessionStore (Table GoString Session) where
  key := memoryKey
  create := fun sessions _ session =>
    sessions.set (memoryKey session) { session with plexSessionID := memoryKey session }
  findActive := Table.lookup
  endSession := Table.delete
  find_create := by
    intro sessions now session id h
    rw [Table.lookup_set, if_neg (Ne.symm h)]
  find_end := by
    intro sessions ended id h
    exact sessions.lookup_delete_ne (Ne.symm h)

/-!
## Visits
-/

/-- A request with what the engine's database and PMS answer to it and the ids that its
token resolves to. -/
structure Visit where
  request : Request
  engine : Engine
  identityID : GoString
  clientUUID : GoString
  now : Instant
  creation : Creation
  endFails : Bool

def reachesPlayback (mode : IngressMode) (r : Request) : Bool :=
  decide (r.host = []) && !hasPrefix r.path (str "//") &&
    (match classify r.path with
      | .control => true
      | .playQueueObserve => true
      | .denyUnknownMedia => decide (mode = .direct)
      | .denySessions => false
      | .mediaRedirect => false) &&
    !isWebSocket r && !isSSE r

def recordedSession (v : Visit) : Option Session :=
  if isDecision v.request.path then
    (handleDecision (v.engine.storing fun _ => v.creation) v.request
      (extractSession v.request) v.identityID v.clientUUID).created
  else none

def endedID (v : Visit) : Option GoString :=
  if isSessionStop v.request.path = true ∧ extractSession v.request ≠ [] ∧
      v.endFails = false then
    some (extractSession v.request)
  else none

section Runs

variable {State : Type} (S : SessionStore State) (mode : IngressMode)

def stop (st : State) (v : Visit) : State :=
  match endedID v with
  | none => st
  | some id => S.endSession st id

def record (st : State) (v : Visit) : State :=
  match recordedSession v with
  | none => st
  | some session => S.create st v.now session

def visit (st : State) (v : Visit) : State :=
  if reachesPlayback mode v.request then record S (stop S st v) v else st

structure Spares (id : GoString) (v : Visit) : Prop where
  ended : endedID v ≠ some id
  recorded : forall session, recordedSession v = some session -> S.key session ≠ id

def boundaryOver (engine : Engine) (index : Option PartIndex) (findFails : Bool)
    (st : State) : Boundary where
  engine := engine
  index := index
  findActive := fun id =>
    if findFails then .failed
    else
      match S.findActive st id with
      | none => .absent
      | some session => .found session

variable {S mode}

theorem find_visit {v : Visit}
    (hspares : reachesPlayback mode v.request = true -> Spares S id v) (st : State) :
    S.findActive (visit S mode st v) id = S.findActive st id := by
  unfold visit
  split
  · rename_i hreaches
    have hstop : S.findActive (stop S st v) id = S.findActive st id := by
      unfold stop
      cases hended : endedID v with
      | none => rfl
      | some ended =>
        apply S.find_end
        intro hsame
        exact (hspares hreaches).ended (hsame ▸ hended)
    rw [← hstop]
    unfold record
    cases hrecorded : recordedSession v with
    | none => rfl
    | some session => exact S.find_create _ _ _ _ ((hspares hreaches).recorded session hrecorded)
  · rfl

theorem enforcePart_boundaryOver {st other : State} {sessionID : GoString}
    (h : S.findActive other sessionID = S.findActive st sessionID) (engine : Engine)
    (index : Option PartIndex) (findFails : Bool) (r : Request)
    (partID identityID clientUUID : GoString) :
    enforcePart (boundaryOver S engine index findFails other) r partID sessionID identityID
        clientUUID =
      enforcePart (boundaryOver S engine index findFails st) r partID sessionID identityID
        clientUUID := by
  have hfind : (boundaryOver S engine index findFails other).findActive sessionID =
      (boundaryOver S engine index findFails st).findActive sessionID := by
    unfold boundaryOver
    simp only
    rw [h]
  unfold enforcePart enforceManifest
  rw [hfind]
  rfl

end Runs

/-!
## The resolver that requests share
-/

/-- A request with what the outside answers to it. Its ids are those that the resolver finds
for its token. -/
structure Arrival where
  request : Request
  engine : Engine
  order : MemoryOrder
  conditions : Conditions
  now : Instant
  creation : Creation
  endFails : Bool

structure Process (State : Type) where
  sessions : State
  resolver : Resolver
  database : Database

section Arrivals

variable {State : Type} (S : SessionStore State) (mode : IngressMode) (secret : GoString)

def Arrival.fingerprint (a : Arrival) : GoString :=
  Trace.fingerprint secret (extractToken a.request)

def Arrival.clientKey (a : Arrival) : GoString :=
  Identity.clientKey (a.fingerprint secret) (extractClient a.request).id

def Arrival.resolution (a : Arrival) (w : Process State) : Resolution :=
  resolve w.resolver a.order w.database a.conditions a.now (a.fingerprint secret)
    (extractToken a.request) (extractClient a.request).id

def Arrival.visit (a : Arrival) (w : Process State) : Visit where
  request := a.request
  engine := a.engine
  identityID := (a.resolution secret w).resolved.identityID
  clientUUID := (a.resolution secret w).resolved.clientID
  now := a.now
  creation := a.creation
  endFails := a.endFails

def arrive (w : Process State) (a : Arrival) : Option (Process State) :=
  some
    { sessions := visit S mode w.sessions (a.visit secret w)
      resolver := (a.resolution secret w).resolver
      database := (a.resolution secret w).database }

/-- `EnforcePart` for a request on the session that it carries. -/
def partVerdict (index : Option PartIndex) (findFails : Bool) (partID : GoString)
    (a : Arrival) (w : Process State) : Spike.Verdict :=
  enforcePart (boundaryOver S a.engine index findFails w.sessions) a.request partID
    (extractSession a.request) (a.resolution secret w).resolved.identityID
    (a.resolution secret w).resolved.clientID

/-- The resolver answers a request from its memory: the token, and the client if the request
names one, were resolved less than five minutes ago. -/
structure Remembers (mine : Arrival) (w : Process State) : Prop where
  account : (remembered w.resolver mine.now (mine.fingerprint secret)).isSome = true
  client : (extractClient mine.request).id = [] ∨
    ((w.resolver.cli.lookup (mine.clientKey secret)).filter fun cli =>
      mine.now - cli.savedAt < memTTL).isSome = true

/-- Another caller's request leaves a session alone and finds room in the resolver. -/
structure SparesMine (mine : Arrival) (w : Process State) (a : Arrival) : Prop where
  session : reachesPlayback mode a.request = true ->
    Spares S (extractSession mine.request) (a.visit secret w)
  caller : a.fingerprint secret ≠ mine.fingerprint secret
  accounts : w.resolver.acct.entries.length < memMax
  clients : w.resolver.cli.entries.length < memMax

instance (id : GoString) (v : Visit) : Decidable (Spares S id v) :=
  decidable_of_iff
    (endedID v ≠ some id ∧ forall session, recordedSession v = some session -> S.key session ≠ id)
    ⟨fun h => ⟨h.left, h.right⟩, fun h => ⟨h.ended, h.recorded⟩⟩

instance (mine : Arrival) (w : Process State) : Decidable (Remembers secret mine w) :=
  decidable_of_iff (_ ∧ _) ⟨fun h => ⟨h.left, h.right⟩, fun h => ⟨h.account, h.client⟩⟩

instance (mine : Arrival) (w : Process State) (a : Arrival) :
    Decidable (SparesMine S mode secret mine w a) :=
  decidable_of_iff (_ ∧ _ ∧ _ ∧ _)
    ⟨fun h => ⟨h.left, h.right.left, h.right.right.left, h.right.right.right⟩,
      fun h => ⟨h.session, h.caller, h.accounts, h.clients⟩⟩

/-- Two states hold the same session and the same entries for a request. -/
structure SameFor (mine : Arrival) (w w' : Process State) : Prop where
  session : S.findActive w'.sessions (extractSession mine.request) =
    S.findActive w.sessions (extractSession mine.request)
  account : w'.resolver.acct.lookup (mine.fingerprint secret) =
    w.resolver.acct.lookup (mine.fingerprint secret)
  client : w'.resolver.cli.lookup (mine.clientKey secret) =
    w.resolver.cli.lookup (mine.clientKey secret)

variable {S mode secret} {mine a : Arrival} {w u v : Process State}

theorem nul_not_mem_fingerprint (a : Arrival) : 0 ∉ a.fingerprint secret := by
  unfold Arrival.fingerprint Trace.fingerprint
  split
  · exact List.not_mem_nil
  · exact not_mem_hexEncode (by decide) _

theorem SameFor.arrive (h : SameFor S secret mine w u) (hspares : SparesMine S mode secret mine u a)
    (hstep : arrive S mode secret u a = some v) : SameFor S secret mine w v := by
  cases hstep
  have hmemory : (a.resolution secret u).resolver.acct.lookup (mine.fingerprint secret) =
      u.resolver.acct.lookup (mine.fingerprint secret) ∧
      forall key, key ≠ a.clientKey secret ->
        (a.resolution secret u).resolver.cli.lookup key = u.resolver.cli.lookup key :=
    resolve_memory hspares.caller hspares.accounts hspares.clients
  rcases hmemory with ⟨haccount, hclient⟩
  refine ⟨(find_visit hspares.session u.sessions).trans h.session, haccount.trans h.account,
    (hclient _ fun hkey => hspares.caller ?_).trans h.client⟩
  exact (append_separator_inj (nul_not_mem_fingerprint mine) (nul_not_mem_fingerprint a)
    hkey).left.symm

theorem SameFor.resolved (h : SameFor S secret mine w v) (hremembers : Remembers secret mine w) :
    (mine.resolution secret v).resolved = (mine.resolution secret w).resolved := by
  rcases Option.isSome_iff_exists.mp hremembers.account with ⟨entry, hentry⟩
  have hlater : remembered v.resolver mine.now (mine.fingerprint secret) = some entry := by
    rw [← hentry, remembered, remembered, h.account]
  unfold Arrival.resolution resolve
  rw [hentry, hlater]
  split
  · rfl
  simp only [resolveRemembered]
  rcases hremembers.client with hnone | hclient
  · rw [if_pos hnone, if_pos hnone]
  split
  · rfl
  rcases Option.isSome_iff_exists.mp hclient with ⟨cli, hcli⟩
  have hcliLater : (v.resolver.cli.lookup (mine.clientKey secret)).filter
      (fun cli => mine.now - cli.savedAt < memTTL) = some cli := by
    rw [h.client, hcli]
  unfold Arrival.clientKey at hcli hcliLater
  rw [hcli, hcliLater]

/-- After every run of requests that all spare a session and its caller, a part check on the
session has the result it had before. -/
theorem session_undisturbed (S : SessionStore State) (mode : IngressMode) (secret : GoString)
    (index : Option PartIndex) (findFails : Bool) (partID : GoString) (mine : Arrival)
    (others : List Arrival) (w w' : Process State) (hremembers : Remembers secret mine w)
    (hspares : Along (arrive S mode secret) (SparesMine S mode secret mine) w others)
    (hrun : run (arrive S mode secret) w others = some w') :
    partVerdict S secret index findFails partID mine w' =
      partVerdict S secret index findFails partID mine w := by
  have hsame : SameFor S secret mine w w' :=
    run_invariant (fun _ _ _ h hcond hstep => h.arrive hcond hstep) ⟨rfl, rfl, rfl⟩ hspares hrun
  unfold partVerdict
  rw [hsame.resolved hremembers]
  exact enforcePart_boundaryOver hsame.session mine.engine index findFails mine.request partID _ _

end Arrivals

/-!
## A session that is disturbed
-/

def arrivalAt (path rawQuery : GoString) (engine : Engine) : Arrival where
  request := Request.bareGet path rawQuery Header.empty
  engine := engine
  order := ⟨Order.stored _, Order.stored _⟩
  conditions := ⟨false, false, false, false, false, false, false, [], [], .failed⟩
  now := 1
  creation := .acknowledged []
  endFails := false

def filmSecret : GoString :=
  str "k"

def knownAs (id : GoString) (account : Int) : AcctEntry :=
  ⟨accountScope account, id, account, true, true, false, 0⟩

/-- Two users whose tokens were resolved before, and the session of one of them. -/
def filmProcess : Process (List SessionRow) where
  sessions := [⟨filmSession, 0, false⟩]
  resolver :=
    { db := true, tv := false, cli := Table.empty, server := [], srvAt := 0
      acct := (Table.empty.set (Trace.fingerprint filmSecret (str "t"))
        (knownAs (str "jodie") 1)).set (Trace.fingerprint filmSecret (str "u"))
        (knownAs (str "robin") 2) }
  database := ⟨none, Table.empty, [], []⟩

def filmPart : Arrival :=
  arrivalAt (str "/library/parts/301/17/file.mkv") (str "session=x&token=t") pmsEngine

def filmStep : Process (List SessionRow) -> Arrival -> Option (Process (List SessionRow)) :=
  arrive (pgStore (Order.stored _)) .direct filmSecret

def filmCheck (w : Process (List SessionRow)) : Spike.Verdict :=
  partVerdict (pgStore (Order.stored _)) filmSecret none false (str "301") filmPart w

def negotiationUnder (id : GoString) : Arrival :=
  arrivalAt (str "/video/:/transcode/universal/decision")
    (str "ratingKey=9&token=u&session=" ++ id) (indexedEngine playAnswer)

def stopOf (id : GoString) : Arrival :=
  arrivalAt (str "/video/:/transcode/universal/stop") (str "token=u&session=" ++ id) pmsEngine

theorem own_sessions_spare_film :
    exists w, run filmStep filmProcess [negotiationUnder (str "y"), stopOf (str "y")] = some w ∧
      filmCheck w = filmCheck filmProcess := by
  have hsome : (run filmStep filmProcess [negotiationUnder (str "y"),
      stopOf (str "y")]).isSome = true := by
    decide +kernel
  rcases Option.isSome_iff_exists.mp hsome with ⟨w, hrun⟩
  refine ⟨w, hrun, session_undisturbed (pgStore (Order.stored _)) .direct filmSecret none false
    (str "301") filmPart _ filmProcess w ?_ ?_ hrun⟩
  · decide +kernel
  · decide +kernel

/-- Another user's stop request, or negotiation, under the film's session id takes the
film away from its own user. -/
theorem film_session_taken :
    ((stopOf (str "x")).visit filmSecret filmProcess).identityID = str "robin" ∧
    ((negotiationUnder (str "x")).visit filmSecret filmProcess).identityID = str "robin" ∧
    filmSession.identityID = str "jodie" ∧ filmCheck filmProcess = permitted ∧
    (run filmStep filmProcess [stopOf (str "x")]).map filmCheck =
      some (refused decisionRequired) ∧
    (run filmStep filmProcess [negotiationUnder (str "x")]).map filmCheck =
      some (refused sessionIdentityMismatch) := by
  decide +kernel

end ReplxEdge.Playback
