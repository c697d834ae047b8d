import ReplxEdge.Identity.Resolver

/-!
# Calls

A call of the resolver takes time: the clock is read when it starts, when the server and
the link row are looked at, and by the database when a row is written, and plex.tv answers
in between. A call whose readings are all one instant is the resolution at that instant.
Calls follow each other on a process that may restart and a database that stays, and what
plex.tv has answered is kept next to them.
-/

namespace ReplxEdge.Identity

open Foundation

/-!
## The clock of a call
-/

/-- The readings during one call, in their order; `answered` is when plex.tv answers. -/
structure Clock where
  start : Instant
  server : Instant
  served : Instant
  checked : Instant
  answered : Instant
  written : Instant
  server_le : start ≤ server
  served_le : server ≤ served
  checked_le : served ≤ checked
  answered_le : checked ≤ answered
  written_le : answered ≤ written

def Clock.still (now : Instant) : Clock where
  start := now
  server := now
  served := now
  checked := now
  answered := now
  written := now
  server_le := Int.le_refl now
  served_le := Int.le_refl now
  checked_le := Int.le_refl now
  answered_le := Int.le_refl now
  written_le := Int.le_refl now

/-!
## Resolution over time
-/

structure Answered where
  cold : Cold
  asked : Bool

section Timed

variable (c : Conditions) (t : Clock) (server fingerprint token identifier : GoString)

def enabledServerAt (r : Resolver) (db : Database) : GoString × Resolver :=
  if r.server ≠ [] ∧ t.server - r.srvAt < minute then (r.server, r)
  else if c.serverFails then ([], r)
  else
    match db.enabled with
    | none => ([], r)
    | some id => (id, { r with server := id, srvAt := t.served })

def revalidate (db : Database) (identityID : GoString) (account : Int) : Cold :=
  match c.account with
  | .user id =>
    if id ≠ 0 then bindAccount c t.written server fingerprint identifier db id
    else keepLink c server identifier db identityID account false true false
  | .rejected =>
    ⟨rejectedCredential fingerprint, true, markInvalid db c t.written server fingerprint⟩
  | .failed =>
    keepLink c server identifier db identityID account false true false

def resolveLinkedAt (tv : Bool) (db : Database) (row : LinkRow) (identityID : GoString)
    (account : Int) : Answered :=
  if recent t.checked credentialValidityPeriod row.validatedAt ∨ tv = false ∨ token = [] then
    ⟨keepLink c server identifier db identityID account
      (recent t.checked credentialValidityPeriod row.validatedAt) false true, false⟩
  else ⟨revalidate c t server fingerprint identifier db identityID account, true⟩

def resolveUnlinkedAt (tv : Bool) (db : Database) : Answered where
  cold := resolveUnlinked c t.written server fingerprint token identifier tv db
  asked := tv && token != []

def resolveRowAt (tv : Bool) (db : Database) : Answered :=
  match readLink c server fingerprint db with
  | none => resolveUnlinkedAt c t server fingerprint token identifier tv db
  | some row =>
    if row.status = .invalid then
      if recent t.checked revalidateAfter row.validatedAt then
        ⟨⟨rejectedCredential fingerprint, true, db⟩, false⟩
      else resolveUnlinkedAt c t server fingerprint token identifier tv db
    else
      match linkedIdentity db row with
      | some (id, account) =>
        resolveLinkedAt c t server fingerprint token identifier tv db row id account
      | none => resolveUnlinkedAt c t server fingerprint token identifier tv db

def resolveColdAt (r : Resolver) (db : Database) : Answered × Resolver :=
  if r.db = false then (⟨⟨fallback fingerprint, true, db⟩, false⟩, r)
  else
    let known := enabledServerAt c t r db
    if known.1 = [] then (⟨⟨fallback fingerprint, true, db⟩, false⟩, known.2)
    else (resolveRowAt c t known.1 fingerprint token identifier r.tv db, known.2)

def resolveClientAt (r : Resolver) (db : Database) : GoString × Resolver × Database :=
  if r.db = false ∨ identifier = [] then ([], r, db)
  else
    let known := enabledServerAt c t r db
    if known.1 = [] then ([], known.2, db)
    else
      let client := recordClient db c known.1 identifier
      (client.1, known.2, client.2)

def rememberedClient (r : Resolver) : Option CliEntry :=
  (r.cli.lookup (clientKey fingerprint identifier)).filter
    fun cli => t.start - cli.savedAt < memTTL

def keepClient (r : Resolver) (clientID : GoString) : Resolver :=
  if clientID = [] then r
  else { r with cli := r.cli.set (clientKey fingerprint identifier) ⟨clientID, t.start⟩ }

def resolveRememberedAt (r : Resolver) (db : Database) (entry : AcctEntry) : Resolution :=
  if identifier = [] then ⟨fromEntry entry [], r, db⟩
  else
    match rememberedClient t fingerprint identifier r with
    | some cli => ⟨fromEntry entry cli.clientID, r, db⟩
    | none =>
      let found := resolveClientAt c t identifier r db
      ⟨fromEntry entry found.1, keepClient t fingerprint identifier found.2.1 found.1, found.2.2⟩

end Timed

structure ResolveCall where
  fingerprint : GoString
  token : GoString
  identifier : GoString
  clock : Clock
  conditions : Conditions
  order : MemoryOrder

/-- What a call returns and leaves behind, and whether plex.tv was asked. -/
structure Returned where
  resolution : Resolution
  asked : Bool

def resolveAt (r : Resolver) (db : Database) (call : ResolveCall) : Returned :=
  if call.fingerprint = [] then ⟨⟨fallback call.fingerprint, r, db⟩, false⟩
  else
    match remembered r call.clock.start call.fingerprint with
    | some entry =>
      ⟨resolveRememberedAt call.conditions call.clock call.fingerprint call.identifier r db
        entry, false⟩
    | none =>
      let cold := resolveColdAt call.conditions call.clock call.fingerprint call.token
        call.identifier r db
      ⟨⟨cold.1.cold.resolved, remember cold.2 call.order call.clock.start call.fingerprint
        call.identifier cold.1.cold, cold.1.cold.database⟩, cold.1.asked⟩

/-!
### Calls that take no time
-/

section Still

variable (c : Conditions) (now : Instant) (server fingerprint token identifier : GoString)

theorem resolveLinkedAt_still (tv : Bool) (db : Database) (row : LinkRow)
    (identityID : GoString) (account : Int) :
    (resolveLinkedAt c (Clock.still now) server fingerprint token identifier tv db row
        identityID account).cold =
      resolveLinked c now server fingerprint token identifier tv db row identityID account := by
  refine (apply_ite Answered.cold _ _ _).trans ?_
  rfl

theorem resolveRowAt_still (tv : Bool) (db : Database) :
    (resolveRowAt c (Clock.still now) server fingerprint token identifier tv db).cold =
      resolveRow c now server fingerprint token identifier tv db := by
  unfold resolveRowAt resolveRow
  cases readLink c server fingerprint db with
  | none =>
    rfl
  | some row =>
    refine (apply_ite Answered.cold _ _ _).trans (if_congr Iff.rfl ?_ ?_)
    · exact apply_ite Answered.cold _ _ _
    · cases linkedIdentity db row with
      | none =>
        rfl
      | some found =>
        exact resolveLinkedAt_still c now server fingerprint token identifier tv db row
          found.1 found.2

theorem resolveColdAt_still (r : Resolver) (db : Database) :
    (resolveColdAt c (Clock.still now) fingerprint token identifier r db).map
        Answered.cold id =
      resolveCold r db c now fingerprint token identifier := by
  refine (apply_ite (Prod.map Answered.cold id) _ _ _).trans (if_congr Iff.rfl rfl ?_)
  refine (apply_ite (Prod.map Answered.cold id) _ _ _).trans (if_congr Iff.rfl rfl ?_)
  exact Prod.ext (resolveRowAt_still c now _ fingerprint token identifier r.tv db) rfl

/-- A call that takes no time is the resolution at its instant. -/
theorem resolveAt_still (r : Resolver) (order : MemoryOrder) (db : Database) :
    (resolveAt r db ⟨fingerprint, token, identifier, Clock.still now, c, order⟩).resolution =
      resolve r order db c now fingerprint token identifier := by
  refine (apply_ite Returned.resolution _ _ _).trans (if_congr Iff.rfl rfl ?_)
  rw [← resolveColdAt_still]
  cases hentry : remembered r now fingerprint with
  | some entry =>
    rw [show remembered r (Clock.still now).start fingerprint = some entry from hentry]
    rfl
  | none =>
    rw [show remembered r (Clock.still now).start fingerprint = none from hentry]
    rfl

end Still

/-!
## What a call can do

One case per way through the slow path, so that what calls keep is read off from them.
-/

section Outcomes

variable (c : Conditions) (t : Clock) (server fingerprint token identifier : GoString)
  (tv : Bool) (db : Database)

inductive RowOutcome : Answered -> Prop where
  /-- Nothing can be asked. -/
  | plain : RowOutcome ⟨⟨fallback fingerprint, true, db⟩, false⟩
  /-- A rejection is on record. -/
  | recorded (row : LinkRow) (hrow : db.links.lookup (server, fingerprint) = some row)
      (hstatus : row.status = .invalid)
      (hrecent : recent t.checked revalidateAfter row.validatedAt = true) :
      RowOutcome ⟨⟨rejectedCredential fingerprint, true, db⟩, false⟩
  /-- The association is used as it is. -/
  | kept (row : LinkRow) (id : GoString) (account : Int)
      (hrow : db.links.lookup (server, fingerprint) = some row)
      (hstatus : row.status ≠ .invalid) :
      RowOutcome ⟨keepLink c server identifier db id account
        (recent t.checked credentialValidityPeriod row.validatedAt) false true, false⟩
  /-- plex.tv proves an account. -/
  | bound (account : Int) (haccount : c.account = .user account)
      (hne : account ≠ 0) :
      RowOutcome ⟨bindAccount c t.written server fingerprint identifier db account, true⟩
  /-- plex.tv rejects the credential. -/
  | rejected (haccount : c.account = .rejected) :
      RowOutcome ⟨⟨rejectedCredential fingerprint, true,
        markInvalid db c t.written server fingerprint⟩, true⟩
  /-- plex.tv gives no verdict on a linked credential. -/
  | unproven (id : GoString) (account : Int) :
      RowOutcome ⟨keepLink c server identifier db id account false true false, true⟩
  /-- plex.tv gives no verdict on an unlinked credential. -/
  | degraded (haccount : c.account = .failed) :
      RowOutcome ⟨⟨{ fallback fingerprint with degraded := true }, false, db⟩, true⟩
  /-- plex.tv answers without an account. -/
  | nobody : RowOutcome ⟨⟨fallback fingerprint, true, db⟩, true⟩

end Outcomes

section OutcomeCases

variable {c : Conditions} {t : Clock} {server fingerprint token identifier : GoString}
  {tv : Bool} {db : Database}

theorem resolveUnlinkedAt_cases :
    RowOutcome c t server fingerprint identifier db
      (resolveUnlinkedAt c t server fingerprint token identifier tv db) := by
  unfold resolveUnlinkedAt resolveUnlinked
  by_cases hsilent : tv = false ∨ token = []
  · have hasked : (tv && token != []) = false := by
      rcases hsilent with htv | htoken
      · rw [htv]
        rfl
      rw [htoken, Bool.and_comm]
      rfl
    rw [if_pos hsilent, hasked]
    exact .plain
  have hasked : (tv && token != []) = true := by
    rcases not_or.mp hsilent with ⟨htv, htoken⟩
    rw [Bool.and_eq_true, bne_iff_ne]
    exact ⟨Bool.eq_true_of_not_eq_false htv, htoken⟩
  rw [if_neg hsilent, hasked]
  cases haccount : c.account with
  | user id =>
    simp only
    by_cases hzero : id = 0
    · rw [if_pos hzero]
      exact .nobody
    rw [if_neg hzero]
    exact .bound id haccount hzero
  | rejected => exact .rejected haccount
  | failed => exact .degraded haccount

theorem resolveLinkedAt_cases {row : LinkRow} (id : GoString) (account : Int)
    (hrow : db.links.lookup (server, fingerprint) = some row) (hstatus : row.status ≠ .invalid) :
    RowOutcome c t server fingerprint identifier db
      (resolveLinkedAt c t server fingerprint token identifier tv db row id account) := by
  unfold resolveLinkedAt
  split
  · exact .kept row id account hrow hstatus
  unfold revalidate
  cases haccount : c.account with
  | user found =>
    simp only
    by_cases hzero : found = 0
    · rw [if_neg (not_not.mpr hzero)]
      exact .unproven id account
    rw [if_pos hzero]
    exact .bound found haccount hzero
  | rejected => exact .rejected haccount
  | failed => exact .unproven id account

theorem resolveRowAt_cases :
    RowOutcome c t server fingerprint identifier db
      (resolveRowAt c t server fingerprint token identifier tv db) := by
  unfold resolveRowAt
  cases hread : readLink c server fingerprint db with
  | none => exact resolveUnlinkedAt_cases
  | some row =>
    have hrow : db.links.lookup (server, fingerprint) = some row := by
      unfold readLink at hread
      split at hread
      · cases hread
      · exact hread
    simp only
    by_cases hstatus : row.status = .invalid
    · rw [if_pos hstatus]
      split
      · rename_i hrecent
        exact .recorded row hrow hstatus hrecent
      · exact resolveUnlinkedAt_cases
    rw [if_neg hstatus]
    cases linkedIdentity db row with
    | none => exact resolveUnlinkedAt_cases
    | some found => exact resolveLinkedAt_cases found.1 found.2 hrow hstatus

end OutcomeCases

/-- The ways through a whole call, with the server that the slow path works for. -/
inductive CallOutcome (r : Resolver) (db : Database) (call : ResolveCall) : Returned -> Prop where
  | nameless (h : call.fingerprint = []) :
      CallOutcome r db call ⟨⟨fallback call.fingerprint, r, db⟩, false⟩
  | remembered (entry : AcctEntry)
      (hentry : remembered r call.clock.start call.fingerprint = some entry) :
      CallOutcome r db call ⟨resolveRememberedAt call.conditions call.clock call.fingerprint
        call.identifier r db entry, false⟩
  | cold (known : Resolver) (outcome : Answered) (hacct : known.acct = r.acct)
      (hcli : known.cli = r.cli)
      (houtcome : outcome = ⟨⟨fallback call.fingerprint, true, db⟩, false⟩ ∨
        exists server, server ≠ [] ∧ RowOutcome call.conditions call.clock server
          call.fingerprint call.identifier db outcome) :
      CallOutcome r db call ⟨⟨outcome.cold.resolved, remember known call.order
        call.clock.start call.fingerprint call.identifier outcome.cold,
        outcome.cold.database⟩, outcome.asked⟩

theorem enabledServerAt_memory (c : Conditions) (t : Clock) (r : Resolver) (db : Database) :
    (enabledServerAt c t r db).2.acct = r.acct ∧ (enabledServerAt c t r db).2.cli = r.cli := by
  unfold enabledServerAt
  split
  · exact ⟨rfl, rfl⟩
  split
  · exact ⟨rfl, rfl⟩
  split
  · exact ⟨rfl, rfl⟩
  · exact ⟨rfl, rfl⟩

theorem resolveAt_cases (r : Resolver) (db : Database) (call : ResolveCall) :
    CallOutcome r db call (resolveAt r db call) := by
  unfold resolveAt
  by_cases hfingerprint : call.fingerprint = []
  · rw [if_pos hfingerprint]
    exact .nameless hfingerprint
  rw [if_neg hfingerprint]
  cases hentry : remembered r call.clock.start call.fingerprint with
  | some entry => exact .remembered entry hentry
  | none =>
    have hmemory := enabledServerAt_memory call.conditions call.clock r db
    unfold resolveColdAt
    simp only
    by_cases hdb : r.db = false
    · rw [if_pos hdb]
      exact .cold r _ rfl rfl (Or.inl rfl)
    rw [if_neg hdb]
    by_cases hserver : (enabledServerAt call.conditions call.clock r db).1 = []
    · rw [if_pos hserver]
      exact .cold _ _ hmemory.left hmemory.right (Or.inl rfl)
    rw [if_neg hserver]
    exact .cold _ _ hmemory.left hmemory.right
      (Or.inr ⟨_, hserver, resolveRowAt_cases⟩)

/-!
## The system
-/

/-- What plex.tv answered for a token, and when; `written` is when the call that asked
wrote the link row. -/
structure Asked where
  token : GoString
  account : AccountAnswer
  answered : Instant
  written : Instant

structure Service where
  resolver : Resolver
  db : Database
  log : List Asked

inductive Event where
  | call (call : ResolveCall)
  | restart
  | enable (server : Option GoString)

def Resolver.new (db tv : Bool) : Resolver where
  db := db
  tv := tv
  acct := Table.empty
  cli := Table.empty
  server := []
  srvAt := 0

namespace Service

def start (db tv : Bool) (database : Database) : Service where
  resolver := Resolver.new db tv
  db := database
  log := []

def returned (s : Service) (call : ResolveCall) : Returned :=
  resolveAt s.resolver s.db call

def asks (s : Service) (call : ResolveCall) : List Asked :=
  if (s.returned call).asked then
    [⟨call.token, call.conditions.account, call.clock.answered, call.clock.written⟩]
  else []

def step (s : Service) : Event -> Service
  | .call call =>
    { resolver := (s.returned call).resolution.resolver
      db := (s.returned call).resolution.database
      log := s.log ++ s.asks call }
  | .restart => { s with resolver := Resolver.new s.resolver.db s.resolver.tv }
  | .enable server => { s with db := { s.db with enabled := server } }

def after (s : Service) (events : List Event) : Service :=
  events.foldl step s

end Service

theorem lookup_of_evictOldest {value : Type} {order : Order (GoString × value)}
    {stamp : value -> Instant} {t : Table GoString value} {key : GoString} {found : value}
    (h : (evictOldest order stamp t).lookup key = some found) : t.lookup key = some found := by
  unfold evictOldest at h
  split at h
  · split at h
    · exact h
    · exact Table.lookup_of_delete h
  · exact h

theorem lookup_remember_cli {r : Resolver} {order : MemoryOrder} {now : Instant}
    {fingerprint identifier key : GoString} {cold : Cold} {found : CliEntry}
    (h : (remember r order now fingerprint identifier cold).cli.lookup key = some found) :
    r.cli.lookup key = some found ∨
      (key = clientKey fingerprint identifier ∧ cold.resolved.clientID ≠ [] ∧
        found.clientID = cold.resolved.clientID) := by
  unfold remember at h
  simp only at h
  split at h
  · exact Or.inl h
  split at h
  · exact Or.inl (lookup_of_evictOldest h)
  rename_i hclient
  rw [Table.lookup_set] at h
  split at h
  · rename_i hkey
    cases h
    exact Or.inr ⟨hkey, hclient, rfl⟩
  · exact Or.inl (lookup_of_evictOldest h)

/-!
## Fixed calls
-/

def welcoming : Conditions where
  serverFails := false
  linkFails := false
  identityInsertFails := false
  identitySelectFails := false
  linkWriteFails := false
  invalidWriteFails := false
  clientFails := false
  newIdentity := str "i"
  newClient := str "d"
  account := .user 7

def storedOrder : MemoryOrder :=
  ⟨Order.stored _, Order.stored _⟩

def oneServer : Database :=
  ⟨some (str "s"), Table.empty, [], []⟩

def callAt (now : Instant) (fingerprint identifier : GoString) : ResolveCall :=
  ⟨fingerprint, str "token", identifier, Clock.still now, welcoming, storedOrder⟩

end ReplxEdge.Identity
