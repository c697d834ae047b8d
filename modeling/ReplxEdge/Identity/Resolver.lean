import ReplxEdge.Foundation.Table
import ReplxEdge.Foundation.Digest

/-!
# Identity resolution

A token's fingerprint is resolved to a Plex identity: from the process memory,
from the link table, from plex.tv, and otherwise not at all. Each database
statement of one call can fail on its own, and so can the plex.tv lookup.
-/

namespace ReplxEdge.Identity

open Foundation

def hour : Duration :=
  60 * minute

def revalidateAfter : Duration :=
  hour

def credentialValidityPeriod : Duration :=
  24 * hour

def memTTL : Duration :=
  5 * minute

def memMax : Nat :=
  4096

/-!
## The database and plex.tv
-/

inductive TokenStatus where
  | unknown
  | valid
  | invalid
deriving DecidableEq

/-- A row of the link table. A NULL identity is `none`. -/
structure LinkRow where
  identityID : Option GoString
  status : TokenStatus
  validatedAt : Option Instant
  named : identityID ≠ some []

structure IdentityRow where
  server : GoString
  id : GoString
  accountID : Option Int

structure ClientRow where
  server : GoString
  id : GoString
  identifier : GoString

structure Database where
  enabled : Option GoString
  links : Table (GoString × GoString) LinkRow
  identities : List IdentityRow
  clients : List ClientRow

/-- plex.tv's answer for a token: an account, a definitive rejection (401 or 403), or
any other failure. -/
inductive AccountAnswer where
  | user (id : Int)
  | rejected
  | failed

/-- How the outside behaves during one call: which statements fail, the ids the
database gives to new rows, and plex.tv's answer. -/
structure Conditions where
  serverFails : Bool
  linkFails : Bool
  identityInsertFails : Bool
  identitySelectFails : Bool
  linkWriteFails : Bool
  invalidWriteFails : Bool
  clientFails : Bool
  newIdentity : GoString
  newClient : GoString
  account : AccountAnswer

/-!
## The resolver
-/

structure Resolved where
  scope : GoString
  identityID : GoString
  clientID : GoString
  accountID : Int
  known : Bool
  fresh : Bool
  invalid : Bool
  degraded : Bool
deriving DecidableEq

structure AcctEntry where
  scope : GoString
  identityID : GoString
  accountID : Int
  known : Bool
  fresh : Bool
  invalid : Bool
  savedAt : Instant

structure CliEntry where
  clientID : GoString
  savedAt : Instant

/-- The process memory, and whether a database and plex.tv are configured. -/
structure Resolver where
  db : Bool
  tv : Bool
  acct : Table GoString AcctEntry
  cli : Table GoString CliEntry
  server : GoString
  srvAt : Instant

/-- Token scope, nothing known. -/
def fallback (fingerprint : GoString) : Resolved where
  scope := str "tok:" ++ fingerprint
  identityID := []
  clientID := []
  accountID := 0
  known := false
  fresh := false
  invalid := false
  degraded := false

def rejectedCredential (fingerprint : GoString) : Resolved :=
  { fallback fingerprint with invalid := true }

def accountScope (id : Int) : GoString :=
  str "acct:" ++ formatInt id

def recent (now : Instant) (period : Duration) : Option Instant -> Bool
  | none => false
  | some t => decide (now - t < period)

/-!
## Statements
-/

def accountOf (db : Database) (identityID : GoString) : Option Int :=
  (db.identities.find? fun row => row.id == identityID).bind IdentityRow.accountID

def identityOf (db : Database) (server : GoString) (account : Int) : Option GoString :=
  (db.identities.find? fun row => row.server == server && row.accountID == some account).map
    IdentityRow.id

/-- The enabled server, remembered for a minute. -/
def enabledServer (r : Resolver) (db : Database) (c : Conditions) (now : Instant) :
    GoString × Resolver :=
  if r.server ≠ [] ∧ now - r.srvAt < minute then (r.server, r)
  else if c.serverFails then ([], r)
  else
    match db.enabled with
    | none => ([], r)
    | some id => (id, { r with server := id, srvAt := now })

/-- Insert unless the account has a row, then read the row that won. -/
def upsertIdentity (db : Database) (c : Conditions) (server : GoString) (account : Int) :
    GoString × Database :=
  if c.identityInsertFails then ([], db)
  else
    let stored :=
      match identityOf db server account with
      | some _ => db
      | none =>
        { db with
          identities := db.identities ++ [⟨server, c.newIdentity, some account⟩] }
    if c.identitySelectFails then ([], stored)
    else ((identityOf stored server account).getD [], stored)

def nullIfEmpty (id : GoString) : Option GoString :=
  if id = [] then none else some id

theorem nullIfEmpty_named (id : GoString) : nullIfEmpty id ≠ some [] := by
  unfold nullIfEmpty
  split
  · simp
  rename_i hne
  simpa using hne

def upsertLink (db : Database) (c : Conditions) (now : Instant)
    (server fingerprint identityID : GoString) : Database :=
  if c.linkWriteFails then db
  else
    { db with
      links := db.links.set (server, fingerprint)
        ⟨nullIfEmpty identityID, .valid, some now, nullIfEmpty_named identityID⟩ }

def markInvalid (db : Database) (c : Conditions) (now : Instant)
    (server fingerprint : GoString) : Database :=
  if c.invalidWriteFails then db
  else
    { db with
      links := db.links.set (server, fingerprint)
        ⟨none, .invalid, some now, by simp⟩ }

def recordClient (db : Database) (c : Conditions) (server identifier : GoString) :
    GoString × Database :=
  if identifier = [] ∨ c.clientFails then ([], db)
  else
    match db.clients.find? fun row => row.server == server && row.identifier == identifier with
    | some row => (row.id, db)
    | none =>
      (c.newClient, { db with clients := db.clients ++ [⟨server, c.newClient, identifier⟩] })

/-!
## Resolution
-/

structure Cold where
  resolved : Resolved
  store : Bool
  database : Database

section Calls

variable (c : Conditions) (now : Instant) (server fingerprint token identifier : GoString)

/-- plex.tv proved an account: bind it, or stay token-scoped when it cannot be
stored. -/
def bindAccount (db : Database) (account : Int) : Cold :=
  let identity := upsertIdentity db c server account
  let linked := upsertLink identity.2 c now server fingerprint identity.1
  if identity.1 = [] then ⟨fallback fingerprint, true, linked⟩
  else
    let client := recordClient linked c server identifier
    ⟨{ scope := accountScope account, identityID := identity.1, clientID := client.1,
       accountID := account, known := true, fresh := true, invalid := false,
       degraded := false }, true, client.2⟩

def keepLink (db : Database) (identityID : GoString) (account : Int)
    (fresh degraded store : Bool) : Cold :=
  let client := recordClient db c server identifier
  ⟨{ scope := accountScope account, identityID := identityID, clientID := client.1,
     accountID := account, known := true, fresh := fresh, invalid := false,
     degraded := degraded }, store, client.2⟩

def resolveLinked (tv : Bool) (db : Database) (row : LinkRow) (identityID : GoString)
    (account : Int) : Cold :=
  if recent now credentialValidityPeriod row.validatedAt ∨ tv = false ∨ token = [] then
    keepLink c server identifier db identityID account
      (recent now credentialValidityPeriod row.validatedAt) false true
  else
    match c.account with
    | .user id =>
      if id ≠ 0 then bindAccount c now server fingerprint identifier db id
      else keepLink c server identifier db identityID account false true false
    | .rejected =>
      ⟨rejectedCredential fingerprint, true, markInvalid db c now server fingerprint⟩
    | .failed =>
      keepLink c server identifier db identityID account false true false

def resolveUnlinked (tv : Bool) (db : Database) : Cold :=
  if tv = false ∨ token = [] then ⟨fallback fingerprint, true, db⟩
  else
    match c.account with
    | .rejected =>
      ⟨rejectedCredential fingerprint, true, markInvalid db c now server fingerprint⟩
    | .failed =>
      ⟨{ fallback fingerprint with degraded := true }, false, db⟩
    | .user id =>
      if id = 0 then ⟨fallback fingerprint, true, db⟩
      else bindAccount c now server fingerprint identifier db id

/-- The row the link query returns; a failed query and a missing row are alike. -/
def readLink (db : Database) : Option LinkRow :=
  if c.linkFails then none else db.links.lookup (server, fingerprint)

def linkedIdentity (db : Database) (row : LinkRow) : Option (GoString × Int) :=
  match row.identityID with
  | none => none
  | some id =>
    if id = [] then none else (accountOf db id).map fun account => (id, account)

/-- The slow path for a known server: the link table, then plex.tv. -/
def resolveRow (tv : Bool) (db : Database) : Cold :=
  match readLink c server fingerprint db with
  | none => resolveUnlinked c now server fingerprint token identifier tv db
  | some row =>
    if row.status = .invalid then
      if recent now revalidateAfter row.validatedAt then
        ⟨rejectedCredential fingerprint, true, db⟩
      else resolveUnlinked c now server fingerprint token identifier tv db
    else
      match linkedIdentity db row with
      | some (id, account) =>
        resolveLinked c now server fingerprint token identifier tv db row id account
      | none => resolveUnlinked c now server fingerprint token identifier tv db

end Calls

def resolveCold (r : Resolver) (db : Database) (c : Conditions) (now : Instant)
    (fingerprint token identifier : GoString) : Cold × Resolver :=
  if r.db = false then (⟨fallback fingerprint, true, db⟩, r)
  else
    let known := enabledServer r db c now
    if known.1 = [] then (⟨fallback fingerprint, true, db⟩, known.2)
    else (resolveRow c now known.1 fingerprint token identifier r.tv db, known.2)

def resolveClient (r : Resolver) (db : Database) (c : Conditions) (now : Instant)
    (identifier : GoString) : GoString × Resolver × Database :=
  if r.db = false ∨ identifier = [] then ([], r, db)
  else
    let known := enabledServer r db c now
    if known.1 = [] then ([], known.2, db)
    else
      let client := recordClient db c known.1 identifier
      (client.1, known.2, client.2)

def clientKey (fingerprint identifier : GoString) : GoString :=
  fingerprint ++ 0 :: identifier

def remembered (r : Resolver) (now : Instant) (fingerprint : GoString) :
    Option AcctEntry :=
  (r.acct.lookup fingerprint).filter fun entry => now - entry.savedAt < memTTL

def fromEntry (entry : AcctEntry) (clientID : GoString) : Resolved where
  scope := entry.scope
  identityID := entry.identityID
  clientID := clientID
  accountID := entry.accountID
  known := entry.known
  fresh := entry.fresh
  invalid := entry.invalid
  degraded := false

def evictOldest {value : Type} (order : Order (GoString × value))
    (stamp : value -> Instant) (t : Table GoString value) : Table GoString value :=
  if memMax ≤ t.entries.length then
    match t.oldest order stamp with
    | none => t
    | some k => t.delete k
  else t

structure MemoryOrder where
  acct : Order (GoString × AcctEntry)
  cli : Order (GoString × CliEntry)

def remember (r : Resolver) (order : MemoryOrder) (now : Instant)
    (fingerprint identifier : GoString) (cold : Cold) : Resolver :=
  let res := cold.resolved
  let acct :=
    if cold.store then
      (evictOldest order.acct AcctEntry.savedAt r.acct).set fingerprint
        ⟨res.scope, res.identityID, res.accountID, res.known, res.fresh, res.invalid, now⟩
    else r.acct
  let cli :=
    if identifier = [] then r.cli
    else
      let room := evictOldest order.cli CliEntry.savedAt r.cli
      if res.clientID = [] then room
      else room.set (clientKey fingerprint identifier) ⟨res.clientID, now⟩
  { r with acct := acct, cli := cli }

structure Resolution where
  resolved : Resolved
  resolver : Resolver
  database : Database

def resolveRemembered (r : Resolver) (db : Database) (c : Conditions) (now : Instant)
    (entry : AcctEntry) (fingerprint identifier : GoString) : Resolution :=
  if identifier = [] then ⟨fromEntry entry [], r, db⟩
  else
    match (r.cli.lookup (clientKey fingerprint identifier)).filter
        fun cli => now - cli.savedAt < memTTL with
    | some cli => ⟨fromEntry entry cli.clientID, r, db⟩
    | none =>
      let found := resolveClient r db c now identifier
      let kept :=
        if found.1 = [] then found.2.1
        else
          { found.2.1 with
            cli := found.2.1.cli.set (clientKey fingerprint identifier) ⟨found.1, now⟩ }
      ⟨fromEntry entry found.1, kept, found.2.2⟩

def resolve (r : Resolver) (order : MemoryOrder) (db : Database) (c : Conditions)
    (now : Instant) (fingerprint token identifier : GoString) : Resolution :=
  if fingerprint = [] then ⟨fallback fingerprint, r, db⟩
  else
    match remembered r now fingerprint with
    | some entry => resolveRemembered r db c now entry fingerprint identifier
    | none =>
      let cold := resolveCold r db c now fingerprint token identifier
      ⟨cold.1.resolved, remember cold.2 order now fingerprint identifier cold.1, cold.1.database⟩

/-!
## Which identity is found
-/

theorem upsertIdentity_eq (db : Database) (c : Conditions) (server : GoString)
    (account : Int) {I : GoString} (hI : I ≠ []) :
    (upsertIdentity db c server account).1 = I <->
      c.identityInsertFails = false ∧ c.identitySelectFails = false ∧
        (identityOf db server account).getD c.newIdentity = I := by
  unfold upsertIdentity
  cases hinsert : c.identityInsertFails with
  | true =>
    simp [hI.symm]
  | false =>
    cases hselect : c.identitySelectFails with
    | true =>
      simp [hI.symm]
    | false =>
      cases hrow : identityOf db server account with
      | some id =>
        simp [hrow]
      | none =>
        have hnew : identityOf { db with identities :=
            db.identities ++ [⟨server, c.newIdentity, some account⟩] } server account =
            some c.newIdentity := by
          unfold identityOf at hrow ⊢
          rw [List.find?_append, Option.map_eq_none_iff.mp hrow]
          simp
        simp [hnew]

/-- The server a call works with: the remembered one, or the enabled one when the
query succeeds. -/
def ServerKnown (r : Resolver) (db : Database) (c : Conditions) (now : Instant)
    (server : GoString) : Prop :=
  server ≠ [] ∧
    ((now - r.srvAt < minute ∧ r.server = server) ∨
      (¬ (r.server ≠ [] ∧ now - r.srvAt < minute) ∧ c.serverFails = false ∧
        db.enabled = some server))

/-- plex.tv names an account whose identity can be stored or read as `I`. -/
def AccountNames (c : Conditions) (db : Database) (server I : GoString) : Prop :=
  exists account, c.account = .user account ∧ account ≠ 0 ∧
    c.identityInsertFails = false ∧ c.identitySelectFails = false ∧
    (identityOf db server account).getD c.newIdentity = I

/-- The table's own association is used: its proof is recent, or nothing can check it,
or plex.tv gives no verdict. -/
def LinkTrusted (c : Conditions) (now : Instant) (token : GoString) (tv : Bool)
    (row : LinkRow) : Prop :=
  recent now credentialValidityPeriod row.validatedAt = true ∨ tv = false ∨ token = [] ∨
    c.account = .failed ∨ c.account = .user 0

def UsableLink (db : Database) (row : LinkRow) (id : GoString) : Prop :=
  row.status ≠ .invalid ∧ row.identityID = some id ∧ id ≠ [] ∧
    (accountOf db id).isSome = true

def RecentlyRejected (now : Instant) (row : LinkRow) : Prop :=
  row.status = .invalid ∧ recent now revalidateAfter row.validatedAt = true

/-- The slow path finds `I`: the link row names it and is trusted, or plex.tv is asked
and its account has that identity. -/
def RowNames (c : Conditions) (now : Instant) (server fingerprint token : GoString)
    (tv : Bool) (db : Database) (I : GoString) : Prop :=
  (exists row, c.linkFails = false ∧ db.links.lookup (server, fingerprint) = some row ∧
      UsableLink db row I ∧ LinkTrusted c now token tv row) ∨
    (tv = true ∧ token ≠ [] ∧ AccountNames c db server I ∧ forall row, c.linkFails = false ->
        db.links.lookup (server, fingerprint) = some row -> ¬ RecentlyRejected now row ∧
          ((exists id, UsableLink db row id) ->
            recent now credentialValidityPeriod row.validatedAt = false))

/-- A call for a fingerprint finds the identity `I`. -/
def ResolvesTo (r : Resolver) (db : Database) (c : Conditions) (now : Instant)
    (fingerprint token I : GoString) : Prop :=
  fingerprint ≠ [] ∧
    match remembered r now fingerprint with
    | some entry => entry.identityID = I
    | none =>
      r.db = true ∧ exists server, ServerKnown r db c now server ∧
        RowNames c now server fingerprint token r.tv db I

section Cold

variable {c : Conditions} {now : Instant} {server fingerprint token identifier I : GoString}
variable {tv : Bool} {db : Database}

theorem bindAccount_identity (hI : I ≠ []) (account : Int) :
    (bindAccount c now server fingerprint identifier db account).resolved.identityID = I <->
      c.identityInsertFails = false ∧ c.identitySelectFails = false ∧
        (identityOf db server account).getD c.newIdentity = I := by
  rw [← upsertIdentity_eq db c server account hI]
  unfold bindAccount
  simp only
  split
  · rename_i hnone
    rw [hnone]
    exact Iff.rfl
  · exact Iff.rfl

theorem resolveUnlinked_identity (hI : I ≠ []) :
    (resolveUnlinked c now server fingerprint token identifier tv db).resolved.identityID = I <->
      tv = true ∧ token ≠ [] ∧ AccountNames c db server I := by
  have hnil : ¬ ([] : GoString) = I := hI.symm
  unfold resolveUnlinked
  by_cases hask : tv = false ∨ token = []
  · rw [if_pos hask]
    constructor
    · intro h
      exact absurd h hnil
    intro h
    rcases hask with htv | htoken
    · rw [htv] at h
      cases h.left
    · exact absurd htoken h.right.left
  rw [if_neg hask]
  rcases not_or.mp hask with ⟨htv, htoken⟩
  have htrue : tv = true := by simpa using htv
  unfold AccountNames
  cases hanswer : c.account with
  | rejected =>
    simp [rejectedCredential, fallback, hnil]
  | failed =>
    simp [fallback, hnil]
  | user id =>
    by_cases hzero : id = 0
    · simp [hzero, fallback, hnil]
    simp only [if_neg hzero, bindAccount_identity hI, htrue, htoken, ne_eq,
      not_false_eq_true, AccountAnswer.user.injEq, true_and]
    constructor
    · intro h
      exact ⟨id, rfl, hzero, h⟩
    intro h
    rcases h with ⟨account, rfl, _, h⟩
    exact h

theorem resolveLinked_identity (hI : I ≠ []) (row : LinkRow) (id : GoString) (account : Int) :
    (resolveLinked c now server fingerprint token identifier tv db row id
        account).resolved.identityID = I <-> (id = I ∧ LinkTrusted c now token tv row) ∨
        (tv = true ∧ token ≠ [] ∧ AccountNames c db server I ∧
          recent now credentialValidityPeriod row.validatedAt = false) := by
  have hnil : ¬ ([] : GoString) = I := hI.symm
  unfold resolveLinked LinkTrusted AccountNames
  by_cases htrust : recent now credentialValidityPeriod row.validatedAt ∨ tv = false ∨
      token = []
  · rw [if_pos htrust]
    change id = I <-> _
    constructor
    · intro h
      refine Or.inl ⟨h, ?_⟩
      tauto
    intro h
    rcases h with h | ⟨htv, htoken, _, hold⟩
    · exact h.left
    rw [htv, hold] at htrust
    simp [htoken] at htrust
  rw [if_neg htrust]
  rcases not_or.mp htrust with ⟨hold, hrest⟩
  rcases not_or.mp hrest with ⟨htv, htoken⟩
  have htrue : tv = true := by simpa using htv
  have hfalse : recent now credentialValidityPeriod row.validatedAt = false := by
    simpa using hold
  cases hanswer : c.account with
  | rejected =>
    simp [hfalse, htrue, htoken, rejectedCredential, fallback, hnil]
  | failed =>
    simp [keepLink]
  | user found =>
    by_cases hzero : found = 0
    · simp [hzero, keepLink]
    simp only [ne_eq, hzero, not_false_eq_true, if_true, bindAccount_identity hI,
      hfalse, htrue, htoken, AccountAnswer.user.injEq, true_and, Bool.false_eq_true,
      reduceCtorEq, or_false, false_or, and_false, and_true]
    constructor
    · intro h
      exact ⟨found, rfl, hzero, h⟩
    intro h
    rcases h with ⟨named, rfl, _, h⟩
    exact h

variable {id : GoString}

theorem linkedIdentity_eq_some {row : LinkRow} {account : Int}
    (h : linkedIdentity db row = some (id, account)) :
    row.identityID = some id ∧ id ≠ [] ∧ accountOf db id = some account := by
  unfold linkedIdentity at h
  split at h
  · cases h
  rename_i found hid
  rw [hid]
  split at h
  · cases h
  rename_i hne
  rcases Option.map_eq_some_iff.mp h with ⟨found', hacc, heq⟩
  cases heq
  exact ⟨rfl, hne, hacc⟩

theorem linkedIdentity_eq_none {row : LinkRow}
    (h : linkedIdentity db row = none) (husable : UsableLink db row id) : False := by
  rcases husable with ⟨_, hid, hne, hacc⟩
  unfold linkedIdentity at h
  rw [hid] at h
  simp only [if_neg hne, Option.map_eq_none_iff] at h
  rw [h] at hacc
  cases hacc

theorem resolveRow_identity (hI : I ≠ []) :
    (resolveRow c now server fingerprint token identifier tv db).resolved.identityID = I <->
      RowNames c now server fingerprint token tv db I := by
  have hnil : ¬ ([] : GoString) = I := hI.symm
  unfold resolveRow RowNames readLink
  cases hfails : c.linkFails with
  | true =>
    simp [resolveUnlinked_identity hI]
  | false =>
    cases hrow : db.links.lookup (server, fingerprint) with
    | none =>
      simp [resolveUnlinked_identity hI]
    | some row =>
      simp only [Bool.false_eq_true, if_false, true_and, Option.some.injEq,
        exists_eq_left', forall_const, forall_eq']
      by_cases hstatus : row.status = .invalid
      · have hunusable : forall id, ¬ UsableLink db row id := by
          intro id husable
          exact husable.left hstatus
        rw [if_pos hstatus]
        by_cases hrecent : recent now revalidateAfter row.validatedAt = true
        · have hrejected : RecentlyRejected now row := ⟨hstatus, hrecent⟩
          rw [if_pos hrecent]
          simp [hunusable, hrejected, rejectedCredential, fallback, hnil]
        have hrejected : ¬ RecentlyRejected now row := fun h => hrecent h.right
        rw [if_neg hrecent, resolveUnlinked_identity hI]
        simp [hunusable, hrejected]
      have hrejected : ¬ RecentlyRejected now row := fun h => hstatus h.left
      rw [if_neg hstatus]
      cases hlinked : linkedIdentity db row with
      | none =>
        have hunusable : forall id, ¬ UsableLink db row id := by
          intro id husable
          exact linkedIdentity_eq_none hlinked husable
        simp [resolveUnlinked_identity hI, hunusable, hrejected]
      | some found =>
        rcases linkedIdentity_eq_some hlinked with ⟨hid, hne, hacc⟩
        have husable : forall id, UsableLink db row id <-> found.1 = id := by
          intro id
          constructor
          · intro h
            have heq := hid.symm.trans h.right.left
            simpa using heq
          intro h
          subst h
          exact ⟨hstatus, hid, hne, by rw [hacc]; rfl⟩
        simp only [resolveLinked_identity hI, husable, hrejected, not_false_eq_true,
          true_and, exists_eq', forall_const]

end Cold

variable {r : Resolver}

theorem enabledServer_eq {db : Database} {c : Conditions} {now : Instant}
    (server : GoString) (hserver : server ≠ []) :
    (enabledServer r db c now).1 = server <-> ServerKnown r db c now server := by
  have hnil : ¬ ([] : GoString) = server := hserver.symm
  unfold enabledServer ServerKnown
  by_cases hkept : r.server ≠ [] ∧ now - r.srvAt < minute
  · rw [if_pos hkept]
    simp [hserver, hkept.left, hkept.right]
  rw [if_neg hkept]
  have hforgotten : ¬ (now - r.srvAt < minute ∧ r.server = server) := by
    intro h
    exact hkept ⟨by rw [h.right]; exact hserver, h.left⟩
  simp only [hserver, hkept, hforgotten, ne_eq, not_false_eq_true, true_and, false_or]
  cases hfails : c.serverFails with
  | true =>
    simp [hnil]
  | false =>
    cases henabled : db.enabled with
    | none =>
      simp [hnil]
    | some id =>
      simp

theorem resolveRemembered_identity (r : Resolver) (db : Database) (c : Conditions)
    (now : Instant) (entry : AcctEntry) (fingerprint identifier : GoString) :
    (resolveRemembered r db c now entry fingerprint identifier).resolved.identityID =
      entry.identityID := by
  unfold resolveRemembered
  split
  · rfl
  split
  · rfl
  · rfl

theorem resolve_identity {order : MemoryOrder} {db : Database}
    {c : Conditions} {now : Instant} {fingerprint token identifier I : GoString} (hI : I ≠ []) :
    (resolve r order db c now fingerprint token identifier).resolved.identityID = I <->
      ResolvesTo r db c now fingerprint token I := by
  have hnil : ¬ ([] : GoString) = I := hI.symm
  unfold resolve ResolvesTo
  by_cases hfp : fingerprint = []
  · simp [hfp, fallback, hnil]
  rw [if_neg hfp]
  cases hentry : remembered r now fingerprint with
  | some entry =>
    simp [resolveRemembered_identity, hfp]
  | none =>
    simp only [ne_eq, hfp, not_false_eq_true, true_and]
    unfold resolveCold
    cases hdb : r.db with
    | false =>
      simp [fallback, hnil]
    | true =>
      simp only [Bool.true_eq_false, if_false, true_and]
      by_cases hserver : (enabledServer r db c now).1 = []
      · rw [if_pos hserver]
        constructor
        · intro h
          exact absurd h hnil
        intro h
        rcases h with ⟨server, hknown, _⟩
        have heq := (enabledServer_eq server hknown.left).mpr hknown
        exact absurd (heq.symm.trans hserver) hknown.left
      rw [if_neg hserver]
      simp only [resolveRow_identity hI]
      constructor
      · intro h
        exact ⟨_, (enabledServer_eq _ hserver).mp rfl, h⟩
      intro h
      rcases h with ⟨server, hknown, h⟩
      rw [(enabledServer_eq server hknown.left).mpr hknown]
      exact h

/-!
## What a call leaves of the memory of others
-/

section Memory

variable {order : MemoryOrder} {db : Database} {c : Conditions} {now : Instant}
variable {fingerprint token identifier : GoString}

theorem evictOldest_of_lt {value : Type} {oldest : Order (GoString × value)}
    {stamp : value -> Instant} {t : Table GoString value} (h : t.entries.length < memMax) :
    evictOldest oldest stamp t = t :=
  if_neg (not_le.mpr h)

theorem enabledServer_memory (r : Resolver) (db : Database) (c : Conditions) (now : Instant) :
    (enabledServer r db c now).2.acct = r.acct ∧ (enabledServer r db c now).2.cli = r.cli := by
  unfold enabledServer
  repeat' split
  all_goals exact ⟨rfl, rfl⟩

theorem resolveCold_memory (r : Resolver) (db : Database) (c : Conditions) (now : Instant)
    (fingerprint token identifier : GoString) :
    (resolveCold r db c now fingerprint token identifier).2.acct = r.acct ∧
      (resolveCold r db c now fingerprint token identifier).2.cli = r.cli := by
  unfold resolveCold
  simp only
  repeat' split
  · exact ⟨rfl, rfl⟩
  all_goals exact enabledServer_memory r db c now

theorem resolveClient_memory (r : Resolver) (db : Database) (c : Conditions) (now : Instant)
    (identifier : GoString) : (resolveClient r db c now identifier).2.1.acct = r.acct ∧
      (resolveClient r db c now identifier).2.1.cli = r.cli := by
  unfold resolveClient
  simp only
  repeat' split
  · exact ⟨rfl, rfl⟩
  all_goals exact enabledServer_memory r db c now

/-- As long as nothing has to make room, a call changes the entries of its own token only. -/
theorem resolve_memory {other : GoString} (hother : fingerprint ≠ other)
    (hacct : r.acct.entries.length < memMax) (hcli : r.cli.entries.length < memMax) :
    (resolve r order db c now fingerprint token identifier).resolver.acct.lookup other =
        r.acct.lookup other ∧
      forall key, key ≠ clientKey fingerprint identifier ->
        (resolve r order db c now fingerprint token identifier).resolver.cli.lookup key =
          r.cli.lookup key := by
  unfold resolve
  split
  · exact ⟨rfl, fun _ _ => rfl⟩
  split
  · unfold resolveRemembered
    split
    · exact ⟨rfl, fun _ _ => rfl⟩
    split
    · exact ⟨rfl, fun _ _ => rfl⟩
    simp only
    rcases resolveClient_memory r db c now identifier with ⟨hsame, hclients⟩
    split
    · exact ⟨by rw [hsame], fun _ _ => by rw [hclients]⟩
    · refine ⟨by rw [hsame], fun key hkey => ?_⟩
      rw [hclients, Table.lookup_set, if_neg hkey]
  unfold remember
  rcases resolveCold_memory r db c now fingerprint token identifier with ⟨hsame, hclients⟩
  simp only [hsame, hclients, evictOldest_of_lt hacct, evictOldest_of_lt hcli]
  constructor
  · split
    · rw [Table.lookup_set, if_neg (Ne.symm hother)]
    · rfl
  intro key hkey
  split
  · rfl
  split
  · rfl
  · rw [Table.lookup_set, if_neg hkey]

end Memory

end ReplxEdge.Identity
