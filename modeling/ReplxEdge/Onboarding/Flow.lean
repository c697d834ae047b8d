import ReplxEdge.Foundation.Runes
import ReplxEdge.Foundation.Journal
import ReplxEdge.Foundation.Table

/-!
# Onboarding

The owner signs in with a PIN or a pasted token, selects a server and has it verified.
What is known stands in a few settings, in the server rows and in their owner
credentials. Requests of the administrator and the hourly refresh run side by side and
only the selection uses a transaction, so a step is one statement of one of them. A
statement may fail, or work without the caller learning of it, and a call may end
between any two of its statements.

Encrypted values stand for their plain text.
-/

namespace ReplxEdge.Onboarding

open Foundation

/-!
## What is stored
-/

inductive AuthMode where
  | jwt
  | legacy
deriving DecidableEq

inductive Stage where
  | pending
  | pinIssued
  | ownerAuthenticated
  | selected
  | verified
deriving DecidableEq

inductive CredentialStatus where
  | selected
  | verified
  | authDegraded
  | invalid
deriving DecidableEq

inductive Key where
  | pinID
  | pinCode
  | ownerToken
  | verified
  | authMode
  | ownerExp
deriving DecidableEq

inductive Setting where
  | pinID (id : Int)
  | pinCode (code : GoString)
  | ownerToken (token : GoString)
  | verified (machineID : GoString)
  | authMode (mode : AuthMode)
  | ownerExp (unix : Int)
deriving DecidableEq

structure Settings where
  pinID : Option Int
  pinCode : Option GoString
  ownerToken : Option GoString
  verified : Option GoString
  authMode : Option AuthMode
  ownerExp : Option Int

def Settings.setSetting (s : Settings) : Setting -> Settings
  | .pinID id => { s with pinID := some id }
  | .pinCode code => { s with pinCode := some code }
  | .ownerToken token => { s with ownerToken := some token }
  | .verified machineID => { s with verified := some machineID }
  | .authMode mode => { s with authMode := some mode }
  | .ownerExp unix => { s with ownerExp := some unix }

def Settings.delSetting (s : Settings) : Key -> Settings
  | .pinID => { s with pinID := none }
  | .pinCode => { s with pinCode := none }
  | .ownerToken => { s with ownerToken := none }
  | .verified => { s with verified := none }
  | .authMode => { s with authMode := none }
  | .ownerExp => { s with ownerExp := none }

structure Server where
  id : Nat
  machineIdentifier : GoString
  enabled : Bool

structure Credential where
  selectedResourceID : GoString
  status : CredentialStatus

/-- `servers` holds the latest row first. -/
structure Store where
  settings : Settings
  servers : List Server
  credentials : Table Nat Credential

namespace Store

variable (d : Store)

def enabledServer : Option Server :=
  d.servers.find? fun s => s.enabled

def enabledCredential : Option Credential :=
  d.enabledServer.bind fun s => d.credentials.lookup s.id

def ownerTokenForAdmin : Bool :=
  d.settings.ownerToken.isSome || d.enabledCredential.isSome

end Store

/-!
## Status
-/

structure StatusReport where
  stage : Stage
  authMode : Option AuthMode
  pinCode : Option GoString
  machineIdentifier : Option GoString

namespace Store

variable (d : Store)

def signInStage : Stage :=
  if d.settings.ownerToken.isSome then .ownerAuthenticated
  else if d.settings.pinID.isSome then .pinIssued
  else .pending

def status : StatusReport where
  stage :=
    match d.enabledServer with
    | none => d.signInStage
    | some s =>
      if d.settings.verified = some s.machineIdentifier ∧ s.machineIdentifier ≠ [] then
        .verified
      else .selected
  authMode := d.settings.authMode
  pinCode := if d.settings.pinID.isSome then d.settings.pinCode else none
  machineIdentifier := d.enabledServer.map Server.machineIdentifier

end Store

/-!
## Statements
-/

/-- What a statement does. `bind` is the transaction of a selection, and `status` finds
no row for a server without a credential. -/
inductive Effect where
  | set (x : Setting)
  | del (k : Key)
  | bind (clientIdentifier : GoString)
  | status (server : Nat) (value : CredentialStatus)
deriving DecidableEq

/-- The code checks the error of a required statement and ignores the others'. -/
structure Write where
  effect : Effect
  required : Bool

namespace Store

variable (d : Store)

def bind (clientIdentifier : GoString) : Store :=
  let id := d.servers.length
  { d with
    servers := ⟨id, clientIdentifier, true⟩ :: d.servers.map fun s => { s with enabled := false }
    credentials := d.credentials.set id ⟨clientIdentifier, .selected⟩ }

def setStatus (server : Nat) (value : CredentialStatus) : Store :=
  match d.credentials.lookup server with
  | none => d
  | some c => { d with credentials := d.credentials.set server { c with status := value } }

def apply : Effect -> Store
  | .set x => { d with settings := d.settings.setSetting x }
  | .del k => { d with settings := d.settings.delSetting k }
  | .bind clientIdentifier => d.bind clientIdentifier
  | .status server value => d.setStatus server value

def markInvalid : Store :=
  match d.enabledServer with
  | none => d
  | some s => d.setStatus s.id .invalid

end Store

/-!
## Calls
-/

inductive Operation where
  | issuePIN
  | pollClaim
  | submitToken
  | selectResource
  | verify
  | refreshOwnerJWT
deriving DecidableEq

/-- Where a call stands: what it has read, and once it writes, what is left to write. -/
inductive Call where
  | polling
  | selecting (clientIdentifier : GoString)
  | verifying
  | verifyServer (s : Server)
  | verifyCredential (s : Server) (resourceID : GoString)
  | refreshing
  | refreshDue
  | refreshOwner (server : Nat)
  | writing (op : Operation) (rest : List Write)

/-- What happened: a `Verify` call started, read the enabled row or passed all its
checks, or an operation that voids a verification committed. -/
inductive Deed where
  | started (n : Nat)
  | read (n server : Nat)
  | passed (n : Nat)
  | committed (op : Operation)
deriving DecidableEq

structure Service where
  now : Instant
  store : Store
  calls : Table Nat Call
  next : Nat
  log : List Deed

def Service.start (now : Instant) : Service where
  now := now
  store := ⟨⟨none, none, none, none, none, none⟩, [], Table.empty⟩
  calls := Table.empty
  next := 0
  log := []

def tripleMatch (origin resource proxied : GoString) : Bool :=
  origin != [] && origin == resource && resource == proxied

section Writes

variable (parseExpiry : GoString -> Option Int)

def issuePINWrites (mode : AuthMode) (id : Int) (code : GoString) : List Write :=
  [⟨.set (.authMode mode), true⟩, ⟨.del .verified, false⟩,
    ⟨.set (.pinID id), true⟩, ⟨.set (.pinCode code), true⟩]

def expiryWrite (token : GoString) : Write :=
  match parseExpiry token with
  | some unix => ⟨.set (.ownerExp unix), false⟩
  | none => ⟨.del .ownerExp, false⟩

def tokenWrites (token : GoString) : List Write :=
  [expiryWrite parseExpiry token, ⟨.set (.ownerToken token), true⟩,
    ⟨.del .pinID, false⟩, ⟨.del .pinCode, false⟩, ⟨.del .verified, false⟩]

def legacyWrite : Write :=
  ⟨.set (.authMode .legacy), false⟩

/-- `pollByMode` falls back to the legacy PIN if the JWT poll is rejected. -/
def pollClaimWrites (mode : Option AuthMode) (rejected : Bool) (token : GoString) : List Write :=
  if mode ≠ some .legacy ∧ rejected = true then
    legacyWrite :: tokenWrites parseExpiry token
  else tokenWrites parseExpiry token

def submitTokenWrites (token : GoString) : List Write :=
  tokenWrites parseExpiry token ++ [legacyWrite]

def selectResourceWrites (clientIdentifier : GoString) : List Write :=
  [⟨.bind clientIdentifier, true⟩, ⟨.del .ownerToken, false⟩, ⟨.del .verified, false⟩]

def verifyWrites (server : Nat) (originID : GoString) : List Write :=
  [⟨.status server .verified, true⟩, ⟨.set (.verified originID), true⟩]

/-- With a fresh token, or `degraded` without one. -/
def refreshWrites (server : Nat) : Option GoString -> List Write
  | none => [⟨.status server .authDegraded, false⟩]
  | some fresh =>
    ⟨.status server .verified, true⟩ ::
      match parseExpiry fresh with
      | some unix => [⟨.set (.ownerExp unix), false⟩]
      | none => []

end Writes

/-!
## Steps
-/

inductive Action where
  | tick (elapsed : Nat)
  | issuePIN (mode : AuthMode) (id : Int) (code : GoString)
  | pollClaim
  | claimed (n : Nat) (rejected : Bool) (token : GoString)
  | submitToken (rawToken : GoString)
  | selectResource (clientIdentifier : GoString)
  | matched (n : Nat)
  | verify
  | readServer (n : Nat)
  | readCredential (n : Nat)
  | check (n : Nat) (origin proxied : GoString) (customURLPresent : Bool)
  | refreshOwnerJWT
  | readExpiry (n : Nat)
  | readOwner (n : Nat)
  | refreshed (n : Nat) (fresh : Option GoString)
  | write (n : Nat) (applied acknowledged : Bool)
  | finish (n : Nat)
  | abandon (n : Nat)
  | markInvalid

def refreshWindow : Duration := 24 * 60 * minute

namespace Service

section Steps

variable (parseExpiry : GoString -> Option Int) (y : Service) (n : Nat)

def arrive (c : Call) : Service :=
  { y with calls := y.calls.set y.next c, next := y.next + 1 }

def goTo (c : Call) : Service :=
  { y with calls := y.calls.set n c }

def leave : Service :=
  { y with calls := y.calls.delete n }

def note (d : Deed) : Service :=
  { y with log := d :: y.log }

def issuePIN (mode : AuthMode) (id : Int) (code : GoString) : Service :=
  y.arrive (.writing .issuePIN (issuePINWrites mode id code))

def pollClaim : Option Service :=
  if y.store.settings.pinID.isSome then some (y.arrive .polling) else none

/-- The PIN was claimed, and plex.tv knows the user of the token. -/
def claimed (rejected : Bool) (token : GoString) : Option Service :=
  match y.calls.lookup n with
  | some .polling =>
    if token = [] then none
    else
      some (y.goTo n (.writing .pollClaim
        (pollClaimWrites parseExpiry y.store.settings.authMode rejected token)))
  | _ => none

def submitToken (rawToken : GoString) : Option Service :=
  let token := trimSpace rawToken
  if token.length < 8 then none
  else
    some (y.arrive (.writing .submitToken (submitTokenWrites parseExpiry token)))

def selectResource (clientIdentifier : GoString) : Option Service :=
  if y.store.ownerTokenForAdmin then some (y.arrive (.selecting clientIdentifier)) else none

def matched : Option Service :=
  match y.calls.lookup n with
  | some (.selecting clientIdentifier) =>
    some (y.goTo n (.writing .selectResource (selectResourceWrites clientIdentifier)))
  | _ => none

def verify : Service :=
  (y.arrive .verifying).note (.started y.next)

def readServer : Option Service :=
  match y.calls.lookup n with
  | some .verifying =>
    match y.store.enabledServer with
    | none => some (y.leave n)
    | some s => some ((y.goTo n (.verifyServer s)).note (.read n s.id))
  | _ => none

def readCredential : Option Service :=
  match y.calls.lookup n with
  | some (.verifyServer s) =>
    match y.store.credentials.lookup s.id with
    | none => some (y.leave n)
    | some c => some (y.goTo n (.verifyCredential s c.selectedResourceID))
  | _ => none

/-- The identities that the origin and the control listener report, and whether plex.tv
lists the public address, perhaps after it was configured. -/
def check (origin proxied : GoString) (customURLPresent : Bool) : Option Service :=
  match y.calls.lookup n with
  | some (.verifyCredential s resourceID) =>
    if (tripleMatch origin resourceID proxied && origin == s.machineIdentifier
        && customURLPresent) = true then
      some ((y.goTo n (.writing .verify (verifyWrites s.id origin))).note (.passed n))
    else some (y.leave n)
  | _ => none

def refreshOwnerJWT : Option Service :=
  if y.store.settings.authMode = some .legacy then none
  else some (y.arrive .refreshing)

def readExpiry : Option Service :=
  match y.calls.lookup n with
  | some .refreshing =>
    match y.store.settings.ownerExp with
    | none => some (y.leave n)
    | some unix =>
      if refreshWindow < unix * second - y.now then some (y.leave n)
      else some (y.goTo n .refreshDue)
  | _ => none

def readOwner : Option Service :=
  match y.calls.lookup n with
  | some .refreshDue =>
    match y.store.enabledServer with
    | none => some (y.leave n)
    | some s =>
      if (y.store.credentials.lookup s.id).isSome then
        some (y.goTo n (.refreshOwner s.id))
      else some (y.leave n)
  | _ => none

def refreshed (fresh : Option GoString) : Option Service :=
  match y.calls.lookup n with
  | some (.refreshOwner server) =>
    some (y.goTo n (.writing .refreshOwnerJWT (refreshWrites parseExpiry server fresh)))
  | _ => none

def execute (e : Effect) : Service :=
  match e with
  | .bind clientIdentifier =>
    { y with store := y.store.bind clientIdentifier }.note
      (.committed .selectResource)
  | _ => { y with store := y.store.apply e }

/-- One statement. A caller that is not told of its success takes it for an error. -/
def write (applied acknowledged : Bool) : Option Service :=
  match y.calls.lookup n with
  | some (.writing op (w :: rest)) =>
    let after := if applied then y.execute w.effect else y
    some (if (applied && acknowledged) || !w.required then after.goTo n (.writing op rest)
      else after.leave n)
  | _ => none

def finish : Option Service :=
  match y.calls.lookup n with
  | some (.writing op []) =>
    match op with
    | .issuePIN | .pollClaim | .submitToken =>
      some ((y.leave n).note (.committed op))
    | _ => some (y.leave n)
  | _ => none

end Steps

/-- One step; `none` when no call stands there. -/
def step (parseExpiry : GoString -> Option Int) (y : Service) : Action -> Option Service
  | .tick elapsed => some { y with now := y.now + elapsed }
  | .issuePIN mode id code => some (y.issuePIN mode id code)
  | .pollClaim => y.pollClaim
  | .claimed n rejected token => y.claimed parseExpiry n rejected token
  | .submitToken rawToken => y.submitToken parseExpiry rawToken
  | .selectResource clientIdentifier => y.selectResource clientIdentifier
  | .matched n => y.matched n
  | .verify => some y.verify
  | .readServer n => y.readServer n
  | .readCredential n => y.readCredential n
  | .check n origin proxied customURLPresent => y.check n origin proxied customURLPresent
  | .refreshOwnerJWT => y.refreshOwnerJWT
  | .readExpiry n => y.readExpiry n
  | .readOwner n => y.readOwner n
  | .refreshed n fresh => y.refreshed parseExpiry n fresh
  | .write n applied acknowledged => y.write n applied acknowledged
  | .finish n => y.finish n
  | .abandon n => some (y.leave n)
  | .markInvalid => some { y with store := y.store.markInvalid }

end Service

end ReplxEdge.Onboarding
