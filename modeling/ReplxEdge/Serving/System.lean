import ReplxEdge.Foundation.Journal
import ReplxEdge.Serving.Warmer

/-!
# The edge and its warmer

The requests and invalidation calls next to the warmer, with a journal of what
happened to credentials, resources and bodies. A request calls the warmer after it
let go of the leases, so its calls wait until they are made; the warmer runs one
refresh at a time.
-/

namespace ReplxEdge.Serving

open Foundation
open Net
open Cache
open Identity
open Trace

/-!
## The journal
-/

/-- What a lease is for: a response under its key, or artwork under the text that its
key is the digest of. -/
inductive Resource where
  | response (key : GoString)
  | artwork (text : GoString)
deriving DecidableEq

namespace Resource

def key : Resource -> GoString
  | response key => key
  | artwork text => hexEncode (sha256 text)

def text : Resource -> GoString
  | response key => key
  | artwork text => text

def HasScope (x : Resource) (scope : GoString) : Prop :=
  exists parts : KeyParts, x.text = parts.text ∧ parts.scope = scope

end Resource

inductive Source where
  | request (i : Nat)
  | warmer
deriving DecidableEq

/-- What happened. A fetch is known by the token that it carried to the origin. -/
inductive Note where
  | resolved (i : Nat) (token scope : GoString) (invalid : Bool)
  | answered (source : Source) (status : Nat)
  | read (source : Source) (token body : GoString)
  | stored (source : Source) (x : Resource) (body token : GoString)
  | granted (i : Nat) (fingerprint : GoString) (x : Resource)
  | revoked (fingerprint : GoString)
  | checked (i : Nat) (fingerprint : GoString) (x : Resource) (passed : Bool)
  | served (i : Nat) (fingerprint : GoString) (x : Resource) (body : GoString)
deriving DecidableEq

structure Record where
  time : Instant
  note : Note
deriving DecidableEq

def journal (now : Instant) (notes : List Note) (log : List Record) : List Record :=
  notes.map (Record.mk now) ++ log

/-!
## What a request notes
-/

section Notes

variable (cfg : Config) (s : State) (i : Nat) (t : Thread) (a : Answer)

def pictured : Resource :=
  .artwork (requestKeyGen t.scope ResponseClass.artwork.label t.request 0 0)

def noteToken : List Note :=
  let token := extractToken t.original
  let seen := identified cfg t a
  if token = [] then []
  else if seen.invalid then
    [.revoked seen.fingerprint, .resolved i token seen.scope seen.invalid]
  else [.resolved i token seen.scope seen.invalid]

def noteAnswer : List Note :=
  if a.ok then
    if rejectedStatus a.status then
      [.revoked t.fingerprint, .answered (.request i) a.status]
    else [.answered (.request i) a.status]
  else []

def noteArtworkLease : List Note :=
  if a.ok then
    [.checked i t.fingerprint (pictured t) (s.leased t.fingerprint (pictured t).key)]
  else []

def noteArtworkHit : List Note :=
  match foundArtwork s a (pictured t).key with
  | some entry => [.served i t.fingerprint (pictured t) entry.body]
  | none => []

def noteArtworkStore (status : Nat) : List Note :=
  let token := extractToken t.request
  if a.ok then
    if status == 200 && a.commit then
      [.stored (.request i) (pictured t) a.body token, .read (.request i) token a.body]
    else [.read (.request i) token a.body]
  else []

def noteHit (k : Keyed) (entry : Entry) : List Note :=
  if a.ok && decide ((recheck s t).value = k.read.value) then
    [.served i t.fingerprint (.response k.key) entry.body]
  else []

def noteBody : List Note :=
  if a.ok then [.read (.request i) (extractToken t.request) a.body] else []

def noteStore (k : Keyed) (body : GoString) : List Note :=
  if a.ok then
    [.stored (.request i) (.response k.key) body (extractToken t.request)]
  else []

/-- What a request notes when it passes the point where it stands. -/
def notes : List Note :=
  match t.phase with
  | .arrived => noteToken cfg i t a
  | .artwork => noteArtworkLease s i t a
  | .artworkGet _ => noteArtworkHit s i t a
  | .artworkSent _ => noteAnswer i t a
  | .artworkReceived _ status => noteArtworkStore i t a status
  | .artworkGranting _ => [.granted i t.fingerprint (pictured t)]
  | .lookupLease _ k =>
    [.checked i t.fingerprint (.response k.key) (s.leased t.fingerprint k.key)]
  | .lookupGeneration _ k _ entry _ => noteHit s i t a k entry
  | .sent _ => noteAnswer i t a
  | .copying _ _ => noteBody i t a
  | .storing _ k body => noteStore i t a k body
  | .granting _ k => [.granted i t.fingerprint (.response k.key)]
  | _ => []

end Notes

/-!
## Calls of the warmer
-/

inductive WarmerCall where
  | forgetScope (scope : GoString)
  | trackAuthorized (key : GoString) (snap : Snapshot) (ttl : Duration)
      (credential : GoString)

def snapshotOf (t : Thread) : Snapshot where
  method := t.request.method
  path := t.request.path
  rawQuery := t.request.rawQuery
  accept := t.request.header.get (str "Accept")
  scope := t.scope
  cls := classOf t.request.path

def warmerCalls (cfg : Config) (t : Thread) (a : Answer) : List WarmerCall :=
  let rejection :=
    if a.ok && rejectedStatus a.status then [.forgetScope t.scope] else []
  match t.phase with
  | .arrived =>
    let seen := identified cfg t a
    if seen.invalid ∧ extractToken t.original ≠ [] then [.forgetScope seen.scope]
    else []
  | .artworkSent _ => rejection
  | .sent _ => rejection
  | .granting _ k =>
    if headerVariation t.request.header = [] then
      [.trackAuthorized k.key (snapshotOf t)
        ((requestCacheable t.original).getD 0) (extractToken t.request)]
    else []
  | _ => []

/-!
## The system
-/

/-- Where the refresh pass stands. A refresh that runs has a number among the jobs. -/
inductive Pass where
  | idle
  | picked (c : Candidate)
  | confirmed (c : Candidate)
  | running (c : Candidate) (n : Nat)
  | permitted (c : Candidate) (n : Nat)

structure System where
  serving : State
  warmer : Warmer
  pending : List WarmerCall
  pass : Pass
  log : List Record

def System.start (generations : GenerationTable) (now : Instant) : System where
  serving := State.start generations now
  warmer := Warmer.start
  pending := []
  pass := .idle
  log := []

def State.foreground (s : State) : Bool :=
  s.threads.entries.any fun entry => !ends entry.2.phase

namespace System

variable (y : System)

def now : Instant :=
  y.serving.shared.now

def quiet : Bool :=
  !y.serving.foreground && !y.warmer.paused && y.warmer.config.enabled

def callWarmer (rewrite : GoString -> GoString) (orders : WarmerOrders) :
    WarmerCall -> Warmer
  | .forgetScope scope => y.warmer.forgetScope scope
  | .trackAuthorized key snap ttl credential =>
    y.warmer.trackAuthorized rewrite orders y.now key snap ttl credential

def keyFunc (n : Snapshot) : GoString :=
  snapshotKey n (y.serving.currentRead n.scope n.cls)

end System

/-- What can happen. `serve` is a step of a request, of an invalidation call or of the
clock; the others are steps of the warmer. -/
inductive Move where
  | serve (action : Action)
  | call (n : Nat) (orders : WarmerOrders)
  | pick (id : GoString)
  | confirm (ok : Bool)
  | leave
  | refresh (n : Nat)
  | send
  | deliver (body : GoString)
  | permit
  | publish
  | fail (status : Nat)
  | configure (order : Order (GoString × Tracked)) (config : WarmerConfig)
  | pause (paused : Bool)

/-- The steps that the requests, the invalidation calls and the clock take. -/
def Action.served : Action -> Bool
  | .warm _ _ => false
  | .warmAdvance _ _ => false
  | _ => true

/-- What a step of the requests adds to the journal. -/
def notesOf (cfg : Config) (s : State) : Action -> List Note
  | .advance i a => (s.threads.lookup i).elim [] fun t => notes cfg s i t a
  | _ => []

def callsOf (cfg : Config) (s : State) : Action -> List WarmerCall
  | .advance i a => (s.threads.lookup i).elim [] fun t => warmerCalls cfg t a
  | _ => []

def JobPhase.isKeyed : JobPhase -> Bool
  | .keyed => true
  | _ => false

def JobPhase.isSent : JobPhase -> Bool
  | .sent _ => true
  | _ => false

def JobPhase.body : JobPhase -> Option GoString
  | .checked _ body => some body
  | _ => none

namespace System

section Moves

variable (cfg : Config) (rewrite : GoString -> GoString) (y : System)

def serve (action : Action) : Option System :=
  if action.served then
    (step cfg y.serving action).map fun s =>
      { y with
        serving := s
        pending := y.pending ++ callsOf cfg y.serving action
        log := journal y.now (notesOf cfg y.serving action) y.log }
  else none

def call (n : Nat) (orders : WarmerOrders) : Option System :=
  y.pending[n]?.map fun waiting =>
    { y with
      warmer := y.callWarmer rewrite orders waiting
      pending := y.pending.eraseIdx n }

def pick (id : GoString) : Option System :=
  match y.pass with
  | .idle =>
    if y.quiet then
      let live := y.warmer.expireContexts y.now
      (live.candidate y.now id).map fun c => { y with warmer := live, pass := .picked c }
    else none
  | _ => none

/-- A job whose key is not the current one is dropped; so is one whose key cannot be
made. -/
def confirm (ok : Bool) : Option System :=
  match y.pass with
  | .picked c =>
    if ok && y.keyFunc c.job.snap == c.job.key then
      some { y with pass := .confirmed c }
    else some { y with warmer := y.warmer.forgetJob c.id, pass := .idle }
  | _ => none

def leave : Option System :=
  match y.pass with
  | .picked _ => some { y with pass := .idle }
  | .confirmed _ => some { y with pass := .idle }
  | _ => none

/-- The key that the body will be stored under is made. -/
def refresh (n : Nat) : Option System :=
  match y.pass with
  | .confirmed c =>
    if y.quiet then
      (step cfg y.serving (.warm n c.job.snap)).map fun s =>
        { y with serving := s, pass := .running c n }
    else none
  | _ => none

/-- The refresh that runs, at a point that a test describes. -/
def runningAt (test : JobPhase -> Bool) : Option (Candidate × Nat) :=
  match y.pass with
  | .running c n =>
    if (y.serving.jobs.lookup n).any fun j => test j.phase then some (c, n) else none
  | _ => none

def send : Option System :=
  (y.runningAt JobPhase.isKeyed).bind fun active =>
    (step cfg y.serving (.warmAdvance active.2 [])).map fun s => { y with serving := s }

/-- The origin answers 200 with a storable body, and the key is made again. -/
def deliver (body : GoString) : Option System :=
  (y.runningAt JobPhase.isSent).bind fun active =>
    (step cfg y.serving (.warmAdvance active.2 body)).map fun s =>
      { y with
        serving := s
        log := journal y.now [.read .warmer active.1.token body,
          .answered .warmer 200] y.log }

def permit : Option System :=
  (y.runningAt fun p => p.body.isSome).bind fun active =>
    if !y.serving.foreground && y.warmer.permit y.now active.1 then
      some { y with pass := .permitted active.1 active.2 }
    else none

/-- The body is stored; no lease is given. -/
def publish : Option System :=
  match y.pass with
  | .permitted c n =>
    (y.serving.jobs.lookup n).bind fun j => j.phase.body.bind fun body =>
      (step cfg y.serving (.warmAdvance n [])).map fun s =>
        { y with
          serving := s
          warmer := y.warmer.succeeded y.now c
          pass := .idle
          log := journal y.now
            [.stored .warmer (.response j.k.key) body c.token] y.log }
  | _ => none

def fail (status : Nat) : Option System :=
  match y.pass with
  | .running c _ =>
    some { y with warmer := y.warmer.failed y.now c status, pass := .idle }
  | .permitted c _ =>
    some { y with warmer := y.warmer.failed y.now c status, pass := .idle }
  | _ => none

end Moves

/-- One step; `none` when the move is not possible. -/
def step (cfg : Config) (rewrite : GoString -> GoString) (y : System) : Move -> Option System
  | .serve action => y.serve cfg action
  | .call n orders => y.call rewrite n orders
  | .pick id => y.pick id
  | .confirm ok => y.confirm ok
  | .leave => y.leave
  | .refresh n => y.refresh cfg n
  | .send => y.send cfg
  | .deliver body => y.deliver cfg body
  | .permit => y.permit
  | .publish => y.publish cfg
  | .fail status => y.fail status
  | .configure order config => some { y with warmer := y.warmer.configure order config }
  | .pause paused => some { y with warmer := y.warmer.setPaused paused }

end System

end ReplxEdge.Serving
