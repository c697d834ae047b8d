import ReplxEdge.Identity.Resolver
import ReplxEdge.MediaPolicy.Load
import ReplxEdge.Spike.Resolve

/-!
# The playback engine

Negotiation and the stateless part check: the caller's effective policy is
loaded, the candidates are evaluated under it, and the result is relayed or
refused. Both keep the policy they evaluated next to what they answered.
-/

namespace ReplxEdge.Playback

open Foundation
open Net
open Trace
open Identity
open MediaPolicy

/-!
## Candidates
-/

structure VariantSource where
  mediaIndex : Int
  width : Option Int
  height : Option Int
  bitrateKbps : Option Int
  dynamicRange : DynamicRange
  videoCodec : GoString
  audioChannels : Option Int
  partAvailable : Bool
  partKey : GoString
  partPlexID : GoString
  variantUUID : GoString
  partUUID : GoString

def VariantSource.toPolicy (v : VariantSource) : Variant where
  mediaIndex := v.mediaIndex
  width := v.width
  height := v.height
  bitrateKbps := v.bitrateKbps
  dynamicRange := v.dynamicRange
  videoCodec := v.videoCodec
  audioChannels := v.audioChannels
  playability := .unknownPlayability
  partAvailable := v.partAvailable

def indexOf (sources : List VariantSource) (index : Int) : Option VariantSource :=
  sources.find? fun source => source.mediaIndex == index

/-!
## The negotiation with PMS
-/

/-- The validated answer. The code is 0 when the answer has none. -/
structure DecisionResponse where
  code : Int
  directPlay : Bool
  directStream : Bool
  transcode : Bool
  mediaIndex : Option Int

inductive PlaybackMode where
  | directPlay
  | directStream
  | transcode
deriving DecidableEq

def modeOf (d : DecisionResponse) : PlaybackMode :=
  if d.directPlay then .directPlay
  else if d.directStream then .directStream
  else .transcode

/-- A PMS answer; the response is `none` when the body does not decode. -/
structure Forwarded where
  status : Nat
  contentType : GoString
  body : GoString
  response : Option DecisionResponse

structure DecisionForward where
  method : GoString
  target : GoString
  header : Header

structure Session where
  plexSessionID : GoString
  ratingKey : GoString
  identityID : GoString
  clientUUID : GoString
  selectedMediaIndex : Int
  selectedPartPlexID : GoString
  selectedPartKey : GoString
  selectedVariantID : GoString
  selectedPartID : GoString
  playbackMode : PlaybackMode
  routingMode : GoString
  effectivePolicy : Policy

/-- How the insert of a session ends. It may be committed although its answer is lost. -/
inductive Creation where
  | acknowledged (id : GoString)
  | unacknowledged
  | failed

/-- The engine with what its database and PMS answer. -/
structure Engine where
  origin : GoString
  policies : Source
  indexVariants : GoString -> List VariantSource
  liveVariants : GoString -> GoString -> Option (List VariantSource)
  pms : DecisionForward -> Option Forwarded
  create : Session -> Creation
  partRow : GoString -> Option VariantSource

/-- The value of a decimal text, in the range of a 64-bit integer. -/
def atoi (s : GoString) : Option Int :=
  let signed := s.headD 0 == 45 || s.headD 0 == 43
  let digits := if signed then s.tail else s
  if digits = [] ∨ !digits.all (fun b => decide (48 ≤ b ∧ b ≤ 57)) then none
  else
    let magnitude : Int := digits.foldl (fun n b => 10 * n + (b.toNat - 48 : Nat)) 0
    let n := if s.headD 0 == 45 then -magnitude else magnitude
    if -2 ^ 63 ≤ n ∧ n < 2 ^ 63 then some n else none

def setValue (values : Values) (name value : GoString) : Values :=
  (values.filter fun pair => pair.1 != name) ++ [(name, value)]

/-- The selected index and the output cap; a lower cap of the client stays. -/
def rewriteQuery (q : Values) (selected : Int) (outputCap : Option Int) : Values :=
  let out := setValue q (str "mediaIndex") (formatInt selected)
  match outputCap with
  | none => out
  | some cap =>
    match atoi (out.get (str "maxVideoBitrate")) with
    | some n =>
      if n < cap then out
      else setValue out (str "maxVideoBitrate") (formatInt cap)
    | none => setValue out (str "maxVideoBitrate") (formatInt cap)

def decisionHeaderDropped (name : GoString) : Bool :=
  [str "connection", str "keep-alive", str "te", str "trailer", str "transfer-encoding",
    str "upgrade", str "proxy-authenticate", str "proxy-authorization",
    str "x-plex-token", str "content-length"].contains (toLower name)

def decisionHeaders (h : Header) (token : GoString) : Header :=
  (h.filter fun name => !decisionHeaderDropped name).set (str "X-Plex-Token") token
    Header.plexToken_isToken Header.plexToken_canonical

def forward (e : Engine) (r : Request) (token : GoString) (selected : Int)
    (cap : Option Int) : Option Forwarded :=
  e.pms
    ⟨r.method,
      trimSuffix e.origin (str "/") ++ r.path ++ str "?" ++
        (rewriteQuery r.query selected cap).encode, decisionHeaders r.header token⟩

/-- The decoded title path, from `path` or else from `key`. -/
def livePath (q : Values) : GoString :=
  firstNonEmpty [(queryUnescape (q.get (str "path"))).getD [],
    (queryUnescape (q.get (str "key"))).getD []]

def variants (e : Engine) (r : Request) (token : GoString) : List VariantSource :=
  match e.indexVariants (extractRatingKey r) with
  | first :: rest => first :: rest
  | [] =>
    if livePath r.query = [] then []
    else (e.liveVariants (livePath r.query) token).getD []

/-!
## HandleDecision
-/

inductive Outcome where
  | denied (code : GoString)
  | failed (status : Nat) (code : GoString)
  | policyError (code : GoString) (rejected : List Rejection)
  | relayed (answer : Forwarded) (session : Session)

def Outcome.refused : Outcome -> Bool
  | relayed _ _ => false
  | _ => true

/-- What a request is answered, and the session that it leaves in the store. -/
structure Answered where
  outcome : Outcome
  created : Option Session

/-- An answer that is given without a call of the store. -/
def Outcome.only (o : Outcome) : Answered :=
  ⟨o, none⟩

structure Negotiation extends Answered where
  evaluated : Option Policy

def decisionUnsupported : GoString :=
  str "POLICY_DECISION_UNSUPPORTED"

def routingMode (p : Policy) : GoString :=
  if p.routingMode ≠ [] then p.routingMode else str "automatic"

/-- The choice that PMS made, when it is another candidate. -/
def trackedSelection (sources : List VariantSource) (selected : VariantSource)
    (index : Int) : Option Int -> VariantSource × Int
  | none => (selected, index)
  | some reported =>
    if reported = index then (selected, index)
    else
      match indexOf sources reported with
      | none => (selected, index)
      | some source => (source, reported)

/-- PMS chose another candidate than the selected one, and policy rejects it. -/
def rejectedByPolicy (rejected : List Rejection) (index : Int) : Option Int -> Bool
  | none => false
  | some reported =>
    reported != index && rejected.any fun rejection => rejection.mediaIndex == reported

def sessionFor (r : Request) (sessionID identityID clientUUID : GoString) (pol : Policy)
    (response : DecisionResponse) (chosen : VariantSource × Int) : Session :=
  { plexSessionID := sessionID, ratingKey := extractRatingKey r,
    identityID := identityID, clientUUID := clientUUID,
    selectedMediaIndex := chosen.2, selectedPartPlexID := chosen.1.partPlexID,
    selectedPartKey := chosen.1.partKey, selectedVariantID := chosen.1.variantUUID,
    selectedPartID := chosen.1.partUUID, playbackMode := modeOf response,
    routingMode := routingMode pol, effectivePolicy := pol }

def acceptAnswer (e : Engine) (r : Request) (sessionID identityID clientUUID : GoString)
    (pol : Policy) (answer : Forwarded) (response : DecisionResponse)
    (chosen : VariantSource × Int) : Answered :=
  let session := sessionFor r sessionID identityID clientUUID pol response chosen
  match e.create session with
  | .acknowledged _ => ⟨.relayed answer session, some session⟩
  | .unacknowledged => ⟨.failed 500 (str "SESSION_PERSIST_FAILED"), some session⟩
  | .failed => ⟨.failed 500 (str "SESSION_PERSIST_FAILED"), none⟩

def checkAnswer (e : Engine) (r : Request) (sessionID identityID clientUUID : GoString)
    (pol : Policy) (sources : List VariantSource) (dec : Decision)
    (selected : VariantSource) (answer : Forwarded) : Answered :=
  match answer.response with
  | none => Outcome.only (.failed 502 (str "DECISION_PARSE_FAILED"))
  | some response =>
    if answer.status < 200 ∨ 299 < answer.status then
      Outcome.only (.failed 502 (str "PMS_DECISION_REJECTED"))
    else if response.code = 0 ∧ response.directPlay = false ∧
        response.directStream = false ∧ response.transcode = false then
      Outcome.only (.failed 502 (str "PMS_DECISION_REJECTED"))
    else if rejectedByPolicy dec.rejected dec.selected.mediaIndex response.mediaIndex then
      Outcome.only (.policyError (str "POLICY_ORIGIN_MISMATCH") dec.rejected)
    else if modeOf response = .transcode ∧
        pol.allowTranscode = .deny then
      Outcome.only (.policyError (str "POLICY_TRANSCODE_FORBIDDEN") dec.rejected)
    else
      acceptAnswer e r sessionID identityID clientUUID pol answer response
        (trackedSelection sources selected dec.selected.mediaIndex response.mediaIndex)

def negotiate (e : Engine) (r : Request) (sessionID identityID clientUUID : GoString)
    (pol : Policy) (scope : Level) (sources : List VariantSource) : Answered :=
  match evaluate pol scope (sources.map VariantSource.toPolicy) with
  | Except.error ⟨.noAllowedVariant, rejected⟩ =>
    Outcome.only (.policyError (str "NO_ALLOWED_MEDIA_VARIANT") rejected)
  | Except.error ⟨.transcodeForbidden, _⟩ =>
    Outcome.only (.failed 500 (str "POLICY_EVAL_FAILED"))
  | Except.ok dec =>
    match indexOf sources dec.selected.mediaIndex with
    | none => Outcome.only (.failed 500 (str "POLICY_EVAL_FAILED"))
    | some selected =>
      match forward e r (extractToken r) dec.selected.mediaIndex
          dec.outputBitrateKbps with
      | none => Outcome.only (.failed 502 (str "ORIGIN_UNAVAILABLE"))
      | some answer =>
        checkAnswer e r sessionID identityID clientUUID pol sources dec selected answer

def handleDecision (e : Engine) (r : Request) (sessionID identityID clientUUID : GoString) :
    Negotiation :=
  if extractRatingKey r = [] then ⟨Outcome.only (.denied decisionUnsupported), none⟩
  else if extractToken r = [] then ⟨Outcome.only (.denied decisionUnsupported), none⟩
  else
    match loadEffective e.policies identityID clientUUID with
    | none => ⟨Outcome.only (.failed 502 (str "POLICY_LOAD_FAILED")), none⟩
    | some (pol, scope) =>
      match variants e r (extractToken r) with
      | [] => ⟨Outcome.only (.failed 502 (str "NO_ORIGIN_VARIANTS")), none⟩
      | first :: rest =>
        ⟨negotiate e r sessionID identityID clientUUID pol scope (first :: rest), some pol⟩

/-!
## The stateless part check
-/

def decisionRequired : GoString :=
  str "POLICY_DECISION_REQUIRED"

structure PartCheck where
  verdict : Spike.Verdict
  evaluated : Option Policy

def partRefused (evaluated : Option Policy) : PartCheck :=
  ⟨⟨[], true, decisionRequired⟩, evaluated⟩

def lookupPart (e : Engine) (partID : GoString) : Option VariantSource :=
  if partID = [] then none
  else (e.partRow partID).map fun v => { v with partAvailable := v.partKey != [] }

def enforceStateless (e : Engine) (r : Request) (partID identityID clientUUID : GoString) :
    PartCheck :=
  if extractToken r = [] then partRefused none
  else
    match lookupPart e partID with
    | none => partRefused none
    | some variant =>
      match loadEffective e.policies identityID clientUUID with
      | none => partRefused none
      | some (pol, scope) =>
        match evaluate pol scope [variant.toPolicy] with
        | Except.error _ => partRefused (some pol)
        | Except.ok _ => ⟨⟨[], false, []⟩, some pol⟩

/-!
## Callers
-/

/-- The resolver in front of the engine and the circumstances of one request. -/
structure Caller where
  secret : GoString
  resolver : Option Resolver
  order : MemoryOrder
  database : Database
  conditions : Conditions
  now : Instant

/-- The identity and client ids that a request's token resolves to, empty when they are
unresolved. -/
def resolveCaller (w : Caller) (r : Request) : GoString × GoString :=
  if extractToken r = [] then ([], [])
  else
    match w.resolver with
    | none => ([], [])
    | some resolver =>
      let res := (resolve resolver w.order w.database w.conditions w.now
        (fingerprint w.secret (extractToken r)) (extractToken r) (extractClient r).id).resolved
      (res.identityID, res.clientID)

def decisionFor (w : Caller) (e : Engine) (r : Request) : Negotiation :=
  handleDecision e r (extractSession r) (resolveCaller w r).1 (resolveCaller w r).2

def partCheckFor (w : Caller) (e : Engine) (r : Request) (partID : GoString) : PartCheck :=
  enforceStateless e r partID (resolveCaller w r).1 (resolveCaller w r).2

end ReplxEdge.Playback
