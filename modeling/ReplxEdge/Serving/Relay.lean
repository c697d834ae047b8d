import ReplxEdge.Playback.Engine
import ReplxEdge.Serving.Step

/-!
# Origin bodies that are relayed

Behind the tunnel no bulk media may pass. The paths of media are classified
beforehand, and the plain proxy checks the content type of what the origin
answers. The other routes that relay an answer do not.
-/

namespace ReplxEdge.Serving

open Foundation
open Net
open Gateway
open Proxy
open Playback (Caller Engine Negotiation decisionFor)
open Spike (Store PartPolicy)

/-!
## Bulk media
-/

def isBulkMediaType (contentType : GoString) : Bool :=
  let ct := toLower (trimSpace (before contentType 59))
  hasPrefix ct (str "video/") || hasPrefix ct (str "audio/") ||
    ct == str "application/vnd.apple.mpegurl" || ct == str "application/x-mpegurl" ||
    ct == str "application/dash+xml"

def isBulkMediaResponse (h : Header) : Bool :=
  isBulkMediaType (h.get (str "Content-Type"))

/-- What the origin sends for one request. A body that is not complete broke off. -/
structure OriginAnswer where
  header : Header
  body : GoString
  complete : Bool

def maxBodyBytes : Nat :=
  8 * 2 ^ 20

/-!
## Exchanges
-/

/-- A request in front of the router, the configuration, and what the outside answers
on each route. An answer is `none` when its request fails. -/
structure Exchange where
  cfg : Config
  thread : Thread
  spike : Option Store
  partPolicy : Option PartPolicy
  mediaFallback : Option Fallback
  playback : Option (Caller × Engine)
  webSocket : Option OriginAnswer
  events : Option OriginAnswer
  flusher : Bool
  artworkReady : Bool
  artworkHit : Bool
  artworkReserved : Bool
  artwork : Option OriginAnswer
  cacheHit : Bool
  plain : Option OriginAnswer

namespace Exchange

def request (x : Exchange) : Request :=
  x.thread.request

def artworkFetched (x : Exchange) : Option OriginAnswer :=
  if x.artworkReserved then
    x.artwork.filter fun answer =>
      answer.complete && decide (answer.body.length ≤ maxBodyBytes)
  else none

def serveArtwork (x : Exchange) (r : Request) : Bool :=
  artworkAdmitted x.cfg { x.thread with request := r } && x.artworkReady &&
    (x.artworkHit || x.artworkFetched.isSome)

def decisionOf (n : Negotiation) : Proxy.Decision :=
  match n.outcome with
  | .denied _ => .denied
  | _ => .handled

def handler (x : Exchange) : Handler where
  mode := x.cfg.mode
  spike := x.spike
  partPolicy := x.partPolicy
  mediaFallback := x.mediaFallback
  playback := x.playback.map fun engine r => decisionOf (decisionFor engine.1 engine.2 r)
  serveArtwork := x.serveArtwork
  serveCache := fun _ => x.cacheHit

end Exchange

structure Written where
  contentType : GoString
  body : GoString
deriving DecidableEq

def writeAnswer : Option OriginAnswer -> List Written
  | none => []
  | some answer => [⟨answer.header.get (str "Content-Type"), answer.body⟩]

def guardResponse (x : Exchange) (answer : OriginAnswer) : Bool :=
  decide (x.cfg.mode = .cloudflareTunnel) &&
    decide (classify x.request.path ≠ .mediaRedirect) &&
    isBulkMediaResponse answer.header

def writeDecision (x : Exchange) : List Written :=
  match x.playback with
  | none => []
  | some (w, e) =>
    match (decisionFor w e x.request).outcome with
    | .relayed answer _ => [⟨answer.contentType, answer.body⟩]
    | _ => []

def writtenBy (x : Exchange) : Outcome -> List Written
  | .streamed r =>
    if isWebSocket r then writeAnswer x.webSocket
    else if x.flusher then writeAnswer x.events
    else []
  | .decided => writeDecision x
  | .artworkServed => if x.artworkHit then [] else writeAnswer x.artworkFetched
  | .proxied _ => writeAnswer (x.plain.filter fun answer => !guardResponse x answer)
  | _ => []

def written (x : Exchange) : List Written :=
  writtenBy x (serveHTTP x.handler x.request).outcome

/-!
## The routes behind the tunnel
-/

/-- The request gets to the control route of the tunnel. -/
def OnControl (r : Request) : Prop :=
  r.host = [] ∧ hasPrefix r.path (str "//") = false ∧
    (classify r.path = .control ∨ classify r.path = .playQueueObserve)

theorem serveHTTP_onControl {h : Handler} {r : Request} (hr : OnControl r) :
    (serveHTTP h r).outcome = serveControl h r := by
  rcases hr with ⟨hhost, hslashes, hclass⟩
  unfold serveHTTP
  rw [if_neg (by simp [hhost, hslashes])]
  rcases hclass with hcontrol | hqueue
  · rw [hcontrol]
  · rw [hqueue]

theorem writtenBy_tunnelOutcome (x : Exchange) (r : Request) (resolved : Option Spike.Location) :
    writtenBy x (tunnelOutcome x.handler r resolved) = [] := by
  unfold tunnelOutcome
  split
  · rfl
  split
  · rfl
  · rfl

theorem written_off_control {x : Exchange}
    (hmode : x.cfg.mode = .cloudflareTunnel) (hr : ¬ OnControl x.request) :
    written x = [] := by
  have htunnel : x.handler.mode = .cloudflareTunnel := hmode
  unfold written serveHTTP
  split
  · rfl
  rename_i hauthority
  rw [not_or, not_not, Bool.not_eq_true] at hauthority
  cases hclass : classify x.request.path with
  | denySessions => rfl
  | denyUnknownMedia =>
    simp only
    rw [htunnel]
    rfl
  | mediaRedirect =>
    simp only
    rw [htunnel]
    exact writtenBy_tunnelOutcome x _ _
  | playQueueObserve => exact absurd ⟨hauthority.left, hauthority.right, Or.inr hclass⟩ hr
  | control => exact absurd ⟨hauthority.left, hauthority.right, Or.inl hclass⟩ hr

def takesDecision (x : Exchange) : Bool :=
  x.playback.isSome && isDecision x.request.path

def fetchesArtwork (x : Exchange) : Bool :=
  !takesDecision x && (artworkMatch x.request.path && x.serveArtwork x.request) &&
    !x.artworkHit

section Control

variable {x : Exchange} (hr : OnControl x.request)
include hr

theorem written_webSocket (hsocket : isWebSocket x.request = true) :
    written x = writeAnswer x.webSocket := by
  unfold written
  rw [serveHTTP_onControl hr]
  unfold serveControl
  rw [hsocket, Bool.true_or, if_pos rfl]
  simp only [writtenBy, hsocket, if_true]

theorem written_events (hsocket : isWebSocket x.request = false)
    (hevents : isSSE x.request = true) :
    written x = if x.flusher then writeAnswer x.events else [] := by
  unfold written
  rw [serveHTTP_onControl hr]
  unfold serveControl
  rw [hsocket, hevents, Bool.or_true, if_pos rfl]
  simp only [writtenBy, hsocket, Bool.false_eq_true, if_false]

variable (hsocket : isWebSocket x.request = false) (hevents : isSSE x.request = false)
include hsocket hevents

theorem written_decision (htakes : takesDecision x = true) :
    written x = writeDecision x := by
  unfold takesDecision at htakes
  rw [Bool.and_eq_true, Option.isSome_iff_exists] at htakes
  rcases htakes with ⟨⟨engine, hengine⟩, hdecision⟩
  have hplayback : x.handler.playback =
      some fun r => Exchange.decisionOf (decisionFor engine.1 engine.2 r) := by
    unfold Exchange.handler
    rw [hengine]
    rfl
  unfold written
  rw [serveHTTP_onControl hr]
  unfold serveControl
  rw [hsocket, hevents, hplayback]
  simp only [Bool.or_false, Bool.false_eq_true, if_false, hdecision, if_true]
  unfold Exchange.decisionOf
  cases houtcome : (decisionFor engine.1 engine.2 x.request).outcome with
  | denied code =>
    simp only [writtenBy, writeDecision, hengine, houtcome]
  | failed | policyError | relayed =>
    simp only [writtenBy]

theorem written_tail (htakes : takesDecision x = false) :
    written x = writtenBy x (serveControlTail x.handler x.request) := by
  unfold written
  rw [serveHTTP_onControl hr]
  unfold serveControl
  rw [hsocket, hevents]
  simp only [Bool.or_false, Bool.false_eq_true, if_false]
  unfold takesDecision at htakes
  cases hplayback : x.playback with
  | none =>
    have hnone : x.handler.playback = none := by
      unfold Exchange.handler
      rw [hplayback]
      rfl
    rw [hnone]
  | some engine =>
    have hsome : x.handler.playback =
        some fun r => Exchange.decisionOf (decisionFor engine.1 engine.2 r) := by
      unfold Exchange.handler
      rw [hplayback]
      rfl
    rw [hplayback, Option.isSome_some, Bool.true_and] at htakes
    rw [hsome]
    simp only [htakes, Bool.false_eq_true, if_false]

theorem written_artwork (hfetches : fetchesArtwork x = true) :
    written x = writeAnswer x.artworkFetched := by
  unfold fetchesArtwork at hfetches
  simp only [Bool.and_eq_true, Bool.not_eq_true'] at hfetches
  rcases hfetches with ⟨⟨htakes, hmatch, hserves⟩, hhit⟩
  rw [written_tail hr hsocket hevents htakes]
  have htail : serveControlTail x.handler x.request = .artworkServed := by
    unfold serveControlTail
    rw [if_pos]
    rw [hmatch, Bool.true_and]
    exact hserves
  rw [htail]
  simp only [writtenBy, hhit, Bool.false_eq_true, if_false]

theorem written_guarded (hmode : x.cfg.mode = .cloudflareTunnel)
    (htakes : takesDecision x = false) (hfetches : fetchesArtwork x = false) :
    forall w, w ∈ written x -> isBulkMediaType w.contentType = false := by
  have hclass : classify x.request.path ≠ .mediaRedirect := by
    rcases hr.right.right with h | h <;> rw [h] <;> decide
  rw [written_tail hr hsocket hevents htakes]
  unfold serveControlTail
  split
  · rename_i hserves
    have hhit : x.artworkHit = true := by
      unfold fetchesArtwork at hfetches
      rw [htakes, show (artworkMatch x.request.path && x.serveArtwork x.request) = true
        from hserves] at hfetches
      simpa using hfetches
    simp [writtenBy, hhit]
  split
  · simp [writtenBy]
  intro w hw
  simp only [writtenBy] at hw
  cases hplain : x.plain.filter fun answer => !guardResponse x answer with
  | none =>
    rw [hplain] at hw
    cases hw
  | some answer =>
    rw [hplain] at hw
    rw [Option.filter_eq_some_iff] at hplain
    rw [List.mem_singleton.mp hw]
    have hpassed := hplain.right
    unfold guardResponse at hpassed
    simpa [hmode, hclass, isBulkMediaResponse] using hpassed

end Control

/-!
## Bulk media through the tunnel
-/

def Harmless (bodies : List Written) : Prop :=
  forall w, w ∈ bodies -> isBulkMediaType w.contentType = true -> w.body = []

/-- What the origin answers to streams, negotiations and artwork requests is harmless
where it is relayed. -/
structure UnguardedHarmless (x : Exchange) : Prop where
  webSocket : isWebSocket x.request = true -> Harmless (writeAnswer x.webSocket)
  events : isWebSocket x.request = false -> isSSE x.request = true -> x.flusher = true ->
    Harmless (writeAnswer x.events)
  decision : isWebSocket x.request = false -> isSSE x.request = false ->
    takesDecision x = true -> Harmless (writeDecision x)
  artwork : isWebSocket x.request = false -> isSSE x.request = false ->
    fetchesArtwork x = true -> Harmless (writeAnswer x.artworkFetched)

theorem harmless_nil : Harmless [] := by
  intro w hw
  cases hw

theorem harmless_onControl_iff {x : Exchange}
    (hmode : x.cfg.mode = .cloudflareTunnel) (hr : OnControl x.request) :
    Harmless (written x) <-> UnguardedHarmless x := by
  constructor
  · intro h
    constructor
    · intro hsocket
      rwa [written_webSocket hr hsocket] at h
    · intro hsocket hevents hflusher
      rwa [written_events hr hsocket hevents, if_pos hflusher] at h
    · intro hsocket hevents htakes
      rwa [written_decision hr hsocket hevents htakes] at h
    intro hsocket hevents hfetches
    rwa [written_artwork hr hsocket hevents hfetches] at h
  intro h
  cases hsocket : isWebSocket x.request with
  | true =>
    rw [written_webSocket hr hsocket]
    exact h.webSocket hsocket
  | false =>
    cases hevents : isSSE x.request with
    | true =>
      rw [written_events hr hsocket hevents]
      split
      · rename_i hflusher
        exact h.events hsocket hevents hflusher
      · exact harmless_nil
    | false =>
      cases htakes : takesDecision x with
      | true =>
        rw [written_decision hr hsocket hevents htakes]
        exact h.decision hsocket hevents htakes
      | false =>
        cases hfetches : fetchesArtwork x with
        | true =>
          rw [written_artwork hr hsocket hevents hfetches]
          exact h.artwork hsocket hevents hfetches
        | false =>
          intro w hw hbulk
          rw [written_guarded hr hsocket hevents hmode htakes hfetches w hw]
            at hbulk
          cases hbulk

/-- No bulk media passes the tunnel exactly when a request is not on the control route
or every answer on an unguarded route is harmless. -/
theorem no_bulk_media_iff (x : Exchange) (hmode : x.cfg.mode = .cloudflareTunnel) :
    Harmless (written x) <-> (OnControl x.request -> UnguardedHarmless x) := by
  constructor
  · intro h hr
    exact (harmless_onControl_iff hmode hr).mp h
  intro h
  by_cases hr : OnControl x.request
  · exact (harmless_onControl_iff hmode hr).mpr (h hr)
  rw [written_off_control hmode hr]
  exact harmless_nil

def filmAnswer : OriginAnswer where
  header := Header.empty.set (str "Content-Type") (str "video/mp4") (by decide) (by decide)
  body := str "film"
  complete := true

def observed (r : Request) : Thread where
  original := r
  request := r
  arrivedAt := 0
  fingerprint := str "f"
  scope := str "user:jodie"
  fresh := true
  invalid := false
  keyed := none
  reads := []
  flight := false
  phase := .routing

def filmExchange (path rawQuery : GoString) : Exchange where
  cfg := ⟨str "s", .cloudflareTunnel, true⟩
  thread := observed (Request.bareGet path rawQuery Header.empty)
  spike := none
  partPolicy := none
  mediaFallback := none
  playback := none
  webSocket := some filmAnswer
  events := some filmAnswer
  flusher := true
  artworkReady := true
  artworkHit := false
  artworkReserved := true
  artwork := some filmAnswer
  cacheHit := false
  plain := some filmAnswer

theorem film_stopped_on_plain_route :
    (filmExchange (str "/library/sections") []).plain = some filmAnswer ∧
    isBulkMediaResponse filmAnswer.header = true ∧
    Harmless (written (filmExchange (str "/library/sections") [])) := by
  refine ⟨rfl, by decide +kernel, ?_⟩
  refine (no_bulk_media_iff (filmExchange (str "/library/sections") []) rfl).mpr ?_
  intro _
  have hsocket : isWebSocket (filmExchange (str "/library/sections") []).request = false := by
    decide +kernel
  have hevents : isSSE (filmExchange (str "/library/sections") []).request = false := by
    decide +kernel
  have hartwork : fetchesArtwork (filmExchange (str "/library/sections") []) = false := by
    decide +kernel
  constructor
  · intro h
    rw [hsocket] at h
    cases h
  · intro _ h
    rw [hevents] at h
    cases h
  · intro _ _ h
    cases h
  intro _ _ h
  rw [hartwork] at h
  cases h

/-- The artwork route and the event stream relay the film. -/
theorem film_relayed_unguarded :
    isBulkMediaType (str "video/mp4") = true ∧
    written (filmExchange (str "/photo/:/transcode") (str "url=%2Fthumb")) =
      [⟨str "video/mp4", str "film"⟩] ∧
    written (filmExchange (str "/:/eventsource/notifications") []) =
      [⟨str "video/mp4", str "film"⟩] ∧
    ¬ Harmless (written (filmExchange (str "/photo/:/transcode") (str "url=%2Fthumb"))) := by
  have hartwork : written (filmExchange (str "/photo/:/transcode") (str "url=%2Fthumb")) =
      [⟨str "video/mp4", str "film"⟩] := by
    decide +kernel
  refine ⟨by decide +kernel, hartwork, by decide +kernel, ?_⟩
  intro h
  rw [hartwork] at h
  exact absurd (h _ (List.mem_singleton_self _) (by decide +kernel)) (by decide)

end ReplxEdge.Serving
