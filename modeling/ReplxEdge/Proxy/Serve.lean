import ReplxEdge.Spike.Resolve
import ReplxEdge.Cache.ResponsePolicy

/-!
# Request dispatch

The handler's routing of one request: refusals, redirects, the part boundary in
either ingress mode, and the control routes. The result keeps every
consultation of the boundary next to what was done with the request.
-/

namespace ReplxEdge.Proxy

open Foundation
open Net
open Gateway
open Spike
open Trace
open Cache

inductive IngressMode where
  | cloudflareTunnel
  | direct
deriving DecidableEq

inductive Decision where
  | handled
  | denied
  | transparent
deriving DecidableEq

structure Fallback where
  host : GoString
  path : GoString
deriving DecidableEq

/-- The configuration, and what the control routes behind it answer. -/
structure Handler where
  mode : IngressMode
  spike : Option Store
  partPolicy : Option PartPolicy
  mediaFallback : Option Fallback
  playback : Option (Request -> Decision)
  serveArtwork : Request -> Bool
  serveCache : Request -> Bool

inductive Outcome where
  | invalidPath
  | sessionsDeny
  | mediaUnavailable (decision : GoString)
  | partDeny (code : GoString)
  | policyDeny
  | redirected (location : Location)
  | gatewayRedirected (location : Location)
  | streamed (r : Request)
  | decided
  | artworkServed
  | cacheServed
  | proxied (r : Request)

namespace Outcome

def refused : Outcome -> Bool
  | invalidPath => true
  | sessionsDeny => true
  | mediaUnavailable _ => true
  | partDeny _ => true
  | policyDeny => true
  | redirected _ => false
  | gatewayRedirected _ => false
  | streamed _ => false
  | decided => false
  | artworkServed => false
  | cacheServed => false
  | proxied _ => false

def location : Outcome -> Option Location
  | redirected location => some location
  | gatewayRedirected location => some location
  | _ => none

end Outcome

structure Served where
  consults : List Consult
  outcome : Outcome

/-!
## Routes
-/

def isSSE (r : Request) : Bool :=
  r.path == str "/:/eventsource/notifications"

def isWebSocket (r : Request) : Bool :=
  r.path == str "/:/websocket/notifications" &&
    (split (r.header.get (str "Upgrade")) 44).any fun v =>
      equalFold (trimSpace v) (str "websocket")

def artworkMatch (path : GoString) : Bool :=
  hasPrefix (toLower path) (str "/photo/:/transcode")

variable {r : Request} {h : Handler} {policy : PartPolicy}

theorem requestCacheable_artwork (h : artworkMatch r.path = true) :
    requestCacheable r = none := by
  rcases hasPrefix_eq_true.mp h with ⟨rest, hrest⟩
  have hsplit : split (toLower r.path) 47 =
      split (str "/photo") 47 ++ (split (str ":") 47 ++
        split (str "transcode" ++ rest) 47) := by
    rw [← hrest]
    change split (str "/photo" ++ 47 :: (str ":" ++ 47 :: (str "transcode" ++ rest))) 47 = _
    unfold split
    rw [List.splitOn_append_cons_self, List.splitOn_append_cons_self]
  have hlive : (split (toLower r.path) 47).any
      (fun part => liveSegments.contains part) = true := by
    rw [hsplit, List.any_eq_true]
    refine ⟨str ":", ?_, by decide⟩
    exact List.mem_append_right _ (List.mem_append_left _ (by decide))
  have hroute : cacheable r.method r.path = none := by
    unfold cacheable
    simp only [hlive, if_true, ite_self]
  unfold requestCacheable
  rw [hroute]

def gatewayLocation (fallback : Fallback) (r : Request) : Location where
  scheme := str "https"
  host := fallback.host
  path := singleJoin fallback.path r.path
  rawQuery := r.rawQuery

def boundaryPolicy (h : Handler) : Option PartPolicy :=
  match h.partPolicy with
  | some policy => some policy
  | none => h.spike.bind Store.partPolicy

def decisionRequired : GoString :=
  str "POLICY_DECISION_REQUIRED"

/-- Aim a request at the substitute part, keeping its query unless the substitute
has its own. -/
def substitutePartRequest (r : Request) (substitute : GoString) : Request :=
  let path := before substitute 63
  if !hasPrefix path (str "/") then r
  else
    { r with
      path := path
      rawPath := []
      rawQuery := if 63 ∈ substitute then after substitute 63 else r.rawQuery }

def tunnelResolution (h : Handler) (r : Request) : Resolution :=
  match h.spike with
  | none => ⟨[], none⟩
  | some store => resolve store r

/-- The media gateway is tried whenever resolution gave no target. -/
def tunnelOutcome (h : Handler) (r : Request) (resolved : Option Location) : Outcome :=
  match resolved with
  | some location => .redirected location
  | none =>
    match h.mediaFallback with
    | some fallback => .gatewayRedirected (gatewayLocation fallback r)
    | none => .mediaUnavailable (str "unavailable")

def serveTunnelMedia (h : Handler) (r : Request) : Served :=
  let resolution := tunnelResolution h r
  ⟨resolution.consults, tunnelOutcome h r resolution.location⟩

/-- The end of the media route in direct mode: `original` is the request that was
observed, `r` the one that is sent. -/
def forwardMedia (h : Handler) (original r : Request) : Outcome :=
  if isWebSocket r || isSSE r then .streamed r
  else if (requestCacheable original).isSome && h.serveCache r then .cacheServed
  else .proxied r

def serveDirectMedia (h : Handler) (r : Request) : Served :=
  let partID := partIDFromPath r.path
  match boundaryPolicy h with
  | none => ⟨[], forwardMedia h r r⟩
  | some policy =>
    if partID ≠ [] ∨ isManifest r.path = true then
      let asked := consult policy r partID (extractSession r)
      if asked.verdict.deny then
        ⟨[asked], .partDeny
          (if asked.verdict.reason = [] then decisionRequired else asked.verdict.reason)⟩
      else if asked.verdict.substitute ≠ [] then
        ⟨[asked], forwardMedia h r (substitutePartRequest r asked.verdict.substitute)⟩
      else ⟨[asked], forwardMedia h r r⟩
    else ⟨[], forwardMedia h r r⟩

def serveControlTail (h : Handler) (r : Request) : Outcome :=
  if artworkMatch r.path && h.serveArtwork r then .artworkServed
  else if (requestCacheable r).isSome && h.serveCache r then .cacheServed
  else .proxied r

def serveControl (h : Handler) (r : Request) : Outcome :=
  if isWebSocket r || isSSE r then .streamed r
  else
    match h.playback with
    | none => serveControlTail h r
    | some engine =>
      if isDecision r.path then
        match engine r with
        | .denied => .policyDeny
        | .handled => .decided
        | .transparent => serveControlTail h r
      else serveControlTail h r

def serveHTTP (h : Handler) (r : Request) : Served :=
  if r.host ≠ [] ∨ hasPrefix r.path (str "//") = true then ⟨[], .invalidPath⟩
  else
    match classify r.path with
    | .denySessions => ⟨[], .sessionsDeny⟩
    | .denyUnknownMedia =>
      match h.mode with
      | .cloudflareTunnel =>
        ⟨[], .mediaUnavailable (str "denied-unknown-transcode")⟩
      | .direct => ⟨[], serveControl h r⟩
    | .mediaRedirect =>
      match h.mode with
      | .cloudflareTunnel => serveTunnelMedia h r
      | .direct => serveDirectMedia h r
    | .playQueueObserve => ⟨[], serveControl h r⟩
    | .control => ⟨[], serveControl h r⟩

/-!
## The part boundary

Every raw part path should pass the boundary: unless the request is refused, the
hook was asked about a part id of that path and did not deny.
-/

def PassesBoundary (r : Request) (served : Served) : Prop :=
  served.outcome.refused = true ∨
    exists asked, asked ∈ served.consults ∧ asked.partID = partIDFromPath r.path ∧
      asked.partID ≠ [] ∧ asked.verdict.deny = false

def verdictOn (policy : PartPolicy) (r : Request) : Verdict :=
  policy r (partIDFromPath r.path) (extractSession r)

def tunnelAsks (h : Handler) (r : Request) : Prop :=
  exists store, h.spike = some store ∧ store.asks r

/-- The target that the resolver builds once the boundary has not denied. -/
def redirectTarget (h : Handler) (r : Request) (substitute : GoString) :
    Option Location :=
  match h.spike with
  | none => none
  | some store =>
    match store.lookup with
    | none => none
    | some (origin, internal) => redirectTo store origin internal r substitute

/-- The configurations and requests for which a raw part path passes. -/
def BoundaryHolds (h : Handler) (policy : PartPolicy) (r : Request) : Prop :=
  r.host ≠ [] ∨
    if isPlayQueue (toLower r.path) = true then
      isDecision r.path = true ∧
        exists engine, h.playback = some engine ∧ engine r = .denied
    else
      match h.mode with
      | .direct =>
        partIDFromPath r.path ≠ [] ∨
          (isManifest r.path = true ∧ (verdictOn policy r).deny = true)
      | .cloudflareTunnel =>
        (tunnelAsks h r ∧ partIDFromPath r.path ≠ [] ∧ (verdictOn policy r).deny = false) ∨
          (h.mediaFallback = none ∧ ¬ (tunnelAsks h r ∧ (verdictOn policy r).deny = false ∧
              redirectTarget h r (verdictOn policy r).substitute ≠ none))

theorem forwardMedia_refused (h : Handler) (original r : Request) :
    (forwardMedia h original r).refused = false := by
  unfold forwardMedia
  split
  · rfl
  split
  · rfl
  · rfl

theorem serveControlTail_refused (h : Handler) (r : Request) :
    (serveControlTail h r).refused = false := by
  unfold serveControlTail
  split
  · rfl
  split
  · rfl
  · rfl

theorem tunnelOutcome_refused (h : Handler) (r : Request) (resolved : Option Location) :
    (tunnelOutcome h r resolved).refused = true <-> resolved = none ∧ h.mediaFallback = none := by
  unfold tunnelOutcome
  cases resolved with
  | some location =>
    simp [Outcome.refused]
  | none =>
    cases h.mediaFallback with
    | none | some =>
      simp [Outcome.refused]

theorem tunnelOutcome_location (h : Handler) (r : Request) (resolved : Option Location) :
    (tunnelOutcome h r resolved).location =
      match resolved with
      | some location => some location
      | none => h.mediaFallback.map fun fallback => gatewayLocation fallback r := by
  unfold tunnelOutcome
  cases resolved with
  | some location => rfl
  | none =>
    cases h.mediaFallback with
    | none | some => rfl

theorem tunnelResolution_unasked (hasks : ¬ tunnelAsks h r) :
    tunnelResolution h r = ⟨[], none⟩ := by
  unfold tunnelResolution
  cases hspike : h.spike with
  | none => rfl
  | some store => exact resolve_unasked fun hstore => hasks ⟨store, hspike, hstore⟩

theorem tunnelResolution_asked (hpolicy : forall store, h.spike = some store -> store.partPolicy =
    some policy) (hmedia : classify r.path = .mediaRedirect) (hasks : tunnelAsks h r) :
    tunnelResolution h r = ⟨[consult policy r (partIDFromPath r.path) (extractSession r)],
        if (verdictOn policy r).deny then none
        else redirectTarget h r (verdictOn policy r).substitute⟩ := by
  rcases hasks with ⟨store, hspike, hstore⟩
  rcases resolve_asked hstore (hpolicy store hspike) hmedia with
    ⟨origin, internal, hlookup, hresolve⟩
  unfold tunnelResolution redirectTarget verdictOn
  simp only [hspike, hlookup, hresolve]
  cases (policy r (partIDFromPath r.path) (extractSession r)).deny with
  | true | false => rfl

theorem part_target {path : GoString}
    (h : hasPrefix (toLower path) (str "/library/parts/") = true) :
    hasPrefix path (str "//") = false := by
  rw [Bool.eq_false_iff, ne_eq, hasPrefix_eq_true]
  intro hcase
  rcases hcase with ⟨rest, rfl⟩
  rw [toLower_lower_append rest (by decide), hasPrefix_eq_true] at h
  rcases h with ⟨tail, htail⟩
  have hsecond : some (108 : UInt8) = some 47 :=
    congrArg (fun text => (text.drop 1).head?) htail
  exact absurd hsecond (by decide)

theorem serveHTTP_part (hpath : hasPrefix (toLower r.path) (str "/library/parts/") = true)
    (hhost : r.host = []) :
    serveHTTP h r =
      if isPlayQueue (toLower r.path) = true then ⟨[], serveControl h r⟩
      else
        match h.mode with
        | .cloudflareTunnel => serveTunnelMedia h r
        | .direct => serveDirectMedia h r := by
  have htarget : ¬ (r.host ≠ [] ∨ hasPrefix r.path (str "//") = true) := by
    rw [part_target hpath, hhost]
    simp
  unfold serveHTTP
  rw [if_neg htarget, classify_part hpath]
  cases isPlayQueue (toLower r.path) with
  | true | false => rfl

theorem serveControl_passes :
    PassesBoundary r ⟨[], serveControl h r⟩ -> isDecision r.path = true ∧
        exists engine, h.playback = some engine ∧ engine r = .denied := by
  intro hcase
  rcases hcase with hrefused | ⟨asked, hasked, _⟩
  · simp only at hrefused
    unfold serveControl at hrefused
    split at hrefused
    · cases hrefused
    cases hplayback : h.playback with
    | none =>
      rw [hplayback] at hrefused
      simp only [serveControlTail_refused] at hrefused
      cases hrefused
    | some engine =>
      rw [hplayback] at hrefused
      simp only at hrefused
      split at hrefused
      · rename_i hdecision
        cases hanswer : engine r with
        | denied => exact ⟨hdecision, engine, rfl, hanswer⟩
        | handled =>
          rw [hanswer] at hrefused
          cases hrefused
        | transparent =>
          rw [hanswer] at hrefused
          simp only [serveControlTail_refused] at hrefused
          cases hrefused
      rw [serveControlTail_refused] at hrefused
      cases hrefused
  · cases hasked

theorem serveControl_denied {engine : Request -> Decision}
    (hpath : hasPrefix (toLower r.path) (str "/library/parts/") = true)
    (hdecision : isDecision r.path = true) (hplayback : h.playback = some engine)
    (hdenied : engine r = .denied) :
    serveControl h r = .policyDeny := by
  have hevent : (isWebSocket r || isSSE r) = false := by
    cases hstream : isWebSocket r || isSSE r with
    | false => rfl
    | true =>
      have hnot : forall path, path = str "/:/websocket/notifications" ∨
          path = str "/:/eventsource/notifications" ->
          hasPrefix (toLower path) (str "/library/parts/") = false := by
        intro path hpath
        rcases hpath with rfl | rfl
        · decide
        · decide
      have hone : r.path = str "/:/websocket/notifications" ∨
          r.path = str "/:/eventsource/notifications" := by
        simp only [isWebSocket, isSSE, Bool.or_eq_true, Bool.and_eq_true, beq_iff_eq]
          at hstream
        rcases hstream with hsocket | hsse
        · exact Or.inl hsocket.left
        · exact Or.inr hsse
      rw [hnot r.path hone] at hpath
      cases hpath
  unfold serveControl
  rw [hevent, hplayback]
  simp [hdecision, hdenied]

theorem serveDirectMedia_passes (hpolicy : h.partPolicy = some policy) :
    PassesBoundary r (serveDirectMedia h r) <-> (partIDFromPath r.path ≠ [] ∨
        (isManifest r.path = true ∧ (verdictOn policy r).deny = true)) := by
  have hboundary : boundaryPolicy h = some policy := by
    unfold boundaryPolicy
    rw [hpolicy]
  unfold serveDirectMedia
  simp only [hboundary]
  by_cases hask : partIDFromPath r.path ≠ [] ∨ isManifest r.path = true
  · rw [if_pos hask]
    cases hdeny : (verdictOn policy r).deny with
    | true =>
      have hdeny' : (consult policy r (partIDFromPath r.path)
          (extractSession r)).verdict.deny = true := hdeny
      rw [if_pos hdeny']
      constructor
      · intro _
        rcases hask with hid | hmanifest
        · exact Or.inl hid
        · exact Or.inr ⟨hmanifest, rfl⟩
      intro _
      exact Or.inl rfl
    | false =>
      have hdeny' : ¬ (consult policy r (partIDFromPath r.path)
          (extractSession r)).verdict.deny = true := by
        change ¬ (verdictOn policy r).deny = true
        rw [hdeny]
        exact Bool.false_ne_true
      rw [if_neg hdeny']
      have hforwarded : forall target,
          PassesBoundary r ⟨[consult policy r (partIDFromPath r.path) (extractSession r)],
            forwardMedia h r target⟩ <-> partIDFromPath r.path ≠ [] := by
        intro target
        constructor
        · intro hcase
          rcases hcase with hrefused | ⟨asked, hasked, _heq, hid, _hallow⟩
          · rw [forwardMedia_refused] at hrefused
            cases hrefused
          rw [List.mem_singleton.mp hasked] at hid
          exact hid
        intro hid
        exact Or.inr ⟨_, List.mem_singleton.mpr rfl, rfl, hid, hdeny⟩
      have hside : (partIDFromPath r.path ≠ [] ∨
          (isManifest r.path = true ∧ false = true)) <-> partIDFromPath r.path ≠ [] := by
        simp
      rw [hside]
      split
      all_goals exact hforwarded _
  rw [if_neg hask]
  rw [not_or] at hask
  constructor
  · intro hcase
    rcases hcase with hrefused | ⟨asked, hasked, _⟩
    · rw [forwardMedia_refused] at hrefused
      cases hrefused
    · cases hasked
  intro hcase
  rcases hcase with hid | hmanifest
  · exact absurd hid hask.left
  · exact absurd hmanifest.left hask.right

theorem serveTunnelMedia_passes (hpolicy : forall store, h.spike = some store -> store.partPolicy =
    some policy) (hmedia : classify r.path = .mediaRedirect) :
    PassesBoundary r (serveTunnelMedia h r) <->
      ((tunnelAsks h r ∧ partIDFromPath r.path ≠ [] ∧ (verdictOn policy r).deny = false) ∨
        (h.mediaFallback = none ∧ ¬ (tunnelAsks h r ∧ (verdictOn policy r).deny = false ∧
            redirectTarget h r (verdictOn policy r).substitute ≠ none))) := by
  unfold PassesBoundary serveTunnelMedia
  simp only
  rw [tunnelOutcome_refused]
  by_cases hasks : tunnelAsks h r
  · have hnone : (if (verdictOn policy r).deny = true then none
        else redirectTarget h r (verdictOn policy r).substitute) = none <->
        ¬ ((verdictOn policy r).deny = false ∧
          redirectTarget h r (verdictOn policy r).substitute ≠ none) := by
      cases (verdictOn policy r).deny with
      | true | false =>
        simp
    rw [tunnelResolution_asked hpolicy hmedia hasks]
    simp only [hnone]
    constructor
    · intro hcase
      rcases hcase with ⟨hresolved, hfallback⟩ | ⟨asked, hasked, _heq, hid, hallow⟩
      · exact Or.inr ⟨hfallback, fun hall => hresolved hall.right⟩
      rw [List.mem_singleton.mp hasked] at hid hallow
      exact Or.inl ⟨hasks, hid, hallow⟩
    intro hcase
    rcases hcase with ⟨_hasks, hid, hallow⟩ | ⟨hfallback, hnot⟩
    · exact Or.inr ⟨_, List.mem_singleton.mpr rfl, rfl, hid, hallow⟩
    · exact Or.inl ⟨fun hall => hnot ⟨hasks, hall⟩, hfallback⟩
  rw [tunnelResolution_unasked hasks]
  constructor
  · intro hcase
    rcases hcase with ⟨_hresolved, hfallback⟩ | ⟨asked, hasked, _⟩
    · exact Or.inr ⟨hfallback, fun hall => hasks hall.left⟩
    · cases hasked
  intro hcase
  rcases hcase with ⟨hyes, _⟩ | ⟨hfallback, _⟩
  · exact absurd hyes hasks
  · exact Or.inl ⟨rfl, hfallback⟩

/-- A raw part path passes the boundary exactly in these configurations. -/
theorem partBoundary_iff (h : Handler) (r : Request) (policy : PartPolicy)
    (hpolicy : h.partPolicy = some policy)
    (hspike : forall store, h.spike = some store -> store.partPolicy = some policy)
    (hpath : hasPrefix (toLower r.path) (str "/library/parts/") = true) :
    PassesBoundary r (serveHTTP h r) <-> BoundaryHolds h policy r := by
  unfold BoundaryHolds
  by_cases hhost : r.host = []
  · rw [serveHTTP_part hpath hhost]
    have hskip : ¬ r.host ≠ [] := fun hne => hne hhost
    rw [or_iff_right hskip]
    by_cases hqueue : isPlayQueue (toLower r.path) = true
    · rw [if_pos hqueue, if_pos hqueue]
      constructor
      · exact serveControl_passes
      intro hcase
      rcases hcase with ⟨hdecision, engine, hplayback, hdenied⟩
      rw [serveControl_denied hpath hdecision hplayback hdenied]
      exact Or.inl rfl
    rw [if_neg hqueue, if_neg hqueue]
    have hmedia : classify r.path = .mediaRedirect := by rw [classify_part hpath, if_neg hqueue]
    cases hmode : h.mode with
    | cloudflareTunnel => exact serveTunnelMedia_passes hspike hmedia
    | direct => exact serveDirectMedia_passes hpolicy
  have hinvalid : serveHTTP h r = ⟨[], .invalidPath⟩ := by
    unfold serveHTTP
    rw [if_pos (Or.inl hhost)]
  rw [hinvalid]
  constructor
  · intro _
    exact Or.inl hhost
  intro _
  exact Or.inl rfl

def denyAll : PartPolicy :=
  fun _ _ _ => ⟨[], true, decisionRequired⟩

def boundaryHandler (mode : IngressMode) (spike : Option Store)
    (fallback : Option Fallback) (policy : PartPolicy) : Handler where
  mode := mode
  spike := spike
  partPolicy := some policy
  mediaFallback := fallback
  playback := none
  serveArtwork := fun _ => false
  serveCache := fun _ => false

theorem partBoundary_direct_part :
    PassesBoundary
      (Request.bareGet (str "/library/parts/301/17/file.mkv") [] Header.empty)
      (serveHTTP (boundaryHandler .direct none none denyAll)
        (Request.bareGet (str "/library/parts/301/17/file.mkv") [] Header.empty)) := by
  refine (partBoundary_iff (boundaryHandler .direct none none denyAll)
    (Request.bareGet (str "/library/parts/301/17/file.mkv") [] Header.empty) denyAll rfl
    (fun store hstore => by cases hstore) (by decide +kernel)).mpr ?_
  apply Or.inr
  rw [if_neg (by decide +kernel)]
  exact Or.inl (by decide +kernel)

/-- A part whose file name starts with `playqueue` is proxied unasked, although the
boundary denies every part. -/
theorem playqueue_part_unasked :
    hasPrefix (toLower (str "/library/parts/301/17/playqueue.mkv"))
      (str "/library/parts/") = true ∧
    (serveHTTP (boundaryHandler .direct none none denyAll)
      (Request.bareGet (str "/library/parts/301/17/playqueue.mkv") []
        Header.empty)).consults = [] ∧ ¬ PassesBoundary
      (Request.bareGet (str "/library/parts/301/17/playqueue.mkv") [] Header.empty)
      (serveHTTP (boundaryHandler .direct none none denyAll)
        (Request.bareGet (str "/library/parts/301/17/playqueue.mkv") []
          Header.empty)) := by
  have hconsults : (serveHTTP (boundaryHandler .direct none none denyAll)
      (Request.bareGet (str "/library/parts/301/17/playqueue.mkv") []
        Header.empty)).consults = [] := by
    decide +kernel
  refine ⟨by decide +kernel, hconsults, ?_⟩
  intro hcase
  rcases hcase with hrefused | ⟨asked, hasked, _⟩
  · revert hrefused
    decide +kernel
  rw [hconsults] at hasked
  cases hasked

/-!
## Refusals in tunnel mode

A refusal of the boundary should be final: no redirect after a denial, and no
redirect to the requested part after a substitution.
-/

def RefusalFinal (r : Request) (served : Served) : Prop :=
  forall asked, asked ∈ served.consults ->
    (asked.verdict.deny = true -> served.outcome.location = none) ∧
    (asked.verdict.deny = false -> asked.verdict.substitute ≠ [] -> partIDFromPath r.path ≠ [] ->
        forall location, served.outcome.location = some location ->
          ¬ namesPart location.path (partIDFromPath r.path))

/-- The path that a substitute leads to from the configured origin. -/
def substitutePath (h : Handler) (r : Request) (substitute : GoString) : Option GoString :=
  (h.spike.bind Store.lookup).bind fun found => found.1.bind fun base =>
    (parseReference (redirectURI r substitute)).map (targetPath base)

/-- Where a substitute can be reached, it leads away from the requested part; otherwise
nothing is left but the gateway. -/
def RefusalHolds (h : Handler) (policy : PartPolicy) (r : Request) : Prop :=
  r.host ≠ [] ∨ hasPrefix r.path (str "//") = true ∨ ¬ tunnelAsks h r ∨
    (((verdictOn policy r).deny = true -> h.mediaFallback = none) ∧
      ((verdictOn policy r).deny = false -> (verdictOn policy r).substitute ≠ [] ->
        partIDFromPath r.path ≠ [] ->
          if (redirectTarget h r (verdictOn policy r).substitute).isNone then
            h.mediaFallback = none
          else
            forall path, substitutePath h r (verdictOn policy r).substitute = some path ->
              ¬ namesPart path (partIDFromPath r.path)))

theorem serveHTTP_tunnel (hmode : h.mode = .cloudflareTunnel)
    (hmedia : classify r.path = .mediaRedirect)
    (htarget : ¬ (r.host ≠ [] ∨ hasPrefix r.path (str "//") = true)) :
    serveHTTP h r = serveTunnelMedia h r := by
  unfold serveHTTP
  rw [if_neg htarget, hmedia, hmode]

theorem gatewayLocation_namesPart (fallback : Fallback) (hid : partIDFromPath r.path ≠ []) :
    namesPart (gatewayLocation fallback r).path (partIDFromPath r.path) :=
  namesPart_singleJoin (namesPart_partIDFromPath hid)

theorem denied_final (h : Handler) (r : Request) :
    (tunnelOutcome h r none).location = none <-> h.mediaFallback = none := by
  rw [tunnelOutcome_location]
  simp

theorem redirectTarget_path {substitute : GoString} {location : Location}
    (hlocation : redirectTarget h r substitute = some location) :
    substitutePath h r substitute = some location.path := by
  unfold redirectTarget at hlocation
  unfold substitutePath
  cases hspike : h.spike with
  | none =>
    rw [hspike] at hlocation
    cases hlocation
  | some store =>
    rw [hspike] at hlocation
    simp only at hlocation
    split at hlocation
    · cases hlocation
    rename_i origin internal hlookup
    unfold redirectTo at hlocation
    split at hlocation
    · cases hlocation
    rcases (buildDirectOriginURL_path hlocation).right with ⟨base, ref, rfl, href, hpath⟩
    rw [Option.bind_some, hlookup, Option.bind_some, Option.bind_some, href, hpath]
    rfl

theorem substituted_final (h : Handler) (hid : partIDFromPath r.path ≠ [])
    (substitute : GoString) :
    (forall location, (tunnelOutcome h r (redirectTarget h r substitute)).location =
        some location -> ¬ namesPart location.path (partIDFromPath r.path)) <->
      if (redirectTarget h r substitute).isNone then h.mediaFallback = none
      else forall path, substitutePath h r substitute = some path ->
        ¬ namesPart path (partIDFromPath r.path) := by
  rw [tunnelOutcome_location]
  cases htarget : redirectTarget h r substitute with
  | some location =>
    simp [redirectTarget_path htarget]
  | none =>
    cases hfallback : h.mediaFallback with
    | none =>
      simp
    | some fallback =>
      simp [gatewayLocation_namesPart fallback hid]

/-- In tunnel mode a refusal is final exactly in these configurations. -/
theorem refusal_final_iff (h : Handler) (r : Request) (policy : PartPolicy)
    (hmode : h.mode = .cloudflareTunnel) (hmedia : classify r.path = .mediaRedirect)
    (hspike : forall store, h.spike = some store -> store.partPolicy = some policy) :
    RefusalFinal r (serveHTTP h r) <-> RefusalHolds h policy r := by
  unfold RefusalHolds
  by_cases htarget : r.host ≠ [] ∨ hasPrefix r.path (str "//") = true
  · have hinvalid : serveHTTP h r = ⟨[], .invalidPath⟩ := by
      unfold serveHTTP
      rw [if_pos htarget]
    rw [hinvalid, ← or_assoc]
    constructor
    · intro _
      exact Or.inl htarget
    intro _ asked hasked
    cases hasked
  rw [serveHTTP_tunnel hmode hmedia htarget, ← or_assoc, or_iff_right htarget]
  unfold serveTunnelMedia
  by_cases hasks : tunnelAsks h r
  · rw [tunnelResolution_asked hspike hmedia hasks, or_iff_right (not_not.mpr hasks)]
    unfold RefusalFinal
    simp only [List.mem_singleton, forall_eq]
    change ((verdictOn policy r).deny = true -> _) ∧
      ((verdictOn policy r).deny = false -> (verdictOn policy r).substitute ≠ [] -> _) <-> _
    cases hdeny : (verdictOn policy r).deny with
    | true =>
      simp [denied_final]
    | false =>
      constructor
      · intro hcase
        rcases hcase with ⟨_hdenied, hsubstituted⟩
        refine ⟨fun hdenied => absurd hdenied Bool.false_ne_true, ?_⟩
        intro hallow hsubstitute hid
        exact (substituted_final h hid _).mp (hsubstituted hallow hsubstitute hid)
      intro hcase
      rcases hcase with ⟨_hdenied, hsubstituted⟩
      refine ⟨fun hdenied => absurd hdenied Bool.false_ne_true, ?_⟩
      intro hallow hsubstitute hid
      exact (substituted_final h hid _).mpr (hsubstituted hallow hsubstitute hid)
  rw [tunnelResolution_unasked hasks]
  constructor
  · intro _
    exact Or.inl hasks
  intro _ asked hasked
  cases hasked

def onboardedStore (policy : PartPolicy) : Store where
  lookup := some (some ⟨str "https", str "media.example:32400", [], [], []⟩,
    str "http://pms:32400")
  fetchTransient := fun _ _ => some (str "transient")
  partPolicy := some policy
  publicHost := str "replx.example"
  publicHost_ascii := replxExample_isASCII

def partRequest : Request :=
  Request.bareGet (str "/library/parts/301/17/file.mkv") (str "X-Plex-Token=t") Header.empty

theorem refusal_final_without_gateway :
    RefusalFinal partRequest (serveHTTP (boundaryHandler .cloudflareTunnel
        (some (onboardedStore denyAll)) none denyAll) partRequest) := by
  refine (refusal_final_iff (boundaryHandler .cloudflareTunnel
    (some (onboardedStore denyAll)) none denyAll) partRequest denyAll rfl
    (by decide +kernel) ?_).mpr ?_
  · intro store hstore
    cases hstore
    rfl
  refine Or.inr (Or.inr (Or.inr ⟨fun _ => rfl, ?_⟩))
  intro hallow
  cases hallow

/-- With a media gateway the denied part is redirected there. -/
theorem denied_part_redirected :
    classify partRequest.path = .mediaRedirect ∧ (serveHTTP (boundaryHandler .cloudflareTunnel
      (some (onboardedStore denyAll)) (some ⟨str "gateway.example", []⟩) denyAll)
      partRequest).consults =
        [⟨str "301", [], ⟨[], true, decisionRequired⟩⟩] ∧
    (serveHTTP (boundaryHandler .cloudflareTunnel
      (some (onboardedStore denyAll)) (some ⟨str "gateway.example", []⟩) denyAll)
      partRequest).outcome.location =
        some ⟨str "https", str "gateway.example", str "/library/parts/301/17/file.mkv",
          str "X-Plex-Token=t"⟩ ∧
    ¬ RefusalFinal partRequest (serveHTTP (boundaryHandler .cloudflareTunnel
        (some (onboardedStore denyAll)) (some ⟨str "gateway.example", []⟩) denyAll)
        partRequest) := by
  have hconsults : (serveHTTP (boundaryHandler .cloudflareTunnel
      (some (onboardedStore denyAll)) (some ⟨str "gateway.example", []⟩) denyAll)
      partRequest).consults = [⟨str "301", [], ⟨[], true, decisionRequired⟩⟩] := by
    decide +kernel
  have hlocation : (serveHTTP (boundaryHandler .cloudflareTunnel
      (some (onboardedStore denyAll)) (some ⟨str "gateway.example", []⟩) denyAll)
      partRequest).outcome.location =
        some ⟨str "https", str "gateway.example", str "/library/parts/301/17/file.mkv",
          str "X-Plex-Token=t"⟩ := by
    decide +kernel
  refine ⟨by decide +kernel, hconsults, hlocation, ?_⟩
  intro hfinal
  have hnone := (hfinal _ (by rw [hconsults]; exact List.mem_singleton.mpr rfl)).left rfl
  rw [hlocation] at hnone
  cases hnone

end ReplxEdge.Proxy
