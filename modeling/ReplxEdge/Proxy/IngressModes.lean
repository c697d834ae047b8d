import ReplxEdge.Proxy.Serve

/-!
# The boundary in the two ingress modes

One handler, set to direct mode and to tunnel mode. Tunnel mode asks the boundary
inside the resolver, about every media path, once an origin and a caller token are
at hand. Direct mode asks in the handler, about the paths that have a part id or
are manifests. What the boundary says is then carried out by different code too.
-/

namespace ReplxEdge.Proxy

open Foundation
open Net
open Gateway
open Spike
open Trace
open Cache

def Handler.inMode (h : Handler) (mode : IngressMode) : Handler :=
  { h with mode := mode }

/-- The outcomes that hand on the substitute: the request aimed at it, or the redirect
built from it. A cache hit is none, its key is that of the requested path. -/
def ServesSubstitute (h : Handler) (r : Request) (key : GoString) : Outcome -> Prop
  | .streamed sent => sent.path = before key 63
  | .proxied sent => sent.path = before key 63
  | .redirected location => redirectTarget h r key = some location
  | _ => False

/-- A denied request is refused, a substituted one is refused or gets its substitute. -/
structure CarriedOut (h : Handler) (r : Request) (verdict : Verdict)
    (outcome : Outcome) : Prop where
  denied : verdict.deny = true -> outcome.refused = true
  substituted : verdict.deny = false -> verdict.substitute ≠ [] ->
    outcome.refused = true ∨ ServesSubstitute h r verdict.substitute outcome

/-- Both modes ask the boundary the same, and what it says is carried out in both or
in neither. -/
structure SameBoundary (h : Handler) (r : Request) : Prop where
  consults : (serveHTTP (h.inMode .direct) r).consults =
    (serveHTTP (h.inMode .cloudflareTunnel) r).consults
  outcomes : forall asked,
    asked ∈ (serveHTTP (h.inMode .direct) r).consults ->
      (CarriedOut h r asked.verdict (serveHTTP (h.inMode .direct) r).outcome <->
        CarriedOut h r asked.verdict (serveHTTP (h.inMode .cloudflareTunnel) r).outcome)

def directAsks (r : Request) : Prop :=
  partIDFromPath r.path ≠ [] ∨ isManifest r.path = true

/-- Direct mode aims at substitutes with a leading slash only, and a stored answer
comes before the origin. -/
def DirectSubstitutes (h : Handler) (r : Request) (key : GoString) : Prop :=
  (hasPrefix (before key 63) (str "/") = true ∨ r.path = before key 63) ∧
    ((isWebSocket (substitutePartRequest r key) || isSSE (substitutePartRequest r key)) = true ∨
      ((requestCacheable r).isSome && h.serveCache (substitutePartRequest r key)) = false)

/-- Tunnel mode turns to the media gateway when the substitute has no target. -/
def TunnelSubstitutes (h : Handler) (r : Request) (key : GoString) : Prop :=
  redirectTarget h r key ≠ none ∨ h.mediaFallback = none

/-- The configurations and requests that both modes treat alike. -/
def ModesAgree (h : Handler) (policy : PartPolicy) (r : Request) : Prop :=
  r.host ≠ [] ∨ hasPrefix r.path (str "//") = true ∨
    ((directAsks r <-> tunnelAsks h r) ∧ (tunnelAsks h r ->
        ((verdictOn policy r).deny = true -> h.mediaFallback = none) ∧
        ((verdictOn policy r).deny = false -> (verdictOn policy r).substitute ≠ [] ->
          (DirectSubstitutes h r (verdictOn policy r).substitute <->
            TunnelSubstitutes h r (verdictOn policy r).substitute))))

/-!
## Each mode
-/

section Modes

variable {h : Handler} {r : Request} {policy : PartPolicy}

theorem serveHTTP_direct (hmode : h.mode = .direct) (hmedia : classify r.path = .mediaRedirect)
    (htarget : ¬ (r.host ≠ [] ∨ hasPrefix r.path (str "//") = true)) :
    serveHTTP h r = serveDirectMedia h r := by
  unfold serveHTTP
  rw [if_neg htarget, hmedia, hmode]

theorem serveDirectMedia_asked (hpolicy : boundaryPolicy h = some policy) (hask : directAsks r) :
    serveDirectMedia h r = ⟨[consult policy r (partIDFromPath r.path) (extractSession r)],
        if (verdictOn policy r).deny then
          .partDeny (if (verdictOn policy r).reason = [] then decisionRequired
            else (verdictOn policy r).reason) else if (verdictOn policy r).substitute ≠ [] then
          forwardMedia h r (substitutePartRequest r (verdictOn policy r).substitute)
        else forwardMedia h r r⟩ := by
  have hpath : partIDFromPath r.path ≠ [] ∨ isManifest r.path = true := hask
  have hverdict : (consult policy r (partIDFromPath r.path) (extractSession r)).verdict =
      verdictOn policy r := rfl
  unfold serveDirectMedia
  rw [hpolicy]
  simp only [if_pos hpath, hverdict]
  split
  · rfl
  split
  · rfl
  · rfl

theorem serveDirectMedia_unasked (hpolicy : boundaryPolicy h = some policy)
    (hask : ¬ directAsks r) : (serveDirectMedia h r).consults = [] := by
  have hpath : ¬ (partIDFromPath r.path ≠ [] ∨ isManifest r.path = true) := hask
  unfold serveDirectMedia
  rw [hpolicy]
  simp only [if_neg hpath]

theorem serveTunnelMedia_asked
    (hspike : forall store, h.spike = some store -> store.partPolicy = some policy)
    (hmedia : classify r.path = .mediaRedirect) (hasks : tunnelAsks h r) :
    serveTunnelMedia h r = ⟨[consult policy r (partIDFromPath r.path) (extractSession r)],
        tunnelOutcome h r (if (verdictOn policy r).deny then none
          else redirectTarget h r (verdictOn policy r).substitute)⟩ := by
  unfold serveTunnelMedia
  rw [tunnelResolution_asked hspike hmedia hasks]

theorem serveTunnelMedia_unasked (hasks : ¬ tunnelAsks h r) :
    (serveTunnelMedia h r).consults = [] := by
  unfold serveTunnelMedia
  rw [tunnelResolution_unasked hasks]

/-!
## Substitutes
-/

theorem substitutePartRequest_path_iff (r : Request) (key : GoString) :
    (substitutePartRequest r key).path = before key 63 <->
      hasPrefix (before key 63) (str "/") = true ∨ r.path = before key 63 := by
  unfold substitutePartRequest
  cases hslash : hasPrefix (before key 63) (str "/") with
  | true | false =>
    simp [hslash]

theorem forwardMedia_substitutes_iff (h h' : Handler) (r : Request) (key : GoString)
    (hcache : h'.serveCache = h.serveCache) :
    ServesSubstitute h r key (forwardMedia h' r (substitutePartRequest r key)) <->
      DirectSubstitutes h r key := by
  unfold DirectSubstitutes
  rw [← substitutePartRequest_path_iff, ← hcache]
  unfold forwardMedia
  split
  next hstream =>
    simp [ServesSubstitute, hstream]
  next hstream =>
    split
    next hhit =>
      simp only [ServesSubstitute, hhit, false_iff]
      intro hcase
      rcases hcase.right with hstreamed | hmiss
      · exact hstream hstreamed
      · cases hmiss
    next hmiss =>
      rw [Bool.not_eq_true] at hmiss
      simp [ServesSubstitute, hmiss]

theorem tunnelOutcome_substitutes_iff (h h' : Handler) (r : Request) (key : GoString)
    (hfallback : h'.mediaFallback = h.mediaFallback) :
    ((tunnelOutcome h' r (redirectTarget h r key)).refused = true ∨
        ServesSubstitute h r key (tunnelOutcome h' r (redirectTarget h r key))) <->
      TunnelSubstitutes h r key := by
  unfold TunnelSubstitutes tunnelOutcome
  rw [hfallback]
  cases htarget : redirectTarget h r key with
  | some location =>
    simp [ServesSubstitute, htarget]
  | none =>
    cases h.mediaFallback with
    | none =>
      simp [Outcome.refused]
    | some fallback =>
      simp [Outcome.refused, ServesSubstitute]

/-!
## What is carried out
-/

theorem carriedOut_direct_iff (hpolicy : boundaryPolicy (h.inMode .direct) = some policy)
    (hask : directAsks r) :
    CarriedOut h r (verdictOn policy r) (serveDirectMedia (h.inMode .direct) r).outcome <->
      ((verdictOn policy r).deny = false -> (verdictOn policy r).substitute ≠ [] ->
        DirectSubstitutes h r (verdictOn policy r).substitute) := by
  rw [serveDirectMedia_asked hpolicy hask]
  cases hdeny : (verdictOn policy r).deny with
  | true =>
    constructor
    · intro _ hallow
      cases hallow
    intro _
    refine ⟨fun _ => rfl, ?_⟩
    intro hallow
    rw [hdeny] at hallow
    cases hallow
  | false =>
    have hserves := forwardMedia_substitutes_iff h (h.inMode .direct) r
      (verdictOn policy r).substitute rfl
    constructor
    · intro hcarried _ hsubstitute
      have hcase := hcarried.substituted hdeny hsubstitute
      simp only [Bool.false_eq_true, if_false, if_pos hsubstitute, forwardMedia_refused,
        false_or] at hcase
      exact hserves.mp hcase
    intro hdirect
    refine ⟨fun hdenied => absurd (hdeny.symm.trans hdenied) Bool.false_ne_true, ?_⟩
    intro _ hsubstitute
    simp only [Bool.false_eq_true, if_false, if_pos hsubstitute]
    exact Or.inr (hserves.mpr (hdirect rfl hsubstitute))

theorem carriedOut_tunnel_iff
    (hspike : forall store, h.spike = some store -> store.partPolicy = some policy)
    (hmedia : classify r.path = .mediaRedirect) (hasks : tunnelAsks h r) :
    CarriedOut h r (verdictOn policy r)
        (serveTunnelMedia (h.inMode .cloudflareTunnel) r).outcome <->
      ((verdictOn policy r).deny = true -> h.mediaFallback = none) ∧
        ((verdictOn policy r).deny = false -> (verdictOn policy r).substitute ≠ [] ->
          TunnelSubstitutes h r (verdictOn policy r).substitute) := by
  have hserved := serveTunnelMedia_asked (h := h.inMode .cloudflareTunnel)
    hspike hmedia hasks
  rw [hserved]
  have hrefused := tunnelOutcome_refused (h.inMode .cloudflareTunnel) r none
  have hserves := tunnelOutcome_substitutes_iff h (h.inMode .cloudflareTunnel) r
    (verdictOn policy r).substitute rfl
  cases hdeny : (verdictOn policy r).deny with
  | true =>
    constructor
    · intro hcarried
      refine ⟨fun _ => (hrefused.mp (hcarried.denied hdeny)).right, ?_⟩
      intro hallow
      cases hallow
    intro hcase
    refine ⟨fun _ => hrefused.mpr ⟨rfl, hcase.left rfl⟩, ?_⟩
    intro hallow
    rw [hdeny] at hallow
    cases hallow
  | false =>
    constructor
    · intro hcarried
      refine ⟨fun hdenied => absurd hdenied Bool.false_ne_true, ?_⟩
      intro _ hsubstitute
      exact hserves.mp (hcarried.substituted hdeny hsubstitute)
    intro hcase
    refine ⟨fun hdenied => absurd (hdeny.symm.trans hdenied) Bool.false_ne_true, ?_⟩
    intro _ hsubstitute
    exact hserves.mpr (hcase.right rfl hsubstitute)

theorem carriedOut_alike_iff (hpolicy : boundaryPolicy (h.inMode .direct) = some policy)
    (hspike : forall store, h.spike = some store -> store.partPolicy = some policy)
    (hmedia : classify r.path = .mediaRedirect) (hask : directAsks r) (hasks : tunnelAsks h r) :
    (CarriedOut h r (verdictOn policy r) (serveDirectMedia (h.inMode .direct) r).outcome <->
      CarriedOut h r (verdictOn policy r)
        (serveTunnelMedia (h.inMode .cloudflareTunnel) r).outcome) <->
      ((verdictOn policy r).deny = true -> h.mediaFallback = none) ∧
        ((verdictOn policy r).deny = false -> (verdictOn policy r).substitute ≠ [] ->
          (DirectSubstitutes h r (verdictOn policy r).substitute <->
            TunnelSubstitutes h r (verdictOn policy r).substitute)) := by
  rw [carriedOut_direct_iff hpolicy hask, carriedOut_tunnel_iff hspike hmedia hasks]
  cases (verdictOn policy r).deny with
  | true =>
    simp
  | false =>
    by_cases hsubstitute : (verdictOn policy r).substitute = []
    · simp [hsubstitute]
    · simp [hsubstitute]

end Modes

/-!
## Agreement
-/

/-- Both modes enforce the same boundary on a media request exactly in these
configurations. -/
theorem modes_agree_iff (h : Handler) (r : Request) (policy : PartPolicy)
    (hpolicy : h.partPolicy = some policy)
    (hspike : forall store, h.spike = some store -> store.partPolicy = some policy)
    (hmedia : classify r.path = .mediaRedirect) :
    SameBoundary h r <-> ModesAgree h policy r := by
  unfold ModesAgree
  by_cases htarget : r.host ≠ [] ∨ hasPrefix r.path (str "//") = true
  · have hinvalid : forall mode, serveHTTP (h.inMode mode) r = ⟨[], .invalidPath⟩ := by
      intro mode
      unfold serveHTTP
      rw [if_pos htarget]
    rw [← or_assoc]
    constructor
    · intro _
      exact Or.inl htarget
    intro _
    refine ⟨by rw [hinvalid, hinvalid], ?_⟩
    intro asked _
    rw [hinvalid, hinvalid]
  have hboundary : boundaryPolicy (h.inMode .direct) = some policy := by
    unfold boundaryPolicy Handler.inMode
    rw [hpolicy]
  have hdirect : serveHTTP (h.inMode .direct) r =
      serveDirectMedia (h.inMode .direct) r :=
    serveHTTP_direct rfl hmedia htarget
  have htunnel : serveHTTP (h.inMode .cloudflareTunnel) r =
      serveTunnelMedia (h.inMode .cloudflareTunnel) r :=
    serveHTTP_tunnel rfl hmedia htarget
  rw [← or_assoc, or_iff_right htarget]
  by_cases hask : directAsks r
  · have hd := serveDirectMedia_asked hboundary hask
    by_cases hasks : tunnelAsks h r
    · have ht := serveTunnelMedia_asked (h := h.inMode .cloudflareTunnel) hspike
        hmedia hasks
      have halike := carriedOut_alike_iff hboundary hspike hmedia hask hasks
      constructor
      · intro hsame
        refine ⟨iff_of_true hask hasks, fun _ => halike.mp ?_⟩
        have hcase := hsame.outcomes
          (consult policy r (partIDFromPath r.path) (extractSession r))
          (by rw [hdirect, hd]; exact List.mem_singleton_self _)
        rwa [hdirect, htunnel] at hcase
      intro hagree
      refine ⟨by rw [hdirect, htunnel, hd, ht], ?_⟩
      intro asked hasked
      rw [hdirect, hd, List.mem_singleton] at hasked
      rw [hasked, hdirect, htunnel]
      exact halike.mpr (hagree.right hasks)
    -- only direct mode asks
    have ht := serveTunnelMedia_unasked (h := h.inMode .cloudflareTunnel) hasks
    constructor
    · intro hsame
      have hconsults := hsame.consults
      rw [hdirect, htunnel, hd, ht] at hconsults
      cases hconsults
    intro hagree
    exact absurd (hagree.left.mp hask) hasks
  have hd := serveDirectMedia_unasked hboundary hask
  by_cases hasks : tunnelAsks h r
  · -- only tunnel mode asks
    have ht := serveTunnelMedia_asked (h := h.inMode .cloudflareTunnel) hspike
      hmedia hasks
    constructor
    · intro hsame
      have hconsults := hsame.consults
      rw [hdirect, htunnel, hd, ht] at hconsults
      cases hconsults
    intro hagree
    exact absurd (hagree.left.mpr hasks) hask
  have ht := serveTunnelMedia_unasked (h := h.inMode .cloudflareTunnel) hasks
  constructor
  · intro _
    exact ⟨iff_of_false hask hasks, fun hcase => absurd hcase hasks⟩
  intro _
  refine ⟨by rw [hdirect, htunnel, hd, ht], ?_⟩
  intro asked hasked
  rw [hdirect, hd] at hasked
  cases hasked

/-- Without a media gateway a denied part is refused in both modes. -/
theorem modes_agree_on_part :
    SameBoundary (boundaryHandler .direct (some (onboardedStore denyAll)) none
      denyAll) partRequest := by
  refine (modes_agree_iff (boundaryHandler .direct
    (some (onboardedStore denyAll)) none denyAll) partRequest denyAll rfl ?_
    (by decide +kernel)).mpr ?_
  · intro store hstore
    cases hstore
    rfl
  apply Or.inr
  apply Or.inr
  constructor
  · refine iff_of_true (Or.inl (by decide +kernel)) ⟨onboardedStore denyAll, rfl, ?_, ?_⟩
    · intro hnone
      cases hnone
    · decide +kernel
  intro _
  refine ⟨fun _ => rfl, ?_⟩
  intro hallow
  cases hallow

def filmRequest : Request :=
  Request.bareGet (str "/media/film.mkv") (str "X-Plex-Token=t") Header.empty

/-- Tunnel mode asks about the film and refuses it, direct mode hands it to the origin
unasked. -/
theorem film_unasked_in_direct_mode :
    classify filmRequest.path = .mediaRedirect ∧ isSegment filmRequest.path = false ∧
    (serveHTTP ((boundaryHandler .direct (some (onboardedStore denyAll)) none
      denyAll).inMode .direct) filmRequest).consults = [] ∧
    (serveHTTP ((boundaryHandler .direct (some (onboardedStore denyAll)) none
      denyAll).inMode .direct) filmRequest).outcome.refused = false ∧
    (serveHTTP ((boundaryHandler .direct (some (onboardedStore denyAll)) none
      denyAll).inMode .cloudflareTunnel) filmRequest).consults =
        [⟨[], [], ⟨[], true, decisionRequired⟩⟩] ∧
    ¬ SameBoundary (boundaryHandler .direct (some (onboardedStore denyAll)) none
      denyAll) filmRequest := by
  have hdirect : (serveHTTP ((boundaryHandler .direct
      (some (onboardedStore denyAll)) none denyAll).inMode .direct)
      filmRequest).consults = [] := by
    decide +kernel
  have htunnel : (serveHTTP ((boundaryHandler .direct
      (some (onboardedStore denyAll)) none denyAll).inMode .cloudflareTunnel)
      filmRequest).consults = [⟨[], [], ⟨[], true, decisionRequired⟩⟩] := by
    decide +kernel
  refine ⟨by decide +kernel, by decide +kernel, hdirect, by decide +kernel, htunnel, ?_⟩
  intro hsame
  have hconsults := hsame.consults
  rw [hdirect, htunnel] at hconsults
  cases hconsults

end ReplxEdge.Proxy
