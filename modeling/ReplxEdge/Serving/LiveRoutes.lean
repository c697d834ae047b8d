import ReplxEdge.Serving.TracedRequests

/-!
# The cache and the live routes

Which requests may use the response store is decided by a table of path prefixes;
how a request is routed, by tests on the texts inside its path. Bulk media, unknown
transcode paths, negotiations and watch writes should stay out of the store, and
this module finds the paths on which the two decisions collide.
-/

namespace ReplxEdge.Serving

open Foundation
open Net
open Cache
open Gateway
open Proxy

variable {p path : GoString} {best : Option (GoString × Duration)} {entry : GoString × Duration}
variable {r : Net.Request} {h : Handler}

/-!
## Cacheable paths
-/

def MatchesRow (p : GoString) (entry : GoString × Duration) : Prop :=
  hasPrefix p entry.1 = true ∧ (hasSuffix entry.1 (str "/") = true ∨ p = entry.1)

variable {found : GoString × Duration}

theorem longerMatch_some (h : longerMatch p best entry = some found) :
    best = some found ∨ (found = entry ∧ MatchesRow p entry) := by
  unfold longerMatch at h
  split at h
  · exact Or.inl h
  rename_i hrow
  have hexact : hasSuffix entry.1 (str "/") = true ∨ p = entry.1 := by
    rw [Bool.and_eq_true, not_and, Bool.not_eq_true'] at hrow
    by_cases hslash : hasSuffix entry.1 (str "/") = true
    · exact Or.inl hslash
    right
    simpa using hrow (by simpa using hslash)
  cases best with
  | none =>
    simp only at h
    split at h
    · rename_i hprefix
      cases h
      exact Or.inr ⟨rfl, hprefix, hexact⟩
    · cases h
  | some previous =>
    simp only at h
    split at h
    · rename_i hprefix
      cases h
      exact Or.inr ⟨rfl, (Bool.and_eq_true_iff.mp hprefix).left, hexact⟩
    · exact Or.inl h

theorem foldl_longerMatch_some {table : List (GoString × Duration)}
    (h : table.foldl (longerMatch p) best = some found) :
    best = some found ∨ (found ∈ table ∧ MatchesRow p found) := by
  induction table generalizing best with
  | nil => exact Or.inl h
  | cons entry table ih =>
    rw [List.foldl_cons] at h
    rcases ih h with hbest | ⟨hmem, hrow⟩
    · rcases longerMatch_some hbest with hbefore | ⟨hfound, hrow⟩
      · exact Or.inl hbefore
      rw [hfound]
      exact Or.inr ⟨List.mem_cons_self, hrow⟩
    · exact Or.inr ⟨List.mem_cons_of_mem entry hmem, hrow⟩

def NoLiveSegment (p : GoString) : Prop :=
  ((split p 47).any fun part => liveSegments.contains part) = false

variable {method : GoString} {ttl : Duration}

theorem cacheable_some (h : cacheable method path = some ttl) :
    method = str "GET" ∧ NoLiveSegment (toLower path) ∧
      exists entry, entry ∈ ttlByPrefix ∧ MatchesRow (toLower path) entry := by
  have hmethod := cacheable_method h
  unfold cacheable at h
  rw [if_neg (by simpa using hmethod)] at h
  simp only at h
  split at h
  · cases h
  rename_i hlive
  rcases Option.map_eq_some_iff.mp h with ⟨entry, hentry, _⟩
  rcases foldl_longerMatch_some hentry with hnone | ⟨hmem, hrow⟩
  · cases hnone
  · exact ⟨hmethod, Bool.eq_false_iff.mpr hlive, entry, hmem, hrow⟩

/-!
## Texts that no cacheable path has
-/

/-- The prefixes of other routes, none of which agrees with a row of the table. -/
def foreignPrefixes : List GoString :=
  [str "/status/sessions", str "/library/parts/", str "/video/:/transcode/",
    str "/music/:/transcode/"]

variable {foreign : GoString}

theorem row_not_foreign (hentry : entry ∈ ttlByPrefix) (hforeign : foreign ∈ foreignPrefixes)
    (hrow : entry.1 <+: p) : ¬ foreign <+: p := by
  have hapart : forall e, e ∈ ttlByPrefix -> forall f, f ∈ foreignPrefixes ->
      ¬ e.1 <+: f ∧ ¬ f <+: e.1 := by
    decide
  intro h
  rcases List.prefix_or_prefix_of_prefix hrow h with hshort | hlong
  · exact (hapart entry hentry foreign hforeign).left hshort
  · exact (hapart entry hentry foreign hforeign).right hlong

theorem hasPrefix_foreign (hentry : entry ∈ ttlByPrefix) (hforeign : foreign ∈ foreignPrefixes)
    (hrow : MatchesRow p entry) : hasPrefix p foreign = false := by
  rw [Bool.eq_false_iff, ne_eq, hasPrefix_eq_true]
  exact row_not_foreign hentry hforeign (hasPrefix_eq_true.mp hrow.left)

theorem isSessionsDeny_row (hentry : entry ∈ ttlByPrefix) (hrow : MatchesRow p entry) :
    isSessionsDeny p = false := by
  have hlower : forall e, e ∈ ttlByPrefix ->
      (e.1.all fun b => decide (b < 0x80 ∧ ¬ (65 ≤ b ∧ b ≤ 90))) = true := by
    decide
  rcases hasPrefix_eq_true.mp hrow.left with ⟨rest, hrest⟩
  have hlowered : entry.1 <+: toLower p := by
    rw [← hrest, toLower_lower_append rest (hlower entry hentry)]
    exact List.prefix_append _ _
  unfold isSessionsDeny
  rw [Bool.eq_false_iff, ne_eq, hasPrefix_eq_true]
  exact row_not_foreign hentry (by decide) hlowered

theorem colon_segment (a rest : GoString) :
    ¬ NoLiveSegment (a ++ 47 :: (str ":" ++ 47 :: rest)) := by
  have hsplit : split (a ++ 47 :: (str ":" ++ 47 :: rest)) 47 =
      split a 47 ++ (split (str ":") 47 ++ split rest 47) := by
    unfold split
    rw [List.splitOn_append_cons_self, List.splitOn_append_cons_self]
  unfold NoLiveSegment
  rw [hsplit, Bool.not_eq_false, List.any_eq_true]
  refine ⟨str ":", ?_, by decide⟩
  exact List.mem_append_right _ (List.mem_append_left _ (by decide))

theorem trimSuffix_cases (p b : GoString) :
    trimSuffix p b = p ∨ p = trimSuffix p b ++ b := by
  by_cases h : hasSuffix p b = true
  · right
    have hsuffix : b <:+ p := by simpa [hasSuffix] using h
    rcases hsuffix with ⟨a, ha⟩
    rw [← ha, trimSuffix_append_self]
  left
  unfold trimSuffix
  rw [if_neg h]

theorem isStateWrite_of_noLiveSegment (h : NoLiveSegment (toLower path)) :
    isStateWrite path = isSessionStop (toLower path) := by
  have hends : forall ending, ending ∈ [str "/:/timeline", str "/:/progress",
      str "/:/scrobble", str "/:/unscrobble"] ->
      exists name, ending = 47 :: (str ":" ++ 47 :: name) := by
    intro ending hending
    simp only [List.mem_cons, List.not_mem_nil, or_false] at hending
    rcases hending with rfl | rfl | rfl | rfl
    · exact ⟨str "timeline", rfl⟩
    · exact ⟨str "progress", rfl⟩
    · exact ⟨str "scrobble", rfl⟩
    · exact ⟨str "unscrobble", rfl⟩
  have hnone : ([str "/:/timeline", str "/:/progress", str "/:/scrobble",
      str "/:/unscrobble"].any
      fun ending => hasSuffix (trimSuffix (toLower path) (str "/")) ending) = false := by
    rw [List.any_eq_false]
    intro ending hending hsuffix
    rcases hends ending hending with ⟨name, rfl⟩
    rcases (by simpa [hasSuffix] using hsuffix :
      47 :: (str ":" ++ 47 :: name) <:+ trimSuffix (toLower path) (str "/")) with ⟨a, ha⟩
    rcases trimSuffix_cases (toLower path) (str "/") with hsame | hcut
    · rw [hsame] at ha
      rw [← ha] at h
      exact colon_segment a name h
    rw [← ha, List.append_assoc] at hcut
    rw [hcut] at h
    exact colon_segment a (name ++ str "/") h
  unfold isStateWrite
  simp only [hnone, Bool.false_or]

/-!
## Where the two decisions collide
-/

/-- A route whose requests must not be stored or answered from the store. -/
def LiveRoute (path : GoString) : Prop :=
  classify path = .mediaRedirect ∨
    classify path = .denyUnknownMedia ∨
    isDecision path = true ∨ isStateWrite path = true

/-- The texts that a path under a row of the table must not have: no negotiation and no
stop, and unless it names a play queue no manifest, no segment, and apart from the other
session verbs no transcode namespace and no media extension. -/
structure SeparateRoute (p : GoString) : Prop where
  decision : isDecisionOrControl p = false
  stop : isSessionStop p = false
  media : isPlayQueue p = true ∨
    (isManifestLower p = false ∧ isSegmentLower p = false ∧ (isSessionControl p = true ∨
        (contains p (str "/transcode/") = false ∧ isMediaExtension p = false)))

theorem inTranscodeNamespace_row (hentry : entry ∈ ttlByPrefix) (hrow : MatchesRow p entry) :
    inTranscodeNamespace p = contains p (str "/transcode/") := by
  unfold inTranscodeNamespace
  rw [hasPrefix_foreign hentry (by decide) hrow, hasPrefix_foreign hentry (by decide) hrow]
  rfl

theorem classify_row (hentry : entry ∈ ttlByPrefix) (hrow : MatchesRow (toLower path) entry) :
    classify path = if isPlayQueue (toLower path) then .playQueueObserve
      else if isDecisionOrControl (toLower path) then .control
      else if isManifestLower (toLower path) then .mediaRedirect
      else if isSegmentLower (toLower path) then .mediaRedirect
      else if isSessionControl (toLower path) then .control
      else if contains (toLower path) (str "/transcode/") then
        .denyUnknownMedia else if isMediaExtension (toLower path) then .mediaRedirect
      else .control := by
  unfold classify
  simp only [isSessionsDeny_row hentry hrow, hasPrefix_foreign hentry
    (show str "/library/parts/" ∈ foreignPrefixes by decide) hrow,
    inTranscodeNamespace_row hentry hrow, Bool.false_eq_true, if_false]

theorem classify_row_media (hentry : entry ∈ ttlByPrefix) (hrow : MatchesRow (toLower path) entry)
    (hdecision : isDecisionOrControl (toLower path) = false) :
    (classify path ≠ .mediaRedirect ∧ classify path ≠ .denyUnknownMedia) <->
      (isPlayQueue (toLower path) = true ∨
        (isManifestLower (toLower path) = false ∧ isSegmentLower (toLower path) = false ∧
          (isSessionControl (toLower path) = true ∨
            (contains (toLower path) (str "/transcode/") = false ∧
              isMediaExtension (toLower path) = false)))) := by
  rw [classify_row hentry hrow, hdecision]
  cases isPlayQueue (toLower path) with
  | true =>
    simp
  | false =>
    cases isManifestLower (toLower path) with
    | true =>
      simp
    | false =>
      cases isSegmentLower (toLower path) with
      | true =>
        simp
      | false =>
        cases isSessionControl (toLower path) with
        | true =>
          simp
        | false =>
          cases contains (toLower path) (str "/transcode/") with
          | true =>
            simp
          | false =>
            cases isMediaExtension (toLower path) with
            | true | false =>
              simp

theorem not_liveRoute_iff (h : cacheable method path = some ttl) :
    ¬ LiveRoute path <-> SeparateRoute (toLower path) := by
  rcases cacheable_some h with ⟨_, hsegments, entry, hentry, hrow⟩
  have hwrite := isStateWrite_of_noLiveSegment hsegments
  constructor
  · intro hlive
    have hdecision : isDecisionOrControl (toLower path) = false := by
      rw [Bool.eq_false_iff]
      intro hcase
      exact hlive (Or.inr (Or.inr (Or.inl hcase)))
    constructor
    · exact hdecision
    · rw [Bool.eq_false_iff]
      intro hcase
      exact hlive (Or.inr (Or.inr (Or.inr (hwrite.trans hcase))))
    apply (classify_row_media hentry hrow hdecision).mp
    constructor
    · intro hcase
      exact hlive (Or.inl hcase)
    intro hcase
    exact hlive (Or.inr (Or.inl hcase))
  intro hseparate hlive
  have hmedia := (classify_row_media hentry hrow hseparate.decision).mpr hseparate.media
  rcases hlive with hcase | hcase | hcase | hcase
  · exact hmedia.left hcase
  · exact hmedia.right hcase
  · rw [isDecision, hseparate.decision] at hcase
    cases hcase
  rw [hwrite, hseparate.stop] at hcase
  cases hcase

/-!
## Requests at the store
-/

/-- The points at which a request is answered from the response store or kept for it. -/
def atStore : Phase -> Bool
  | .lookupLease _ _ => true
  | .lookupGet _ _ _ => true
  | .lookupFlag _ _ _ _ => true
  | .lookupGeneration _ _ _ _ _ => true
  | .copying _ _ => true
  | .copied _ _ _ => true
  | .publishing _ _ _ => true
  | .storing _ _ _ => true
  | .granting _ _ => true
  | _ => false

variable {s : State} {t : Thread}

theorem keyed_of_atStore {A : Assumptions}
    (h : PhaseOK A s t t.phase) (hstore : atStore t.phase = true) :
    exists k, t.keyed = some k := by
  cases hphase : t.phase with
  | lookupLease attempt k =>
    rw [hphase] at h
    exact ⟨k, h⟩
  | lookupGet attempt k leasedAt =>
    rw [hphase] at h
    exact ⟨k, h.left⟩
  | lookupFlag attempt k leasedAt entry =>
    rw [hphase] at h
    exact ⟨k, h.left⟩
  | lookupGeneration attempt k leasedAt entry flagAt =>
    rw [hphase] at h
    exact ⟨k, h.left⟩
  | copying sentAt k =>
    rw [hphase] at h
    exact ⟨k, h.keyed⟩
  | copied sentAt k body =>
    rw [hphase] at h
    exact ⟨k, h.keyed⟩
  | publishing sentAt k body =>
    rw [hphase] at h
    exact ⟨k, h.keyed⟩
  | storing sentAt k body =>
    rw [hphase] at h
    exact ⟨k, h.keyed⟩
  | granting sentAt k =>
    rw [hphase] at h
    exact ⟨k, h.keyed⟩
  | _ =>
    rw [hphase] at hstore
    cases hstore

theorem cacheable_of_requestCacheable (h : (requestCacheable r).isSome = true) :
    exists ttl, cacheable r.method r.path = some ttl := by
  unfold requestCacheable at h
  cases hroute : cacheable r.method r.path with
  | none =>
    rw [hroute] at h
    cases h
  | some ttl => exact ⟨ttl, rfl⟩

theorem cacheable_of_run {cfg : Config} {generations : GenerationTable} {now : Instant}
    {actions : List Action}
    (hrun : run (step cfg) (State.start generations now) actions = some s) {i : Nat}
    (ht : s.threads.lookup i = some t) (hstore : atStore t.phase = true) :
    exists ttl, cacheable t.original.method t.original.path = some ttl := by
  have hrespects : forall s a, Respects noAssumptions cfg s a := by
    intro s a
    exact ⟨False.elim, False.elim, False.elim, False.elim, False.elim⟩
  have hsound := sound_run (along_of_forall hrespects _ actions) hrun
  have hthread := hsound.parties.threads i t ht
  rcases keyed_of_atStore hthread.phase hstore with ⟨k, hk⟩
  apply cacheable_of_requestCacheable
  apply hthread.cacheable
  exact List.ne_nil_of_mem (hthread.keyed k hk).read

theorem forwardMedia_cacheServed {original : Net.Request}
    (hserved : forwardMedia h original r = .cacheServed) :
    (requestCacheable original).isSome = true := by
  unfold forwardMedia at hserved
  split at hserved
  · cases hserved
  split at hserved
  · rename_i hcache
    exact (Bool.and_eq_true_iff.mp hcache).left
  · cases hserved

theorem serveControlTail_cacheServed (hserved : serveControlTail h r = .cacheServed) :
    (requestCacheable r).isSome = true := by
  unfold serveControlTail at hserved
  split at hserved
  · cases hserved
  split at hserved
  · rename_i hcache
    exact (Bool.and_eq_true_iff.mp hcache).left
  · cases hserved

theorem serveControl_cacheServed (hserved : serveControl h r = .cacheServed) :
    (requestCacheable r).isSome = true := by
  unfold serveControl at hserved
  split at hserved
  · cases hserved
  split at hserved
  · exact serveControlTail_cacheServed hserved
  split at hserved
  · split at hserved
    · cases hserved
    · cases hserved
    · exact serveControlTail_cacheServed hserved
  · exact serveControlTail_cacheServed hserved

theorem serveDirectMedia_cacheServed (hserved : (serveDirectMedia h r).outcome = .cacheServed) :
    (requestCacheable r).isSome = true := by
  unfold serveDirectMedia at hserved
  simp only at hserved
  split at hserved
  · exact forwardMedia_cacheServed hserved
  split at hserved
  · split at hserved
    · cases hserved
    split at hserved
    · exact forwardMedia_cacheServed hserved
    · exact forwardMedia_cacheServed hserved
  · exact forwardMedia_cacheServed hserved

theorem serveTunnelMedia_not_cacheServed (h : Handler) (r : Net.Request) :
    (serveTunnelMedia h r).outcome ≠ .cacheServed := by
  unfold serveTunnelMedia tunnelOutcome
  simp only
  split
  · intro hserved
    cases hserved
  split
  · intro hserved
    cases hserved
  intro hserved
  cases hserved

theorem serveHTTP_cacheServed (hserved : (serveHTTP h r).outcome = .cacheServed) :
    (requestCacheable r).isSome = true := by
  unfold serveHTTP at hserved
  split at hserved
  · cases hserved
  split at hserved
  · cases hserved
  · split at hserved
    · cases hserved
    · exact serveControl_cacheServed hserved
  · split at hserved
    · exact absurd hserved (serveTunnelMedia_not_cacheServed h r)
    · exact serveDirectMedia_cacheServed hserved
  · exact serveControl_cacheServed hserved
  · exact serveControl_cacheServed hserved

/-!
## The store and the live routes
-/

/-- The store stays off the live routes on a path: the table does not admit it there,
the dispatch does not answer it from the store, and in no run does a request for it
reach the store. -/
structure OffLiveRoutes (path : GoString) : Prop where
  table : forall method ttl, cacheable method path = some ttl -> ¬ LiveRoute path
  answered : forall h r, r.path = path ->
    (serveHTTP h r).outcome = .cacheServed -> ¬ LiveRoute path
  reached : forall cfg generations now actions s i t,
    run (step cfg) (State.start generations now) actions = some s ->
    s.threads.lookup i = some t -> atStore t.phase = true -> t.original.path = path ->
      ¬ LiveRoute path

/-- The store stays off the live routes exactly on the paths that the table does not
admit or that have none of the colliding texts. -/
theorem off_live_routes_iff (path : GoString) :
    OffLiveRoutes path <->
      (cacheable (str "GET") path = none ∨ SeparateRoute (toLower path)) := by
  constructor
  · intro h
    cases hcacheable : cacheable (str "GET") path with
    | none => exact Or.inl rfl
    | some ttl => exact Or.inr ((not_liveRoute_iff hcacheable).mp (h.table _ ttl hcacheable))
  intro h
  have htable : forall method ttl, cacheable method path = some ttl ->
      ¬ LiveRoute path := by
    intro method ttl hcacheable
    rcases h with hnone | hseparate
    · have hmethod := cacheable_method hcacheable
      rw [hmethod, hnone] at hcacheable
      cases hcacheable
    · exact (not_liveRoute_iff hcacheable).mpr hseparate
  constructor
  · exact htable
  · intro handler r hpath hserved
    rcases cacheable_of_requestCacheable (serveHTTP_cacheServed hserved) with
      ⟨ttl, hcacheable⟩
    rw [hpath] at hcacheable
    exact htable _ ttl hcacheable
  intro cfg generations now actions s i t hrun ht hstore hpath
  rcases cacheable_of_run hrun ht hstore with ⟨ttl, hcacheable⟩
  rw [hpath] at hcacheable
  exact htable _ ttl hcacheable

def fullStore : Handler where
  mode := .direct
  spike := none
  partPolicy := none
  mediaFallback := none
  playback := none
  serveArtwork := fun _ => false
  serveCache := fun _ => true

theorem fullStore_media (hhost : r.host = [])
    (hpath : hasPrefix r.path (str "//") = false)
    (hmedia : classify r.path = .mediaRedirect) (hplain : (isWebSocket r || isSSE r) = false)
    (hcacheable : (requestCacheable r).isSome = true) :
    (serveHTTP fullStore r).outcome = .cacheServed := by
  unfold serveHTTP
  rw [if_neg (by simp [hhost, hpath]), hmedia]
  change forwardMedia fullStore r r = .cacheServed
  unfold forwardMedia
  rw [hplain, hcacheable]
  rfl

/-- A media file, an unknown transcode path, a negotiation and a stop below a metadata
path are all admitted to the store, and the file is answered from it. -/
theorem live_routes_cached :
    (forall path, path ∈ [str "/library/metadata/1/file.mkv",
        str "/library/metadata/1/transcode/x",
        str "/library/metadata/1/transcode/universal/decision",
        str "/library/metadata/1/transcode/stop"] ->
      (cacheable (str "GET") path).isSome = true ∧ ¬ OffLiveRoutes path) ∧
    classify (str "/library/metadata/1/file.mkv") = .mediaRedirect ∧
    classify (str "/library/metadata/1/transcode/x") = .denyUnknownMedia ∧
    isDecision (str "/library/metadata/1/transcode/universal/decision") = true ∧
    isStateWrite (str "/library/metadata/1/transcode/stop") = true ∧
    (serveHTTP fullStore
      (Request.bareGet (str "/library/metadata/1/file.mkv") [] Header.empty)).outcome =
        .cacheServed := by
  have hmedia : classify (str "/library/metadata/1/file.mkv") =
      .mediaRedirect := by
    decide +kernel
  have hunknown : classify (str "/library/metadata/1/transcode/x") =
      .denyUnknownMedia := by
    decide +kernel
  have hdecision : isDecision (str "/library/metadata/1/transcode/universal/decision") =
      true := by
    decide +kernel
  have hstop : isStateWrite (str "/library/metadata/1/transcode/stop") = true := by
    decide +kernel
  refine ⟨?_, hmedia, hunknown, hdecision, hstop,
    fullStore_media rfl (by decide) hmedia (by decide +kernel) (by decide +kernel)⟩
  intro path hpath
  have hcacheable : cacheable (str "GET") path = some (5 * minute) := by
    revert path
    decide +kernel
  have hlive : LiveRoute path := by
    simp only [List.mem_cons, List.not_mem_nil, or_false] at hpath
    rcases hpath with rfl | rfl | rfl | rfl
    · exact Or.inl hmedia
    · exact Or.inr (Or.inl hunknown)
    · exact Or.inr (Or.inr (Or.inl hdecision))
    · exact Or.inr (Or.inr (Or.inr hstop))
  constructor
  · rw [hcacheable]
    rfl
  intro h
  exact h.table _ _ hcacheable hlive

end ReplxEdge.Serving
