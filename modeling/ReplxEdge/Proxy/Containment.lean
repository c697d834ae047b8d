import ReplxEdge.Net.Reparse
import ReplxEdge.Playback.Targets
import ReplxEdge.Proxy.SingleCredential

/-!
# Where a client request is sent

The handler copies the configured origin, puts the joined path and the client's query into
the copy, writes it out and lets the parser read the text again. The scheme, the host and the
decoded path come back. The query is written as it came, so a number sign in it ends it.
-/

namespace ReplxEdge.Proxy

open Foundation
open Net
open Gateway
open Spike
open Playback (OriginBase)

variable {h : Handler} {r : Request}

/-!
## Targets
-/

/-- The target that `proxy`, `serveArtwork` and `streamSSE` write for a request. -/
def target (base : OriginBase) (r : Request) : Link where
  url := { base.url with
    path := singleJoin base.url.path r.path
    rawPath := []
    rawQuery := r.rawQuery }
  omitHost := omitsHost base.text
  fragment := after base.text 35

/-- The URL that the request goes to; `none` when the text does not parse or names no
host. -/
def originURL (base : OriginBase) (r : Request) : Option URL :=
  sendTarget (target base r).text

def requestURI (u : URL) : GoString :=
  let path := escapedPath u.path u.rawPath
  (if u.rootless = [] then (if path = [] then str "/" else path)
    else if hasPrefix u.rootless (str "//") then u.scheme ++ 58 :: u.rootless
    else u.rootless) ++
    if u.forceQuery = true ∨ u.rawQuery ≠ [] then 63 :: u.rawQuery else []

/-- The origin's scheme, host and port, its path in front of the path that was classified,
and the client's query. An empty port is no port. -/
structure Contained (base : OriginBase) (r : Request) (u : URL) : Prop where
  scheme : u.scheme = base.url.scheme
  host : u.host = trimSuffix base.url.host (str ":")
  path : u.path = singleJoin base.url.path r.path
  query : u.rawQuery = r.rawQuery
  decoded : pathUnescape (before (requestURI u) 63) = some (singleJoin base.url.path r.path)

/-!
## Requests that are passed on
-/

def substituted (h : Handler) (r : Request) : Request :=
  if classify r.path = .mediaRedirect ∧ h.mode = .direct ∧
      (partIDFromPath r.path ≠ [] ∨ isManifest r.path = true) then
    match boundaryPolicy h with
    | none => r
    | some policy =>
      if (verdictOn policy r).substitute = [] then r
      else substitutePartRequest r (verdictOn policy r).substitute
  else r

/-- The requests that the origin is asked for a client request: the one that reaches
`proxy`, which direct mode may have aimed at a substitute, an event stream, and an artwork
request. -/
inductive Reaches (h : Handler) (r : Request) : Request -> Prop where
  | proxied {sent : Request} (hproxied : (serveHTTP h r).outcome = .proxied sent) :
      Reaches h r sent
  | events {sent : Request} (hstreamed : (serveHTTP h r).outcome = .streamed sent)
      (hevents : isWebSocket sent = false) : Reaches h r sent
  | artwork (hhost : r.host = []) (hslashes : hasPrefix r.path (str "//") = false)
      (hcontrol : classify r.path ≠ .mediaRedirect)
      (hmatch : artworkMatch r.path = true) : Reaches h r r

def Outcome.sent : Outcome -> Option Request
  | .proxied r => some r
  | .streamed r => some r
  | _ => none

variable {sent : Request}

theorem forwardMedia_sent {original : Request}
    (hsent : (forwardMedia h original r).sent = some sent) : sent = r := by
  unfold forwardMedia at hsent
  split at hsent
  · exact (Option.some.inj hsent).symm
  split at hsent
  · cases hsent
  · exact (Option.some.inj hsent).symm

theorem serveControlTail_sent (hsent : (serveControlTail h r).sent = some sent) : sent = r := by
  unfold serveControlTail at hsent
  split at hsent
  · cases hsent
  split at hsent
  · cases hsent
  · exact (Option.some.inj hsent).symm

theorem serveControl_sent (hsent : (serveControl h r).sent = some sent) : sent = r := by
  unfold serveControl at hsent
  split at hsent
  · exact (Option.some.inj hsent).symm
  split at hsent
  · exact serveControlTail_sent hsent
  split at hsent
  · split at hsent
    · cases hsent
    · cases hsent
    · exact serveControlTail_sent hsent
  · exact serveControlTail_sent hsent

theorem serveTunnelMedia_sent (h : Handler) (r : Request) :
    (serveTunnelMedia h r).outcome.sent = none := by
  unfold serveTunnelMedia tunnelOutcome
  simp only
  split
  · rfl
  split
  · rfl
  · rfl

theorem serveDirectMedia_sent (hclass : classify r.path = .mediaRedirect) (hmode : h.mode = .direct)
    (hsent : (serveDirectMedia h r).outcome.sent = some sent) : sent = substituted h r := by
  unfold serveDirectMedia at hsent
  unfold substituted
  cases hpolicy : boundaryPolicy h with
  | none =>
    rw [hpolicy] at hsent
    rw [forwardMedia_sent hsent]
    split
    all_goals rfl
  | some policy =>
    rw [hpolicy] at hsent
    simp only at hsent ⊢
    split at hsent
    · rename_i hasks
      rw [if_pos ⟨hclass, hmode, hasks⟩]
      split at hsent
      · cases hsent
      split at hsent
      · rename_i hsubstitute
        change (verdictOn policy r).substitute ≠ [] at hsubstitute
        rw [if_neg hsubstitute]
        exact forwardMedia_sent hsent
      rename_i hsubstitute
      change ¬ (verdictOn policy r).substitute ≠ [] at hsubstitute
      rw [if_pos (not_not.mp hsubstitute)]
      exact forwardMedia_sent hsent
    rename_i hasks
    rw [if_neg fun hall => hasks hall.right.right]
    exact forwardMedia_sent hsent

theorem substituted_control (hclass : classify r.path ≠ .mediaRedirect) : substituted h r = r := by
  unfold substituted
  rw [if_neg fun hall => hclass hall.left]

theorem serveHTTP_sent
    (hsent : (serveHTTP h r).outcome.sent = some sent) : sent = substituted h r := by
  unfold serveHTTP at hsent
  split at hsent
  · cases hsent
  cases hclass : classify r.path with
  | denySessions =>
    rw [hclass] at hsent
    cases hsent
  | denyUnknownMedia =>
    rw [substituted_control (by rw [hclass]; decide)]
    rw [hclass] at hsent
    cases hmode : h.mode with
    | cloudflareTunnel =>
      simp only [hmode] at hsent
      cases hsent
    | direct =>
      simp only [hmode] at hsent
      exact serveControl_sent hsent
  | mediaRedirect =>
    rw [hclass] at hsent
    cases hmode : h.mode with
    | cloudflareTunnel =>
      simp only [hmode] at hsent
      rw [serveTunnelMedia_sent] at hsent
      cases hsent
    | direct =>
      simp only [hmode] at hsent
      exact serveDirectMedia_sent hclass hmode hsent
  | playQueueObserve | control =>
    rw [substituted_control (by rw [hclass]; decide)]
    rw [hclass] at hsent
    exact serveControl_sent hsent

theorem Reaches.sent_eq (hreach : Reaches h r sent) :
    sent = substituted h r := by
  cases hreach with
  | proxied hproxied =>
    apply serveHTTP_sent
    rw [hproxied]
    rfl
  | events hstreamed _ =>
    apply serveHTTP_sent
    rw [hstreamed]
    rfl
  | artwork _ _ hcontrol _ => exact (substituted_control hcontrol).symm

/-!
## The text of a target
-/

theorem origin_path_head (base : OriginBase) :
    base.url.path = [] ∨ base.url.path.head? = some 47 := by
  have hpath := (parseTail_some base.parseTail_eq).right.right.left
  rcases head_pathText base.tail with hnil | hhead
  · rw [hnil] at hpath
    exact Or.inl (Option.some.inj hpath).symm
  right
  cases htext : pathText base.tail with
  | nil =>
    rw [htext] at hhead
    cases hhead
  | cons b rest =>
    rw [htext] at hhead hpath
    cases hhead
    rw [pathUnescape_plain (by decide)] at hpath
    rcases Option.map_eq_some_iff.mp hpath with ⟨decoded, _, hdecoded⟩
    rw [← hdecoded]
    rfl

variable {a : GoString}

theorem singleJoin_head (ha : a = [] ∨ a.head? = some 47) (b : GoString) :
    (singleJoin a b).head? = some 47 := by
  unfold singleJoin
  rcases ha with rfl | hhead
  · rfl
  cases a with
  | nil => cases hhead
  | cons c rest =>
    cases hhead
    by_cases hrest : rest = []
    · have htrim : trimSuffix [47] (str "/") = [] := by decide
      rw [hrest, htrim]
      rfl
    have htrim : trimSuffix (47 :: rest) (str "/") = 47 :: trimSuffix rest (str "/") :=
      trimSuffix_append [47] hrest 47
    rw [htrim]
    rfl

theorem singleJoin_inj {b c : GoString} :
    singleJoin a b = singleJoin a c <-> trimPrefix b (str "/") = trimPrefix c (str "/") := by
  unfold singleJoin
  rw [List.append_cancel_left_eq, List.cons.injEq, and_iff_right rfl]

theorem target_absolute (base : OriginBase) (r : Request) : (target base r).Absolute where
  scheme := by
    change ValidScheme base.url.scheme
    rcases base.http with h | h
    · rw [h]
      exact validScheme_of_all (by decide)
    rw [h]
    exact validScheme_of_all (by decide)
  lower := by
    change toLower base.url.scheme = base.url.scheme
    rcases base.http with h | h
    · rw [h]
      decide
    rw [h]
    decide
  host := parsedHost_of_parseAuthority (parseTail_some base.parseTail_eq).left
  host_ne := base.host_ne
  rootless := show base.url.rootless = [] from parseTail_rootless base.parseTail_eq
  rooted := Or.inr (escapedPath_head (singleJoin_head (origin_path_head base) r.path)
    (Or.inl rfl))

/-!
## What the origin gets
-/

variable {u : URL}

section Sent

variable {base : OriginBase} {r : Request}

theorem sendTarget_eq (text : GoString) (u : URL) :
    sendTarget text = some u <-> exists parsed, parseURL text = some parsed ∧
      (parsed.scheme = str "http" ∨ parsed.scheme = str "https") ∧
      trimSuffix parsed.host (str ":") ≠ [] ∧
      u = { parsed with host := trimSuffix parsed.host (str ":") } := by
  unfold sendTarget
  cases hparse : parseURL text with
  | none =>
    constructor
    · intro h
      cases h
    intro h
    rcases h with ⟨parsed, hnone, _⟩
    cases hnone
  | some parsed =>
    simp only
    constructor
    · intro h
      split at h
      · rename_i hgood
        cases h
        exact ⟨parsed, rfl, hgood.left, hgood.right, rfl⟩
      · cases h
    intro h
    rcases h with ⟨other, hother, hscheme, hhost, rfl⟩
    cases hother
    rw [if_pos ⟨hscheme, hhost⟩]

theorem originURL_some (h : originURL base r = some u) :
    u.scheme = base.url.scheme ∧ u.host = trimSuffix base.url.host (str ":") ∧
      u.rootless = [] ∧ u.path = singleJoin base.url.path r.path ∧
      u.rawQuery = before r.rawQuery 35 := by
  rcases (sendTarget_eq _ _).mp h with ⟨parsed, hparse, _, _, rfl⟩
  have hread := (target_absolute base r).readBack hparse
  exact ⟨hread.scheme, congrArg (fun host => trimSuffix host (str ":")) hread.host,
    hread.rootless, hread.path, hread.query⟩

structure Sends (base : OriginBase) (r : Request) : Prop where
  zone : AsciiZone base.url.host
  host : trimSuffix base.url.host (str ":") ≠ []
  query : ReadableQuery r.rawQuery

theorem originURL_isSome : (originURL base r).isSome = true <-> Sends base r := by
  have hsome := (target_absolute base r).isSome_parse
  constructor
  · intro h
    rcases Option.isSome_iff_exists.mp h with ⟨u, hu⟩
    rcases (sendTarget_eq _ _).mp hu with ⟨parsed, hparse, _, hhost, _⟩
    have hread := (target_absolute base r).readBack hparse
    rw [hread.host] at hhost
    rw [hparse] at hsome
    exact ⟨(hsome.mp rfl).left, hhost, (hsome.mp rfl).right⟩
  intro h
  rcases Option.isSome_iff_exists.mp (hsome.mpr ⟨h.zone, h.query⟩) with ⟨parsed, hparse⟩
  have hread := (target_absolute base r).readBack hparse
  rw [Option.isSome_iff_exists]
  refine ⟨_, (sendTarget_eq _ _).mpr ⟨parsed, hparse, ?_, ?_, rfl⟩⟩
  · rw [hread.scheme]
    exact base.http
  rw [hread.host]
  exact h.host

theorem originRequest_sends (hzone : AsciiZone base.url.host)
    (hhost : trimSuffix base.url.host (str ":") ≠ []) (id : GoString) (peer : Peer)
    (isCacheable : Bool) :
    (originRequest ⟨base.url.scheme, base.url.host, base.url.path⟩ id peer isCacheable r).map
        (fun out => (out.path, out.rawQuery)) =
      (originURL base r).map fun u => (u.path, u.rawQuery) := by
  by_cases hquery : ReadableQuery r.rawQuery
  · rcases Option.isSome_iff_exists.mp (originURL_isSome.mpr ⟨hzone, hhost, hquery⟩) with
      ⟨u, hu⟩
    rcases originURL_some hu with ⟨_, _, _, hpath, hraw⟩
    have hreparsed : reparsedQuery r.rawQuery = some (before r.rawQuery 35) := by
      unfold reparsedQuery
      rw [if_neg (by rw [hquery.left]; decide), if_pos hquery.right]
    rw [originRequest, hreparsed, hu]
    simp only [Option.map_some, hpath, hraw]
  have hnone : originURL base r = none := by
    cases hu : originURL base r with
    | none => rfl
    | some u => exact absurd (originURL_isSome.mp (by rw [hu]; rfl)).query hquery
  have hreparsed : reparsedQuery r.rawQuery = none := by
    unfold reparsedQuery
    split
    · rfl
    rename_i hcontrols
    rw [if_neg]
    intro hvalid
    exact hquery ⟨Bool.eq_false_iff.mpr hcontrols, hvalid⟩
  rw [originRequest, hreparsed, hnone]
  rfl

end Sent

theorem decoded_requestURI (hroot : u.rootless = []) (hpath : u.path ≠ []) :
    pathUnescape (before (requestURI u) 63) = some u.path := by
  have hencoded := pathUnescape_escapedPath u.path u.rawPath
  have hne : escapedPath u.path u.rawPath ≠ [] := by
    intro hnil
    rw [hnil] at hencoded
    exact hpath (Option.some.inj hencoded).symm
  have hmark := (not_mem_of_validEncodedPath
    (validEncodedPath_escapedPath u.path u.rawPath)).left
  unfold requestURI
  simp only
  rw [if_pos hroot, if_neg hne, before_append hmark]
  split
  · rw [before_cons_self, List.append_nil, hencoded]
  · rw [before_of_not_mem List.not_mem_nil, List.append_nil, hencoded]

/-- The boundary left the path and the query as they were, and no number sign cuts the
query. -/
structure Unchanged (h : Handler) (r : Request) : Prop where
  path : trimPrefix (substituted h r).path (str "/") = trimPrefix r.path (str "/")
  query : before (substituted h r).rawQuery 35 = r.rawQuery

theorem unchanged_iff (hsame : substituted h r = r) :
    Unchanged h r <-> 35 ∉ r.rawQuery := by
  constructor
  · intro hunchanged
    have hquery := hunchanged.query
    rw [hsame] at hquery
    rw [← hquery]
    exact not_mem_before r.rawQuery 35
  intro hnumber
  refine ⟨by rw [hsame], ?_⟩
  rw [hsame]
  exact before_of_not_mem hnumber

/-- A request that gets as far as the origin goes to the configured origin, under the path
that was classified, and with the client's query, exactly when neither the boundary nor a
number sign changed it. -/
theorem origin_containment_iff (base : OriginBase) (h : Handler) (r sent : Request)
    (hreach : Reaches h r sent) :
    ((originURL base sent).isSome = true <-> Sends base (substituted h r)) ∧
      forall u, originURL base sent = some u -> (Contained base r u <-> Unchanged h r) := by
  have hsent := hreach.sent_eq
  subst hsent
  refine ⟨originURL_isSome, ?_⟩
  intro u hu
  rcases originURL_some hu with ⟨hscheme, hhost, hroot, hpath, hquery⟩
  constructor
  · intro hcontained
    refine ⟨?_, hquery.symm.trans hcontained.query⟩
    exact singleJoin_inj.mp (hpath.symm.trans hcontained.path)
  intro hunchanged
  have hjoined := hpath.trans (singleJoin_inj.mpr hunchanged.path)
  refine ⟨hscheme, hhost, hjoined, hquery.trans hunchanged.query, ?_⟩
  rw [← hjoined]
  apply decoded_requestURI hroot
  intro hnil
  have hhead := singleJoin_head (origin_path_head base) r.path
  rw [← hjoined, hnil] at hhead
  cases hhead

theorem sections_reaches (rawQuery : GoString) :
    Reaches plainHandler (sectionsRequest rawQuery) (sectionsRequest rawQuery) :=
  .proxied rfl

theorem sections_kept (rawQuery : GoString) :
    substituted plainHandler (sectionsRequest rawQuery) = sectionsRequest rawQuery :=
  substituted_control (show classify (str "/library/sections") ≠ _ by decide +kernel)

theorem sections_sends {rawQuery : GoString} (hquery : ReadableQuery rawQuery) :
    Sends Playback.pmsBase (sectionsRequest rawQuery) :=
  ⟨fun hopen => absurd hopen (by decide), by decide, hquery⟩

theorem originRequest_sends_sections :
    (originRequest ⟨Playback.pmsBase.url.scheme, Playback.pmsBase.url.host,
        Playback.pmsBase.url.path⟩ (str "a") unknownPeer true (sectionsRequest (str "type=1"))).map
        (fun out => (out.path, out.rawQuery)) =
      (originURL Playback.pmsBase (sectionsRequest (str "type=1"))).map
        fun u => (u.path, u.rawQuery) :=
  have hsends : Sends Playback.pmsBase (sectionsRequest (str "type=1")) :=
    sections_sends ⟨by decide, by decide⟩
  originRequest_sends hsends.zone hsends.host (str "a") unknownPeer true

theorem origin_containment_sections :
    exists u, originURL Playback.pmsBase (sectionsRequest (str "type=1")) = some u ∧
      Contained Playback.pmsBase (sectionsRequest (str "type=1")) u := by
  rcases origin_containment_iff Playback.pmsBase plainHandler _ _
    (sections_reaches (str "type=1")) with ⟨hsends, hcontained⟩
  rw [sections_kept] at hsends
  have hsome := hsends.mpr (sections_sends ⟨by decide, by decide⟩)
  rcases Option.isSome_iff_exists.mp hsome with ⟨u, hu⟩
  refine ⟨u, hu, (hcontained u hu).mpr ?_⟩
  rw [unchanged_iff (sections_kept _)]
  decide

/-- A number sign ends the query on its way to the origin. -/
theorem query_cut_at_number :
    Reaches plainHandler (sectionsRequest (str "type=1#&sort=titleSort"))
        (sectionsRequest (str "type=1#&sort=titleSort")) ∧
      exists u, originURL Playback.pmsBase
          (sectionsRequest (str "type=1#&sort=titleSort")) = some u ∧
        u.rawQuery = str "type=1" ∧
        ¬ Contained Playback.pmsBase (sectionsRequest (str "type=1#&sort=titleSort")) u := by
  have hreadable : ReadableQuery (str "type=1#&sort=titleSort") :=
    ⟨by decide, by decide⟩
  have hsome := originURL_isSome.mpr (sections_sends hreadable)
  rcases Option.isSome_iff_exists.mp hsome with ⟨u, hu⟩
  have hquery : u.rawQuery = str "type=1" :=
    (originURL_some hu).right.right.right.right
  refine ⟨sections_reaches _, u, hu, hquery, ?_⟩
  intro hcontained
  have hsame := hcontained.query
  rw [hquery] at hsame
  exact absurd hsame (by decide)

end ReplxEdge.Proxy
