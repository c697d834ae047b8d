import ReplxEdge.Net.Parse
import ReplxEdge.Playback.Engine

/-!
# Where a negotiation is sent

The engine writes its targets as text: the configured origin without its final
slash, and behind it a path that a client chose. What the text means is decided
by the parser, so a byte that ends a path, or an authority, moves the request.
-/

namespace ReplxEdge.Playback

open Foundation
open Net
open Trace
open Gateway
open MediaPolicy

/-!
## The origin
-/

structure OriginBase where
  text : GoString
  url : URL
  parsed : parseURL text = some url
  http : url.scheme = str "http" ∨ url.scheme = str "https"
  host_ne : url.host ≠ []

def OriginBase.scheme (base : OriginBase) : GoString :=
  before base.text 58

def OriginBase.tail (base : OriginBase) : GoString :=
  (after base.text 58).drop 2

/-- The tail without its final slash, which is what the engine appends to. -/
def OriginBase.stem (base : OriginBase) : GoString :=
  trimSuffix base.tail (str "/")

/-- The decoded path in front of what the engine appends. -/
def OriginBase.path (base : OriginBase) : GoString :=
  (pathUnescape (pathText base.stem)).getD []

variable {base : OriginBase}

theorem OriginBase.split (base : OriginBase) :
    base.text = base.scheme ++ str "://" ++ base.tail ∧ ValidScheme base.scheme := by
  have hscheme : base.url.scheme ≠ [] := by rcases base.http with h | h <;> rw [h] <;> decide
  rcases parseURL_host base.parsed hscheme base.host_ne with ⟨scheme, tail, htext, hvalid⟩
  have hcolon : 58 ∉ scheme := by
    intro hmem
    exact (schemeByte_cases (hvalid.bytes 58 hmem)).left rfl
  have hcut : base.text = scheme ++ 58 :: (47 :: 47 :: tail) := by
    rw [htext, List.append_assoc]
    rfl
  have hbefore : base.scheme = scheme := by
    rw [OriginBase.scheme, hcut, before_append hcolon, before_cons_self, List.append_nil]
  have hafter : base.tail = tail := by
    rw [OriginBase.tail, hcut, after_append hcolon, after_cons_self]
    rfl
  rw [hbefore, hafter]
  exact ⟨htext, hvalid⟩

theorem OriginBase.parseTail_eq (base : OriginBase) :
    parseTail (toLower base.scheme) base.tail = some base.url := by
  rcases base.split with ⟨htext, hvalid⟩
  rw [← parseURL_scheme hvalid, ← htext]
  exact base.parsed

theorem OriginBase.tail_ne_nil (base : OriginBase) : base.tail ≠ [] := by
  intro hnil
  have hparse := (parseTail_some base.parseTail_eq).left
  rw [hnil] at hparse
  have hhost : (none, []) = (base.url.user, base.url.host) := Option.some.inj hparse
  exact base.host_ne (congrArg Prod.snd hhost).symm

theorem OriginBase.tail_cases (base : OriginBase) :
    base.tail = base.stem ∨ base.tail = base.stem ++ [47] := by
  have hlast := List.dropLast_append_getLast base.tail_ne_nil
  have htrim := trimSuffix_concat base.tail.dropLast (base.tail.getLast base.tail_ne_nil) 47
  rw [hlast] at htrim
  change base.stem = _ at htrim
  split at htrim
  · rename_i hslash
    right
    rw [htrim, ← hslash]
    exact hlast.symm
  left
  rw [htrim]

theorem OriginBase.trimmed (base : OriginBase) :
    trimSuffix base.text (str "/") = base.scheme ++ str "://" ++ base.stem := by
  conv_lhs => rw [base.split.left]
  exact trimSuffix_append _ base.tail_ne_nil 47

theorem OriginBase.authorityText_stem (base : OriginBase) :
    authorityText base.stem = authorityText base.tail := by
  rcases base.tail_cases with h | h
  · rw [h]
  · rw [h, authorityText_append_slash]

theorem OriginBase.pathUnescape_stem (base : OriginBase) :
    pathUnescape (pathText base.stem) = some base.path := by
  have hsome : (pathUnescape (pathText base.stem)).isSome = true := by
    have hparse := (parseTail_some base.parseTail_eq).right.right.left
    rcases base.tail_cases with h | h
    · rw [← h, hparse]
      rfl
    rw [h] at hparse
    rcases pathText_append_slash base.stem with hslash | hsame
    · rw [hslash] at hparse
      exact pathUnescape_of_append_slash hparse
    rw [← hsame, hparse]
    rfl
  unfold OriginBase.path
  rw [← Option.some_get hsome]
  rfl

theorem OriginBase.sendTarget_some {x : GoString} {u : URL}
    (h : sendTarget (trimSuffix base.text (str "/") ++ x) = some u) :
    exists parsed, parseTail (toLower base.scheme) (base.stem ++ x) = some parsed ∧
      u = { parsed with host := trimSuffix parsed.host (str ":") } := by
  rw [base.trimmed, List.append_assoc] at h
  unfold sendTarget at h
  rw [parseURL_scheme base.split.right] at h
  cases hparse : parseTail (toLower base.scheme) (base.stem ++ x) with
  | none =>
    rw [hparse] at h
    cases h
  | some parsed =>
    rw [hparse] at h
    simp only at h
    split at h
    · cases h
      exact ⟨parsed, rfl, rfl⟩
    · cases h

/-!
## The forwarded decision
-/

/-- What the engine writes behind the origin to negotiate a candidate. -/
def decisionText (r : Request) (selected : Int) (cap : Option Int) : GoString :=
  r.path ++ 63 :: (rewriteQuery r.query selected cap).encode

def decisionTarget (e : Engine) (r : Request) (selected : Int) (cap : Option Int) :
    GoString :=
  trimSuffix e.origin (str "/") ++ decisionText r selected cap

structure ExactForward (base : OriginBase) (r : Request) (selected : Int)
    (cap : Option Int) (u : URL) : Prop where
  path : u.path = base.path ++ r.path
  query : forall name,
    (parseQuery u.rawQuery).all name = (rewriteQuery r.query selected cap).all name
  index : (parseQuery u.rawQuery).all (str "mediaIndex") = [formatInt selected]

structure PlainPath (base : OriginBase) (path : GoString) : Prop where
  stem_query : 63 ∉ base.stem
  stem_fragment : 35 ∉ base.stem
  query : 63 ∉ path
  fragment : 35 ∉ path
  escape : 37 ∉ path
  rooted : path.head? = some 47 ∨ 47 ∈ base.stem

theorem all_setValue (values : Values) (name value : GoString) :
    (setValue values name value).all name = [value] :=
  all_replaced values name value

theorem all_setValue_of_ne {other name : GoString} (h : other ≠ name) (values : Values)
    (value : GoString) : (setValue values other value).all name = values.all name :=
  all_replaced_of_ne h values value

theorem all_rewriteQuery (q : Values) (selected : Int) (cap : Option Int) :
    (rewriteQuery q selected cap).all (str "mediaIndex") = [formatInt selected] := by
  have hother : str "maxVideoBitrate" ≠ str "mediaIndex" := by decide
  unfold rewriteQuery
  cases cap with
  | none => exact all_setValue _ _ _
  | some cap =>
    simp only
    split
    · split
      · exact all_setValue _ _ _
      · rw [all_setValue_of_ne hother, all_setValue]
    · rw [all_setValue_of_ne hother, all_setValue]

theorem number_not_mem_encode (values : Values) : 35 ∉ values.encode :=
  separator_not_mem_encode (by decide) (by decide) (by decide) values

theorem escape_not_mem {path : GoString} (h : pathUnescape path = some path) :
    37 ∉ path := by
  intro hescape
  exact absurd ((pathUnescape_length h).right hescape) (Nat.lt_irrefl _)

theorem plainPath_of_path {path tail : GoString} (htail : hierarchyText tail = []) (hne : path ≠ [])
    (hdecode : pathUnescape (pathText (base.stem ++ (path ++ tail))) =
      some (base.path ++ path)) : PlainPath base path := by
  have hstem := base.pathUnescape_stem
  by_cases hcut : 63 ∈ base.stem ∨ 35 ∈ base.stem
  · -- The origin's own query or fragment swallows what is appended.
    have hsame : pathText (base.stem ++ (path ++ tail)) = pathText base.stem := by
      unfold pathText
      rw [hierarchyText_append_of_mem hcut]
    rw [hsame, hstem, Option.some.injEq] at hdecode
    exact absurd (List.self_eq_append_right.mp hdecode) hne
  rw [not_or] at hcut
  rw [pathText_append hcut.left hcut.right, hierarchyText_behind htail,
    pathText_behind htail] at hdecode
  split at hdecode
  · rename_i hslash
    rw [pathUnescape_append hstem, Option.map_eq_some_iff] at hdecode
    rcases hdecode with ⟨rest, hrest, hwhole⟩
    rw [List.append_cancel_left_eq] at hwhole
    rw [hwhole] at hrest
    rcases not_mem_of_length_hierarchyText (pathUnescape_length hrest).left with
      ⟨hquery, hfragment⟩
    rw [hierarchyText_self hquery hfragment] at hrest
    exact ⟨hcut.left, hcut.right, hquery, hfragment, escape_not_mem hrest, Or.inr hslash⟩
  -- Without a slash in the origin the path starts at the first slash behind it.
  rename_i hslash
  rw [pathText_of_not_mem hslash] at hstem
  have hroot : base.path = [] := (Option.some.inj hstem).symm
  rw [hroot, List.nil_append] at hdecode
  have hle := (pathUnescape_length hdecode).left
  rcases not_mem_of_length_hierarchyText (hle.trans (length_pathText_le path)) with
    ⟨hquery, hfragment⟩
  have hdrop : pathText path = path.dropWhile fun c => c != 47 := by
    unfold pathText
    rw [hierarchyText_self hquery hfragment]
  have hall : (path.dropWhile fun c => c != 47) = path := by
    apply (List.dropWhile_suffix _).eq_of_length_le
    rw [← hdrop]
    exact hle
  rw [hdrop, hall] at hdecode
  refine ⟨hcut.left, hcut.right, hquery, hfragment, escape_not_mem hdecode, Or.inl ?_⟩
  cases hpath : path with
  | nil => exact absurd hpath hne
  | cons b rest =>
    have hhead := List.head?_dropWhile_not (fun c => c != 47) (b :: rest)
    rw [← hpath, hall, hpath] at hhead
    simpa using hhead

theorem PlainPath.pathText_eq {path tail : GoString}
    (h : PlainPath base path) (htail : hierarchyText tail = []) :
    pathUnescape (pathText (base.stem ++ (path ++ tail))) = some (base.path ++ path) := by
  have hstem := base.pathUnescape_stem
  have hself := hierarchyText_self h.query h.fragment
  rw [pathText_append h.stem_query h.stem_fragment, hierarchyText_behind htail,
    pathText_behind htail, hself]
  split
  · rw [pathUnescape_append hstem, pathUnescape_of_not_mem h.escape]
    rfl
  rename_i hslash
  rw [pathText_of_not_mem hslash] at hstem
  have hroot : base.path = [] := (Option.some.inj hstem).symm
  have hrooted : path.head? = some 47 := by
    rcases h.rooted with hhead | hmem
    · exact hhead
    · exact absurd hmem hslash
  have hall : pathText path = path := by
    unfold pathText
    rw [hself]
    cases hpath : path with
    | nil => rfl
    | cons b rest =>
      rw [hpath] at hrooted
      cases hrooted
      rfl
  rw [hall, hroot, pathUnescape_of_not_mem h.escape]
  rfl

theorem PlainPath.query_eq {path rawQuery : GoString}
    (h : PlainPath base path) (hnumber : 35 ∉ rawQuery) :
    after (before (base.stem ++ (path ++ 63 :: rawQuery)) 35) 63 = rawQuery := by
  have hwhole : 35 ∉ base.stem ++ (path ++ 63 :: rawQuery) := by
    simp only [List.mem_append, List.mem_cons, not_or]
    exact ⟨h.stem_fragment, h.fragment, by decide, hnumber⟩
  rw [before_of_not_mem hwhole, after_append h.stem_query, after_append h.query, after_cons_self]

/-- What is sent for a decision is the rewritten request exactly when its decoded path
is plain. -/
theorem forwarded_exact_iff (base : OriginBase) (e : Engine) (r : Request)
    (selected : Int) (cap : Option Int) (horigin : e.origin = base.text)
    (hdecision : isDecision r.path = true) :
    (forall u, sendTarget (decisionTarget e r selected cap) = some u ->
        ExactForward base r selected cap u) <->
      sendTarget (decisionTarget e r selected cap) = none ∨ PlainPath base r.path := by
  have hne : r.path ≠ [] := by
    intro hnil
    rw [hnil] at hdecision
    exact absurd hdecision (by decide)
  unfold decisionTarget
  rw [horigin]
  constructor
  · intro h
    cases hsend : sendTarget (trimSuffix base.text (str "/") ++
        decisionText r selected cap) with
    | none => exact Or.inl rfl
    | some u =>
      right
      have hexact := (h u hsend).path
      rcases base.sendTarget_some hsend with ⟨parsed, hparsed, rfl⟩
      have hdecode := (parseTail_some hparsed).right.right.left
      rw [show parsed.path = base.path ++ r.path from hexact] at hdecode
      exact plainPath_of_path (hierarchyText_mark _) hne hdecode
  intro h u hsend
  rcases h with hnone | hplain
  · rw [hnone] at hsend
    cases hsend
  rcases base.sendTarget_some hsend with ⟨parsed, hparsed, rfl⟩
  rcases parseTail_some hparsed with ⟨_, _, hpath, hquery⟩
  unfold decisionText at hpath hquery
  rw [hplain.pathText_eq (hierarchyText_mark _), Option.some.injEq] at hpath
  rw [hplain.query_eq (number_not_mem_encode _)] at hquery
  refine ⟨hpath.symm, ?_, ?_⟩
  · intro name
    change (parseQuery parsed.rawQuery).all name = _
    rw [hquery, all_parseQuery_encode]
  change (parseQuery parsed.rawQuery).all _ = _
  rw [hquery, all_parseQuery_encode, all_rewriteQuery]

def pmsURL : URL :=
  ⟨str "http", none, str "pms:32400", [], [], [], [], false⟩

def pmsBase : OriginBase where
  text := str "http://pms:32400"
  url := pmsURL
  parsed := by decide +kernel
  http := Or.inl rfl
  host_ne := by decide

def pmsEngine : Engine where
  origin := pmsBase.text
  policies := ⟨some (str "srv"), .absent, fun _ => .absent,
    fun _ => .absent⟩
  indexVariants := fun _ => []
  liveVariants := fun _ _ => none
  pms := fun _ => none
  create := fun _ => .failed
  partRow := fun _ => none

def decisionAt (path rawQuery : GoString) : Request :=
  Request.bareGet path rawQuery Header.empty

theorem decisionTarget_bare (path : GoString) (selected : Int) :
    decisionTarget pmsEngine (decisionAt path []) selected none =
      str "http://pms:32400" ++ path ++ 63 ::
        encodePair (str "mediaIndex", formatInt selected) := by
  have hencode : (rewriteQuery (decisionAt path []).query selected none).encode =
      encodePair (str "mediaIndex", formatInt selected) := by
    rw [← encode_singleton]
    rfl
  unfold decisionTarget decisionText
  rw [hencode, ← List.append_assoc]
  rfl

def cappedDecision : Request :=
  decisionAt (str "/video/:/transcode/universal/decision") (str "maxVideoBitrate=8000")

theorem encode_capped : (rewriteQuery cappedDecision.query 2 (some 4000)).encode =
    str "maxVideoBitrate=4000&mediaIndex=2" := by
  have hrewritten : rewriteQuery cappedDecision.query 2 (some 4000) =
      [(str "mediaIndex", str "2"), (str "maxVideoBitrate", str "4000")] := by
    decide +kernel
  have hnames : Values.names [(str "mediaIndex", str "2"), (str "maxVideoBitrate", str "4000")] =
      [str "maxVideoBitrate", str "mediaIndex"] := by
    have hdistinct : ([(str "mediaIndex", str "2"), (str "maxVideoBitrate", str "4000")].map
        Prod.fst).dedup = [str "mediaIndex", str "maxVideoBitrate"] := by
      decide +kernel
    rw [Values.names, hdistinct, List.mergeSort]
    simp [List.MergeSort.Internal.splitInTwo, List.merge]
    decide +kernel
  rw [hrewritten, Values.encode, Values.canonical, hnames]
  decide +kernel

theorem forwarded_exact_capped :
    exists u, sendTarget (decisionTarget pmsEngine cappedDecision 2 (some 4000)) = some u ∧
      ExactForward pmsBase cappedDecision 2 (some 4000) u := by
  have hsend : sendTarget (decisionTarget pmsEngine cappedDecision 2 (some 4000)) =
      some ⟨str "http", none, str "pms:32400", [], str "/video/:/transcode/universal/decision", [],
        str "maxVideoBitrate=4000&mediaIndex=2", false⟩ := by
    unfold decisionTarget decisionText
    rw [encode_capped]
    decide +kernel
  refine ⟨_, hsend, (forwarded_exact_iff pmsBase pmsEngine _ 2 (some 4000) rfl
    (by decide +kernel)).mpr (Or.inr ?_) _ hsend⟩
  exact ⟨by decide, by decide, by decide, by decide, by decide, Or.inl rfl⟩

/-- A question mark in the decoded path starts a query of the client's own. -/
theorem forwarded_own_index :
    isDecision (str "/video/:/transcode/universal/decision?mediaIndex=5&x=") = true ∧
    exists u, sendTarget (decisionTarget pmsEngine
        (decisionAt (str "/video/:/transcode/universal/decision?mediaIndex=5&x=") []) 0
        none) = some u ∧
      u.path = str "/video/:/transcode/universal/decision" ∧
      (parseQuery u.rawQuery).all (str "mediaIndex") = [str "5"] ∧
      ¬ ExactForward pmsBase
        (decisionAt (str "/video/:/transcode/universal/decision?mediaIndex=5&x=") []) 0
        none u := by
  refine ⟨by decide +kernel, ⟨str "http", none, str "pms:32400", [],
    str "/video/:/transcode/universal/decision", [],
    str "mediaIndex=5&x=?mediaIndex=0", false⟩, ?_, rfl, by decide +kernel, ?_⟩
  · rw [decisionTarget_bare]
    decide +kernel
  intro h
  exact absurd h.index (by decide +kernel)

/-!
## The calls of a negotiation

The caller's token goes out with a metadata request for a title that is not
indexed, and with the decision.
-/

inductive EngineCall where
  | metadata (rawPath : GoString)
  | decision (selected : Int) (cap : Option Int)
deriving DecidableEq

def EngineCall.text (r : Request) : EngineCall -> GoString
  | metadata rawPath => rawPath
  | decision selected cap => decisionText r selected cap

def metadataCalls (e : Engine) (r : Request) : List EngineCall :=
  if e.indexVariants (extractRatingKey r) = [] ∧ livePath r.query ≠ [] then
    [.metadata (livePath r.query)]
  else []

def decisionCalls (pol : Policy) (scope : Level) (sources : List VariantSource) :
    List EngineCall :=
  match evaluate pol scope (sources.map VariantSource.toPolicy) with
  | Except.error _ => []
  | Except.ok dec =>
    match indexOf sources dec.selected.mediaIndex with
    | none => []
    | some _ => [.decision dec.selected.mediaIndex dec.outputBitrateKbps]

def calls (e : Engine) (r : Request) (identityID clientUUID : GoString) :
    List EngineCall :=
  if extractRatingKey r = [] then []
  else if extractToken r = [] then []
  else
    match loadEffective e.policies identityID clientUUID with
    | none => []
    | some (pol, scope) =>
      metadataCalls e r ++ decisionCalls pol scope (variants e r (extractToken r))

def SameAnswer (e other : Engine) (r : Request) : EngineCall -> Prop
  | .metadata rawPath =>
    e.liveVariants rawPath (extractToken r) = other.liveVariants rawPath (extractToken r)
  | .decision selected cap =>
    forward e r (extractToken r) selected cap = forward other r (extractToken r) selected cap

def Engine.answering (e : Engine)
    (liveVariants : GoString -> GoString -> Option (List VariantSource))
    (pms : DecisionForward -> Option Forwarded) : Engine :=
  { e with liveVariants := liveVariants, pms := pms }

section Answers

variable {e : Engine} {r : Request}
variable {liveVariants : GoString -> GoString -> Option (List VariantSource)}
variable {pms : DecisionForward -> Option Forwarded}

theorem variants_answering (h : forall call, call ∈ metadataCalls e r ->
      SameAnswer e (e.answering liveVariants pms) r call) :
    variants (e.answering liveVariants pms) r (extractToken r) = variants e r (extractToken r) := by
  unfold variants Engine.answering
  simp only
  cases hindex : e.indexVariants (extractRatingKey r) with
  | cons first rest => rfl
  | nil =>
    simp only
    split
    · rfl
    rename_i hlive
    have hanswer : e.liveVariants (livePath r.query) (extractToken r) =
        liveVariants (livePath r.query) (extractToken r) := by
      apply h (.metadata (livePath r.query))
      unfold metadataCalls
      rw [if_pos ⟨hindex, hlive⟩]
      exact List.mem_singleton_self _
    rw [hanswer]

theorem negotiate_answering {pol : Policy} {scope : Level} {sources : List VariantSource}
    (h : forall call, call ∈ decisionCalls pol scope sources ->
      SameAnswer e (e.answering liveVariants pms) r call)
    (sessionID identityID clientUUID : GoString) :
    negotiate (e.answering liveVariants pms) r sessionID identityID clientUUID pol scope sources =
      negotiate e r sessionID identityID clientUUID pol scope sources := by
  unfold negotiate
  unfold decisionCalls at h
  cases hevaluate : evaluate pol scope (sources.map VariantSource.toPolicy) with
  | error failure =>
    rcases failure with ⟨code, rejected⟩
    cases code <;> rfl
  | ok dec =>
    rw [hevaluate] at h
    simp only at h ⊢
    cases hindex : indexOf sources dec.selected.mediaIndex with
    | none => rfl
    | some selected =>
      rw [hindex] at h
      have hforward : forward e r (extractToken r) dec.selected.mediaIndex
          dec.outputBitrateKbps =
          forward (e.answering liveVariants pms) r (extractToken r)
            dec.selected.mediaIndex dec.outputBitrateKbps :=
        h _ (List.mem_singleton_self _)
      simp only
      rw [← hforward]
      rfl

/-- A negotiation depends on the outside only through the answers to its calls. -/
theorem handleDecision_answering {identityID clientUUID : GoString}
    (h : forall call, call ∈ calls e r identityID clientUUID ->
      SameAnswer e (e.answering liveVariants pms) r call) (sessionID : GoString) :
    handleDecision (e.answering liveVariants pms) r sessionID identityID clientUUID =
      handleDecision e r sessionID identityID clientUUID := by
  unfold handleDecision
  unfold calls at h
  split
  · rfl
  rename_i hrating
  rw [if_neg hrating] at h
  split
  · rfl
  rename_i htoken
  rw [if_neg htoken] at h
  change (match loadEffective e.policies identityID clientUUID with
    | none => _
    | some (pol, scope) => _) = _
  cases hload : loadEffective e.policies identityID clientUUID with
  | none => rfl
  | some loaded =>
    rw [hload] at h
    simp only at h ⊢
    rw [variants_answering (fun call hcall => h call (List.mem_append_left _ hcall))]
    cases hsources : variants e r (extractToken r) with
    | nil => rfl
    | cons first rest =>
      rw [hsources] at h
      simp only
      rw [negotiate_answering (fun call hcall => h call (List.mem_append_right _ hcall))]

def titleDecision : Request :=
  decisionAt (str "/video/:/transcode/universal/decision")
    (str "path=%2Flibrary%2Fmetadata%2F9&token=t")

theorem handleDecision_answering_title :
    handleDecision (pmsEngine.answering
        (fun rawPath _ => if rawPath = str "/library/metadata/9" then none else some [])
        pmsEngine.pms) titleDecision [] [] [] =
      handleDecision pmsEngine titleDecision [] [] [] := by
  have hcalls : calls pmsEngine titleDecision [] [] = [.metadata (str "/library/metadata/9")] := by
    decide +kernel
  refine handleDecision_answering ?_ []
  intro call hcall
  rw [hcalls, List.mem_singleton] at hcall
  rw [hcall]
  rfl

end Answers

/-!
## The hosts that a call reaches
-/

/-- The scheme and the host of the origin, in any letter case. An empty port is no
port. -/
structure SameOrigin (base : OriginBase) (u : URL) : Prop where
  scheme : equalFoldText u.scheme base.url.scheme = true
  host : equalFoldText u.host base.url.host = true ∨
    equalFoldText u.host (trimSuffix base.url.host (str ":")) = true

/-- The redirects that the client follows, from those it is answered: at most four, and
none away from the origin. -/
def followed (base : OriginBase) (answered : List URL) : List URL :=
  (answered.takeWhile fun u => equalFoldText u.scheme base.url.scheme &&
    equalFoldText u.host base.url.host).take 4

def reached (base : OriginBase) (e : Engine) (r : Request) (call : EngineCall)
    (answered : List URL) : List URL :=
  match sendTarget (trimSuffix e.origin (str "/") ++ call.text r) with
  | none => []
  | some u => u :: followed base answered

/-- A text behind the origin that leaves the authority as it is, or at least its host. -/
def Anchored (base : OriginBase) (x : GoString) : Prop :=
  authorityText base.stem ≠ base.stem ∨ authorityText x = [] ∨
    sendTarget (trimSuffix base.text (str "/") ++ x) = none ∨
    exists named, parseAuthority (base.stem ++ authorityText x) = some named ∧
      (equalFoldText (trimSuffix named.2 (str ":")) base.url.host = true ∨
        equalFoldText (trimSuffix named.2 (str ":"))
          (trimSuffix base.url.host (str ":")) = true)

theorem sameOrigin_of_followed {answered : List URL} {u : URL}
    (h : u ∈ followed base answered) : SameOrigin base u := by
  have hkept := List.mem_takeWhile_imp (List.mem_of_mem_take h)
  rw [Bool.and_eq_true] at hkept
  exact ⟨hkept.left, Or.inl hkept.right⟩

theorem OriginBase.scheme_eq (base : OriginBase) :
    toLower base.scheme = base.url.scheme :=
  (parseTail_some base.parseTail_eq).right.left.symm

theorem OriginBase.parseAuthority_tail (base : OriginBase) :
    parseAuthority (authorityText base.stem) = some (base.url.user, base.url.host) := by
  rw [base.authorityText_stem]
  exact (parseTail_some base.parseTail_eq).left

theorem sendTarget_sameOrigin_iff (base : OriginBase) (x : GoString) :
    (forall u, sendTarget (trimSuffix base.text (str "/") ++ x) = some u ->
        SameOrigin base u) <-> Anchored base x := by
  constructor
  · intro h
    unfold Anchored
    cases hsend : sendTarget (trimSuffix base.text (str "/") ++ x) with
    | none => exact Or.inr (Or.inr (Or.inl rfl))
    | some u =>
      have hhost := (h u hsend).host
      rcases base.sendTarget_some hsend with ⟨parsed, hparsed, rfl⟩
      have hauthority := (parseTail_some hparsed).left
      rw [authorityText_append] at hauthority
      split at hauthority
      · exact Or.inr (Or.inr (Or.inr ⟨_, hauthority, hhost⟩))
      rename_i hclosed
      exact Or.inl hclosed
  intro h u hsend
  have hsent := hsend
  rcases base.sendTarget_some hsend with ⟨parsed, hparsed, rfl⟩
  rcases parseTail_some hparsed with ⟨hauthority, hscheme, _, _⟩
  have hown := base.parseAuthority_tail
  refine ⟨?_, ?_⟩
  · change equalFoldText parsed.scheme base.url.scheme = true
    rw [hscheme, base.scheme_eq]
    exact equalFoldText_refl _
  change equalFoldText (trimSuffix parsed.host (str ":")) _ = true ∨
    equalFoldText (trimSuffix parsed.host (str ":")) _ = true
  rw [authorityText_append] at hauthority
  split at hauthority
  · rename_i hopen
    rcases h with hclosed | hempty | hnone | hnamed
    · exact absurd hopen hclosed
    · rw [hempty, List.append_nil, ← hopen, hown] at hauthority
      have hhost := congrArg Prod.snd (Option.some.inj hauthority)
      right
      rw [show parsed.host = base.url.host from hhost.symm]
      exact equalFoldText_refl _
    · rw [hnone] at hsent
      cases hsent
    rcases hnamed with ⟨named, hparse, hhost⟩
    rw [hauthority] at hparse
    cases hparse
    exact hhost
  rw [hown] at hauthority
  have hhost := congrArg Prod.snd (Option.some.inj hauthority)
  right
  rw [show parsed.host = base.url.host from hhost.symm]
  exact equalFoldText_refl _

/-- The caller's token stays on the origin exactly when everything that is written
behind the origin is anchored. -/
theorem token_on_origin_iff (base : OriginBase) (e : Engine) (r : Request)
    (identityID clientUUID : GoString) (horigin : e.origin = base.text) :
    (forall call, call ∈ calls e r identityID clientUUID -> forall answered u,
        u ∈ reached base e r call answered -> SameOrigin base u) <->
      forall call, call ∈ calls e r identityID clientUUID -> Anchored base (call.text r) := by
  constructor
  · intro h call hcall
    apply (sendTarget_sameOrigin_iff base _).mp
    intro u hsend
    apply h call hcall []
    unfold reached
    rw [horigin, hsend]
    exact List.mem_cons_self
  intro h call hcall answered u hreached
  unfold reached at hreached
  rw [horigin] at hreached
  split at hreached
  · cases hreached
  rename_i first hsend
  rcases List.mem_cons.mp hreached with rfl | hfollowed
  · exact (sendTarget_sameOrigin_iff base _).mpr (h call hcall) u hsend
  · exact sameOrigin_of_followed hfollowed

def decisionWith (rawQuery : GoString) : Request :=
  decisionAt (str "/video/:/transcode/universal/decision") rawQuery

def hostURL (host path : GoString) (user : Option GoString) : URL :=
  ⟨str "http", user, host, [], path, [], [], false⟩

theorem token_on_origin_metadata :
    reached pmsBase pmsEngine
        (decisionWith (str "path=%2Flibrary%2Fmetadata%2F9&token=t"))
        (.metadata (str "/library/metadata/9")) [] =
      [hostURL (str "pms:32400") (str "/library/metadata/9") none] ∧
    SameOrigin pmsBase (hostURL (str "pms:32400") (str "/library/metadata/9") none) := by
  have hcalls : calls pmsEngine (decisionWith (str "path=%2Flibrary%2Fmetadata%2F9&token=t"))
      [] [] = [.metadata (str "/library/metadata/9")] := by
    decide +kernel
  have hreached : reached pmsBase pmsEngine
      (decisionWith (str "path=%2Flibrary%2Fmetadata%2F9&token=t"))
      (.metadata (str "/library/metadata/9")) [] =
      [hostURL (str "pms:32400") (str "/library/metadata/9") none] := by
    decide +kernel
  refine ⟨hreached, ?_⟩
  refine (token_on_origin_iff pmsBase pmsEngine
    (decisionWith (str "path=%2Flibrary%2Fmetadata%2F9&token=t")) [] [] rfl).mpr ?_
    (.metadata (str "/library/metadata/9")) ?_ [] _ ?_
  · intro call hcall
    rw [hcalls, List.mem_singleton] at hcall
    rw [hcall]
    exact Or.inr (Or.inl (by decide))
  · rw [hcalls]
    exact List.mem_singleton_self _
  rw [hreached]
  exact List.mem_singleton_self _

/-- A title path that starts with an at sign turns the origin into user information. -/
theorem token_sent_elsewhere :
    .metadata (str "@evil.example/library/metadata/9") ∈
      calls pmsEngine (decisionWith
        (str "ratingKey=9&path=%40evil.example%2Flibrary%2Fmetadata%2F9&token=t")) [] [] ∧
    reached pmsBase pmsEngine (decisionWith
        (str "ratingKey=9&path=%40evil.example%2Flibrary%2Fmetadata%2F9&token=t"))
        (.metadata (str "@evil.example/library/metadata/9")) [] =
      [hostURL (str "evil.example") (str "/library/metadata/9") (some (str "pms:32400"))] ∧
    ¬ SameOrigin pmsBase
      (hostURL (str "evil.example") (str "/library/metadata/9") (some (str "pms:32400"))) := by
  refine ⟨by decide +kernel, by decide +kernel, ?_⟩
  intro h
  exact absurd h.host (by decide +kernel)

end ReplxEdge.Playback
