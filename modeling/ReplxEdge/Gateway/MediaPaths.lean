import ReplxEdge.Net.Url

/-!
# Media paths

The ordered path tests that decide how a request is routed, and the splitter
that cuts the part id out of a path.
-/

namespace ReplxEdge.Gateway

open Foundation
open Net

/-!
## Classification
-/

inductive MediaRouteAction where
  | control
  | mediaRedirect
  | denyUnknownMedia
  | denySessions
  | playQueueObserve
deriving DecidableEq

def isSessionsDeny (path : GoString) : Bool :=
  hasPrefix (toLower path) (str "/status/sessions")

def isPlayQueue (path : GoString) : Bool :=
  let p := toLower path
  contains p (str "/playqueues") || contains p (str "/playqueue")

def inTranscodeNamespace (p : GoString) : Bool :=
  hasPrefix p (str "/video/:/transcode/") || hasPrefix p (str "/music/:/transcode/") ||
    contains p (str "/transcode/")

def isDecisionOrControl (p : GoString) : Bool :=
  contains p (str "/transcode/universal/decision") ||
    contains p (str "/transcode/universal/fallback") ||
    contains p (str "/transcode/session/decision")

def isManifestLower (p : GoString) : Bool :=
  contains p (str "/transcode/universal/start") ||
    contains p (str "/transcode/universal/direct") ||
    contains p (str "/transcode/universal/subtitles") ||
    contains p (str "master.m3u8") || contains p (str "manifest.mpd") ||
    hasSuffix p (str ".m3u8") || hasSuffix p (str ".mpd")

def isSegmentLower (p : GoString) : Bool :=
  contains p (str "/transcode/segments") ||
    (contains p (str "/transcode/sessions/") && contains p (str "/segments")) ||
    contains p (str "/media/segments") ||
    (hasSuffix p (str ".ts") && contains p (str "transcode")) ||
    hasSuffix p (str ".m4s")

def isSessionControl (p : GoString) : Bool :=
  contains p (str "/transcode/stop") || contains p (str "/transcode/universal/stop") ||
    contains p (str "/transcode/statistics")

def mediaExtensions : List GoString :=
  [str ".mkv", str ".mp4", str ".m4v", str ".avi", str ".mov", str ".wmv", str ".flv",
    str ".webm", str ".ts", str ".m4s", str ".mpd", str ".m3u8"]

def isMediaExtension (p : GoString) : Bool :=
  mediaExtensions.any fun ext => contains p ext

def classify (path : GoString) : MediaRouteAction :=
  let p := toLower path
  if isSessionsDeny p then .denySessions
  else if isPlayQueue p then .playQueueObserve
  else if hasPrefix p (str "/library/parts/") then .mediaRedirect
  else if isDecisionOrControl p then .control
  else if isManifestLower p then .mediaRedirect
  else if isSegmentLower p then .mediaRedirect
  else if isSessionControl p then .control
  else if inTranscodeNamespace p then .denyUnknownMedia
  else if isMediaExtension p then .mediaRedirect
  else .control

def isManifest (path : GoString) : Bool :=
  isManifestLower (toLower path)

def isSegment (path : GoString) : Bool :=
  isSegmentLower (toLower path)

def isBulkMediaRoute (path : GoString) : Bool :=
  classify path = .mediaRedirect

def isDecision (path : GoString) : Bool :=
  isDecisionOrControl (toLower path)

def isSessionStop (path : GoString) : Bool :=
  let p := toLower path
  contains p (str "/transcode/stop") || contains p (str "/transcode/universal/stop")

/-- Watch mutations, which may use any method. -/
def isStateWrite (path : GoString) : Bool :=
  let p := toLower path
  ([str "/:/timeline", str "/:/progress", str "/:/scrobble", str "/:/unscrobble"].any
    fun suffix => hasSuffix (trimSuffix p (str "/")) suffix) || isSessionStop p

variable {path : GoString}

theorem classify_part
    (h : hasPrefix (toLower path) (str "/library/parts/") = true) :
    classify path = if isPlayQueue (toLower path) then .playQueueObserve else .mediaRedirect := by
  have hsessions : isSessionsDeny (toLower path) = false := by
    rcases hasPrefix_eq_true.mp h with ⟨rest, hrest⟩
    unfold isSessionsDeny
    rw [← hrest, toLower_lower_append rest (by decide), Bool.eq_false_iff, ne_eq,
      hasPrefix_eq_true]
    intro hcase
    rcases hcase with ⟨tail, htail⟩
    have hsecond : some (115 : UInt8) = some 108 :=
      congrArg (fun text => (text.drop 1).head?) htail
    exact absurd hsecond (by decide)
  unfold classify
  simp only [hsessions, h]
  simp

/-!
## Part ids
-/

/-- The first non-empty segment behind `library` and `parts`. -/
def partIDIn : List GoString -> GoString
  | a :: b :: id :: rest =>
    if a = str "library" ∧ b = str "parts" ∧ id ≠ [] then id
    else partIDIn (b :: id :: rest)
  | _ => []

def partIDFromPath (path : GoString) : GoString :=
  partIDIn (split (toLower path) 47)

/-- A path names a part when the id stands behind `library` and `parts`. -/
def namesPart (path id : GoString) : Prop :=
  [str "library", str "parts", id] <:+: split (toLower path) 47

theorem partIDIn_infix {segments : List GoString} (h : partIDIn segments ≠ []) :
    [str "library", str "parts", partIDIn segments] <:+: segments := by
  induction segments using partIDIn.induct with
  | case1 a b id rest hmatch =>
    rcases hmatch with ⟨rfl, rfl, hid⟩
    rw [partIDIn, if_pos ⟨rfl, rfl, hid⟩]
    exact ⟨[], rest, rfl⟩
  | case2 a b id rest hmatch ih =>
    rw [partIDIn, if_neg hmatch] at h ⊢
    exact (ih h).trans (List.suffix_cons a _).isInfix
  | case3 segments hshort =>
    rw [partIDIn] at h
    · exact absurd rfl h
    · exact hshort

theorem namesPart_partIDFromPath (h : partIDFromPath path ≠ []) :
    namesPart path (partIDFromPath path) :=
  partIDIn_infix h

theorem split_toLower_join (a b : GoString) :
    split (toLower (a ++ 47 :: b)) 47 = split (toLower a) 47 ++ split (toLower b) 47 := by
  have hslash : lowerByte 47 = 47 := by decide
  rw [toLower_append_ascii (by decide), hslash]
  exact List.splitOn_append_cons_self _ _

theorem namesPart_singleJoin {base id : GoString} (h : namesPart path id) :
    namesPart (singleJoin base path) id := by
  unfold namesPart singleJoin
  rw [split_toLower_join]
  suffices htrim : [str "library", str "parts", id] <:+:
      split (toLower (trimPrefix path (str "/"))) 47 from
    htrim.trans (List.suffix_append _ _).isInfix
  unfold trimPrefix
  cases hslash : hasPrefix path (str "/") with
  | false => exact h
  | true =>
    rcases hasPrefix_eq_true.mp hslash with ⟨rest, rfl⟩
    have hsplit := split_toLower_join [] rest
    have hempty : split (toLower []) 47 = [[]] := rfl
    unfold namesPart at h
    change [str "library", str "parts", id] <:+: split (toLower ([] ++ 47 :: rest)) 47 at h
    rw [hsplit, hempty, List.singleton_append, List.infix_cons_iff] at h
    rcases h with hhead | hrest
    · rcases hhead with ⟨tail, htail⟩
      cases htail
    · exact hrest

end ReplxEdge.Gateway
