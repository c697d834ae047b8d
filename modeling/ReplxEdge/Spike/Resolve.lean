import ReplxEdge.Gateway.MediaPaths
import ReplxEdge.Trace.Extract

/-!
# Redirect resolution

How a media request in tunnel mode becomes a redirect to the client-reachable
origin: the part boundary is consulted, a transient token is fetched under the
caller's own, and the target is built from the request or from the substitute
that the boundary named.
-/

namespace ReplxEdge.Spike

open Foundation
open Net
open Gateway
open Trace

/-!
## Redirect targets
-/

structure Location where
  scheme : GoString
  host : GoString
  path : GoString
  rawQuery : GoString
deriving DecidableEq

structure MediaOrigin where
  scheme : GoString
  host : GoString
  path : GoString
  rawPath : GoString
  rawQuery : GoString

def setValue (values : Values) (name value : GoString) : Values :=
  (values.filter fun pair => pair.1 != name) ++ [(name, value)]

/-- The path that a reference leads to from an origin. -/
def targetPath (base : MediaOrigin) (ref : Reference) : GoString :=
  (pathUnescape (if ref.userOnly then resolvePath (escapedPath ref.path ref.rawPath) []
    else resolvePath (escapedPath base.path base.rawPath)
      (escapedPath ref.path ref.rawPath))).getD []

/-- `none` stands for each of the builder's errors; an origin text that does not
parse is `none` too. -/
def buildDirectOriginURL (origin : Option MediaOrigin) (partPath token publicHost : GoString) :
    Option Location :=
  if !hasPrefix partPath (str "/") then none
  else
    match origin with
    | none => none
    | some base =>
      if base.scheme ≠ str "https" ∨ base.host = [] then none
      else if publicHost ≠ [] ∧ equalFold (hostname base.host) publicHost = true then none
      else if token = [] then none
      else
        match parseReference partPath with
        | none => none
        | some ref =>
          if ref.userOnly = true ∧ hostname base.host ≠ [] then none
          else
            let query :=
              if ref.userOnly = false ∧ ref.path = [] ∧ ref.forceQuery = false ∧
                  ref.rawQuery = [] then base.rawQuery
              else ref.rawQuery
            some
              { scheme := base.scheme
                host := if ref.userOnly then [] else base.host
                path := targetPath base ref
                rawQuery := (setValue (parseQuery query) (str "X-Plex-Token")
                  token).encode }

theorem buildDirectOriginURL_path {origin : Option MediaOrigin} {uri token host : GoString}
    {location : Location}
    (h : buildDirectOriginURL origin uri token host = some location) :
    hasPrefix uri (str "/") = true ∧ exists base ref, origin = some base ∧
      parseReference uri = some ref ∧ location.path = targetPath base ref := by
  unfold buildDirectOriginURL at h
  split at h
  · cases h
  rename_i hroot
  rw [Bool.not_eq_true', Bool.not_eq_false] at hroot
  refine ⟨hroot, ?_⟩
  cases origin with
  | none => cases h
  | some base =>
    simp only at h
    split at h
    · cases h
    split at h
    · cases h
    split at h
    · cases h
    split at h
    · cases h
    rename_i ref href
    rw [href]
    split at h
    · cases h
    cases h
    exact ⟨base, ref, rfl, rfl, rfl⟩

/-!
## The part boundary hook
-/

structure Verdict where
  substitute : GoString
  deny : Bool
  reason : GoString
deriving DecidableEq

/-- The hook's arguments are the request, the part id and the session. -/
abbrev PartPolicy := Request -> GoString -> GoString -> Verdict

structure Consult where
  partID : GoString
  session : GoString
  verdict : Verdict
deriving DecidableEq

def consult (policy : PartPolicy) (r : Request) (partID session : GoString) : Consult :=
  ⟨partID, session, policy r partID session⟩

/-!
## Resolution
-/

structure Store where
  /-- Media origin and internal origin of the enabled server. -/
  lookup : Option (Option MediaOrigin × GoString)
  /-- Transient token for an internal origin and the caller's token. -/
  fetchTransient : GoString -> GoString -> Option GoString
  partPolicy : Option PartPolicy
  publicHost : GoString
  publicHost_ascii : isASCII publicHost = true

theorem replxExample_isASCII : isASCII (str "replx.example") = true := by
  decide

/-- The target a redirect is built from once the boundary has not denied. -/
def redirectURI (r : Request) (substitute : GoString) : GoString :=
  if substitute = [] then r.requestURI
  else if r.rawQuery ≠ [] ∧ 63 ∉ substitute then substitute ++ 63 :: r.rawQuery
  else substitute

def redirectTo (s : Store) (origin : Option MediaOrigin) (internal : GoString)
    (r : Request) (substitute : GoString) : Option Location :=
  match s.fetchTransient internal (extractToken r) with
  | none => none
  | some transient =>
    buildDirectOriginURL origin (redirectURI r substitute) transient s.publicHost

structure Resolution where
  consults : List Consult
  location : Option Location

def resolve (s : Store) (r : Request) : Resolution :=
  match s.lookup with
  | none => ⟨[], none⟩
  | some (origin, internal) =>
    if extractToken r = [] then ⟨[], none⟩
    else
      match s.partPolicy with
      | none => ⟨[], redirectTo s origin internal r []⟩
      | some policy =>
        let partID := partIDFromPath r.path
        if partID ≠ [] ∨ isBulkMediaRoute r.path = true then
          let asked := consult policy r partID (extractSession r)
          if asked.verdict.deny then ⟨[asked], none⟩
          else ⟨[asked], redirectTo s origin internal r asked.verdict.substitute⟩
        else ⟨[], redirectTo s origin internal r []⟩

/-- Whether resolution gets as far as the boundary. -/
def Store.asks (s : Store) (r : Request) : Prop :=
  s.lookup ≠ none ∧ extractToken r ≠ []

variable {s : Store} {r : Request}

theorem resolve_unasked (h : ¬ s.asks r) :
    resolve s r = ⟨[], none⟩ := by
  unfold resolve
  cases hlookup : s.lookup with
  | none => rfl
  | some found =>
    have htoken : extractToken r = [] := by
      by_contra hne
      exact h ⟨by rw [hlookup]; exact Option.some_ne_none found, hne⟩
    simp only [if_pos htoken]

theorem resolve_asked {policy : PartPolicy}
    (hasks : s.asks r) (hpolicy : s.partPolicy = some policy)
    (hmedia : classify r.path = .mediaRedirect) :
    exists origin internal, s.lookup = some (origin, internal) ∧ resolve s r =
        if (policy r (partIDFromPath r.path) (extractSession r)).deny then
          ⟨[consult policy r (partIDFromPath r.path) (extractSession r)], none⟩ else
          ⟨[consult policy r (partIDFromPath r.path) (extractSession r)],
            redirectTo s origin internal r
    (policy r (partIDFromPath r.path) (extractSession r)).substitute⟩ := by
  rcases hasks with ⟨hlookup, htoken⟩
  cases hfound : s.lookup with
  | none => exact absurd hfound hlookup
  | some found =>
    rcases found with ⟨origin, internal⟩
    refine ⟨origin, internal, rfl, ?_⟩
    have hbulk : partIDFromPath r.path ≠ [] ∨ isBulkMediaRoute r.path = true :=
      Or.inr (decide_eq_true hmedia)
    unfold resolve
    simp only [hfound, if_neg htoken, hpolicy, if_pos hbulk]
    rfl

end ReplxEdge.Spike
