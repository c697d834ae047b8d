import ReplxEdge.Spike.Resolve

/-!
# Credentials in a redirect

The builder replaces the values of one parameter by the transient token. The
token reader accepts two more names, and what a client put under them, or under
any other name, goes into the redirect as it came.
-/

namespace ReplxEdge.Spike

open Foundation
open Net
open Gateway
open Trace

def credentialNames : List GoString :=
  [str "X-Plex-Token", str "token", str "authToken"]

/-- The transient token is the only credential of a redirect, and no parameter has the
caller's token as its value. -/
structure OnlyTransient (transient token : GoString) (location : Location) : Prop where
  credentials : ((parseQuery location.rawQuery).filter fun pair =>
    credentialNames.contains pair.1) = [(str "X-Plex-Token", transient)]
  values : forall pair, pair ∈ parseQuery location.rawQuery -> pair.2 ≠ token

def substituteFor (s : Store) (r : Request) : GoString :=
  match s.partPolicy with
  | none => []
  | some policy =>
    if partIDFromPath r.path ≠ [] ∨ isBulkMediaRoute r.path = true then
      (policy r (partIDFromPath r.path) (extractSession r)).substitute
    else []

def redirectQuery (base : MediaOrigin) (uri : GoString) : GoString :=
  match parseReference uri with
  | none => []
  | some ref =>
    if ref.userOnly = false ∧ ref.path = [] ∧ ref.forceQuery = false ∧
        ref.rawQuery = [] then base.rawQuery
    else ref.rawQuery

/-- Besides the parameter that is replaced, a query has no credential and does not
repeat the caller's token. -/
def CleanQuery (raw token : GoString) : Prop :=
  forall pair, pair ∈ parseQuery raw -> pair.1 ≠ str "X-Plex-Token" ->
    pair.1 ≠ str "token" ∧ pair.1 ≠ str "authToken" ∧ pair.2 ≠ token

/-!
## The redirect
-/

variable {s : Store} {r : Request} {internal : GoString}

theorem resolve_location {location : Location} {origin : Option MediaOrigin}
    (hlookup : s.lookup = some (origin, internal)) (h : (resolve s r).location = some location) :
    redirectTo s origin internal r (substituteFor s r) = some location := by
  unfold resolve at h
  rw [hlookup] at h
  simp only at h
  split at h
  · cases h
  unfold substituteFor
  cases hpolicy : s.partPolicy with
  | none =>
    rw [hpolicy] at h
    exact h
  | some policy =>
    rw [hpolicy] at h
    simp only at h ⊢
    split at h
    · rename_i hask
      rw [if_pos hask]
      split at h
      · cases h
      · exact h
    rename_i hask
    rw [if_neg hask]
    exact h

variable {base : MediaOrigin}

theorem buildDirectOriginURL_query {uri token host : GoString} {location : Location}
    (h : buildDirectOriginURL (some base) uri token host = some location) :
    location.rawQuery =
    (setValue (parseQuery (redirectQuery base uri)) (str "X-Plex-Token") token).encode := by
  unfold buildDirectOriginURL at h
  unfold redirectQuery
  split at h
  · cases h
  simp only at h
  split at h
  · cases h
  split at h
  · cases h
  split at h
  · cases h
  cases href : parseReference uri with
  | none =>
    rw [href] at h
    cases h
  | some ref =>
    rw [href] at h
    simp only at h
    split at h
    · cases h
    cases h
    rfl

/-!
## Replacing one parameter
-/

theorem mem_setValue {values : Values} {name value : GoString} {pair : GoString × GoString} :
    pair ∈ setValue values name value <->
      (pair ∈ values ∧ pair.1 ≠ name) ∨ pair = (name, value) := by
  simp [setValue]

theorem credentials_setValue (values : Values) (transient : GoString) :
    ((setValue values (str "X-Plex-Token") transient).encode |> parseQuery).filter
        (fun pair => credentialNames.contains pair.1) = [(str "X-Plex-Token", transient)] <->
      forall pair, pair ∈ values -> pair.1 ≠ str "X-Plex-Token" ->
        pair.1 ≠ str "token" ∧ pair.1 ≠ str "authToken" := by
  have hperm : (((setValue values (str "X-Plex-Token") transient).encode |> parseQuery).filter
      fun pair => credentialNames.contains pair.1).Perm
      ((values.filter fun pair => pair.1 != str "X-Plex-Token").filter
        (fun pair => credentialNames.contains pair.1) ++
          [(str "X-Plex-Token", transient)]) := by
    have hcanonical := (canonical_perm (setValue values (str "X-Plex-Token") transient)).filter
      fun pair => credentialNames.contains pair.1
    rw [← parseQuery_encode] at hcanonical
    refine hcanonical.trans (List.Perm.of_eq ?_)
    unfold setValue
    rw [List.filter_append]
    rfl
  constructor
  · intro h pair hpair hname
    rw [h] at hperm
    have hlength := hperm.length_eq
    rw [List.length_append, List.length_singleton] at hlength
    have hnone : ((values.filter fun pair => pair.1 != str "X-Plex-Token").filter
        fun pair => credentialNames.contains pair.1) = [] := by
      apply List.eq_nil_of_length_eq_zero
      omega
    have hkept : pair ∈ values.filter fun pair => pair.1 != str "X-Plex-Token" :=
      List.mem_filter.mpr ⟨hpair, by simpa using hname⟩
    have hnot := List.filter_eq_nil_iff.mp hnone pair hkept
    constructor
    · intro htoken
      apply hnot
      rw [htoken]
      decide
    intro hauth
    apply hnot
    rw [hauth]
    decide
  intro h
  have hnone : ((values.filter fun pair => pair.1 != str "X-Plex-Token").filter
      fun pair => credentialNames.contains pair.1) = [] := by
    rw [List.filter_eq_nil_iff]
    intro pair hpair hcredential
    rcases List.mem_filter.mp hpair with ⟨hmem, hname⟩
    have hname' : pair.1 ≠ str "X-Plex-Token" := by simpa using hname
    rcases h pair hmem hname' with ⟨htoken, hauth⟩
    simp [credentialNames, hname', htoken, hauth] at hcredential
  rw [hnone, List.nil_append] at hperm
  exact List.perm_singleton.mp hperm

theorem resolve_query {transient : GoString} {location : Location}
    (hlookup : s.lookup = some (some base, internal))
    (htransient : s.fetchTransient internal (extractToken r) = some transient)
    (hlocation : (resolve s r).location = some location) :
    location.rawQuery =
    (setValue (parseQuery (redirectQuery base (redirectURI r (substituteFor s r))))
    (str "X-Plex-Token") transient).encode := by
  have hredirect := resolve_location hlookup hlocation
  unfold redirectTo at hredirect
  rw [htransient] at hredirect
  exact buildDirectOriginURL_query hredirect

/-- A redirect whose delegation gave another token carries only that token exactly when
the query it is built from is clean. -/
theorem redirect_credentials_iff (s : Store) (r : Request) (base : MediaOrigin)
    (internal transient : GoString) (location : Location)
    (hlookup : s.lookup = some (some base, internal))
    (htransient : s.fetchTransient internal (extractToken r) = some transient)
    (hdiffers : transient ≠ extractToken r) (hlocation : (resolve s r).location = some location) :
    OnlyTransient transient (extractToken r) location <->
      CleanQuery (redirectQuery base (redirectURI r (substituteFor s r))) (extractToken r) := by
  have hquery := resolve_query hlookup htransient hlocation
  constructor
  · intro h pair hpair hname
    have hcredentials := h.credentials
    rw [hquery] at hcredentials
    have hvalues := h.values
    rw [hquery] at hvalues
    rcases (credentials_setValue _ _).mp hcredentials pair hpair hname with ⟨htoken, hauth⟩
    refine ⟨htoken, hauth, ?_⟩
    apply hvalues
    rw [mem_parseQuery_encode, mem_setValue]
    exact Or.inl ⟨hpair, hname⟩
  intro h
  constructor
  · rw [hquery]
    apply (credentials_setValue _ _).mpr
    intro pair hpair hname
    exact ⟨(h pair hpair hname).left, (h pair hpair hname).right.left⟩
  intro pair hpair
  rw [hquery, mem_parseQuery_encode, mem_setValue] at hpair
  rcases hpair with ⟨hmem, hname⟩ | hset
  · exact (h pair hmem hname).right.right
  rw [hset]
  exact hdiffers

def mediaBase : MediaOrigin :=
  ⟨str "https", str "media.example:32400", [], [], []⟩

def delegatingStore : Store where
  lookup := some (some mediaBase, str "http://pms:32400")
  fetchTransient := fun _ _ => some (str "transient")
  partPolicy := none
  publicHost := str "replx.example"
  publicHost_ascii := replxExample_isASCII

def partWith (rawQuery : GoString) : Request :=
  Request.bareGet (str "/library/parts/301/17/file.mkv") rawQuery Header.empty

theorem redirect_credentials_plex_token :
    exists location,
      (resolve delegatingStore (partWith (str "offset=7&X-Plex-Token=t"))).location =
        some location ∧
      OnlyTransient (str "transient") (str "t") location := by
  have htoken : extractToken (partWith (str "offset=7&X-Plex-Token=t")) = str "t" := by
    decide +kernel
  have hquery : parseQuery (redirectQuery mediaBase (redirectURI
      (partWith (str "offset=7&X-Plex-Token=t"))
      (substituteFor delegatingStore (partWith (str "offset=7&X-Plex-Token=t"))))) =
      [(str "offset", str "7"), (str "X-Plex-Token", str "t")] := by
    decide +kernel
  rcases Option.isSome_iff_exists.mp (show (resolve delegatingStore
    (partWith (str "offset=7&X-Plex-Token=t"))).location.isSome = true by decide +kernel)
    with ⟨location, hlocation⟩
  refine ⟨location, hlocation, ?_⟩
  have hiff := redirect_credentials_iff delegatingStore
    (partWith (str "offset=7&X-Plex-Token=t")) mediaBase (str "http://pms:32400")
    (str "transient") location rfl rfl (by rw [htoken]; decide) hlocation
  rw [htoken] at hiff
  apply hiff.mpr
  intro pair hpair hname
  rw [hquery, List.mem_cons, List.mem_singleton] at hpair
  rcases hpair with hoffset | hcaller
  · rw [hoffset]
    decide
  rw [hcaller] at hname
  exact absurd rfl hname

/-- A token under another accepted name stays in the redirect. -/
theorem query_token_redirected :
    classify (partWith (str "token=t")).path = .mediaRedirect ∧
    extractToken (partWith (str "token=t")) = str "t" ∧
    exists location,
      (resolve delegatingStore (partWith (str "token=t"))).location = some location ∧
      (str "token", str "t") ∈ parseQuery location.rawQuery ∧
      ¬ OnlyTransient (str "transient") (str "t") location := by
  refine ⟨by decide +kernel, by decide +kernel, ?_⟩
  rcases Option.isSome_iff_exists.mp (show (resolve delegatingStore
    (partWith (str "token=t"))).location.isSome = true by decide +kernel)
    with ⟨location, hlocation⟩
  have hmem : (str "token", str "t") ∈ parseQuery location.rawQuery := by
    have hquery : parseQuery (redirectQuery mediaBase (redirectURI (partWith (str "token=t"))
        (substituteFor delegatingStore (partWith (str "token=t"))))) =
        [(str "token", str "t")] := by
      decide +kernel
    rw [resolve_query rfl rfl hlocation, mem_parseQuery_encode, mem_setValue, hquery]
    left
    exact ⟨List.mem_singleton_self _, by decide⟩
  refine ⟨location, hlocation, hmem, ?_⟩
  intro h
  exact h.values _ hmem rfl

end ReplxEdge.Spike
