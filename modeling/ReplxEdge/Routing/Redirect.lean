import ReplxEdge.Net.Resolve
import ReplxEdge.Spike.Resolve

/-!
# The redirect builder

From the texts of an origin and of a part path to the text of a redirect. A part path may
not name a host, and the target has to keep the hostname of the origin. User information is
not looked at: a part path of a user and no host takes the place of the origin's authority,
and only the comparison of the hostnames stops it.
-/

namespace ReplxEdge.Routing

open Foundation
open Net
open Spike (setValue)

/-!
## Building
-/

inductive BuildError where
  | partPathNotAbsolute
  | invalidOriginBase
  | originNotHTTPS
  | originMissingHost
  | originPointsBack
  | tokenMissing
  | invalidPartPath
  | partPathAuthority
  | escapedOrigin
deriving DecidableEq

/-- What an error says; behind a colon follows the message of the parser. -/
def BuildError.message : BuildError -> GoString
  | partPathNotAbsolute => str "part path must be absolute"
  | invalidOriginBase => str "invalid origin base: "
  | originNotHTTPS => str "origin base must be https"
  | originMissingHost => str "origin base missing host"
  | originPointsBack => str "origin must not point back at replx-edge hostname"
  | tokenMissing => str "media token is required"
  | invalidPartPath => str "invalid part path: "
  | partPathAuthority => str "part path must be origin-relative, without authority"
  | escapedOrigin => str "redirect target escaped the configured origin"

def redirectLink (base ref : Link) (token : GoString) : Except BuildError Link :=
  let target := resolveReference base ref
  if equalFoldText (hostname target.url.host) (hostname base.url.host) = false ∨
      equalFoldText target.url.scheme base.url.scheme = false then
    Except.error .escapedOrigin
  else
    Except.ok (target.withQuery
      (setValue (parseQuery target.url.rawQuery) (str "X-Plex-Token") token).encode)

/-- The checks of the two texts in front of the target. -/
def directOriginLink (originBase partPath token replxPublicHost : GoString) :
    Except BuildError Link :=
  if hasPrefix partPath (str "/") = false then Except.error .partPathNotAbsolute
  else
    match parseLink originBase with
    | none => Except.error .invalidOriginBase
    | some base =>
      if base.url.scheme ≠ str "https" then Except.error .originNotHTTPS
      else if base.url.host = [] then Except.error .originMissingHost
      else if replxPublicHost ≠ [] ∧
          equalFoldText (hostname base.url.host) replxPublicHost = true then
        Except.error .originPointsBack
      else if token = [] then Except.error .tokenMissing
      else
        match parseLink partPath with
        | none => Except.error .invalidPartPath
        | some ref =>
          if ref.url.scheme ≠ [] ∨ ref.url.host ≠ [] ∨ ref.url.rootless ≠ [] then
            Except.error .partPathAuthority
          else redirectLink base ref token

def buildDirectOriginURL (originBase partPath token replxPublicHost : GoString) :
    Except BuildError GoString :=
  (directOriginLink originBase partPath token replxPublicHost).map Link.text

/-!
## What is built
-/

/-- A URL on the origin, off the public hostname, with one token and the other pairs of the
part path. -/
structure Redirects (base ref : Link) (token replxPublicHost : GoString) (u : URL) : Prop where
  https : u.scheme = str "https"
  host : u.host = base.url.host
  elsewhere : equalFoldText (hostname u.host) replxPublicHost = false
  credential : (parseQuery u.rawQuery).all (str "X-Plex-Token") = [token]
  pairs : forall name, name ≠ str "X-Plex-Token" ->
    (parseQuery u.rawQuery).all name = (parseQuery ref.url.rawQuery).all name

def CarriesAuthority (u : URL) : Prop :=
  u.scheme ≠ [] ∨ u.host ≠ [] ∨ u.user ≠ none ∨ u.rootless ≠ []

structure BuilderHolds (originBase partPath token replxPublicHost : GoString) : Prop where
  built : forall text,
    buildDirectOriginURL originBase partPath token replxPublicHost = Except.ok text ->
      exists base ref u, parseLink originBase = some base ∧ parseLink partPath = some ref ∧
        parseURL text = some u ∧ Redirects base ref token replxPublicHost u
  rejected : forall ref, parseURL partPath = some ref -> CarriesAuthority ref ->
    exists e, buildDirectOriginURL originBase partPath token replxPublicHost = Except.error e

structure Checked (originBase partPath token replxPublicHost : GoString) (base ref : Link) :
    Prop where
  absolute : hasPrefix partPath (str "/") = true
  base_parsed : parseLink originBase = some base
  https : base.url.scheme = str "https"
  host : base.url.host ≠ []
  elsewhere : ¬ (replxPublicHost ≠ [] ∧
    equalFoldText (hostname base.url.host) replxPublicHost = true)
  token_ne : token ≠ []
  ref_parsed : parseLink partPath = some ref
  ref_host : ref.url.host = []

/-- The origins and part paths that the builder treats as promised: the host of the origin
can be written, a part path of nothing does not bring in other parameters of the origin, and
user information meets an origin with a hostname. -/
def SafePart (base ref : Link) : Prop :=
  (ref.url.user = none ∧ AsciiZone base.url.host ∧
      (ref.url.Bare -> forall pair, pair ∈ parseQuery base.url.rawQuery ->
        pair.1 = str "X-Plex-Token")) ∨
    (ref.url.user ≠ none ∧ hostname base.url.host ≠ [])

variable {l : Link}

theorem parseLink_url {text : GoString} (h : parseLink text = some l) :
    parseURL text = some l.url := by
  rcases Option.map_eq_some_iff.mp h with ⟨u, hu, rfl⟩
  exact hu

section Builder

variable {originBase partPath token replxPublicHost : GoString} {base ref : Link}

theorem Checked.relative (h : Checked originBase partPath token replxPublicHost base ref) :
    Relative ref.url := by
  have habsolute := hasPrefix_eq_true.mp h.absolute
  have hparsed := parseLink_url h.ref_parsed
  rcases habsolute with ⟨rest, rfl⟩
  exact parseURL_relative hparsed

theorem Checked.directOriginLink_eq
    (h : Checked originBase partPath token replxPublicHost base ref) :
    directOriginLink originBase partPath token replxPublicHost = redirectLink base ref token := by
  have hrelative := h.relative
  unfold directOriginLink
  rw [if_neg (by rw [h.absolute]; decide), h.base_parsed]
  simp only
  rw [if_neg (not_not.mpr h.https), if_neg h.host, if_neg h.elsewhere, if_neg h.token_ne,
    h.ref_parsed]
  simp only
  rw [if_neg (by simp [hrelative.scheme, hrelative.rootless, h.ref_host])]

theorem directOriginLink_ok
    (h : directOriginLink originBase partPath token replxPublicHost = Except.ok l) :
    exists base ref, Checked originBase partPath token replxPublicHost base ref ∧
      redirectLink base ref token = Except.ok l := by
  unfold directOriginLink at h
  split at h
  · cases h
  rename_i habsolute
  split at h
  · cases h
  rename_i base hbase
  split at h
  · cases h
  rename_i hhttps
  split at h
  · cases h
  rename_i hhost
  split at h
  · cases h
  rename_i helsewhere
  split at h
  · cases h
  rename_i htoken
  split at h
  · cases h
  rename_i ref href
  split at h
  · cases h
  rename_i hauthority
  rw [not_or, not_or, not_not, not_not, not_not] at hauthority
  refine ⟨base, ref, ⟨by simpa using habsolute, hbase, not_not.mp hhttps,
    hhost, helsewhere, htoken, href, hauthority.right.left⟩, h⟩

theorem Checked.base_named (h : Checked originBase partPath token replxPublicHost base ref) :
    ParsedHost base.url.host ∧ base.url.rootless = [] := by
  apply parseURL_named (parseLink_url h.base_parsed) _ h.host
  rw [h.https]
  decide

theorem redirectLink_taken (token : GoString)
    (hname : hostname (resolveReference base ref).url.host = hostname base.url.host)
    (hscheme : (resolveReference base ref).url.scheme = base.url.scheme) :
    redirectLink base ref token = Except.ok ((resolveReference base ref).withQuery
      (setValue (parseQuery (resolveReference base ref).url.rawQuery) (str "X-Plex-Token")
        token).encode) := by
  unfold redirectLink
  simp only
  rw [hname, hscheme, equalFoldText_refl, equalFoldText_refl, if_neg (by decide)]

theorem Checked.redirectLink_plain (h : Checked originBase partPath token replxPublicHost base ref)
    (huser : ref.url.user = none) :
    exists l, redirectLink base ref token = Except.ok l ∧ l.Absolute ∧
      l.url.scheme = str "https" ∧ l.url.host = base.url.host ∧
      l.url.rawQuery = (setValue (parseQuery
        (if ref.url.Bare then base.url.rawQuery else ref.url.rawQuery))
        (str "X-Plex-Token") token).encode := by
  rcases h.base_named with ⟨hhost, hrootless⟩
  rcases resolveReference_plain (u := base) h.relative h.ref_host huser hrootless with
    ⟨path, rawPath, _, hrooted, hurl⟩
  have hok := redirectLink_taken token (by rw [hurl]) (by rw [hurl])
  refine ⟨_, hok, ?_, ?_, ?_, ?_⟩
  · constructor
    · rw [Link.withQuery, hurl, h.https]
      exact validScheme_of_all (by decide)
    · rw [Link.withQuery, hurl, h.https]
      decide
    · rw [Link.withQuery, hurl]
      exact hhost
    · rw [Link.withQuery, hurl]
      exact h.host
    · rw [Link.withQuery, hurl]
    rw [Link.withQuery, hurl]
    exact hrooted
  · rw [Link.withQuery, hurl, h.https]
  · rw [Link.withQuery, hurl]
  · rw [Link.withQuery, hurl]

theorem Checked.redirectLink_user (h : Checked originBase partPath token replxPublicHost base ref)
    (huser : ref.url.user ≠ none) :
    (exists l, redirectLink base ref token = Except.ok l) <-> hostname base.url.host = [] := by
  rcases resolveReference_user (u := base) h.relative h.ref_host huser with
    ⟨path, rawPath, _, hurl⟩
  have hempty : hostname [] = [] := rfl
  constructor
  · intro hok
    rcases hok with ⟨l, hl⟩
    unfold redirectLink at hl
    simp only [hurl, hempty] at hl
    split at hl
    · cases hl
    rename_i hkept
    rw [not_or, Bool.not_eq_false, Bool.not_eq_false] at hkept
    exact equalFoldText_nil hkept.left
  intro hnone
  exact ⟨_, redirectLink_taken token (by rw [hurl, hnone, hempty]) (by rw [hurl])⟩

theorem buildDirectOriginURL_ok {text : GoString} :
    buildDirectOriginURL originBase partPath token replxPublicHost = Except.ok text <->
      exists l, directOriginLink originBase partPath token replxPublicHost = Except.ok l ∧
        l.text = text := by
  unfold buildDirectOriginURL
  cases directOriginLink originBase partPath token replxPublicHost with
  | error e =>
    constructor
    · intro h
      cases h
    intro h
    rcases h with ⟨l, hl, _⟩
    cases hl
  | ok l =>
    constructor
    · intro h
      cases h
      exact ⟨l, rfl, rfl⟩
    intro h
    rcases h with ⟨other, hother, rfl⟩
    cases hother
    rfl

theorem read_setValue {raw : GoString} (values : Values) (name : GoString)
    (hraw : raw = (setValue values (str "X-Plex-Token") token).encode) :
    (parseQuery (before raw 35)).all (str "X-Plex-Token") = [token] ∧
      (name ≠ str "X-Plex-Token" ->
        (parseQuery (before raw 35)).all name = values.all name) := by
  have hnumber : 35 ∉ raw := by
    rw [hraw]
    exact separator_not_mem_encode (by decide) (by decide) (by decide) _
  rw [before_of_not_mem hnumber, hraw, all_parseQuery_encode, all_parseQuery_encode]
  refine ⟨all_replaced values _ token, ?_⟩
  intro hname
  exact all_replaced_of_ne hname.symm values token

end Builder

theorem all_of_bare {u : URL} (h : u.Bare) (name : GoString) :
    (parseQuery u.rawQuery).all name = [] := by
  rw [h.right.right]
  rfl

theorem Checked.redirects_iff {originBase partPath token replxPublicHost : GoString}
    {base ref : Link} (h : Checked originBase partPath token replxPublicHost base ref)
    (hpublic : replxPublicHost ≠ []) (huser : ref.url.user = none)
    (hl : redirectLink base ref token = Except.ok l) :
    (exists u, parseURL l.text = some u ∧ Redirects base ref token replxPublicHost u) <->
      SafePart base ref := by
  rcases h.redirectLink_plain huser with ⟨other, hother, habsolute, hscheme, hhost, hquery⟩
  rw [hl] at hother
  cases hother
  have hsome := habsolute.isSome_parse
  constructor
  · intro hexists
    rcases hexists with ⟨u, hu, hredirects⟩
    rw [hu, hhost] at hsome
    refine Or.inl ⟨huser, (hsome.mp rfl).left, ?_⟩
    intro hbare pair hpair
    by_contra hname
    have hread := (read_setValue _ pair.1 hquery).right hname
    have hpairs := hredirects.pairs pair.1 hname
    rw [(habsolute.readBack hu).query, hread, if_pos hbare, all_of_bare hbare] at hpairs
    have hmem : pair.2 ∈ (parseQuery base.url.rawQuery).all pair.1 :=
      List.mem_map.mpr ⟨pair, List.mem_filter.mpr ⟨hpair, by simp⟩, rfl⟩
    rw [hpairs] at hmem
    cases hmem
  intro hsafe
  rcases hsafe with ⟨_, hzone, hpairs⟩ | ⟨hnamed, _⟩
  · have hreadable : ReadableQuery l.url.rawQuery := by
      rw [hquery]
      exact readableQuery_encode _
    rw [← hhost] at hzone
    rcases Option.isSome_iff_exists.mp (hsome.mpr ⟨hzone, hreadable⟩) with ⟨u, hu⟩
    have hback := habsolute.readBack hu
    refine ⟨u, hu, hback.scheme.trans hscheme, hback.host.trans hhost, ?_, ?_, ?_⟩
    · rw [hback.host, hhost]
      have helsewhere := h.elsewhere
      rw [not_and, Bool.not_eq_true] at helsewhere
      exact helsewhere hpublic
    · rw [hback.query]
      exact (read_setValue _ [] hquery).left
    intro name hname
    rw [hback.query, (read_setValue _ name hquery).right hname]
    split
    · rename_i hbare
      rw [all_of_bare hbare]
      unfold Values.all
      rw [List.map_eq_nil_iff, List.filter_eq_nil_iff]
      intro pair hpair hsame
      exact hname ((beq_iff_eq.mp hsame).symm.trans (hpairs hbare pair hpair))
    · rfl
  · exact absurd huser hnamed

/-- For every origin, part path, token and public hostname, the builder keeps its promise
exactly when every part path that passes its checks is safe. -/
theorem redirect_builder_iff (originBase partPath token replxPublicHost : GoString)
    (hpublic : replxPublicHost ≠ []) :
    BuilderHolds originBase partPath token replxPublicHost <->
      forall base ref, Checked originBase partPath token replxPublicHost base ref ->
        SafePart base ref := by
  constructor
  · intro hholds base ref hchecked
    have heq := hchecked.directOriginLink_eq
    by_cases huser : ref.url.user = none
    · rcases hchecked.redirectLink_plain huser with ⟨l, hl, _⟩
      rcases hholds.built l.text (buildDirectOriginURL_ok.mpr ⟨l, heq.trans hl, rfl⟩) with
        ⟨base', ref', u, hbase, href, hu, hredirects⟩
      rw [hchecked.base_parsed] at hbase
      rw [hchecked.ref_parsed] at href
      cases hbase
      cases href
      exact (hchecked.redirects_iff hpublic huser hl).mp ⟨u, hu, hredirects⟩
    refine Or.inr ⟨huser, ?_⟩
    intro hnone
    rcases (hchecked.redirectLink_user huser).mpr hnone with ⟨l, hl⟩
    rcases hholds.rejected ref.url (parseLink_url hchecked.ref_parsed)
      (Or.inr (Or.inr (Or.inl huser))) with ⟨e, he⟩
    rw [buildDirectOriginURL_ok.mpr ⟨l, heq.trans hl, rfl⟩] at he
    cases he
  intro hsafe
  constructor
  · intro text htext
    rcases buildDirectOriginURL_ok.mp htext with ⟨l, hl, rfl⟩
    rcases directOriginLink_ok hl with ⟨base, ref, hchecked, hlink⟩
    have hpart := hsafe base ref hchecked
    by_cases huser : ref.url.user = none
    · rcases (hchecked.redirects_iff hpublic huser hlink).mpr hpart with ⟨u, hu, hredirects⟩
      exact ⟨base, ref, u, hchecked.base_parsed, hchecked.ref_parsed, hu, hredirects⟩
    rcases hpart with ⟨hnone, _⟩ | ⟨_, hnamed⟩
    · exact absurd hnone huser
    · exact absurd ((hchecked.redirectLink_user huser).mp ⟨l, hlink⟩) hnamed
  intro part hpart hcarries
  cases hbuild : buildDirectOriginURL originBase partPath token replxPublicHost with
  | error e => exact ⟨e, rfl⟩
  | ok text =>
    rcases buildDirectOriginURL_ok.mp hbuild with ⟨l, hl, _⟩
    rcases directOriginLink_ok hl with ⟨base, ref, hchecked, hlink⟩
    have hsame : ref.url = part := by
      have hurl := parseLink_url hchecked.ref_parsed
      rw [hpart] at hurl
      exact (Option.some.inj hurl).symm
    have huser : ref.url.user ≠ none := by
      rw [← hsame] at hcarries
      rcases hcarries with hscheme | hhost | huser | hrootless
      · exact absurd hchecked.relative.scheme hscheme
      · exact absurd hchecked.ref_host hhost
      · exact huser
      · exact absurd hchecked.relative.rootless hrootless
    rcases hsafe base ref hchecked with ⟨hnone, _⟩ | ⟨_, hnamed⟩
    · exact absurd hnone huser
    · exact absurd ((hchecked.redirectLink_user huser).mp ⟨l, hlink⟩) hnamed

theorem checked_part : exists base ref,
    Checked (str "https://origin:32400") (str "/library/parts/7/a.mkv?a=b") (str "t")
      (str "plex.example") base ref ∧ ref.url.user = none := by
  refine ⟨_, _, ⟨by decide, rfl, rfl, by decide, by decide +kernel, by decide, rfl, rfl⟩, rfl⟩

theorem redirect_builder_part :
    BuilderHolds (str "https://origin:32400") (str "/library/parts/7/a.mkv?a=b") (str "t")
        (str "plex.example") ∧
      exists text, buildDirectOriginURL (str "https://origin:32400")
        (str "/library/parts/7/a.mkv?a=b") (str "t") (str "plex.example") =
          Except.ok text := by
  constructor
  · refine (redirect_builder_iff _ _ _ _ (by decide)).mpr ?_
    intro base ref hchecked
    have hbase := parseLink_url hchecked.base_parsed
    have href := parseLink_url hchecked.ref_parsed
    have hhost : parseURL (str "https://origin:32400") =
        some ⟨str "https", none, str "origin:32400", [], [], [], [], false⟩ := by
      decide +kernel
    have hpart : parseURL (str "/library/parts/7/a.mkv?a=b") =
        some ⟨[], none, [], [], str "/library/parts/7/a.mkv", [], str "a=b", false⟩ := by
      decide +kernel
    rw [hhost, Option.some.injEq] at hbase
    rw [hpart, Option.some.injEq] at href
    left
    rw [← hbase, ← href]
    refine ⟨rfl, fun hopen => absurd hopen (by decide), ?_⟩
    intro hbare
    exact absurd hbare (by decide)
  rcases checked_part with ⟨base, ref, hchecked, huser⟩
  rcases hchecked.redirectLink_plain huser with ⟨l, hl, _⟩
  exact ⟨l.text, buildDirectOriginURL_ok.mpr ⟨l, hchecked.directOriginLink_eq.trans hl, rfl⟩⟩

theorem token_encode : (setValue [] (str "X-Plex-Token") (str "t")).encode =
    str "X-Plex-Token=t" := by
  change Values.encode [(str "X-Plex-Token", str "t")] = _
  rw [encode_singleton]
  decide

/-- Against an origin without a hostname a part path of a user takes the place of the
authority. -/
theorem user_replaces_authority :
    parseURL (str "//user@/x") =
        some ⟨[], some (str "user"), [], [], str "/x", [], [], false⟩ ∧
      CarriesAuthority ⟨[], some (str "user"), [], [], str "/x", [], [], false⟩ ∧
      buildDirectOriginURL (str "https://:443") (str "//user@/x") (str "t")
        (str "plex.example") = Except.ok (str "https://user@/x?X-Plex-Token=t") ∧
      (parseURL (str "https://user@/x?X-Plex-Token=t")).map URL.host = some [] ∧
      ¬ BuilderHolds (str "https://:443") (str "//user@/x") (str "t") (str "plex.example") := by
  have hpart : parseURL (str "//user@/x") =
      some ⟨[], some (str "user"), [], [], str "/x", [], [], false⟩ := by
    decide +kernel
  have hcarries :
      CarriesAuthority ⟨[], some (str "user"), [], [], str "/x", [], [], false⟩ :=
    Or.inr (Or.inr (Or.inl (Option.some_ne_none _)))
  have hbuilt : buildDirectOriginURL (str "https://:443") (str "//user@/x") (str "t")
      (str "plex.example") = Except.ok (str "https://user@/x?X-Plex-Token=t") := by
    have hlink : directOriginLink (str "https://:443") (str "//user@/x") (str "t")
        (str "plex.example") = Except.ok ⟨⟨str "https", some (str "user"), [], [], str "/x",
          [], (setValue [] (str "X-Plex-Token") (str "t")).encode, false⟩, false, []⟩ := rfl
    rw [buildDirectOriginURL, hlink, token_encode]
    rfl
  refine ⟨hpart, hcarries, hbuilt, by decide +kernel, ?_⟩
  intro hholds
  rcases hholds.rejected _ hpart hcarries with ⟨e, he⟩
  rw [hbuilt] at he
  cases he

end ReplxEdge.Routing
