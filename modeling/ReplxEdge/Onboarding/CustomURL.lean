import ReplxEdge.Net.Query

/-!
# The server access URLs of the origin

A verification that does not find the public address among the addresses of the server
writes it into a preference of the origin. The preference is a list in one text, and a
write replaces the text.
-/

namespace ReplxEdge.Onboarding

open Foundation
open Net

/-- The URLs of a `customConnections` preference. -/
def customURLs (value : GoString) : List GoString :=
  (split value 44).filter fun url => url != []

/-- What the two requests to the origin meet: whether they can be built, whether the read is
answered, whether the write takes effect, and the status of its answer, if there is one. -/
structure PrefsCalls where
  built : Bool
  read : Bool
  applied : Bool
  status : Option Nat

def prefsQuery (publicURL pmsToken : GoString) : GoString :=
  str "customConnections=" ++ queryEscape publicURL ++ str "&X-Plex-Token=" ++
    queryEscape pmsToken

/-- The preference behind the call, and whether the call succeeds. What the read returns is
not looked at. -/
def tryConfigureCustomURL (publicURL pmsToken : GoString) (calls : PrefsCalls)
    (value : GoString) : GoString × Bool :=
  if calls.built && calls.read then
    (if calls.applied then
        (parseQuery (prefsQuery publicURL pmsToken)).get (str "customConnections")
      else value,
      calls.status.any fun status => 200 ≤ status && status < 300)
  else (value, false)

/-- `Verify` behind the comparison of the identities: the preference, and whether the public
address is found. `relisted` is what the second listing says, if it succeeds. -/
def verifyCustomURL (publicURL pmsToken : GoString) (present : Bool) (calls : PrefsCalls)
    (relisted : Option Bool) (value : GoString) : GoString × Bool :=
  if present || publicURL == [] then (value, present)
  else
    let configured := tryConfigureCustomURL publicURL pmsToken calls value
    (configured.1, configured.2 && relisted.getD false)

structure KeepsURLs (publicURL old new : GoString) : Prop where
  listed : publicURL ∈ customURLs new
  kept : forall url, url ∈ customURLs old -> url ∈ customURLs new

variable {publicURL pmsToken : GoString}

theorem parseQuery_prefsQuery : parseQuery (prefsQuery publicURL pmsToken) =
    [(str "customConnections", publicURL), (str "X-Plex-Token", pmsToken)] := by
  have hquery : prefsQuery publicURL pmsToken = join 38
      ([(str "customConnections", publicURL), (str "X-Plex-Token", pmsToken)].map encodePair) := by
    have hname : queryEscape (str "customConnections") = str "customConnections" := by decide
    have htoken : queryEscape (str "X-Plex-Token") = str "X-Plex-Token" := by decide
    have hfirst : str "customConnections=" = str "customConnections" ++ [61] := rfl
    have hsecond : str "&X-Plex-Token=" = 38 :: str "X-Plex-Token" ++ [61] := rfl
    simp [prefsQuery, join, encodePair, hname, htoken, hfirst, hsecond]
  unfold parseQuery segments
  rw [hquery, split_join_encodePair (List.cons_ne_nil _ _)]
  simp [encodePair_ne_nil, readSegment_encodePair, Segment.pair?]

theorem customURLs_single (hurl : publicURL ≠ []) (hcomma : 44 ∉ publicURL) :
    customURLs publicURL = [publicURL] := by
  have hsplit : split publicURL 44 = [publicURL] := by
    have hjoin : List.splitOn 44 ([44].intercalate [publicURL]) = [publicURL] :=
      List.splitOn_intercalate 44 (by simpa using hcomma) (by simp)
    simpa [split] using hjoin
  simp [customURLs, hsplit, hurl]

/-- A verification that configures the origin keeps the list exactly when the write takes
effect and nothing but the one public address was listed, or it does not and the public
address was listed already. -/
theorem custom_urls_kept_iff (publicURL pmsToken : GoString) (calls : PrefsCalls)
    (relisted : Option Bool) (value : GoString) (hurl : publicURL ≠ []) :
    KeepsURLs publicURL value (verifyCustomURL publicURL pmsToken false calls relisted value).1 <->
      if calls.built && calls.read && calls.applied then
        44 ∉ publicURL ∧ forall url, url ∈ customURLs value -> url = publicURL
      else publicURL ∈ customURLs value := by
  have hnew : (verifyCustomURL publicURL pmsToken false calls relisted value).1 =
      if calls.built && calls.read && calls.applied then publicURL else value := by
    have hget : (parseQuery (prefsQuery publicURL pmsToken)).get (str "customConnections") =
        publicURL := by
      rw [parseQuery_prefsQuery]
      simp [Values.get]
    simp only [verifyCustomURL, tryConfigureCustomURL, hget]
    cases calls.built <;> cases calls.read <;> cases calls.applied <;> simp [hurl]
  rw [hnew]
  split
  · constructor
    · intro h
      have hcomma := not_mem_of_mem_split (List.mem_filter.mp h.listed).left
      refine ⟨hcomma, fun url hold => ?_⟩
      have hkept := h.kept url hold
      rw [customURLs_single hurl hcomma] at hkept
      exact List.mem_singleton.mp hkept
    intro h
    have hself : publicURL ∈ customURLs publicURL := by
      rw [customURLs_single hurl h.left]
      exact List.mem_singleton.mpr rfl
    exact ⟨hself, fun url hold => h.right url hold ▸ hself⟩
  · exact ⟨fun h => h.listed, fun h => ⟨h, fun _ hold => hold⟩⟩

def accepted : PrefsCalls :=
  ⟨true, true, true, some 200⟩

theorem custom_urls_kept_listed : KeepsURLs (str "https://edge") (str "https://edge")
    (verifyCustomURL (str "https://edge") (str "t") false accepted (some true)
      (str "https://edge")).1 :=
  (custom_urls_kept_iff _ _ accepted (some true) (str "https://edge") (by decide)).mpr (by decide)

/-- The address that the administrator had listed is gone. -/
theorem listed_url_overwritten : ¬ forall (publicURL pmsToken : GoString) (calls : PrefsCalls)
    (relisted : Option Bool) (value : GoString), publicURL ≠ [] -> KeepsURLs publicURL value
        (verifyCustomURL publicURL pmsToken false calls relisted value).1 := by
  intro h
  have hkept := (h (str "https://edge") (str "t") accepted (some true)
    (str "https://edge,https://lan") (by decide)).kept (str "https://lan") (by decide)
  exact absurd hkept (by decide)

end ReplxEdge.Onboarding
