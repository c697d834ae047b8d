import ReplxEdge.Net.Reparse

/-!
# References

Texts that start with a slash, and what they mean against a base. Such a text has no scheme.
Two slashes start an authority, which may name a user and no host. Dot segments are removed
from the encoded path.
-/

namespace ReplxEdge.Net

open Foundation

variable {text : GoString} {user : Option GoString} {state : GoString × Bool}

/-!
## Texts that start with a slash
-/

theorem getScheme_slash (rest : GoString) :
    getScheme (47 :: rest) = some ([], 47 :: rest) := by
  have hbyte : ¬ isSchemeByte 47 = true := by decide
  unfold getScheme
  rw [List.takeWhile_cons_of_neg hbyte, List.dropWhile_cons_of_neg hbyte]
  rfl

theorem before_slash {c : UInt8} (hc : 47 ≠ c) (rest : GoString) :
    before (47 :: rest) c = 47 :: before rest c :=
  before_append (a := [47]) (by simpa using hc.symm) rest

theorem parseURL_slash (rest : GoString) :
    parseURL (47 :: rest) =
      if (before (47 :: rest) 35).any isControlByte || !validEscapes (after (47 :: rest) 35) then
        none else parseHierarchy [] (before (before (47 :: rest) 35) 63)
          (after (before (47 :: rest) 35) 63) (isForceQuery (before (47 :: rest) 35)) := by
  unfold parseURL
  rw [before_slash (by decide)]
  simp only
  split
  · rfl
  rw [if_neg (by intro hstar; cases hstar), getScheme_slash]
  rfl

theorem rooted_of_setPath {path rawPath : GoString}
    (h : setPath text = some (path, rawPath)) (htext : text = [] ∨ text.head? = some 47) :
    escapedPath path rawPath = [] ∨ (escapedPath path rawPath).head? = some 47 := by
  unfold setPath at h
  split at h
  · cases h
  rename_i decoded hdecoded
  cases h
  rcases htext with rfl | hhead
  · cases hdecoded
    exact Or.inl rfl
  right
  cases text with
  | nil => cases hhead
  | cons b rest =>
    cases hhead
    rw [pathUnescape_plain (by decide)] at hdecoded
    rcases Option.map_eq_some_iff.mp hdecoded with ⟨tail, _, rfl⟩
    apply escapedPath_head rfl
    split
    · exact Or.inl rfl
    · exact Or.inr rfl

/-- What a text that starts with a slash cannot name. -/
structure Relative (u : URL) : Prop where
  scheme : u.scheme = []
  rootless : u.rootless = []
  rooted : escapedPath u.path u.rawPath = [] ∨
    (escapedPath u.path u.rawPath).head? = some 47

theorem relative_withPath {host rawQuery : GoString}
    {forceQuery : Bool} {u : URL} (htext : text = [] ∨ text.head? = some 47)
    (h : withPath [] user host text rawQuery forceQuery = some u) : Relative u := by
  unfold withPath at h
  rcases Option.map_eq_some_iff.mp h with ⟨parsed, hparsed, rfl⟩
  exact ⟨rfl, rfl, rooted_of_setPath hparsed htext⟩

theorem parseURL_relative {rest : GoString} {u : URL} (h : parseURL (47 :: rest) = some u) :
    Relative u := by
  rw [parseURL_slash] at h
  split at h
  · cases h
  rw [before_slash (by decide), before_slash (by decide)] at h
  have hslash : hasPrefix (47 :: before (before rest 35) 63) (str "/") = true :=
    hasPrefix_eq_true.mpr ⟨before (before rest 35) 63, rfl⟩
  unfold parseHierarchy at h
  rw [if_neg (by rw [hslash]; decide)] at h
  split at h
  · split at h
    · cases h
    · exact relative_withPath (head_dropWhile_slash _) h
  · exact relative_withPath (Or.inr rfl) h

/-!
## Removing dot segments
-/

theorem validEscapes_concat {a b : GoString} (ha : validEscapes a = true)
    (hb : validEscapes b = true) : validEscapes (a ++ b) = true := by
  rcases Option.isSome_iff_exists.mp ha with ⟨path, hpath⟩
  rw [validEscapes, pathUnescape_append hpath, Option.isSome_map]
  exact hb

theorem validEscapes_cons_slash (a : GoString) : validEscapes (47 :: a) = validEscapes a :=
  validEscapes_append (by decide) (by decide) [] a

theorem validEscapes_join {elems : List GoString} (h : validEscapes (join 47 elems) = true) :
    forall elem, elem ∈ elems -> validEscapes elem = true := by
  induction elems with
  | nil =>
    intro elem helem
    cases helem
  | cons first rest ih =>
    cases rest with
    | nil =>
      intro elem helem
      rw [List.mem_singleton.mp helem]
      simpa [join] using h
    | cons second rest =>
      have hjoin : join 47 (first :: second :: rest) =
          first ++ 47 :: join 47 (second :: rest) := by
        simp [join]
      rw [hjoin, validEscapes_append (by decide) (by decide), Bool.and_eq_true] at h
      intro elem helem
      rcases List.mem_cons.mp helem with rfl | htail
      · exact h.left
      · exact ih h.right elem htail

theorem validEscapes_split (h : validEscapes text = true) :
    forall elem, elem ∈ split text 47 -> validEscapes elem = true := by
  apply validEscapes_join
  unfold join split
  rw [List.intercalate_splitOn]
  exact h

theorem beforeLastSlash_some {s kept : GoString} (h : beforeLastSlash s = some kept) :
    exists tail, s = kept ++ 47 :: tail := by
  unfold beforeLastSlash at h
  split at h
  · rename_i hslash
    rcases exists_last hslash with ⟨front, tail, rfl, hlast⟩
    have hfront := beforeLast_append front hlast
    refine ⟨tail, ?_⟩
    rw [← Option.some.inj h]
    exact congrArg (· ++ 47 :: tail) hfront.symm
  · cases h

structure CleanPath (path : GoString) : Prop where
  rooted : path.head? = some 47
  escapes : validEscapes path = true

theorem CleanPath.exists_tail {path : GoString} (h : CleanPath path) :
    exists tail, path = 47 :: tail ∧ validEscapes tail = true := by
  cases hpath : path with
  | nil =>
    have hrooted := h.rooted
    rw [hpath] at hrooted
    cases hrooted
  | cons b tail =>
    have hrooted := h.rooted
    have hescapes := h.escapes
    rw [hpath] at hrooted hescapes
    cases hrooted
    exact ⟨tail, rfl, (validEscapes_cons_slash tail).symm.trans hescapes⟩

theorem CleanPath.concat {path : GoString} (h : CleanPath path) {tail : GoString}
    (htail : validEscapes tail = true) : CleanPath (path ++ tail) := by
  rcases h.exists_tail with ⟨rest, rfl, _⟩
  exact ⟨rfl, validEscapes_concat h.escapes htail⟩

theorem cleanPath_slash : CleanPath (str "/") :=
  ⟨rfl, by decide⟩

theorem CleanPath.resolveElement (h : CleanPath state.1)
    {elem : GoString} (helem : validEscapes elem = true) :
    CleanPath (resolveElement state elem).1 := by
  unfold Net.resolveElement
  split
  · exact h
  split
  · split
    · exact cleanPath_slash
    rename_i kept hkept
    rcases h.exists_tail with ⟨tail, htail, hescapes⟩
    rw [htail] at hkept
    rcases beforeLastSlash_some hkept with ⟨dropped, hdropped⟩
    rw [List.drop_one, List.tail_cons] at hdropped
    rw [hdropped, validEscapes_append (by decide) (by decide), Bool.and_eq_true]
      at hescapes
    exact ⟨rfl, (validEscapes_cons_slash kept).trans hescapes.left⟩
  split
  · exact h.concat helem
  · exact (h.concat (show validEscapes (str "/") = true by decide)).concat helem

theorem CleanPath.foldl {elems : List GoString}
    (helems : forall elem, elem ∈ elems -> validEscapes elem = true) (h : CleanPath state.1) :
    CleanPath (elems.foldl Net.resolveElement state).1 := by
  induction elems generalizing state with
  | nil => exact h
  | cons elem rest ih =>
    exact ih (fun other hother => helems other (List.mem_cons_of_mem elem hother))
      (h.resolveElement (helems elem List.mem_cons_self))

theorem cleanPath_removeDots {full : GoString} (h : validEscapes full = true)
    (hne : full ≠ []) : CleanPath (removeDots full) := by
  have hwritten : CleanPath ((split full 47).foldl Net.resolveElement (str "/", true)).1 :=
    CleanPath.foldl (validEscapes_split h) cleanPath_slash
  have hdrop : forall closed : GoString, CleanPath closed ->
      CleanPath (if hasPrefix closed (str "//") then closed.drop 1 else closed) := by
    intro closed hclosed
    split
    · rename_i hslashes
      rcases hasPrefix_eq_true.mp hslashes with ⟨tail, rfl⟩
      exact ⟨rfl, (validEscapes_cons_slash _).symm.trans hclosed.escapes⟩
    · exact hclosed
  unfold removeDots
  rw [if_neg hne]
  simp only
  apply hdrop
  split
  · exact hwritten.concat (by decide)
  · exact hwritten

theorem resolvePath_clean {base ref : GoString} (hbase : validEscapes base = true)
    (href : validEscapes ref = true) :
    resolvePath base ref = [] ∨ CleanPath (resolvePath base ref) := by
  have hdots : forall full : GoString, validEscapes full = true ->
      removeDots full = [] ∨ CleanPath (removeDots full) := by
    intro full hfull
    by_cases hnil : full = []
    · left
      rw [hnil]
      rfl
    · exact Or.inr (cleanPath_removeDots hfull hnil)
  unfold resolvePath
  split
  · exact hdots base hbase
  split
  · exact hdots ref href
  apply hdots
  cases hlast : beforeLastSlash base with
  | none => exact href
  | some kept =>
    rcases beforeLastSlash_some hlast with ⟨tail, rfl⟩
    rw [validEscapes_append (by decide) (by decide), Bool.and_eq_true] at hbase
    exact validEscapes_concat
      (validEscapes_concat hbase.left (by decide)) href

/-!
## Resolution
-/

/-- Set the path from its encoding; a text that does not decode changes nothing. -/
def URL.withPathText (u : URL) (text : GoString) : URL :=
  match setPath text with
  | none => u
  | some (path, rawPath) => { u with path := path, rawPath := rawPath }

/-- A reference of nothing, or of a fragment only. -/
def URL.Bare (u : URL) : Prop :=
  u.path = [] ∧ u.forceQuery = false ∧ u.rawQuery = []

instance (u : URL) : Decidable u.Bare :=
  inferInstanceAs (Decidable (_ ∧ _ ∧ _))

def resolveReference (u ref : Link) : Link :=
  let scheme := if ref.url.scheme = [] then u.url.scheme else ref.url.scheme
  if ref.url.scheme ≠ [] ∨ ref.url.host ≠ [] ∨ ref.url.user ≠ none then
    { ref with
      url := URL.withPathText { ref.url with scheme := scheme }
        (resolvePath (escapedPath ref.url.path ref.url.rawPath) []) }
  else if ref.url.rootless ≠ [] then
    { ref with
      url := { ref.url with scheme := scheme, user := none, host := [], path := [] } }
  else
    let rawQuery := if ref.url.Bare then u.url.rawQuery else ref.url.rawQuery
    let fragment := if ref.url.Bare ∧ ref.fragment = [] then u.fragment else ref.fragment
    if ref.url.path = [] ∧ u.url.rootless ≠ [] then
      { ref with
        url := { ref.url with
          scheme := scheme
          rootless := u.url.rootless
          user := none
          host := []
          path := []
          rawQuery := rawQuery }
        fragment := fragment }
    else
      { ref with
        url := URL.withPathText
          { ref.url with
            scheme := scheme
            user := u.url.user
            host := u.url.host
            rawQuery := rawQuery }
          (resolvePath (escapedPath u.url.path u.url.rawPath)
            (escapedPath ref.url.path ref.url.rawPath))
        fragment := fragment }

theorem validEscapes_escapedPath (path rawPath : GoString) :
    validEscapes (escapedPath path rawPath) = true := by
  rw [validEscapes, pathUnescape_escapedPath]
  rfl

theorem setPath_resolvePath {base ref : GoString} (hbase : validEscapes base = true)
    (href : validEscapes ref = true) :
    exists path rawPath, setPath (resolvePath base ref) = some (path, rawPath) ∧
      (escapedPath path rawPath = [] ∨ (escapedPath path rawPath).head? = some 47) := by
  have hclean := resolvePath_clean hbase href
  have hvalid : validEscapes (resolvePath base ref) = true := by
    rcases hclean with hnil | hclean
    · rw [hnil]
      rfl
    · exact hclean.escapes
  have htext : resolvePath base ref = [] ∨ (resolvePath base ref).head? = some 47 := by
    rcases hclean with hnil | hclean
    · exact Or.inl hnil
    · exact Or.inr hclean.rooted
  rcases Option.isSome_iff_exists.mp hvalid with ⟨path, hpath⟩
  have hset : setPath (resolvePath base ref) = some (path,
      if pathEscape path = resolvePath base ref then [] else resolvePath base ref) := by
    rw [setPath, hpath]
  exact ⟨path, _, hset, rooted_of_setPath hset htext⟩

section Resolution

variable {u ref : Link} (href : Relative ref.url) (hhost : ref.url.host = [])
include href hhost

theorem resolveReference_plain (huser : ref.url.user = none) (hbase : u.url.rootless = []) :
    exists path rawPath, setPath (resolvePath (escapedPath u.url.path u.url.rawPath)
        (escapedPath ref.url.path ref.url.rawPath)) = some (path, rawPath) ∧
      (escapedPath path rawPath = [] ∨ (escapedPath path rawPath).head? = some 47) ∧
      (resolveReference u ref).url =
        { scheme := u.url.scheme
          user := u.url.user
          host := u.url.host
          rootless := []
          path := path
          rawPath := rawPath
          rawQuery := if ref.url.Bare then u.url.rawQuery else ref.url.rawQuery
          forceQuery := ref.url.forceQuery } := by
  rcases setPath_resolvePath (validEscapes_escapedPath u.url.path u.url.rawPath)
    (validEscapes_escapedPath ref.url.path ref.url.rawPath) with
    ⟨path, rawPath, hset, hrooted⟩
  refine ⟨path, rawPath, hset, hrooted, ?_⟩
  unfold resolveReference
  rw [if_neg (by simp [href.scheme, hhost, huser]), if_neg (by simp [href.rootless]),
    if_neg (by simp [hbase]), if_pos href.scheme]
  simp only [URL.withPathText, hset, href.rootless]

theorem resolveReference_user (huser : ref.url.user ≠ none) :
    exists path rawPath, setPath (resolvePath (escapedPath ref.url.path ref.url.rawPath) []) =
        some (path, rawPath) ∧ (resolveReference u ref).url =
        { scheme := u.url.scheme
          user := ref.url.user
          host := []
          rootless := []
          path := path
          rawPath := rawPath
          rawQuery := ref.url.rawQuery
          forceQuery := ref.url.forceQuery } := by
  rcases setPath_resolvePath (validEscapes_escapedPath ref.url.path ref.url.rawPath)
    (show validEscapes [] = true by rfl) with ⟨path, rawPath, hset, _⟩
  refine ⟨path, rawPath, hset, ?_⟩
  unfold resolveReference
  rw [if_pos (Or.inr (Or.inr huser)), if_pos href.scheme]
  simp only [URL.withPathText, hset, hhost, href.rootless]

end Resolution

end ReplxEdge.Net
