import ReplxEdge.Foundation.Runs
import ReplxEdge.Spike.Credentials

/-!
# The part of a redirect

The boundary is asked about the part id of the decoded request path. The redirect is
built by resolving the encoded target, which removes dot segments. Both name the same part
exactly if that leaves the part id in place.
-/

namespace ReplxEdge.Spike

open Foundation
open Net
open Gateway
open Trace

variable {origin : Option MediaOrigin} {location : Location}

/-- A part key that is an encoded path as it stands, without dot segments. -/
structure PlainKey (key : GoString) : Prop where
  bytes : (before key 63).all isPathByte = true
  undotted : Undotted (before key 63)

/-- The part that a redirect must name: the one that was checked, or the one that was
put in its place. -/
def Consult.permittedPart (asked : Consult) : GoString :=
  if asked.verdict.substitute = [] then asked.partID
  else partIDFromPath (before asked.verdict.substitute 63)

/-- The path of a target, as it is written. -/
def writtenPath (uri : GoString) : GoString :=
  before (before uri 35) 63

/-- A written path without its dot segments, decoded. -/
def cleanedPath (text : GoString) : GoString :=
  match setPath text with
  | none => []
  | some (path, rawPath) => (pathUnescape (removeDots (escapedPath path rawPath))).getD []

/-- The dot segments of the target leave its part id in place. -/
def DotsKeepPart (r : Request) (asked : Consult) : Prop :=
  partIDFromPath (cleanedPath (writtenPath (redirectURI r asked.verdict.substitute))) =
    asked.permittedPart

instance (r : Request) (asked : Consult) : Decidable (DotsKeepPart r asked) :=
  inferInstanceAs (Decidable (_ = _))

def UndottedTarget (r : Request) (asked : Consult) : Prop :=
  if asked.verdict.substitute = [] then Undotted (escapedPath r.path r.rawPath)
  else PlainKey asked.verdict.substitute

variable {token host : GoString}

theorem rooted_decoded {text path : GoString} (htext : hasPrefix text (str "/") = true)
    (hpath : pathUnescape text = some path) : exists rest, path = 47 :: rest := by
  rcases hasPrefix_eq_true.mp htext with ⟨rest, rfl⟩
  change pathUnescape (47 :: rest) = some path at hpath
  rw [pathUnescape_plain (by decide), Option.map_eq_some_iff] at hpath
  rcases hpath with ⟨tail, _, hcons⟩
  exact ⟨tail, hcons.symm⟩

theorem escapedPath_rooted {text path rawPath : GoString} (htext : hasPrefix text (str "/") = true)
    (hset : setPath text = some (path, rawPath)) :
    hasPrefix (escapedPath path rawPath) (str "/") = true := by
  unfold setPath at hset
  cases hdecoded : pathUnescape text with
  | none =>
    rw [hdecoded] at hset
    cases hset
  | some decoded =>
    rw [hdecoded] at hset
    rcases rooted_decoded htext hdecoded with ⟨rest, rfl⟩
    have hescaped : hasPrefix (pathEscape (47 :: rest)) (str "/") = true :=
      hasPrefix_eq_true.mpr ⟨pathEscape rest, rfl⟩
    rcases Prod.mk.inj (Option.some.inj hset) with ⟨rfl, rfl⟩
    have hstar : 47 :: rest ≠ str "*" := fun hcase =>
      absurd (List.cons.inj hcase).left (by decide)
    by_cases hdefault : pathEscape (47 :: rest) = text
    · rwa [if_pos hdefault, escapedPath_default hstar]
    rw [if_neg hdefault, escapedPath]
    split
    · exact htext
    · exact hescaped

theorem writtenPath_rooted {uri : GoString} (h : hasPrefix uri (str "/") = true) :
    hasPrefix (writtenPath uri) (str "/") = true := by
  rcases hasPrefix_eq_true.mp h with ⟨rest, rfl⟩
  exact hasPrefix_eq_true.mpr ⟨writtenPath rest, rfl⟩

/-- The path of a redirect depends on the written path of its target only. -/
theorem location_path {uri : GoString} (hslashes : hasPrefix (writtenPath uri) (str "//") = false)
    (h : buildDirectOriginURL origin uri token host = some location) :
    location.path = cleanedPath (writtenPath uri) := by
  rcases buildDirectOriginURL_path h with ⟨hroot, base, ref, _, href, hlocation⟩
  have hset : ref.userOnly = false ∧ setPath (writtenPath uri) = some (ref.path, ref.rawPath) := by
    unfold parseReference at href
    simp only [show before (before uri 35) 63 = writtenPath uri from rfl, hslashes,
      Bool.false_and, Bool.false_eq_true, if_false] at href
    split at href
    · cases href
    unfold referenceTo at href
    split at href
    · cases href
    rename_i path rawPath hpath
    cases href
    exact ⟨rfl, hpath⟩
  have hrooted := escapedPath_rooted (writtenPath_rooted hroot) hset.right
  have hne : escapedPath ref.path ref.rawPath ≠ [] := by
    intro hempty
    rw [hempty] at hrooted
    cases hrooted
  unfold cleanedPath
  rw [hlocation, targetPath, hset.left, hset.right, if_neg Bool.false_ne_true, resolvePath,
    if_neg hne, if_pos hrooted]

theorem cleanedPath_undotted {text path : GoString} (hroot : hasPrefix text (str "/") = true)
    (hundotted : Undotted text) (hpath : pathUnescape text = some path)
    (hreparsed : path ≠ str "*" ->
      escapedPath path (if pathEscape path = text then [] else text) = text) :
    cleanedPath text = path := by
  have hstar : path ≠ str "*" := by
    rcases rooted_decoded hroot hpath with ⟨rest, rfl⟩
    exact fun hcase => absurd (List.cons.inj hcase).left (by decide)
  unfold cleanedPath setPath
  simp only [hpath, hreparsed hstar, removeDots_undotted hroot hundotted, Option.getD_some]

variable {r : Request}

theorem resolve_consults {s : Store} {asked : Consult} (h : asked ∈ (resolve s r).consults) :
    asked.partID = partIDFromPath r.path ∧ asked.verdict.substitute = substituteFor s r ∧
      exists found, s.lookup = some found := by
  unfold resolve at h
  cases hlookup : s.lookup with
  | none =>
    rw [hlookup] at h
    cases h
  | some found =>
    rw [hlookup] at h
    simp only at h
    split at h
    · cases h
    split at h
    · cases h
    rename_i policy hpolicy
    unfold substituteFor
    rw [hpolicy]
    simp only
    split at h
    · rename_i hask
      have hsame : asked = consult policy r (partIDFromPath r.path)
          (extractSession r) := by
        split at h
        all_goals exact List.mem_singleton.mp h
      rw [hsame, if_pos hask]
      exact ⟨rfl, rfl, found, rfl⟩
    · cases h

theorem before_split (key : GoString) :
    exists tail, key = before key 63 ++ tail ∧ (tail = [] ∨ exists query, tail = 63 :: query) := by
  refine ⟨key.dropWhile fun b => b != 63, (List.takeWhile_append_dropWhile).symm, ?_⟩
  cases hdrop : key.dropWhile fun b => b != 63 with
  | nil => exact Or.inl rfl
  | cons b query =>
    right
    have hb := List.head?_dropWhile_not (fun b : UInt8 => b != 63) key
    rw [hdrop] at hb
    have hmark : b = 63 := by simpa using hb
    exact ⟨query, by rw [hmark]⟩

theorem writtenPath_append {text tail : GoString} (hquery : 63 ∉ text) (hfragment : 35 ∉ text)
    (htail : tail = [] ∨ exists query, tail = 63 :: query) : writtenPath (text ++ tail) = text := by
  unfold writtenPath
  rw [before_append hfragment, before_append hquery]
  rcases htail with rfl | ⟨query, rfl⟩
  · exact List.append_nil text
  have hcut : before (before (63 :: query) 35) 63 = [] := by
    unfold before
    rw [List.takeWhile_cons_of_pos (by decide)]
    exact List.takeWhile_cons_of_neg (by decide)
  rw [hcut, List.append_nil]

theorem requestURI_part (hundotted : Undotted (escapedPath r.path r.rawPath))
    (hroot : hasPrefix r.requestURI (str "/") = true) :
    partIDFromPath (cleanedPath (writtenPath r.requestURI)) = partIDFromPath r.path := by
  have htail : (if r.rawQuery = [] then [] else 63 :: r.rawQuery) = [] ∨
      exists query, (if r.rawQuery = [] then [] else 63 :: r.rawQuery) = 63 :: query := by
    split
    · exact Or.inl rfl
    · exact Or.inr ⟨r.rawQuery, rfl⟩
  have hdecoded := pathUnescape_escapedPath r.path r.rawPath
  have htext := writtenPath_rooted hroot
  unfold Request.requestURI at htext ⊢
  simp only at htext ⊢
  split
  · -- an empty path is asked for as a slash
    rename_i hempty
    rw [hempty] at hdecoded
    rw [writtenPath_append (by decide) (by decide) htail, ← Option.some.inj hdecoded]
    decide +kernel
  rename_i hsome
  rcases not_mem_of_validEncodedPath (validEncodedPath_escapedPath r.path r.rawPath)
    with ⟨hquery, hfragment⟩
  rw [if_neg hsome, writtenPath_append hquery hfragment htail] at htext
  rw [writtenPath_append hquery hfragment htail, cleanedPath_undotted htext hundotted hdecoded
    fun hstar => escapedPath_reparsed hstar]

theorem plainKey_part {key : GoString} (hsome : key ≠ []) (hkey : PlainKey key)
    (hroot : hasPrefix (redirectURI r key) (str "/") = true) :
    partIDFromPath (cleanedPath (writtenPath (redirectURI r key))) =
      partIDFromPath (before key 63) := by
  have hplain := pathEscape_plain hkey.bytes
  have hvalid : validEncodedPath (before key 63) = true :=
    hplain ▸ validEncodedPath_pathEscape (before key 63)
  have hdecoded : pathUnescape (before key 63) = some (before key 63) := by
    have hescaped := pathUnescape_pathEscape (before key 63)
    rwa [hplain] at hescaped
  have huri : exists tail, redirectURI r key = before key 63 ++ tail ∧
      (tail = [] ∨ exists query, tail = 63 :: query) := by
    unfold redirectURI
    rw [if_neg hsome]
    split
    · rename_i hown
      rw [before_of_not_mem hown.right]
      exact ⟨63 :: r.rawQuery, rfl, Or.inr ⟨r.rawQuery, rfl⟩⟩
    · exact before_split key
  rcases huri with ⟨tail, huri, htail⟩
  rcases not_mem_of_validEncodedPath hvalid with ⟨hquery, hfragment⟩
  have htext := writtenPath_rooted hroot
  rw [huri, writtenPath_append hquery hfragment htail] at htext ⊢
  rw [cleanedPath_undotted htext hkey.undotted hdecoded]
  intro hstar
  rw [if_pos hplain, escapedPath_default hstar, hplain]

def permittingStore : Store :=
  { delegatingStore with partPolicy := some fun _ _ _ => ⟨[], false, []⟩ }

def partAt (path : GoString) : Request :=
  Request.bareGet path (str "X-Plex-Token=t") Header.empty

end ReplxEdge.Spike
