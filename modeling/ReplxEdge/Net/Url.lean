import ReplxEdge.Net.Request

/-!
# URLs

The path half of Go's `net/url`: the default encoding of a path, the encoding a
client chose, references that start with a slash, and their resolution with dot
segments removed.
-/

namespace ReplxEdge.Net

open Foundation

/-!
## Path encoding
-/

def isControlByte (b : UInt8) : Bool :=
  decide (b < 32 ∨ b = 127)

def pathUnescape : GoString -> Option GoString
  | [] => some []
  | 37 :: hi :: lo :: rest =>
    match unhex hi, unhex lo with
    | some h, some l => (pathUnescape rest).map (UInt8.ofNat (16 * h + l) :: ·)
    | _, _ => none
  | 37 :: _ => none
  | b :: rest => (pathUnescape rest).map (b :: ·)

theorem pathUnescape_plain {b : UInt8} (hb : b ≠ 37) (rest : GoString) :
    pathUnescape (b :: rest) = (pathUnescape rest).map (b :: ·) := by
  rw [pathUnescape]
  · intro hi lo tail hpercent _
    exact hb hpercent
  · exact hb

theorem pathUnescape_escape {hi lo : UInt8} {h l : Nat} (hhi : unhex hi = some h)
    (hlo : unhex lo = some l) (rest : GoString) :
    pathUnescape (37 :: hi :: lo :: rest) =
      (pathUnescape rest).map (UInt8.ofNat (16 * h + l) :: ·) := by
  rw [pathUnescape, hhi, hlo]

/-- Induction over a text that decodes: its first byte stands for itself or starts an
escape. -/
theorem pathUnescape_induction {P : GoString -> GoString -> Prop} (nil : P [] [])
    (escape : forall {hi lo : UInt8} {h l : Nat} {rest path : GoString},
      unhex hi = some h -> unhex lo = some l -> P rest path ->
        P (37 :: hi :: lo :: rest) (UInt8.ofNat (16 * h + l) :: path))
    (plain : forall {b : UInt8} {rest path : GoString},
      b ≠ 37 -> P rest path -> P (b :: rest) (b :: path))
    {text path : GoString} (h : pathUnescape text = some path) : P text path := by
  induction text using pathUnescape.induct generalizing path with
  | case1 =>
    cases h
    exact nil
  | case2 hi lo rest hiv lov hlo hhi ih =>
    rw [pathUnescape_escape hhi hlo, Option.map_eq_some_iff] at h
    rcases h with ⟨tail, htail, rfl⟩
    exact escape hhi hlo (ih htail)
  | case3 hi lo rest hbad =>
    rw [pathUnescape] at h
    split at h
    · rename_i hiv lov hhi hlo
      exact (hbad _ _ hhi hlo).elim
    · cases h
  | case4 rest hshort =>
    rw [pathUnescape] at h
    · cases h
    · exact hshort
  | case5 b rest hpair hpercent ih =>
    rw [pathUnescape_plain hpercent, Option.map_eq_some_iff] at h
    rcases h with ⟨tail, htail, rfl⟩
    exact plain hpercent (ih htail)

theorem pathUnescape_append {a path : GoString} (h : pathUnescape a = some path)
    (b : GoString) : pathUnescape (a ++ b) = (pathUnescape b).map (path ++ ·) := by
  apply pathUnescape_induction (P := fun a path =>
    pathUnescape (a ++ b) = (pathUnescape b).map (path ++ ·)) ?_ ?_ ?_ h
  · simp
  · intro hi lo hiv lov rest path hhi hlo ih
    simp only [List.cons_append]
    rw [pathUnescape_escape hhi hlo, ih, Option.map_map]
    rfl
  intro c rest path hc ih
  rw [List.cons_append, pathUnescape_plain hc, ih, Option.map_map]
  rfl

theorem pathUnescape_length {a path : GoString} (h : pathUnescape a = some path) :
    path.length ≤ a.length ∧ (37 ∈ a -> path.length < a.length) := by
  apply pathUnescape_induction (P := fun a path =>
    path.length ≤ a.length ∧ (37 ∈ a -> path.length < a.length)) ?_ ?_ ?_ h
  · simp
  · intro hi lo hiv lov rest path hhi hlo ih
    simp only [List.length_cons]
    omega
  intro c rest path hc ih
  simp only [List.length_cons, List.mem_cons]
  refine ⟨by omega, ?_⟩
  intro hmem
  rcases hmem with hfirst | hrest
  · exact absurd hfirst.symm hc
  have hlt := ih.right hrest
  omega

theorem pathUnescape_of_not_mem {s : GoString} (h : 37 ∉ s) : pathUnescape s = some s := by
  induction s with
  | nil => rfl
  | cons b s ih =>
    rw [List.mem_cons, not_or] at h
    rw [pathUnescape_plain (Ne.symm h.left), ih h.right]
    rfl

def validEscapes (s : GoString) : Bool :=
  (pathUnescape s).isSome

theorem validEscapes_append {c : UInt8} (hc : c ≠ 37) (hdigit : unhex c = none)
    (a b : GoString) : validEscapes (a ++ c :: b) = (validEscapes a && validEscapes b) := by
  unfold validEscapes
  induction a using pathUnescape.induct with
  | case1 =>
    rw [List.nil_append, pathUnescape_plain hc, Option.isSome_map]
    rfl
  | case2 hi lo rest hiv lov hlo hhi ih =>
    simp only [List.cons_append]
    rw [pathUnescape_escape hhi hlo, pathUnescape_escape hhi hlo, Option.isSome_map,
      Option.isSome_map, ih]
  | case3 hi lo rest hbad =>
    have hnone : forall tail, pathUnescape (37 :: hi :: lo :: tail) = none := by
      intro tail
      rw [pathUnescape]
      split
      · rename_i hiv lov hhi hlo
        exact (hbad _ _ hhi hlo).elim
      · rfl
    simp only [List.cons_append]
    rw [hnone, hnone]
    rfl
  | case4 rest hshort =>
    -- The escape is cut short by the byte, which is no digit.
    match rest, hshort with
    | [], _ =>
      cases b with
      | nil => rfl
      | cons d b =>
        rw [List.cons_append, List.nil_append, pathUnescape, hdigit]
        rfl
    | [d], _ =>
      rw [List.cons_append, List.cons_append, List.nil_append, pathUnescape, hdigit]
      cases unhex d with
      | none | some => rfl
    | hi :: lo :: rest, hshort => exact (hshort hi lo rest rfl).elim
  | case5 d rest hpair hpercent ih =>
    rw [List.cons_append, pathUnescape_plain hpercent, pathUnescape_plain hpercent,
      Option.isSome_map, Option.isSome_map, ih]

def isPathByte (b : UInt8) : Bool :=
  isUnreserved b || (str "$&+,/:;=@").contains b

def pathEscape (s : GoString) : GoString :=
  s.flatMap fun b =>
    if isPathByte b then [b]
    else [37, upperHex (b.toNat / 16), upperHex (b.toNat % 16)]

def validEncodedPath (s : GoString) : Bool :=
  s.all fun b => isPathByte b || (str "!'()*[]%").contains b

def escapedPath (path rawPath : GoString) : GoString :=
  if rawPath ≠ [] ∧ validEncodedPath rawPath = true ∧
      pathUnescape rawPath = some path then rawPath
  else if path = str "*" then str "*"
  else pathEscape path

theorem pathUnescape_flatMap {keep : UInt8 -> Bool} (hkeep : keep 37 = false) (s : GoString) :
    pathUnescape (s.flatMap fun b =>
      if keep b then [b] else [37, upperHex (b.toNat / 16), upperHex (b.toNat % 16)]) = some s := by
  induction s with
  | nil => rfl
  | cons b s ih =>
    rw [List.flatMap_cons]
    by_cases hplain : keep b = true
    · have hpercent : b ≠ 37 := by
        intro h
        rw [h, hkeep] at hplain
        cases hplain
      rw [if_pos hplain, List.singleton_append, pathUnescape_plain hpercent, ih]
      rfl
    have hb : b.toNat < 256 := UInt8.toNat_lt b
    have hbyte : UInt8.ofNat (16 * (b.toNat / 16) + b.toNat % 16) = b := by
      rw [Nat.div_add_mod]
      exact UInt8.ofNat_toNat
    rw [if_neg hplain, List.cons_append, List.cons_append, List.singleton_append,
      pathUnescape_escape (unhex_upperHex (by omega)) (unhex_upperHex (by omega)), ih,
      hbyte]
    rfl

theorem pathUnescape_pathEscape (s : GoString) : pathUnescape (pathEscape s) = some s :=
  pathUnescape_flatMap (by decide) s

theorem pathUnescape_escapedPath (path rawPath : GoString) :
    pathUnescape (escapedPath path rawPath) = some path := by
  unfold escapedPath
  split
  · rename_i hraw
    exact hraw.right.right
  split
  · rename_i hstar
    rw [hstar]
    decide
  · exact pathUnescape_pathEscape path

theorem pathEscape_plain {s : GoString} (h : s.all isPathByte = true) : pathEscape s = s := by
  induction s with
  | nil => rfl
  | cons b s ih =>
    rw [List.all_cons, Bool.and_eq_true] at h
    unfold pathEscape at ih ⊢
    rw [List.flatMap_cons, if_pos h.left, ih h.right, List.singleton_append]

theorem upperHex_isPathByte {n : Nat} (hn : n < 16) : isPathByte (upperHex n) = true := by
  revert n
  decide

theorem validEncodedPath_pathEscape (s : GoString) :
    validEncodedPath (pathEscape s) = true := by
  unfold validEncodedPath pathEscape
  rw [List.all_flatMap, List.all_eq_true]
  intro b _
  split
  · rename_i hplain
    simp [hplain]
  have hb : b.toNat < 256 := UInt8.toNat_lt b
  have hpercent : (isPathByte 37 || (str "!'()*[]%").contains 37) = true := by decide
  simp only [List.all_cons, List.all_nil, hpercent,
    upperHex_isPathByte (n := b.toNat / 16) (by omega),
    upperHex_isPathByte (n := b.toNat % 16) (by omega), Bool.true_or, Bool.and_self]

theorem validEncodedPath_escapedPath (path rawPath : GoString) :
    validEncodedPath (escapedPath path rawPath) = true := by
  unfold escapedPath
  split
  · rename_i hraw
    exact hraw.right.left
  split
  · decide
  · exact validEncodedPath_pathEscape path

theorem not_mem_of_validEncodedPath {s : GoString} (h : validEncodedPath s = true) :
    63 ∉ s ∧ 35 ∉ s := by
  unfold validEncodedPath at h
  rw [List.all_eq_true] at h
  constructor
  · intro hmem
    exact absurd (h 63 hmem) (by decide)
  intro hmem
  exact absurd (h 35 hmem) (by decide)

/-- The decoded path and, when its default encoding is another text, the text. -/
def setPath (text : GoString) : Option (GoString × GoString) :=
  match pathUnescape text with
  | none => none
  | some path => some (path, if pathEscape path = text then [] else text)

theorem escapedPath_default {path : GoString} (hpath : path ≠ str "*") :
    escapedPath path [] = pathEscape path := by
  unfold escapedPath
  rw [if_neg (by simp), if_neg hpath]

theorem escapedPath_reparsed {path rawPath : GoString} (hpath : path ≠ str "*") :
    escapedPath path (if pathEscape path = escapedPath path rawPath then []
      else escapedPath path rawPath) = escapedPath path rawPath := by
  by_cases hraw : rawPath ≠ [] ∧ validEncodedPath rawPath = true ∧
      pathUnescape rawPath = some path
  · have hkept : escapedPath path rawPath = rawPath := by
      unfold escapedPath
      rw [if_pos hraw]
    rw [hkept]
    split
    · rename_i hdefault
      rw [escapedPath_default hpath, hdefault]
    · exact hkept
  have hescaped : escapedPath path rawPath = pathEscape path := by
    unfold escapedPath
    rw [if_neg hraw, if_neg hpath]
  rw [hescaped, if_pos rfl, escapedPath_default hpath]

def singleJoin (a b : GoString) : GoString :=
  trimSuffix a (str "/") ++ 47 :: trimPrefix b (str "/")

/-- The target a client asks for, as one line. -/
def Request.requestURI (r : Request) : GoString :=
  let path := escapedPath r.path r.rawPath
  (if path = [] then str "/" else path) ++
    if r.rawQuery = [] then [] else 63 :: r.rawQuery

/-!
## References
-/

/-- A parsed reference. `userOnly` marks an authority that names a user and no
host, `forceQuery` a lone question mark at the end. -/
structure Reference where
  userOnly : Bool
  path : GoString
  rawPath : GoString
  rawQuery : GoString
  forceQuery : Bool

def validUserinfo (s : GoString) : Bool :=
  (s.all fun b => isUnreserved b || (str ":!$&'()*+,;=%@").contains b) &&
    validEscapes (before s 58) && validEscapes (after s 58)

def referenceTo (userOnly : Bool) (pathText rawQuery : GoString) (forceQuery : Bool) :
    Option Reference :=
  match setPath pathText with
  | none => none
  | some (path, rawPath) => some ⟨userOnly, path, rawPath, rawQuery, forceQuery⟩

/-- Parse a text that starts with a slash; `none` when it does not parse or names
a host of its own. -/
def parseReference (text : GoString) : Option Reference :=
  let body := before text 35
  if body.any isControlByte || !validEscapes (after text 35) then none
  else
    let rest := before body 63
    let rawQuery := after body 63
    let forceQuery := body.getLast? == some 63 && body.count 63 == 1
    if hasPrefix rest (str "//") && !hasPrefix rest (str "///") then
      let authority := before (rest.drop 2) 47
      let pathText := (rest.drop 2).dropWhile fun b => b != 47
      if authority = [] then referenceTo false pathText rawQuery forceQuery
      else if authority.getLast? = some 64 && validUserinfo authority.dropLast then
        referenceTo true pathText rawQuery forceQuery
      else none
    else referenceTo false rest rawQuery forceQuery

/-!
## Dot segments
-/

def beforeLastSlash (s : GoString) : Option GoString :=
  if 47 ∈ s then some ((s.reverse.dropWhile fun b => b != 47).drop 1).reverse else none

/-- One element of the loop: the path written so far and whether nothing has been
written after the leading slash. -/
def resolveElement (state : GoString × Bool) (elem : GoString) : GoString × Bool :=
  if elem = str "." then (state.1, false)
  else if elem = str ".." then
    match beforeLastSlash (state.1.drop 1) with
    | none => (str "/", true)
    | some kept => (47 :: kept, state.2)
  else ((if state.2 then state.1 else state.1 ++ [47]) ++ elem, false)

def removeDots (full : GoString) : GoString :=
  if full = [] then []
  else
    let elems := split full 47
    let written := (elems.foldl resolveElement (str "/", true)).1
    let closed :=
      if elems.getLast? = some (str ".") || elems.getLast? = some (str "..") then
        written ++ [47]
      else written
    if hasPrefix closed (str "//") then closed.drop 1 else closed

def resolvePath (base ref : GoString) : GoString :=
  if ref = [] then removeDots base
  else if hasPrefix ref (str "/") then removeDots ref
  else removeDots (((beforeLastSlash base).map (· ++ [47])).getD [] ++ ref)

def Undotted (text : GoString) : Prop :=
  forall elem, elem ∈ split text 47 -> elem ≠ str "." ∧ elem ≠ str ".."

theorem foldl_resolveElement {elems : List GoString}
    (h : forall elem, elem ∈ elems -> elem ≠ str "." ∧ elem ≠ str "..") (written : GoString) :
    elems.foldl resolveElement (written, false) =
      (written ++ elems.flatMap fun elem => 47 :: elem, false) := by
  induction elems generalizing written with
  | nil =>
    simp
  | cons elem rest ih =>
    have hfirst := h elem List.mem_cons_self
    have hstep : resolveElement (written, false) elem = (written ++ 47 :: elem, false) := by
      unfold resolveElement
      rw [if_neg hfirst.left, if_neg hfirst.right]
      simp
    rw [List.foldl_cons, hstep, ih fun other hother => h other (List.mem_cons_of_mem _ hother),
      List.flatMap_cons, List.append_assoc]

theorem flatMap_split (text : GoString) :
    ((split text 47).flatMap fun elem => 47 :: elem) = 47 :: text := by
  have hjoin : forall elems : List GoString, elems ≠ [] ->
      (elems.flatMap fun elem => 47 :: elem) = 47 :: [47].intercalate elems := by
    intro elems
    induction elems with
    | nil =>
      intro hne
      exact absurd rfl hne
    | cons elem rest ih =>
      intro _
      cases rest with
      | nil =>
        simp
      | cons next tail =>
        rw [List.flatMap_cons, ih (List.cons_ne_nil next tail)]
        simp [List.intercalate]
  unfold split
  rw [hjoin _ (List.splitOn_ne_nil _ _), List.intercalate_splitOn]

theorem removeDots_undotted {text : GoString} (hroot : hasPrefix text (str "/") = true)
    (h : Undotted text) : removeDots text = text := by
  rcases hasPrefix_eq_true.mp hroot with ⟨rest, hrest⟩
  have hsplit : split text 47 = [] :: split rest 47 := by
    rw [← hrest]
    exact List.splitOn_append_cons_self [] rest
  have hlast : ((split text 47).getLast? = some (str ".") ||
      (split text 47).getLast? = some (str "..")) = false := by
    rw [Bool.or_eq_false_iff, decide_eq_false_iff_not, decide_eq_false_iff_not]
    constructor
    · intro hdot
      exact (h _ (List.mem_of_getLast? hdot)).left rfl
    intro hdots
    exact (h _ (List.mem_of_getLast? hdots)).right rfl
  have helems : forall elem, elem ∈ split rest 47 -> elem ≠ str "." ∧ elem ≠ str ".." := by
    intro elem helem
    exact h elem (hsplit ▸ List.mem_cons_of_mem _ helem)
  have hfirst : resolveElement (str "/", true) [] = (str "/", false) := by decide
  have hwritten : ((split text 47).foldl resolveElement (str "/", true)).1 =
      str "/" ++ 47 :: rest := by
    rw [hsplit, List.foldl_cons, hfirst, foldl_resolveElement helems, flatMap_split]
  have hne : text ≠ [] := by
    rw [← hrest]
    exact List.cons_ne_nil 47 rest
  have hslashes : hasPrefix (str "/" ++ 47 :: rest) (str "//") = true :=
    hasPrefix_eq_true.mpr ⟨rest, rfl⟩
  unfold removeDots
  rw [if_neg hne]
  simp only [hlast, hwritten, hslashes, Bool.false_eq_true, if_false, if_true]
  exact hrest

example : resolvePath [] (str "/library/parts/9/../../parts/7/./a.mkv") =
    str "/library/parts/7/a.mkv" := by
  decide

/-!
## Hosts
-/

def validOptionalPort (port : GoString) : Bool :=
  match port with
  | [] => true
  | colon :: digits => colon == 58 && digits.all fun b => decide (48 ≤ b ∧ b ≤ 57)

def hostname (host : GoString) : GoString :=
  let tail := (host.reverse.takeWhile fun b => b != 58).reverse
  let bare :=
    if 58 ∈ host ∧ validOptionalPort (58 :: tail) = true then
      host.take (host.length - tail.length - 1)
    else host
  if hasPrefix bare (str "[") && hasSuffix bare (str "]") then
    (bare.drop 1).dropLast
  else bare

example : hostname (str "origin.example:32400") = str "origin.example" := by
  decide

end ReplxEdge.Net
