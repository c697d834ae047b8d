import ReplxEdge.Net.Parse

/-!
# Writing URLs

Go's `URL.String` on what `url.Parse` makes of a text. The user information, the host and
the fragment are decoded by the parser and encoded again, so a text need not come back as it
was.
-/

namespace ReplxEdge.Net

open Foundation

def escapeExcept (keep : UInt8 -> Bool) (s : GoString) : GoString :=
  s.flatMap fun b =>
    if keep b then [b]
    else [37, upperHex (b.toNat / 16), upperHex (b.toNat % 16)]

def isUserByte (b : UInt8) : Bool :=
  isUnreserved b || (str "$&+,;=").contains b

def isFragmentByte (b : UInt8) : Bool :=
  isUnreserved b || (str "$&+,/:;=?@!()*").contains b

def validEncodedFragment (s : GoString) : Bool :=
  s.all fun b => isFragmentByte b || (str "'[]%").contains b

/-- A parsed text. `omitHost` marks a scheme in front of a single slash; the fragment is
kept as text. -/
structure Link where
  url : URL
  omitHost : Bool
  fragment : GoString

def omitsHost (text : GoString) : Bool :=
  match getScheme (before text 35) with
  | none => false
  | some (scheme, rest) =>
    scheme != [] && hasPrefix rest (str "/") && !hasPrefix rest (str "//")

def parseLink (text : GoString) : Option Link :=
  (parseURL text).map fun u => ⟨u, omitsHost text, after text 35⟩

namespace Link

/-- The name and, behind the first colon, the password. -/
def userText (raw : GoString) : GoString :=
  let written := fun part => escapeExcept isUserByte ((pathUnescape part).getD [])
  if 58 ∈ raw then written (before raw 58) ++ 58 :: written (after raw 58)
  else written raw

variable (l : Link)

def authority : GoString :=
  if l.url.host = [] ∧ l.url.user = none ∧ (l.url.scheme = [] ∨ l.omitHost = true) then []
  else
    (if l.url.host = [] ∧ l.url.path = [] ∧ l.url.user = none then [] else str "//") ++
      (l.url.user.elim [] fun raw => userText raw ++ [64]) ++
      escapeExcept isHostByte l.url.host

/-- The path with what keeps it apart from an authority or a scheme. -/
def pathPart : GoString :=
  let path := escapedPath l.url.path l.url.rawPath
  if l.url.host ≠ [] ∧ path ≠ [] ∧ path.head? ≠ some 47 then 47 :: path
  else if l.url.scheme = [] ∧ l.authority = [] ∧ 58 ∈ before path 47 then str "./" ++ path
  else path

def fragmentText : GoString :=
  let decoded := (pathUnescape l.fragment).getD []
  if decoded = [] then []
  else if validEncodedFragment l.fragment then 35 :: l.fragment
  else 35 :: escapeExcept isFragmentByte decoded

def text : GoString :=
  (if l.url.scheme = [] then [] else l.url.scheme ++ [58]) ++
    (if l.url.rootless ≠ [] then l.url.rootless else l.authority ++ l.pathPart) ++
    (if l.url.forceQuery = true ∨ l.url.rawQuery ≠ [] then 63 :: l.url.rawQuery else []) ++
    l.fragmentText

def withQuery (rawQuery : GoString) : Link :=
  { l with url := { l.url with rawQuery := rawQuery } }

end Link

/-- The authority, the path and the fragment come back, here with their own escapes. -/
example : (parseLink (str "HTTP://a%40b:c@h:1/x%2Fy?q#f'%41")).map Link.text =
    some (str "http://a%40b:c@h:1/x%2Fy?q#f'%41") := by
  decide +kernel

/-!
## The query of a text
-/

theorem length_after_le (s : GoString) (sep : UInt8) : (after s sep).length ≤ s.length :=
  ((List.drop_suffix 1 _).trans (List.dropWhile_suffix _)).length_le

variable {s : GoString} {sep : UInt8}

theorem length_after_lt (h : after s sep ≠ []) :
    (after s sep).length < s.length := by
  unfold after at h ⊢
  have hle := (List.dropWhile_suffix (l := s) fun c => c != sep).length_le
  have hdrop : ((s.dropWhile fun c => c != sep).drop 1).length =
      (s.dropWhile fun c => c != sep).length - 1 := List.length_drop
  have hpos := List.length_pos_of_ne_nil h
  omega

variable {u : URL} {rawQuery : GoString} {forceQuery : Bool}

theorem withPath_rawQuery {scheme host text : GoString} {user : Option GoString}
    (h : withPath scheme user host text rawQuery forceQuery = some u) :
    u.rawQuery = rawQuery := by
  unfold withPath at h
  rcases Option.map_eq_some_iff.mp h with ⟨parsed, _, rfl⟩
  rfl

theorem parseHierarchy_rawQuery {scheme rest : GoString}
    (h : parseHierarchy scheme rest rawQuery forceQuery = some u) : u.rawQuery = rawQuery := by
  unfold parseHierarchy at h
  split at h
  · split at h
    · cases h
      rfl
    split at h
    · cases h
    · exact withPath_rawQuery h
  split at h
  · split at h
    · cases h
    · exact withPath_rawQuery h
  · exact withPath_rawQuery h

theorem getScheme_length {text scheme rest : GoString}
    (h : getScheme text = some (scheme, rest)) : rest.length ≤ text.length := by
  unfold getScheme at h
  simp only at h
  split at h
  · rename_i found hdrop
    have hsuffix := (List.dropWhile_suffix (l := text) isSchemeByte).length_le
    rw [hdrop, List.length_cons] at hsuffix
    split at h
    · cases h
    split at h
    · cases h
      omega
    cases h
    exact le_refl _
  cases h
  exact le_refl _

theorem parseURL_rawQuery_length {text : GoString} (h : parseURL text = some u)
    (hquery : u.rawQuery ≠ []) : u.rawQuery.length < text.length := by
  unfold parseURL at h
  simp only at h
  split at h
  · cases h
  split at h
  · cases h
    exact absurd rfl hquery
  split at h
  · cases h
  rename_i scheme rest hget
  rw [parseHierarchy_rawQuery h] at hquery ⊢
  calc (after rest 63).length < rest.length := length_after_lt hquery
    _ ≤ (before text 35).length := getScheme_length hget
    _ ≤ text.length := length_before_le text 35

/-!
## The values of a query
-/

theorem queryUnescape_length {t : GoString} (h : queryUnescape s = some t) :
    t.length ≤ s.length := by
  induction s using queryUnescape.induct generalizing t with
  | case1 =>
    cases h
    exact le_refl _
  | case2 hi lo rest hiv lov hlo hhi ih =>
    rw [queryUnescape, hhi, hlo, Option.map_eq_some_iff] at h
    rcases h with ⟨tail, htail, rfl⟩
    have hle := ih htail
    simp only [List.length_cons]
    omega
  | case3 hi lo rest hbad =>
    rw [queryUnescape] at h
    split at h
    · rename_i hiv lov hhi hlo
      exact (hbad _ _ hhi hlo).elim
    · cases h
  | case4 rest hshort =>
    rw [queryUnescape] at h
    · cases h
    · exact hshort
  | case5 rest ih =>
    rw [queryUnescape, Option.map_eq_some_iff] at h
    rcases h with ⟨tail, htail, rfl⟩
    exact Nat.succ_le_succ (ih htail)
  | case6 b rest hpair hpercent hplus ih =>
    rw [queryUnescape, Option.map_eq_some_iff] at h
    · rcases h with ⟨tail, htail, rfl⟩
      exact Nat.succ_le_succ (ih htail)
    · exact hpair
    · exact hpercent
    · exact hplus

variable {field : GoString}

theorem length_le_join (sep : UInt8) {fields : List GoString}
    (h : field ∈ fields) : field.length ≤ (join sep fields).length := by
  induction fields with
  | nil => cases h
  | cons first rest ih =>
    cases rest with
    | nil =>
      rw [List.mem_singleton.mp h]
      simp [join]
    | cons second rest =>
      have hjoin : join sep (first :: second :: rest) =
          first ++ [sep] ++ join sep (second :: rest) := by
        simp [join]
      rw [hjoin, List.length_append, List.length_append]
      rcases List.mem_cons.mp h with rfl | hmem
      · omega
      have hle := ih hmem
      omega

theorem length_le_of_mem_split (h : field ∈ split s sep) :
    field.length ≤ s.length := by
  have hle := length_le_join sep h
  unfold join split at hle
  rw [List.intercalate_splitOn] at hle
  exact hle

theorem length_le_of_mem_parseQuery {raw : GoString} {pair : GoString × GoString}
    (h : pair ∈ parseQuery raw) : pair.2.length ≤ raw.length := by
  unfold parseQuery segments at h
  rcases List.mem_filterMap.mp h with ⟨segment, hsegment, hpair⟩
  rcases List.mem_map.mp hsegment with ⟨text, htext, rfl⟩
  have hlength := length_le_of_mem_split (List.mem_of_mem_filter htext)
  unfold readSegment at hpair
  split at hpair
  · cases hpair
  split at hpair
  · rename_i name value _ hvalue
    cases hpair
    exact (queryUnescape_length hvalue).trans ((length_after_le text 61).trans hlength)
  · cases hpair

end ReplxEdge.Net
