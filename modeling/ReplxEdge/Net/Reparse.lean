import ReplxEdge.Net.Hosts

/-!
# Reading a written URL

What `url.Parse` makes of a text that `URL.String` wrote. The path comes back, and a query
comes back as far as a number sign, which starts the fragment.
-/

namespace ReplxEdge.Net

open Foundation

/-!
## Authorities
-/

variable {keep : UInt8 -> Bool}

theorem escapeExcept_controls
    (hkeep : forall b, keep b = true -> isControlByte b = false) (s : GoString) :
    forall b, b ∈ escapeExcept keep s -> isControlByte b = false := by
  have hdigit : forall n, n < 16 -> isControlByte (upperHex n) = false := by decide
  intro b hb
  rcases mem_escapeExcept hb with ⟨_, hkept⟩ | rfl | ⟨n, hn, rfl⟩
  · exact hkeep b hkept
  · decide
  · exact hdigit n hn

theorem escapeExcept_userinfo (s : GoString) : ((escapeExcept isUserByte s).all fun b =>
    isUnreserved b || (str ":!$&'()*+,;=%@").contains b) = true := by
  have hkept : forall b : UInt8, isUserByte b = true ->
      (isUnreserved b || (str ":!$&'()*+,;=%@").contains b) = true :=
    forall_byte (by decide +kernel)
  have hdigit : forall n, n < 16 ->
      (isUnreserved (upperHex n) || (str ":!$&'()*+,;=%@").contains (upperHex n)) = true := by
    decide
  rw [List.all_eq_true]
  intro b hb
  rcases mem_escapeExcept hb with ⟨_, hkeep⟩ | rfl | ⟨n, hn, rfl⟩
  · exact hkept b hkeep
  · decide
  · exact hdigit n hn

theorem validEscapes_escapeExcept (hkeep : keep 37 = false)
    (s : GoString) : validEscapes (escapeExcept keep s) = true := by
  rw [validEscapes, pathUnescape_escapeExcept hkeep]
  rfl

theorem colon_not_mem_user (s : GoString) : 58 ∉ escapeExcept isUserByte s :=
  not_mem_escapeExcept (Or.inr (by decide)) (by decide) (by decide)

theorem validUserinfo_userText (raw : GoString) :
    validUserinfo (Link.userText raw) = true := by
  have hvalid : forall s, validEscapes (escapeExcept isUserByte s) = true :=
    validEscapes_escapeExcept (by decide)
  unfold Link.userText validUserinfo
  simp only
  split
  · rw [before_append (colon_not_mem_user _), after_append (colon_not_mem_user _),
      before_cons_self, after_cons_self, List.append_nil, hvalid, hvalid, List.all_append,
      List.all_cons, escapeExcept_userinfo, escapeExcept_userinfo]
    decide
  have hback : after (escapeExcept isUserByte ((pathUnescape raw).getD [])) 58 = [] := by
    rw [← List.append_nil (escapeExcept isUserByte _), after_append (colon_not_mem_user _)]
    rfl
  rw [before_of_not_mem (colon_not_mem_user _), hback, hvalid, escapeExcept_userinfo]
  decide

def writtenAuthority (u : URL) : GoString :=
  (u.user.elim [] fun raw => Link.userText raw ++ [64]) ++ escapeExcept isHostByte u.host

variable {c : UInt8}

theorem mem_userText {raw : GoString} (h : c ∈ Link.userText raw) :
    c = 58 ∨ exists part, c ∈ escapeExcept isUserByte part := by
  unfold Link.userText at h
  simp only at h
  split at h
  · rcases List.mem_append.mp h with hname | hrest
    · exact Or.inr ⟨_, hname⟩
    rcases List.mem_cons.mp hrest with hcolon | hsecret
    · exact Or.inl hcolon
    · exact Or.inr ⟨_, hsecret⟩
  · exact Or.inr ⟨_, h⟩

variable {u : URL}

theorem mem_writtenAuthority (h : c ∈ writtenAuthority u) :
    c = 58 ∨ c = 64 ∨ (exists part, c ∈ escapeExcept isUserByte part) ∨
      c ∈ escapeExcept isHostByte u.host := by
  unfold writtenAuthority at h
  rcases List.mem_append.mp h with huser | hhost
  · cases hu : u.user with
    | none =>
      rw [hu] at huser
      cases huser
    | some raw =>
      rw [hu] at huser
      rcases List.mem_append.mp huser with htext | hat
      · rcases mem_userText htext with hcolon | hpart
        · exact Or.inl hcolon
        · exact Or.inr (Or.inr (Or.inl hpart))
      · exact Or.inr (Or.inl (List.mem_singleton.mp hat))
  · exact Or.inr (Or.inr (Or.inr hhost))

theorem not_mem_writtenAuthority (u : URL) (hc : c = 47 ∨ c = 63 ∨ c = 35) :
    c ∉ writtenAuthority u := by
  intro hmem
  rcases mem_writtenAuthority hmem with hcolon | hat | ⟨part, hpart⟩ | hhost
  · rcases hc with rfl | rfl | rfl <;> cases hcolon
  · rcases hc with rfl | rfl | rfl <;> cases hat
  · rcases hc with rfl | rfl | rfl <;>
      exact not_mem_escapeExcept (Or.inr (by decide)) (by decide) (by decide) hpart
  rcases hc with rfl | rfl | rfl <;>
    exact not_mem_escapeExcept (Or.inr (by decide)) (by decide) (by decide) hhost

theorem writtenAuthority_controls (u : URL) :
    forall b, b ∈ writtenAuthority u -> isControlByte b = false := by
  have huser : forall b : UInt8, isUserByte b = true -> isControlByte b = false :=
    forall_byte (by decide +kernel)
  have hhost : forall b : UInt8, isHostByte b = true -> isControlByte b = false :=
    forall_byte (by decide +kernel)
  intro b hb
  rcases mem_writtenAuthority hb with rfl | rfl | ⟨part, hpart⟩ | hname
  · decide
  · decide
  · exact escapeExcept_controls huser part b hpart
  · exact escapeExcept_controls hhost u.host b hname

theorem parseAuthority_written (u : URL) :
    parseAuthority (writtenAuthority u) =
      (parseHost (escapeExcept isHostByte u.host)).map fun host =>
        (u.user.map Link.userText, host) := by
  have hat : 64 ∉ escapeExcept isHostByte u.host :=
    not_mem_escapeExcept (Or.inr (by decide)) (by decide) (by decide)
  cases huser : u.user with
  | none =>
    have htext : writtenAuthority u = escapeExcept isHostByte u.host := by
      unfold writtenAuthority
      rw [huser]
      rfl
    rw [htext, parseAuthority, if_neg hat]
    rfl
  | some raw =>
    have htext : writtenAuthority u =
        Link.userText raw ++ 64 :: escapeExcept isHostByte u.host := by
      unfold writtenAuthority
      rw [huser, Option.elim_some, List.append_assoc]
      rfl
    rw [htext, parseAuthority, if_pos (List.mem_append_right _ List.mem_cons_self),
      beforeLast_append _ hat, afterLast_append _ hat, if_pos (validUserinfo_userText raw)]
    rfl

variable {text : GoString}

theorem parsedHost_of_parseAuthority {host : GoString} {user : Option GoString}
    (h : parseAuthority text = some (user, host)) : ParsedHost host := by
  unfold parseAuthority at h
  split at h
  · split at h
    · rcases Option.map_eq_some_iff.mp h with ⟨named, hnamed, hpair⟩
      cases hpair
      exact parsedHost_of_parseHost hnamed
    · cases h
  rcases Option.map_eq_some_iff.mp h with ⟨named, hnamed, hpair⟩
  cases hpair
  exact parsedHost_of_parseHost hnamed

/-!
## Texts behind the authority
-/

def Link.behindPath (l : Link) : GoString :=
  (if l.url.forceQuery = true ∨ l.url.rawQuery ≠ [] then 63 :: l.url.rawQuery else []) ++
    l.fragmentText

theorem Link.fragmentText_cases (l : Link) :
    l.fragmentText = [] ∨
      exists fragment, l.fragmentText = 35 :: fragment ∧ validEscapes fragment = true := by
  unfold Link.fragmentText
  simp only
  split
  · exact Or.inl rfl
  rename_i hsome
  right
  split
  · refine ⟨_, rfl, ?_⟩
    cases hdecode : pathUnescape l.fragment with
    | none =>
      rw [hdecode] at hsome
      exact absurd rfl hsome
    | some decoded =>
      rw [validEscapes, hdecode]
      rfl
  · exact ⟨_, rfl, validEscapes_escapeExcept (by decide) _⟩

section Behind

variable (l : Link)

theorem Link.before_fragmentText : before l.fragmentText 35 = [] := by
  rcases l.fragmentText_cases with hnil | ⟨fragment, hsome, _⟩
  · rw [hnil]
    rfl
  · rw [hsome, before_cons_self]

theorem Link.before_number (raw : GoString) :
    before (raw ++ l.fragmentText) 35 = before raw 35 := by
  by_cases hnumber : 35 ∈ raw
  · exact before_append_of_mem hnumber _
  · rw [before_append hnumber, l.before_fragmentText, before_of_not_mem hnumber, List.append_nil]

theorem Link.after_number (raw : GoString) :
    validEscapes (after (raw ++ l.fragmentText) 35) = validEscapes (after raw 35) := by
  have hfragment := l.fragmentText_cases
  by_cases hnumber : 35 ∈ raw
  · rw [after_append_of_mem hnumber]
    rcases hfragment with hnil | ⟨fragment, hsome, hvalid⟩
    · rw [hnil, List.append_nil]
    · rw [hsome, validEscapes_append (by decide) (by decide), hvalid, Bool.and_true]
  rw [after_append hnumber, after_of_not_mem hnumber]
  rcases hfragment with hnil | ⟨fragment, hsome, hvalid⟩
  · rw [hnil]
    rfl
  rw [hsome, after_cons_self, hvalid]
  rfl

theorem Link.behindPath_cases :
    (l.behindPath = l.fragmentText ∧ l.url.rawQuery = []) ∨
      l.behindPath = 63 :: (l.url.rawQuery ++ l.fragmentText) := by
  unfold Link.behindPath
  split
  · exact Or.inr rfl
  rename_i hnone
  rw [not_or, not_not] at hnone
  exact Or.inl ⟨rfl, hnone.right⟩

theorem Link.hierarchyText_behindPath : hierarchyText l.behindPath = [] := by
  rcases l.behindPath_cases with ⟨hbehind, _⟩ | hbehind
  · rw [hbehind, hierarchyText, l.before_fragmentText]
    rfl
  · rw [hbehind, hierarchyText_mark]

theorem Link.query_behindPath :
    after (before l.behindPath 35) 63 = before l.url.rawQuery 35 := by
  rcases l.behindPath_cases with ⟨hbehind, hquery⟩ | hbehind
  · rw [hbehind, l.before_fragmentText, hquery]
    rfl
  · rw [hbehind, before_mark, l.before_number, after_cons_self]

theorem Link.controls_behindPath :
    (before l.behindPath 35).any isControlByte = (before l.url.rawQuery 35).any isControlByte := by
  rcases l.behindPath_cases with ⟨hbehind, hquery⟩ | hbehind
  · rw [hbehind, l.before_fragmentText, hquery]
    rfl
  rw [hbehind, before_mark, l.before_number, List.any_cons]
  rfl

theorem Link.escapes_behindPath :
    validEscapes (after l.behindPath 35) = validEscapes (after l.url.rawQuery 35) := by
  rcases l.behindPath_cases with ⟨hbehind, hquery⟩ | hbehind
  · have hnumber := l.after_number []
    rw [List.nil_append] at hnumber
    rw [hbehind, hnumber, hquery]
  · rw [hbehind, after_mark, l.after_number]

end Behind

/-!
## Whole texts
-/

theorem head_dropWhile_slash (s : GoString) :
    (s.dropWhile fun b => b != 47) = [] ∨ (s.dropWhile fun b => b != 47).head? = some 47 := by
  cases hdrop : s.dropWhile fun b => b != 47 with
  | nil => exact Or.inl rfl
  | cons b rest =>
    right
    have hfirst := List.head?_dropWhile_not (fun b => b != 47) s
    rw [hdrop] at hfirst
    simpa using hfirst

theorem head_pathText (tail : GoString) :
    pathText tail = [] ∨ (pathText tail).head? = some 47 :=
  head_dropWhile_slash (hierarchyText tail)

theorem escapedPath_head {path rawPath : GoString} (hpath : path.head? = some 47)
    (hraw : rawPath = [] ∨ rawPath.head? = some 47) :
    (escapedPath path rawPath).head? = some 47 := by
  cases path with
  | nil => cases hpath
  | cons b rest =>
    cases hpath
    unfold escapedPath
    split
    · rename_i hkept
      rcases hraw with hnil | hhead
      · exact absurd hnil hkept.left
      · exact hhead
    rw [if_neg (by intro hstar; cases hstar), pathEscape, List.flatMap_cons,
      if_pos (by decide)]
    rfl

structure Link.Absolute (l : Link) : Prop where
  scheme : ValidScheme l.url.scheme
  lower : toLower l.url.scheme = l.url.scheme
  host : ParsedHost l.url.host
  host_ne : l.url.host ≠ []
  rootless : l.url.rootless = []
  rooted : escapedPath l.url.path l.url.rawPath = [] ∨
    (escapedPath l.url.path l.url.rawPath).head? = some 47

/-- A query that a parser accepts behind a question mark. -/
def ReadableQuery (raw : GoString) : Prop :=
  (before raw 35).any isControlByte = false ∧ validEscapes (after raw 35) = true

theorem Link.unreadable_iff (l : Link) :
    ((before (writtenAuthority l.url ++
      (escapedPath l.url.path l.url.rawPath ++ l.behindPath)) 35).any isControlByte ||
      !validEscapes (after (writtenAuthority l.url ++
        (escapedPath l.url.path l.url.rawPath ++ l.behindPath)) 35)) = true <->
      ¬ ReadableQuery l.url.rawQuery := by
  have hencoded := validEncodedPath_escapedPath l.url.path l.url.rawPath
  rcases not_mem_of_validEncodedPath hencoded with ⟨hmark, hnumber⟩
  have hauthority := not_mem_writtenAuthority l.url (c := 35) (Or.inr (Or.inr rfl))
  have hcontrols : (writtenAuthority l.url).any isControlByte = false := by
    rw [List.any_eq_false]
    intro b hb
    rw [writtenAuthority_controls l.url b hb]
    decide
  have hpath : (escapedPath l.url.path l.url.rawPath).any isControlByte = false := by
    have hbyte : forall b : UInt8, (isPathByte b || (str "!'()*[]%").contains b) = true ->
        isControlByte b = false := forall_byte (by decide +kernel)
    unfold validEncodedPath at hencoded
    rw [List.all_eq_true] at hencoded
    rw [List.any_eq_false]
    intro b hb
    rw [hbyte b (hencoded b hb)]
    decide
  rw [before_append hauthority, before_append hnumber, after_append hauthority,
    after_append hnumber, List.any_append, List.any_append, hcontrols, hpath,
    Bool.false_or, Bool.false_or, l.controls_behindPath, l.escapes_behindPath]
  unfold ReadableQuery
  cases (before l.url.rawQuery 35).any isControlByte <;>
    cases validEscapes (after l.url.rawQuery 35) <;> decide

theorem readableQuery_encode (values : Values) : ReadableQuery values.encode := by
  have hcontrol : forall b : UInt8, isControlByte b = true ->
      isSeparator b = true ∧ b ≠ 38 ∧ b ≠ 61 := forall_byte (by decide +kernel)
  have hnumber : 35 ∉ values.encode :=
    separator_not_mem_encode (by decide) (by decide) (by decide) values
  unfold ReadableQuery
  rw [before_of_not_mem hnumber, after_of_not_mem hnumber]
  refine ⟨?_, rfl⟩
  rw [List.any_eq_false]
  intro b hb hbad
  rcases hcontrol b hbad with ⟨hseparator, hamp, hequals⟩
  exact separator_not_mem_encode hseparator hamp hequals values hb

/-- What a parser makes of a link's text. -/
structure Link.ReadBack (l : Link) (u : URL) : Prop where
  scheme : u.scheme = l.url.scheme
  host : u.host = l.url.host
  rootless : u.rootless = []
  path : u.path = l.url.path
  query : u.rawQuery = before l.url.rawQuery 35

theorem parseTail_rootless {scheme tail : GoString}
    (h : parseTail scheme tail = some u) : u.rootless = [] := by
  unfold parseTail at h
  split at h
  · cases h
  split at h
  · cases h
  rcases Option.map_eq_some_iff.mp h with ⟨parsed, _, rfl⟩
  rfl

theorem parseURL_named (h : parseURL text = some u)
    (hscheme : u.scheme ≠ []) (hhost : u.host ≠ []) :
    ParsedHost u.host ∧ u.rootless = [] := by
  rcases parseURL_host h hscheme hhost with ⟨scheme, tail, rfl, hvalid⟩
  rw [parseURL_scheme hvalid] at h
  exact ⟨parsedHost_of_parseAuthority (parseTail_some h).left, parseTail_rootless h⟩

namespace Link.Absolute

variable {l : Link} (h : l.Absolute)
include h

theorem text_eq : l.text = l.url.scheme ++ str "://" ++ (writtenAuthority l.url ++
    (escapedPath l.url.path l.url.rawPath ++ l.behindPath)) := by
  have hauthority : l.authority = str "//" ++ writtenAuthority l.url := by
    unfold Link.authority writtenAuthority
    rw [if_neg (fun hempty => h.host_ne hempty.left),
      if_neg (fun hempty => h.host_ne hempty.left), List.append_assoc]
  have hpath : l.pathPart = escapedPath l.url.path l.url.rawPath := by
    unfold Link.pathPart
    simp only
    rw [if_neg, if_neg (fun hempty => h.scheme.ne_nil hempty.left)]
    intro hloose
    rcases h.rooted with hnil | hhead
    · exact hloose.right.left hnil
    · exact hloose.right.right hhead
  unfold Link.text
  rw [if_neg h.scheme.ne_nil, if_neg (by simp [h.rootless]), hauthority, hpath]
  have hmark : str "://" = [58] ++ str "//" := rfl
  unfold Link.behindPath
  rw [hmark]
  simp only [List.append_assoc]

theorem authorityText_tail :
    authorityText (writtenAuthority l.url ++
      (escapedPath l.url.path l.url.rawPath ++ l.behindPath)) = writtenAuthority l.url := by
  rcases not_mem_of_validEncodedPath
    (validEncodedPath_escapedPath l.url.path l.url.rawPath) with ⟨hmark, hnumber⟩
  have hrooted : before (escapedPath l.url.path l.url.rawPath) 47 = [] := by
    rcases h.rooted with hnil | hhead
    · rw [hnil]
      rfl
    cases hpath : escapedPath l.url.path l.url.rawPath with
    | nil => rfl
    | cons b rest =>
      rw [hpath] at hhead
      cases hhead
      exact before_cons_self 47 rest
  rw [← authorityText_eq,
    hierarchyText_append (not_mem_writtenAuthority l.url (Or.inr (Or.inl rfl)))
      (not_mem_writtenAuthority l.url (Or.inr (Or.inr rfl))),
    hierarchyText_append hmark hnumber, l.hierarchyText_behindPath, List.append_nil,
    before_append (not_mem_writtenAuthority l.url (Or.inl rfl)), hrooted, List.append_nil]

theorem pathText_tail :
    pathText (writtenAuthority l.url ++ (escapedPath l.url.path l.url.rawPath ++ l.behindPath)) =
      escapedPath l.url.path l.url.rawPath := by
  rcases not_mem_of_validEncodedPath
    (validEncodedPath_escapedPath l.url.path l.url.rawPath) with ⟨hmark, hnumber⟩
  rw [pathText_append (not_mem_writtenAuthority l.url (Or.inr (Or.inl rfl)))
      (not_mem_writtenAuthority l.url (Or.inr (Or.inr rfl))),
    if_neg (not_mem_writtenAuthority l.url (Or.inl rfl)),
    pathText_behind l.hierarchyText_behindPath, pathText, hierarchyText_self hmark hnumber]
  rcases h.rooted with hnil | hhead
  · rw [hnil]
    rfl
  cases hpath : escapedPath l.url.path l.url.rawPath with
  | nil => rfl
  | cons b rest =>
    rw [hpath] at hhead
    cases hhead
    exact List.dropWhile_cons_of_neg (by decide)

theorem parse_eq : parseURL l.text = parseTail l.url.scheme (writtenAuthority l.url ++
    (escapedPath l.url.path l.url.rawPath ++ l.behindPath)) := by
  rw [h.text_eq, parseURL_scheme h.scheme, h.lower]

theorem readBack (hparse : parseURL l.text = some u) : l.ReadBack u := by
  rw [h.parse_eq] at hparse
  rcases parseTail_some hparse with ⟨hauthority, hscheme, hpath, hquery⟩
  rw [h.authorityText_tail, parseAuthority_written] at hauthority
  rcases Option.map_eq_some_iff.mp hauthority with ⟨host, hhost, hnamed⟩
  have hname : u.host = host := congrArg Prod.snd hnamed.symm
  rw [h.pathText_tail, pathUnescape_escapedPath, Option.some.injEq] at hpath
  refine ⟨hscheme, ?_, parseTail_rootless hparse, hpath.symm, ?_⟩
  · by_cases hzone : AsciiZone l.url.host
    · rw [(parseHost_written h.host).left hzone] at hhost
      rw [hname]
      exact (Option.some.inj hhost).symm
    rw [(parseHost_written h.host).right hzone] at hhost
    cases hhost
  rcases not_mem_of_validEncodedPath
    (validEncodedPath_escapedPath l.url.path l.url.rawPath) with ⟨hmark, hnumber⟩
  rw [hquery, before_append (not_mem_writtenAuthority l.url (Or.inr (Or.inr rfl))),
    before_append hnumber, after_append (not_mem_writtenAuthority l.url (Or.inr (Or.inl rfl))),
    after_append hmark, l.query_behindPath]

theorem isSome_parse :
    (parseURL l.text).isSome = true <-> AsciiZone l.url.host ∧ ReadableQuery l.url.rawQuery := by
  rw [h.parse_eq, parseTail, h.authorityText_tail, parseAuthority_written, h.pathText_tail]
  split
  · rename_i hbad
    have hquery := l.unreadable_iff.mp hbad
    constructor
    · intro hsome
      cases hsome
    intro hread
    exact absurd hread.right hquery
  rename_i hgood
  have hquery : ReadableQuery l.url.rawQuery := by
    by_contra hnot
    exact hgood (l.unreadable_iff.mpr hnot)
  by_cases hzone : AsciiZone l.url.host
  · rw [(parseHost_written h.host).left hzone]
    simp only [Option.map_some, withPath, setPath, pathUnescape_escapedPath]
    exact ⟨fun _ => ⟨hzone, hquery⟩, fun _ => rfl⟩
  rw [(parseHost_written h.host).right hzone]
  constructor
  · intro hsome
    cases hsome
  intro hread
  exact absurd hread.left hzone

end Link.Absolute

end ReplxEdge.Net
