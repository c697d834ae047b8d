import ReplxEdge.Net.Url
import ReplxEdge.Cache.ResponsePolicy

/-!
# Origin requests

What the proxy sends to the origin for a client request, next to what the
response key says about that request. The key is computed from the parsed
query and a chosen set of headers; the origin receives the raw query, the body
and every end-to-end header.
-/

namespace ReplxEdge.Proxy

open Foundation
open Net
open Cache

variable {name : GoString} {h k : Header}

/-!
## Header copying
-/

def requestIDHeader : GoString :=
  str "X-Replx-Edge-Request-Id"

def hopByHop : List GoString :=
  [str "Connection", str "Proxy-Connection", str "Keep-Alive", str "Te",
    str "Trailer", str "Transfer-Encoding", str "Upgrade",
    str "Proxy-Authenticate", str "Proxy-Authorization"]

def isHopByHop (name : GoString) : Bool :=
  hopByHop.any fun hop => equalFold name hop

/-- Lower-case names nominated by the first Connection line. -/
def connected (src : Header) : List GoString :=
  (((split (src.get (str "Connection")) 44).map trimSpace).filter
    fun token => token != []).map toLower

def endToEnd (src : Header) (name : GoString) : Bool :=
  !isHopByHop name && !(connected src).contains (toLower name)

/-- `copyHeaders` into an empty destination. -/
def copyHeaders (src : Header) : Header :=
  src.filter (endToEnd src)

/-!
## The forwarded request
-/

structure Origin where
  scheme : GoString
  host : GoString
  path : GoString

structure OriginRequest where
  method : GoString
  path : GoString
  rawQuery : GoString
  header : Header
  body : GoString

/-- The query of the target after it is printed and parsed again. A number sign
starts the fragment, which is not sent; the parse fails on control bytes and on
a fragment with a broken escape. -/
def reparsedQuery (raw : GoString) : Option GoString :=
  if (before raw 35).any isControlByte then none
  else if validEscapes (after raw 35) then some (before raw 35)
  else none

/-- The immediate peer: its address as text, and whether it is infrastructure
whose forwarding history is kept. -/
structure Peer where
  address : GoString
  trusted : Bool

def forwardedFor (peer : Peer) (h : Header) : GoString :=
  let prior := h.get (str "X-Forwarded-For")
  if peer.address = [] then []
  else if prior ≠ [] ∧ peer.trusted = true then prior ++ str ", " ++ peer.address
  else peer.address

def outHeader (id : GoString) (peer : Peer) (isCacheable : Bool) (src : Header) :
    Header :=
  let named := (copyHeaders src).set requestIDHeader id (by decide) (by decide)
  let plain := if isCacheable then named.del (str "Accept-Encoding") else named
  if forwardedFor peer src = [] then plain
  else plain.set (str "X-Forwarded-For") (forwardedFor peer src) (by decide) (by decide)

/-- The request `proxy` issues; `none` when the target does not parse and the
client gets a bad gateway. -/
def originRequest (origin : Origin) (id : GoString) (peer : Peer)
    (isCacheable : Bool) (r : Request) : Option OriginRequest :=
  match reparsedQuery r.rawQuery with
  | none => none
  | some rawQuery => some
      { method := r.method
        path := singleJoin origin.path r.path
        rawQuery := rawQuery
        header := outHeader id peer isCacheable r.header
        body := r.body }

/-!
## What the origin may tell apart
-/

/-- A pair is secret by its name, also when its value cannot be read. -/
def secretSegment : Segment -> Bool
  | .pair name _ => isSecretParam name
  | .malformed text =>
    match queryUnescape (before text 61) with
    | some name => isSecretParam name
    | none => false

def nonSecretSegments (raw : GoString) : List Segment :=
  (segments raw).filter fun segment => !secretSegment segment

def nonSecretPairs (raw : GoString) : Values :=
  (nonSecretSegments raw).filterMap Segment.pair?

def nonSecretMalformed (raw : GoString) : List Segment :=
  (nonSecretSegments raw).filter Segment.isMalformed

def freeHeaders : List GoString :=
  [str "X-Plex-Token", str "Accept-Encoding", requestIDHeader, str "X-Forwarded-For"]

/-- The same exchange with the origin, up to the order and encoding of the query
pairs and the free headers. -/
structure SameExchange (a b : OriginRequest) : Prop where
  path : a.path = b.path
  body : a.body = b.body
  query : (nonSecretSegments a.rawQuery).Perm (nonSecretSegments b.rawQuery)
  header : forall name, name ∉ freeHeaders ->
    a.header.values name = b.header.values name

/-- The inputs that the response key leaves out. -/
structure AgreeOffKey (r1 r2 : Request) : Prop where
  body : r1.body = r2.body
  malformed : (nonSecretMalformed (before r1.rawQuery 35)).Perm
    (nonSecretMalformed (before r2.rawQuery 35))
  fragment : (35 ∈ r1.rawQuery ∨ 35 ∈ r2.rawQuery) ->
    (nonSecretPairs (before r1.rawQuery 35)).Perm
      (nonSecretPairs (before r2.rawQuery 35))
  accept : str "accept" ∈ connected r1.header ∨
    (r1.header.values (str "Accept") = [] <-> r2.header.values (str "Accept") = [])

/-!
## Queries
-/

theorem nonSecretPairs_eq (raw : GoString) :
    nonSecretPairs raw = canonicalQuery (parseQuery raw) := by
  unfold nonSecretPairs nonSecretSegments canonicalQuery parseQuery
  induction segments raw with
  | nil => rfl
  | cons segment rest ih =>
    cases segment with
    | pair name value =>
      have hhead : secretSegment (.pair name value) = isSecretParam name := rfl
      rw [List.filterMap_cons_some (b := (name, value)) (by rfl), List.filter_cons,
        List.filter_cons, hhead]
      cases isSecretParam name with
      | true => exact ih
      | false =>
        rw [if_pos Bool.not_false, if_pos Bool.not_false,
          List.filterMap_cons_some (b := (name, value)) (by rfl), ih]
    | malformed text =>
      rw [List.filterMap_cons_none (by rfl), List.filter_cons]
      cases hkeep : !secretSegment (.malformed text) with
      | true =>
        rw [if_pos rfl, List.filterMap_cons_none (by rfl)]
        exact ih
      | false =>
        rw [if_neg Bool.false_ne_true]
        exact ih

theorem hashInput_inj {m p1 p2 a1 a2 : GoString} {q1 q2 : Values}
    (ha1 : (0 : UInt8) ∉ a1) (ha2 : (0 : UInt8) ∉ a2)
    (h : hashInput m p1 q1 a1 = hashInput m p2 q2 a2) :
    p1 = p2 ∧ a1 = a2 ∧ (canonicalQuery q1).encode = (canonicalQuery q2).encode := by
  have hplain : forall q : Values, (0 : UInt8) ∉ q.encode := fun q =>
    separator_not_mem_encode (by decide) (by decide) (by decide) q
  have hrest : (p1 ++ 0 :: a1) ++ 0 :: (canonicalQuery q1).encode =
      (p2 ++ 0 :: a2) ++ 0 :: (canonicalQuery q2).encode := by
    simpa [hashInput] using h
  rcases separator_append_inj (hplain _) (hplain _) hrest with ⟨hleft, hquery⟩
  rcases separator_append_inj ha1 ha2 hleft with ⟨hpath, haccept⟩
  exact ⟨hpath, haccept, hquery⟩

/-!
## Headers
-/

theorem outHeader_kept (id : GoString) (peer : Peer) (isCacheable : Bool) (src : Header)
    (hencoding : name ≠ str "Accept-Encoding") (hid : name ≠ requestIDHeader)
    (hforwarded : name ≠ str "X-Forwarded-For") :
    (outHeader id peer isCacheable src).values name =
      if endToEnd src name then src.values name else [] := by
  have hnamed : ((copyHeaders src).set requestIDHeader id (by decide) (by decide)).values
      name = (copyHeaders src).values name :=
    Header.values_set_ne _ _ _ hid
  have hplain : (if isCacheable = true then
      ((copyHeaders src).set requestIDHeader id (by decide) (by decide)).del
        (str "Accept-Encoding")
      else (copyHeaders src).set requestIDHeader id (by decide) (by decide)).values name =
      (copyHeaders src).values name := by
    cases isCacheable with
    | true =>
      rw [if_pos rfl, Header.del, Header.values_filter, if_pos (by simpa using hencoding)]
      exact hnamed
    | false => exact hnamed
  have hcopied : (copyHeaders src).values name =
      if endToEnd src name then src.values name else [] :=
    Header.values_filter src (endToEnd src) name
  unfold outHeader
  by_cases hnone : forwardedFor peer src = []
  · rw [if_pos hnone]
    exact hplain.trans hcopied
  rw [if_neg hnone, Header.values_set_ne _ _ _ hforwarded]
  exact hplain.trans hcopied

theorem outHeader_values (id : GoString) (peer : Peer) (isCacheable : Bool)
    (src : Header) (hname : name ∉ freeHeaders) :
    (outHeader id peer isCacheable src).values name =
      if endToEnd src name then src.values name else [] := by
  simp only [freeHeaders, List.mem_cons, List.not_mem_nil, or_false, not_or] at hname
  rcases hname with ⟨_htoken, hencoding, hid, hforwarded⟩
  exact outHeader_kept id peer isCacheable src hencoding hid hforwarded

variable {f : Field}

theorem name_of_lower (hf : f ∈ h.fields) {lower : GoString}
    (hlower : toLower f.name = lower) (hname : canonicalName lower = name) :
    f.name = name := by
  rw [← h.canonical f hf, ← canonicalName_toLower (h.token f hf), hlower, hname]

theorem varies_of_name (hf : f ∈ h.fields)
    (hfree : f.name ∉ freeHeaders) (haccept : f.name ≠ str "Accept") :
    varies f = true := by
  simp only [freeHeaders, List.mem_cons, List.not_mem_nil, or_false, not_or] at hfree
  rcases hfree with ⟨htoken, hencoding, hid, _hforwarded⟩
  unfold varies
  simp only
  rw [if_neg fun hlower => haccept (name_of_lower hf hlower (by decide)),
    if_neg fun hlower => hencoding (name_of_lower hf hlower (by decide)),
    if_neg fun hlower => htoken (name_of_lower hf hlower (by decide)),
    if_neg fun hlower => hid (name_of_lower hf hlower (by decide))]

theorem values_sub (hval : (variationValues h).encode = (variationValues k).encode)
    (hfree : name ∉ freeHeaders) (haccept : name ≠ str "Accept")
    (hpresent : h.values name ≠ []) : k.values name = h.values name := by
  rw [ne_eq, Header.values_eq_nil_iff] at hpresent
  push Not at hpresent
  rcases hpresent with ⟨f, hf, rfl⟩
  have hmem := varying_field_mem hval hf (varies_of_name hf hfree haccept)
  rw [Header.values_of_mem k hmem, Header.values_of_mem h hf]

theorem values_eq (hval : (variationValues h).encode = (variationValues k).encode)
    (hfree : name ∉ freeHeaders) (haccept : name ≠ str "Accept") :
    h.values name = k.values name := by
  by_cases hh : h.values name = []
  · by_cases hk : k.values name = []
    · rw [hh, hk]
    · exact values_sub hval.symm hfree haccept hk
  · exact (values_sub hval hfree haccept hh).symm

theorem varies_accept (hname : f.name = str "Accept") :
    varies f = (f.values.length != 1) := by
  have hlower : toLower f.name = str "accept" := by
    rw [hname]
    decide
  simp [varies, hlower]

theorem accept_several (hval : (variationValues h).encode = (variationValues k).encode)
    (hlength : (h.values (str "Accept")).length ≠ 1)
    (hpresent : h.values (str "Accept") ≠ []) :
    k.values (str "Accept") = h.values (str "Accept") := by
  rw [ne_eq, Header.values_eq_nil_iff] at hpresent
  push Not at hpresent
  rcases hpresent with ⟨f, hf, hname⟩
  have hfvalues : h.values (str "Accept") = f.values := by
    rw [← hname]
    exact Header.values_of_mem h hf
  have hvaries : varies f = true := by
    rw [varies_accept hname]
    rw [hfvalues] at hlength
    simpa using hlength
  have hmem := varying_field_mem hval hf hvaries
  rw [hfvalues, ← hname]
  exact Header.values_of_mem k hmem

theorem accept_eq (hval : (variationValues h).encode = (variationValues k).encode)
    (hget : h.get (str "Accept") = k.get (str "Accept"))
    (hh : h.values (str "Accept") ≠ []) (hk : k.values (str "Accept") ≠ []) :
    h.values (str "Accept") = k.values (str "Accept") := by
  by_cases hone : (h.values (str "Accept")).length = 1
  · by_cases kone : (k.values (str "Accept")).length = 1
    · rcases List.length_eq_one_iff.mp hone with ⟨a, ha⟩
      rcases List.length_eq_one_iff.mp kone with ⟨b, hb⟩
      have hab : a = b := by simpa [Header.get, ha, hb] using hget
      rw [ha, hb, hab]
    · exact accept_several hval.symm kone hk
  · exact (accept_several hval hone hh).symm

theorem connected_eq (hval : (variationValues h).encode = (variationValues k).encode) :
    connected h = connected k := by
  have hvalues : h.values (str "Connection") = k.values (str "Connection") :=
    values_eq hval (by decide) (by decide)
  unfold connected Header.get
  rw [hvalues]

theorem endToEnd_eq (hval : (variationValues h).encode = (variationValues k).encode) :
    endToEnd h = endToEnd k := by
  funext name
  rw [endToEnd, endToEnd, connected_eq hval]

theorem endToEnd_accept (h : Header) :
    endToEnd h (str "Accept") = true <-> str "accept" ∉ connected h := by
  have hhop : isHopByHop (str "Accept") = false := by decide
  have hlower : toLower (str "Accept") = str "accept" := by decide
  simp [endToEnd, hhop, hlower]

/-!
## The key against the exchange
-/

/-- The digests of two requests meet only on equal messages. -/
structure DigestsSeparate (r1 r2 : Request) : Prop where
  request : requestHash r1 = requestHash r2 ->
    hashInput r1.method r1.path r1.query (r1.header.get (str "Accept")) =
      hashInput r2.method r2.path r2.query (r2.header.get (str "Accept"))
  header : sha256 (variationValues r1.header).encode =
      sha256 (variationValues r2.header).encode ->
    (variationValues r1.header).encode = (variationValues r2.header).encode

def NulFree (h : Header) : Prop :=
  forall field, field ∈ h.fields -> forall value, value ∈ field.values ->
    (0 : UInt8) ∉ value

structure KeyAgreement (r1 r2 : Request) : Prop where
  path : r1.path = r2.path
  accept : r1.header.get (str "Accept") = r2.header.get (str "Accept")
  query : (canonicalQuery r1.query).encode = (canonicalQuery r2.query).encode
  header : (variationValues r1.header).encode = (variationValues r2.header).encode

theorem get_nulFree (hfree : NulFree h) (name : GoString) :
    (0 : UInt8) ∉ h.get name := by
  by_cases hnil : h.values name = []
  · simp [Header.get, hnil]
  have hpresent := hnil
  rw [Header.values_eq_nil_iff] at hpresent
  push Not at hpresent
  rcases hpresent with ⟨f, hf, rfl⟩
  rw [Header.get, Header.values_of_mem h hf]
  cases hvalues : f.values with
  | nil =>
    simp
  | cons value rest => exact hfree f hf value (by simp [hvalues])

variable {r1 r2 : Request}

theorem keyAgreement {scope : GoString} {sg gg : Nat}
    {ttl1 ttl2 : Duration} (hc1 : requestCacheable r1 = some ttl1)
    (hc2 : requestCacheable r2 = some ttl2)
    (hkey : requestKeyGen scope (classOf r1.path).label r1 sg gg =
      requestKeyGen scope (classOf r2.path).label r2 sg gg) (hseparate : DigestsSeparate r1 r2)
    (hn1 : NulFree r1.header) (hn2 : NulFree r2.header) : KeyAgreement r1 r2 := by
  have hparts := requestKeyGen_inj hkey
  have hhash : requestHash r1 = requestHash r2 := congrArg KeyParts.hash hparts
  have hvariation : headerVariation r1.header = headerVariation r2.header :=
    congrArg KeyParts.variation hparts
  have hinput := hseparate.request hhash
  rw [requestCacheable_method hc1, requestCacheable_method hc2] at hinput
  rcases hashInput_inj (get_nulFree hn1 _) (get_nulFree hn2 _) hinput with
    ⟨hpath, haccept, hquery⟩
  exact ⟨hpath, haccept, hquery, variationValues_encode_eq hvariation hseparate.header⟩

theorem query_iff (h : KeyAgreement r1 r2) :
    (nonSecretSegments (before r1.rawQuery 35)).Perm (nonSecretSegments (before r2.rawQuery 35)) <->
    (nonSecretMalformed (before r1.rawQuery 35)).Perm (nonSecretMalformed (before r2.rawQuery 35)) ∧
    ((35 ∈ r1.rawQuery ∨ 35 ∈ r2.rawQuery) -> (nonSecretPairs (before r1.rawQuery 35)).Perm
    (nonSecretPairs (before r2.rawQuery 35))) := by
  rw [segments_perm_iff]
  constructor
  · intro hboth
    exact ⟨hboth.right, fun _ => hboth.left⟩
  intro hboth
  refine ⟨?_, hboth.left⟩
  by_cases hsign : 35 ∈ r1.rawQuery ∨ 35 ∈ r2.rawQuery
  · exact hboth.right hsign
  rw [not_or] at hsign
  rw [before_of_not_mem hsign.left, before_of_not_mem hsign.right]
  change (nonSecretPairs r1.rawQuery).Perm (nonSecretPairs r2.rawQuery)
  rw [nonSecretPairs_eq, nonSecretPairs_eq]
  exact encode_perm h.query

theorem header_iff (h : KeyAgreement r1 r2) (id1 id2 : GoString) (peer1 peer2 : Peer) :
    (forall name, name ∉ freeHeaders -> (outHeader id1 peer1 true r1.header).values name =
    (outHeader id2 peer2 true r2.header).values name) <->
    (str "accept" ∈ connected r1.header ∨
    (r1.header.values (str "Accept") = [] <->
          r2.header.values (str "Accept") = [])) := by
  have hkeep := endToEnd_eq h.header
  constructor
  · intro hsame
    have haccept := hsame (str "Accept") (by decide)
    rw [outHeader_values _ _ _ _ (by decide), outHeader_values _ _ _ _ (by decide),
      ← hkeep] at haccept
    by_cases hnamed : str "accept" ∈ connected r1.header
    · exact Or.inl hnamed
    right
    have hkept := (endToEnd_accept r1.header).mpr hnamed
    rw [if_pos hkept, if_pos hkept] at haccept
    rw [haccept]
  intro hpresence name hfree
  rw [outHeader_values _ _ _ _ hfree, outHeader_values _ _ _ _ hfree, ← hkeep]
  by_cases hname : name = str "Accept"
  · subst hname
    rcases hpresence with hnamed | hpresence
    · have hdropped : ¬ endToEnd r1.header (str "Accept") = true := by
        intro hkept
        exact (endToEnd_accept r1.header).mp hkept hnamed
      rw [if_neg hdropped, if_neg hdropped]
    by_cases h1 : r1.header.values (str "Accept") = []
    · rw [h1, hpresence.mp h1]
    · rw [accept_eq h.header h.accept h1 (fun h2 => h1 (hpresence.mpr h2))]
  · rw [values_eq h.header hfree hname]

theorem originRequest_fields {origin : Origin} {id : GoString} {peer : Peer}
    {r : Request} {o : OriginRequest} (h : originRequest origin id peer true r = some o) :
    o.path = singleJoin origin.path r.path ∧ o.body = r.body ∧
      o.rawQuery = before r.rawQuery 35 ∧ o.header = outHeader id peer true r.header := by
  unfold originRequest at h
  split at h
  · cases h
  rename_i rawQuery hquery
  cases h
  refine ⟨rfl, rfl, ?_, rfl⟩
  unfold reparsedQuery at hquery
  split at hquery
  · cases hquery
  split at hquery
  · cases hquery
    rfl
  · cases hquery

/-- Two cacheable requests under one key reach the origin as the same exchange
exactly when they agree on what the key leaves out. -/
theorem sameExchange_iff (origin : Origin) (id1 id2 : GoString) (peer1 peer2 : Peer)
    (r1 r2 : Request) (o1 o2 : OriginRequest) (scope : GoString) (sg gg : Nat)
    (ttl1 ttl2 : Duration) (hc1 : requestCacheable r1 = some ttl1)
    (hc2 : requestCacheable r2 = some ttl2)
    (hkey : requestKeyGen scope (classOf r1.path).label r1 sg gg =
      requestKeyGen scope (classOf r2.path).label r2 sg gg) (hseparate : DigestsSeparate r1 r2)
    (hn1 : NulFree r1.header) (hn2 : NulFree r2.header)
    (h1 : originRequest origin id1 peer1 true r1 = some o1)
    (h2 : originRequest origin id2 peer2 true r2 = some o2) :
    SameExchange o1 o2 <-> AgreeOffKey r1 r2 := by
  have hagree := keyAgreement hc1 hc2 hkey hseparate hn1 hn2
  rcases originRequest_fields h1 with ⟨hpath1, hbody1, hquery1, hheader1⟩
  rcases originRequest_fields h2 with ⟨hpath2, hbody2, hquery2, hheader2⟩
  constructor
  · intro hsame
    have hquery := hsame.query
    rw [hquery1, hquery2, query_iff hagree] at hquery
    have hheader := hsame.header
    rw [hheader1, hheader2, header_iff hagree] at hheader
    have hbody := hsame.body
    rw [hbody1, hbody2] at hbody
    exact ⟨hbody, hquery.left, hquery.right, hheader⟩
  intro hoff
  refine ⟨?_, ?_, ?_, ?_⟩
  · rw [hpath1, hpath2, hagree.path]
  · rw [hbody1, hbody2, hoff.body]
  · rw [hquery1, hquery2, query_iff hagree]
    exact ⟨hoff.malformed, hoff.fragment⟩
  rw [hheader1, hheader2, header_iff hagree]
  exact hoff.accept

theorem nulFree_empty : NulFree Header.empty := by
  intro field hfield
  cases hfield

def sectionsRequest (rawQuery : GoString) : Request :=
  Request.bareGet (str "/library/sections") rawQuery Header.empty

def plexOrigin : Origin :=
  ⟨str "https", str "origin:32400", []⟩

def unknownPeer : Peer :=
  ⟨[], false⟩

/-- A client token in the query changes nothing that the origin may tell apart. -/
theorem sameExchange_token_query :
    exists o1 o2,
      originRequest plexOrigin (str "a") unknownPeer true
        (sectionsRequest (str "type=1")) = some o1 ∧
      originRequest plexOrigin (str "b") unknownPeer true
        (sectionsRequest (str "X-Plex-Token=t&type=1")) = some o2 ∧
      SameExchange o1 o2 := by
  refine ⟨_, _, rfl, rfl, ?_⟩
  refine (sameExchange_iff plexOrigin (str "a") (str "b") unknownPeer unknownPeer
    (sectionsRequest (str "type=1")) (sectionsRequest (str "X-Plex-Token=t&type=1"))
    _ _ (str "user:7") 3 5 (5 * minute) (5 * minute) (by decide +kernel)
    (by decide +kernel) (by decide +kernel) ?_ nulFree_empty nulFree_empty rfl rfl).mpr ?_
  · exact ⟨fun _ => by decide +kernel, fun _ => rfl⟩
  · exact ⟨rfl, by decide +kernel, fun _ => by decide +kernel, Or.inr Iff.rfl⟩

/-- A pair with a broken escape reaches the origin under the key of the request
without it. -/
theorem malformed_pair_outside_key :
    requestCacheable (sectionsRequest (str "type=1")) = some (5 * minute) ∧
    requestCacheable (sectionsRequest (str "type=1&filter=%zz")) = some (5 * minute) ∧
    requestKeyGen (str "user:7") (classOf (str "/library/sections")).label
        (sectionsRequest (str "type=1")) 3 5 =
      requestKeyGen (str "user:7") (classOf (str "/library/sections")).label
        (sectionsRequest (str "type=1&filter=%zz")) 3 5 ∧
    DigestsSeparate (sectionsRequest (str "type=1"))
      (sectionsRequest (str "type=1&filter=%zz")) ∧
    NulFree (sectionsRequest (str "type=1")).header ∧
    NulFree (sectionsRequest (str "type=1&filter=%zz")).header ∧
    exists o1 o2,
      originRequest plexOrigin (str "a") unknownPeer true
        (sectionsRequest (str "type=1")) = some o1 ∧
      originRequest plexOrigin (str "b") unknownPeer true
        (sectionsRequest (str "type=1&filter=%zz")) = some o2 ∧
      ¬ SameExchange o1 o2 := by
  refine ⟨by decide +kernel, by decide +kernel, by decide +kernel,
    ⟨fun _ => by decide +kernel, fun _ => rfl⟩, nulFree_empty, nulFree_empty,
    _, _, rfl, rfl, ?_⟩
  intro hsame
  have hlength := hsame.query.length_eq
  revert hlength
  decide +kernel

end ReplxEdge.Proxy
