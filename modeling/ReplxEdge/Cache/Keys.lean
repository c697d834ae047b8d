import ReplxEdge.Foundation.Digest
import ReplxEdge.Net.Request

/-!
# Response keys

The text under which a response is stored: a colon-joined line with the class,
the caller's scope, the representation label, two generations, a digest of the
request and, when headers vary the response, a digest of those headers. The
scope stands unescaped in the middle; the fields on both of its sides hold no
colon, so the line still reads back in one way only.
-/

namespace ReplxEdge.Cache

open Foundation
open Net

/-!
## Classes and representations
-/

/-- Invalidation namespaces: the values of `classOf`, and artwork. -/
inductive ResponseClass where
  | cw
  | search
  | hubs
  | collections
  | sections
  | metadata
  | identity
  | browse
  | artwork
deriving DecidableEq

def ResponseClass.label : ResponseClass -> GoString
  | .cw => str "cw"
  | .search => str "search"
  | .hubs => str "hubs"
  | .collections => str "collections"
  | .sections => str "sections"
  | .metadata => str "metadata"
  | .identity => str "identity"
  | .browse => str "browse"
  | .artwork => str "artwork"

def classOf (path : GoString) : ResponseClass :=
  let p := toLower path
  if hasPrefix p (str "/hubs/") && contains p (str "continuewatching") then
    .cw
  else if hasPrefix p (str "/hubs/search") || contains p (str "/hubs/search") then
    .search
  else if hasPrefix p (str "/hubs/") then .hubs
  else if hasPrefix p (str "/library/sections") && contains p (str "/collections") then
    .collections
  else if hasPrefix p (str "/library/sections") then .sections
  else if hasPrefix p (str "/library/metadata") then .metadata
  else if hasPrefix p (str "/library/collections") then .collections
  else if hasPrefix p (str "/identity") then .identity
  else .browse

inductive Representation where
  | json
  | xml
  | default
deriving DecidableEq

def Representation.label : Representation -> GoString
  | .json => str "json"
  | .xml => str "xml"
  | .default => str "default"

def normalizeRepresentation (accept : GoString) : Representation :=
  let a := toLower accept
  if contains a (str "json") then .json
  else if contains a (str "xml") then .xml
  else .default

theorem ResponseClass.label_inj {c d : ResponseClass} (h : c.label = d.label) :
    c = d := by
  revert h
  cases c <;> cases d <;> decide

theorem ResponseClass.colon_not_mem_label (c : ResponseClass) :
    (58 : UInt8) ∉ c.label := by
  cases c <;> decide

theorem Representation.label_inj {a b : Representation} (h : a.label = b.label) :
    a = b := by
  revert h
  cases a <;> cases b <;> decide

theorem Representation.colon_not_mem_label (a : Representation) :
    (58 : UInt8) ∉ a.label := by
  cases a <;> decide

/-!
## Key text
-/

def schemaVersion : GoString :=
  str "v4"

/-- Query parameters that never enter a key, by lower-case name. -/
def secretParams : List GoString :=
  [str "x-plex-token", str "token", str "authtoken"]

def isSecretParam (name : GoString) : Bool :=
  secretParams.contains (toLower name)

def canonicalQuery (query : Values) : Values :=
  query.filter fun pair => !isSecretParam pair.1

def hashInput (method path : GoString) (query : Values) (accept : GoString) :
    GoString :=
  toUpperToken method ++ 0 :: (path ++ 0 :: (accept ++ 0 :: (canonicalQuery query).encode))

def hashPrefix (message : GoString) : GoString :=
  (hexEncode (sha256 message)).take 16

def responseKeyGen (scope cls method path : GoString) (query : Values)
    (accept : GoString) (scopeGen globalGen : Nat) : GoString :=
  join 58 [str "replx_edge", schemaVersion, str "default",
    if cls = [] then str "browse" else cls, scope,
    (normalizeRepresentation accept).label, decimal scopeGen, decimal globalGen,
    hashPrefix (hashInput method path query accept)]

def varies (field : Field) : Bool :=
  let name := toLower field.name
  if name = str "accept" then field.values.length != 1
  else if name = str "accept-encoding" then false
  else if name = str "x-plex-token" then false
  else if name = str "x-replx-edge-request-id" then false
  else true

def variationValues (h : Header) : Values :=
  (h.fields.filter varies).flatMap fun field =>
    field.values.map fun value => (toLower field.name, value)

def headerVariation (h : Header) : GoString :=
  if h.fields.filter varies = [] then []
  else hexEncode (sha256 (variationValues h).encode)

def requestKeyGen (scope cls : GoString) (r : Request) (scopeGen globalGen : Nat) :
    GoString :=
  let key := responseKeyGen scope cls r.method r.path r.query
    (r.header.get (str "Accept")) scopeGen globalGen
  let variation := headerVariation r.header
  if variation = [] then key else key ++ 58 :: variation

/-!
## Reading a key back
-/

@[ext] structure KeyParts where
  cls : ResponseClass
  scope : GoString
  representation : Representation
  scopeGen : Nat
  globalGen : Nat
  hash : GoString
  variation : GoString
  hash_length : hash.length = 16
  hash_plain : (58 : UInt8) ∉ hash
  variation_length : variation = [] ∨ variation.length = 64
  variation_plain : (58 : UInt8) ∉ variation

namespace KeyParts

def leading (parts : KeyParts) : List GoString :=
  [str "replx_edge", schemaVersion, str "default", parts.cls.label]

def trailing (parts : KeyParts) : List GoString :=
  [parts.scope, parts.representation.label, decimal parts.scopeGen,
    decimal parts.globalGen, parts.hash]

def text (parts : KeyParts) : GoString :=
  join 58 (parts.leading ++ parts.trailing ++
    if parts.variation = [] then [] else [parts.variation])

variable {p q : KeyParts}

/-- The fields from the scope on, without the header variation, read back from
the right because the scope may hold colons. -/
theorem trailing_inj (h : join 58 p.trailing = join 58 q.trailing) :
    p.scope = q.scope ∧ p.representation = q.representation ∧
      p.scopeGen = q.scopeGen ∧ p.globalGen = q.globalGen ∧ p.hash = q.hash := by
  rcases intercalate_concat_inj
      [p.scope, p.representation.label, decimal p.scopeGen, decimal p.globalGen]
      [q.scope, q.representation.label, decimal q.scopeGen, decimal q.globalGen]
      p.hash_plain q.hash_plain (by simp) (by simp) h with
    ⟨hglobal, hhash⟩
  rcases intercalate_concat_inj
      [p.scope, p.representation.label, decimal p.scopeGen]
      [q.scope, q.representation.label, decimal q.scopeGen]
      (colon_not_mem_decimal p.globalGen) (colon_not_mem_decimal q.globalGen)
      (by simp) (by simp) hglobal with
    ⟨hscoped, hglobalGen⟩
  rcases intercalate_concat_inj
      [p.scope, p.representation.label]
      [q.scope, q.representation.label]
      (colon_not_mem_decimal p.scopeGen) (colon_not_mem_decimal q.scopeGen)
      (by simp) (by simp) hscoped with
    ⟨hrep, hscopeGen⟩
  rcases intercalate_concat_inj [p.scope] [q.scope]
      p.representation.colon_not_mem_label q.representation.colon_not_mem_label
      (by simp) (by simp) hrep with
    ⟨hscope, hrepresentation⟩
  exact ⟨by simpa using hscope, Representation.label_inj hrepresentation,
    decimal_inj hscopeGen, decimal_inj hglobalGen, hhash⟩

theorem leading_inj {xs ys : List GoString} (hxs : xs ≠ []) (hys : ys ≠ [])
    (h : join 58 (p.leading ++ xs) = join 58 (q.leading ++ ys)) :
    p.cls = q.cls ∧ join 58 xs = join 58 ys := by
  have hname : (58 : UInt8) ∉ str "replx_edge" := by decide
  have hschema : (58 : UInt8) ∉ schemaVersion := by decide
  have hserver : (58 : UInt8) ∉ str "default" := by decide
  have h1 := (intercalate_cons_inj hname hname (by simp) (by simp) h).right
  have h2 := (intercalate_cons_inj hschema hschema (by simp) (by simp) h1).right
  have h3 := (intercalate_cons_inj hserver hserver (by simp) (by simp) h2).right
  rcases intercalate_cons_inj p.cls.colon_not_mem_label q.cls.colon_not_mem_label
      hxs hys h3 with
    ⟨hcls, hrest⟩
  exact ⟨ResponseClass.label_inj hcls, hrest⟩

theorem join_variation (parts : KeyParts) :
    join 58 (parts.trailing ++ [parts.variation]) =
      join 58 parts.trailing ++ 58 :: parts.variation :=
  intercalate_concat 58 parts.variation parts.trailing (by simp [trailing])

theorem join_trailing (parts : KeyParts) :
    join 58 parts.trailing =
      join 58 [parts.scope, parts.representation.label, decimal parts.scopeGen,
        decimal parts.globalGen] ++ 58 :: parts.hash :=
  intercalate_concat 58 parts.hash
    [parts.scope, parts.representation.label, decimal parts.scopeGen,
      decimal parts.globalGen] (by simp)

/-- A key without a header variation never equals one with it: the last fields
have 16 and 64 digits. -/
theorem variation_absent (hp : p.variation ≠ [])
    (h : join 58 (p.trailing ++ [p.variation]) = join 58 q.trailing) : False := by
  rw [join_variation p, join_trailing q] at h
  rcases separator_append_inj p.variation_plain q.hash_plain h with ⟨_hleft, hlast⟩
  rcases p.variation_length with hempty | hlength
  · exact hp hempty
  have hhash := q.hash_length
  rw [← hlast, hlength] at hhash
  omega

theorem text_inj (h : p.text = q.text) : p = q := by
  unfold text at h
  rw [List.append_assoc, List.append_assoc] at h
  rcases leading_inj (by simp [trailing]) (by simp [trailing]) h with ⟨hcls, hrest⟩
  by_cases hp : p.variation = []
  · by_cases hq : q.variation = []
    · rw [if_pos hp, if_pos hq, List.append_nil, List.append_nil] at hrest
      rcases trailing_inj hrest with ⟨hscope, hrep, hscopeGen, hglobalGen, hhash⟩
      exact KeyParts.ext hcls hscope hrep hscopeGen hglobalGen hhash (hp.trans hq.symm)
    rw [if_pos hp, if_neg hq, List.append_nil] at hrest
    exact (variation_absent hq hrest.symm).elim
  by_cases hq : q.variation = []
  · rw [if_neg hp, if_pos hq, List.append_nil] at hrest
    exact (variation_absent hp hrest).elim
  rw [if_neg hp, if_neg hq, join_variation p, join_variation q] at hrest
  rcases separator_append_inj p.variation_plain q.variation_plain hrest with
    ⟨htrailing, hvariation⟩
  rcases trailing_inj htrailing with ⟨hscope, hrep, hscopeGen, hglobalGen, hhash⟩
  exact KeyParts.ext hcls hscope hrep hscopeGen hglobalGen hhash hvariation

end KeyParts

theorem hashPrefix_length (message : GoString) : (hashPrefix message).length = 16 := by
  simp [hashPrefix, hexEncode_length, sha256_length]

theorem colon_not_mem_hashPrefix (message : GoString) :
    (58 : UInt8) ∉ hashPrefix message := by
  intro hmem
  exact colon_not_mem_hexEncode _ (List.mem_of_mem_take hmem)

theorem headerVariation_length (h : Header) :
    headerVariation h = [] ∨ (headerVariation h).length = 64 := by
  unfold headerVariation
  by_cases hnone : h.fields.filter varies = []
  · exact Or.inl (if_pos hnone)
  right
  rw [if_neg hnone, hexEncode_length, sha256_length]

theorem colon_not_mem_headerVariation (h : Header) :
    (58 : UInt8) ∉ headerVariation h := by
  unfold headerVariation
  by_cases hnone : h.fields.filter varies = []
  · rw [if_pos hnone]
    simp
  rw [if_neg hnone]
  exact colon_not_mem_hexEncode _

def requestHash (r : Request) : GoString :=
  hashPrefix (hashInput r.method r.path r.query (r.header.get (str "Accept")))

def requestKeyParts (scope : GoString) (cls : ResponseClass) (r : Request)
    (scopeGen globalGen : Nat) : KeyParts where
  cls := cls
  scope := scope
  representation := normalizeRepresentation (r.header.get (str "Accept"))
  scopeGen := scopeGen
  globalGen := globalGen
  hash := requestHash r
  variation := headerVariation r.header
  hash_length := hashPrefix_length _
  hash_plain := colon_not_mem_hashPrefix _
  variation_length := headerVariation_length _
  variation_plain := colon_not_mem_headerVariation _

theorem requestKeyGen_eq_text (scope : GoString) (cls : ResponseClass) (r : Request)
    (scopeGen globalGen : Nat) :
    requestKeyGen scope cls.label r scopeGen globalGen =
      (requestKeyParts scope cls r scopeGen globalGen).text := by
  have hlabel : cls.label ≠ [] := by
    cases cls <;> decide
  unfold requestKeyGen KeyParts.text responseKeyGen
  by_cases hvariation : headerVariation r.header = []
  · simp [requestKeyParts, KeyParts.leading, KeyParts.trailing, hvariation, hlabel, requestHash]
  have hjoin := intercalate_concat 58 (headerVariation r.header)
    ((requestKeyParts scope cls r scopeGen globalGen).leading ++
      (requestKeyParts scope cls r scopeGen globalGen).trailing)
    (by simp [KeyParts.leading])
  have hpresent : (requestKeyParts scope cls r scopeGen globalGen).variation ≠ [] :=
    hvariation
  rw [if_neg hpresent, join]
  refine Eq.trans ?_ hjoin.symm
  simp [requestKeyParts, KeyParts.leading, KeyParts.trailing, hvariation, hlabel, requestHash]

def responseKeyParts (scope : GoString) (cls : ResponseClass) (method path : GoString)
    (query : Values) (accept : GoString) (scopeGen globalGen : Nat) : KeyParts where
  cls := cls
  scope := scope
  representation := normalizeRepresentation accept
  scopeGen := scopeGen
  globalGen := globalGen
  hash := hashPrefix (hashInput method path query accept)
  variation := []
  hash_length := hashPrefix_length _
  hash_plain := colon_not_mem_hashPrefix _
  variation_length := Or.inl rfl
  variation_plain := by simp

theorem responseKeyGen_eq_text (scope : GoString) (cls : ResponseClass)
    (method path : GoString) (query : Values) (accept : GoString) (scopeGen globalGen : Nat) :
    responseKeyGen scope cls.label method path query accept scopeGen globalGen =
      (responseKeyParts scope cls method path query accept scopeGen globalGen).text := by
  have hlabel : cls.label ≠ [] := by
    cases cls <;> decide
  unfold responseKeyGen KeyParts.text
  rw [if_neg hlabel]
  simp [responseKeyParts, KeyParts.leading, KeyParts.trailing]

theorem requestKeyGen_inj {s1 s2 : GoString} {c1 c2 : ResponseClass} {r1 r2 : Request}
    {sg1 gg1 sg2 gg2 : Nat}
    (h : requestKeyGen s1 c1.label r1 sg1 gg1 = requestKeyGen s2 c2.label r2 sg2 gg2) :
    requestKeyParts s1 c1 r1 sg1 gg1 = requestKeyParts s2 c2 r2 sg2 gg2 := by
  rw [requestKeyGen_eq_text, requestKeyGen_eq_text] at h
  exact KeyParts.text_inj h

/-!
## Reading the header variation back
-/

variable {f : Field}

theorem filter_flatMap_field {fields : List Field}
    (hnodup : (fields.map fun field => toLower field.name).Nodup)
    (hf : f ∈ fields) :
    (fields.flatMap fun field => field.values.map fun value =>
    (toLower field.name, value)).filter (fun pair => pair.1 == toLower f.name) =
      f.values.map fun value => (toLower f.name, value) := by
  induction fields with
  | nil => cases hf
  | cons field rest ih =>
    rcases List.nodup_cons.mp hnodup with ⟨hnot, hrest⟩
    rw [List.flatMap_cons, List.filter_append]
    rcases List.mem_cons.mp hf with rfl | hmem
    · have hself : (f.values.map fun value => (toLower f.name, value)).filter
          (fun pair => pair.1 == toLower f.name) =
          f.values.map fun value => (toLower f.name, value) := by
        rw [List.filter_eq_self]
        intro pair hpair
        rcases List.mem_map.mp hpair with ⟨value, _hvalue, rfl⟩
        simp
      have hothers : (rest.flatMap fun field => field.values.map fun value =>
          (toLower field.name, value)).filter
          (fun pair => pair.1 == toLower f.name) = [] := by
        rw [List.filter_eq_nil_iff]
        intro pair hpair heq
        rcases List.mem_flatMap.mp hpair with ⟨other, hother, hvalue⟩
        rcases List.mem_map.mp hvalue with ⟨value, _hvalue, rfl⟩
        exact hnot (List.mem_map.mpr ⟨other, hother, by simpa using heq⟩)
      rw [hself, hothers, List.append_nil]
    have hhead : (field.values.map fun value => (toLower field.name, value)).filter
        (fun pair => pair.1 == toLower f.name) = [] := by
      rw [List.filter_eq_nil_iff]
      intro pair hpair heq
      rcases List.mem_map.mp hpair with ⟨value, _hvalue, rfl⟩
      have hname : toLower field.name = toLower f.name := by simpa using heq
      exact hnot (List.mem_map.mpr ⟨f, hmem, hname.symm⟩)
    rw [hhead, List.nil_append]
    exact ih hrest hmem

theorem nodup_lower_names (h : Header) :
    ((h.fields.filter varies).map fun field => toLower field.name).Nodup := by
  have hfields : h.fields.Nodup := h.distinct.of_map
  refine List.Nodup.map_on ?_ (hfields.filter varies)
  intro f hf g hg heq
  have hname := Header.lower_name_inj (List.mem_of_mem_filter hf)
    (List.mem_of_mem_filter hg) heq
  exact List.inj_on_of_nodup_map h.distinct (List.mem_of_mem_filter hf)
    (List.mem_of_mem_filter hg) hname

theorem filter_variationValues (h : Header) (hf : f ∈ h.fields) (hvaries : varies f = true) :
    (variationValues h).filter (fun pair => pair.1 == toLower f.name) =
      f.values.map fun value => (toLower f.name, value) :=
  filter_flatMap_field (nodup_lower_names h) (List.mem_filter.mpr ⟨hf, hvaries⟩)

variable {h k : Header}

theorem varying_field_mem (hval : (variationValues h).encode = (variationValues k).encode)
    (hf : f ∈ h.fields) (hvaries : varies f = true) : f ∈ k.fields := by
  have hsame := encode_filter_eq hval (toLower f.name)
  rw [filter_variationValues h hf hvaries] at hsame
  rcases List.exists_mem_of_ne_nil _ (h.filled f hf) with ⟨value, hvalue⟩
  have hpair : (toLower f.name, value) ∈ variationValues k := by
    apply List.mem_of_mem_filter (p := fun pair => pair.1 == toLower f.name)
    rw [← hsame]
    exact List.mem_map.mpr ⟨value, hvalue, rfl⟩
  rcases List.mem_flatMap.mp hpair with ⟨g, hg, hgvalue⟩
  rcases List.mem_map.mp hgvalue with ⟨gvalue, _hgvalue, hgpair⟩
  rcases List.mem_filter.mp hg with ⟨hgmem, hgvaries⟩
  have hlower : toLower g.name = toLower f.name := congrArg Prod.fst hgpair
  have hname : g.name = f.name := Header.lower_name_inj hgmem hf hlower
  rw [← hlower, filter_variationValues k hgmem hgvaries, hlower] at hsame
  have hvalues : f.values = g.values := by
    have hinj : Function.Injective fun value : GoString => (toLower g.name, value) :=
      fun a b hab => congrArg Prod.snd hab
    rw [← hlower] at hsame
    exact List.map_injective_iff.mpr hinj hsame
  have hfg : f = g := by
    cases f
    cases g
    simp only at hname hvalues
    rw [hname, hvalues]
  rw [hfg]
  exact hgmem

theorem variationValues_encode_eq (heq : headerVariation h = headerVariation k)
    (hseparate : sha256 (variationValues h).encode = sha256 (variationValues k).encode ->
    (variationValues h).encode = (variationValues k).encode) :
    (variationValues h).encode = (variationValues k).encode := by
  have hempty : forall x : Header, x.fields.filter varies = [] ->
      variationValues x = [] := by
    intro x hx
    rw [variationValues, hx]
    rfl
  have hlength : forall m : GoString, hexEncode (sha256 m) ≠ [] := by
    intro m hnil
    have hlen := hexEncode_length (sha256 m)
    rw [hnil, sha256_length] at hlen
    cases hlen
  unfold headerVariation at heq
  by_cases hh : h.fields.filter varies = []
  · by_cases hk : k.fields.filter varies = []
    · rw [hempty h hh, hempty k hk]
    rw [if_pos hh, if_neg hk] at heq
    exact absurd heq.symm (hlength _)
  by_cases hk : k.fields.filter varies = []
  · rw [if_neg hh, if_pos hk] at heq
    exact absurd heq (hlength _)
  rw [if_neg hh, if_neg hk] at heq
  exact hseparate (hexEncode_inj heq)

/-!
## Scope isolation
-/

theorem requestKeyGen_isolates (s1 s2 : GoString) (c1 c2 : ResponseClass)
    (r1 r2 : Request) (sg1 gg1 sg2 gg2 : Nat)
    (h : requestKeyGen s1 c1.label r1 sg1 gg1 = requestKeyGen s2 c2.label r2 sg2 gg2) :
    s1 = s2 ∧ c1.label = c2.label ∧
      normalizeRepresentation (r1.header.get (str "Accept")) =
        normalizeRepresentation (r2.header.get (str "Accept")) ∧
      sg1 = sg2 ∧ gg1 = gg2 ∧ headerVariation r1.header = headerVariation r2.header ∧
      requestHash r1 = requestHash r2 := by
  have hparts := requestKeyGen_inj h
  have hcls : c1 = c2 := congrArg KeyParts.cls hparts
  exact ⟨congrArg KeyParts.scope hparts, congrArg ResponseClass.label hcls,
    congrArg KeyParts.representation hparts, congrArg KeyParts.scopeGen hparts,
    congrArg KeyParts.globalGen hparts, congrArg KeyParts.variation hparts,
    congrArg KeyParts.hash hparts⟩

/-- A token in the query does not enter the key, and the scope reads back although
it holds a colon. -/
theorem requestKeyGen_isolates_token_query :
    requestKeyGen (str "user:7") (classOf (str "/library/sections")).label
        (Request.bareGet (str "/library/sections") (str "type=1") Header.empty) 3 5 =
      requestKeyGen (str "user:7") (classOf (str "/library/sections")).label
        (Request.bareGet (str "/library/sections") (str "X-Plex-Token=t&type=1")
          Header.empty) 3 5 ∧
    requestHash (Request.bareGet (str "/library/sections") (str "type=1") Header.empty) =
      requestHash (Request.bareGet (str "/library/sections")
        (str "X-Plex-Token=t&type=1") Header.empty) := by
  have hkey : requestKeyGen (str "user:7") (classOf (str "/library/sections")).label
        (Request.bareGet (str "/library/sections") (str "type=1") Header.empty) 3 5 =
      requestKeyGen (str "user:7") (classOf (str "/library/sections")).label
        (Request.bareGet (str "/library/sections") (str "X-Plex-Token=t&type=1")
          Header.empty) 3 5 := by
    decide +kernel
  have hparts := requestKeyGen_isolates _ _ _ _ _ _ _ _ _ _ hkey
  exact ⟨hkey, hparts.right.right.right.right.right.right⟩

end ReplxEdge.Cache
