import ReplxEdge.Foundation.Framing
import ReplxEdge.Foundation.Table
import ReplxEdge.Cache.ResponsePolicy

/-!
# Stored entries

The layout of an entry in the store: a version, the status, the content type and
the kept header fields, each behind its length, and the body. Entries of the first
version have no header fields and are still read.
-/

namespace ReplxEdge.Cache

open Foundation
open Net

variable {headers : Table GoString GoString} {name : GoString}

def maxEntryBytes : Nat :=
  2 * 2 ^ 20

/-- The header fields of the origin that a hit repeats. -/
def safeHeaders : List GoString :=
  [str "Etag", str "Last-Modified", str "Content-Language", str "Vary",
    str "X-Plex-Container-Start", str "X-Plex-Container-Size",
    str "X-Plex-Container-Total-Size"]

structure Entry where
  status : Int
  contentType : GoString
  headers : Table GoString GoString
  body : GoString

/-- One field of the origin's header: the first value, of `Vary` all of them. -/
def keepSafe (out : Table GoString GoString) (field : Field) : Table GoString GoString :=
  let canonical := canonicalName field.name
  if !safeHeaders.contains canonical || field.values.isEmpty then out
  else if canonical = str "Vary" then
    out.set canonical ((str ", ").intercalate field.values)
  else out.set canonical (field.values.headD [])

def safeHeadersOf (h : Header) : Table GoString GoString :=
  h.fields.foldl keepSafe Table.empty

/-!
## Writing
-/

def headerNames (headers : Table GoString GoString) : List GoString :=
  (headers.entries.map Prod.fst).mergeSort nameLe

def headerPair (headers : Table GoString GoString) (name : GoString) : List GoString :=
  [name, (headers.lookup name).getD []]

def headerBlock (headers : Table GoString GoString) : GoString :=
  terminated 0 ((headerNames headers).flatMap (headerPair headers))

def marshal (e : Entry) : Except GoString GoString :=
  if maxEntryBytes < e.body.length then
    Except.error (str "cache: body " ++ decimal e.body.length ++ str " exceeds " ++
      decimal maxEntryBytes)
  else
    Except.ok (2 :: (putUint32 (e.status % 2 ^ 32).toNat ++
      (putUint32 e.contentType.length ++ (e.contentType ++
        (putUint32 (headerBlock e.headers).length ++
          (headerBlock e.headers ++ e.body))))))

def layoutV1 (status : Int) (contentType body : GoString) : GoString :=
  1 :: (putUint32 (status % 2 ^ 32).toNat ++
    (putUint32 contentType.length ++ (contentType ++ body)))

/-!
## Reading
-/

/-- Take the texts two by two, and keep the fields that are still on the list. -/
def readPairs : List GoString -> Table GoString GoString -> Table GoString GoString
  | name :: value :: rest, out =>
    readPairs rest (if safeHeaders.contains name then out.set name value else out)
  | _, out => out

def unmarshalV1 (b : GoString) : Except GoString Entry :=
  if b.length < 9 then Except.error (str "cache: truncated v1 entry")
  else
    let clen := uint32 (slice b 5 9)
    if b.length < 9 + clen then Except.error (str "cache: truncated v1 content type")
    else
      Except.ok
        { status := uint32 (slice b 1 5)
          contentType := slice b 9 (9 + clen)
          headers := Table.empty
          body := b.drop (9 + clen) }

def unmarshalV2 (b : GoString) : Except GoString Entry :=
  if b.length < 13 then Except.error (str "cache: truncated v2 entry")
  else
    let clen := uint32 (slice b 5 9)
    if b.length < 13 + clen then Except.error (str "cache: truncated v2 content type")
    else
      let rest := b.drop (9 + clen)
      let hlen := uint32 (rest.take 4)
      if rest.length < 4 + hlen then Except.error (str "cache: truncated v2 headers")
      else
        Except.ok
          { status := uint32 (slice b 1 5)
            contentType := slice b 9 (9 + clen)
            headers := readPairs (split (slice rest 4 (4 + hlen)) 0) Table.empty
            body := rest.drop (4 + hlen) }

def unmarshal (b : GoString) : Except GoString Entry :=
  match b with
  | [] => Except.error (str "cache: empty entry")
  | version :: _ =>
    if version = 1 then unmarshalV1 b
    else if version = 2 then unmarshalV2 b
    else Except.error (str "cache: bad version")

/-!
## Header fields
-/

/-- The same fields, in whatever order a table keeps them. -/
structure Entry.Same (e other : Entry) : Prop where
  status : e.status = other.status
  contentType : e.contentType = other.contentType
  headers : forall name, e.headers.lookup name = other.headers.lookup name
  body : e.body = other.body

/-- The fields are on the list, and their values have no terminator. -/
structure Storable (headers : Table GoString GoString) : Prop where
  names : forall name value, headers.lookup name = some value -> name ∈ safeHeaders
  values : forall name value, headers.lookup name = some value -> 0 ∉ value

theorem mem_headerNames :
    name ∈ headerNames headers <-> exists value, headers.lookup name = some value := by
  rw [headerNames, List.mem_mergeSort]
  constructor
  · intro h
    rcases List.mem_map.mp h with ⟨⟨key, value⟩, hentry, rfl⟩
    exact ⟨value, Table.lookup_of_mem hentry⟩
  intro h
  rcases h with ⟨value, hvalue⟩
  exact List.mem_map.mpr ⟨(name, value), Table.mem_of_lookup hvalue, rfl⟩

theorem lookup_readPairs (headers : Table GoString GoString) {names : List GoString}
    (hsafe : forall name, name ∈ names -> name ∈ safeHeaders)
    (out : Table GoString GoString) (name : GoString) :
    (readPairs (names.flatMap (headerPair headers) ++ [[]]) out).lookup name =
      if name ∈ names then some ((headers.lookup name).getD []) else out.lookup name := by
  induction names generalizing out with
  | nil =>
    simp [readPairs]
  | cons first names ih =>
    have hfirst : safeHeaders.contains first = true :=
      List.contains_iff_mem.mpr (hsafe first List.mem_cons_self)
    have hrest := ih (fun other hother => hsafe other (List.mem_cons_of_mem first hother))
      (out.set first ((headers.lookup first).getD []))
    rw [List.flatMap_cons, List.append_assoc]
    change (readPairs (names.flatMap (headerPair headers) ++ [[]])
      (if safeHeaders.contains first then
        out.set first ((headers.lookup first).getD []) else out)).lookup name = _
    rw [if_pos hfirst, hrest, Table.lookup_set]
    by_cases hmem : name ∈ names
    · rw [if_pos hmem, if_pos (List.mem_cons_of_mem first hmem)]
    rw [if_neg hmem]
    by_cases hname : name = first
    · rw [if_pos hname, if_pos (by rw [hname]; exact List.mem_cons_self), hname]
    · rw [if_neg hname, if_neg (by simp [hname, hmem])]

theorem safeHeaders_unterminated (h : name ∈ safeHeaders) : 0 ∉ name := by
  revert name
  decide

theorem split_headerBlock (h : Storable headers) :
    split (headerBlock headers) 0 = (headerNames headers).flatMap (headerPair headers) ++ [[]] := by
  apply split_terminated
  intro field hfield
  rcases List.mem_flatMap.mp hfield with ⟨name, hname, hpair⟩
  rcases mem_headerNames.mp hname with ⟨value, hvalue⟩
  rw [headerPair, hvalue, Option.getD_some, List.mem_cons, List.mem_singleton] at hpair
  rcases hpair with hpair | hpair
  · rw [hpair]
    exact safeHeaders_unterminated (h.names name value hvalue)
  rw [hpair]
  exact h.values name value hvalue

theorem lookup_readPairs_headerBlock (h : Storable headers) (name : GoString) :
    (readPairs (split (headerBlock headers) 0) Table.empty).lookup name = headers.lookup name := by
  have hsafe : forall other, other ∈ headerNames headers -> other ∈ safeHeaders := by
    intro other hother
    rcases mem_headerNames.mp hother with ⟨value, hvalue⟩
    exact h.names other value hvalue
  rw [split_headerBlock h, lookup_readPairs headers hsafe]
  cases hlookup : headers.lookup name with
  | none =>
    rw [if_neg (by
      rw [mem_headerNames, hlookup]
      simp)]
    rfl
  | some value =>
    rw [if_pos (mem_headerNames.mpr ⟨value, hlookup⟩)]
    rfl

/-!
## The frame
-/

section Frame

variable (version : UInt8) (n m : Nat) (tail : GoString)

def framed : GoString :=
  version :: (putUint32 n ++ (putUint32 m ++ tail))

theorem length_framed : (framed version n m tail).length = 9 + tail.length := by
  simp only [framed, List.length_cons, List.length_append, length_putUint32]
  omega

theorem framed_first : uint32 (slice (framed version n m tail) 1 5) = n % 2 ^ 32 :=
  uint32_putUint32 n

theorem framed_second : uint32 (slice (framed version n m tail) 5 9) = m % 2 ^ 32 :=
  uint32_putUint32 m

theorem drop_framed (k : Nat) : (framed version n m tail).drop (9 + k) = tail.drop k := by
  rw [Nat.add_comm]
  rfl

theorem slice_framed (k : Nat) : slice (framed version n m tail) 9 (9 + k) = tail.take k := by
  unfold slice
  rw [Nat.add_comm]
  rfl

end Frame

theorem unmarshalV1_framed (n m : Nat) (tail : GoString) :
    unmarshal (framed 1 n m tail) =
      if tail.length < m % 2 ^ 32 then Except.error (str "cache: truncated v1 content type")
      else Except.ok
          { status := (n % 2 ^ 32 : Nat)
            contentType := tail.take (m % 2 ^ 32)
            headers := Table.empty
            body := tail.drop (m % 2 ^ 32) } := by
  change unmarshalV1 (framed 1 n m tail) = _
  unfold unmarshalV1
  rw [if_neg (by rw [length_framed]; omega)]
  simp only [framed_first, framed_second, length_framed, drop_framed, slice_framed,
    Nat.add_lt_add_iff_left]

theorem unmarshalV2_framed (n m : Nat) (tail : GoString) :
    unmarshal (framed 2 n m tail) =
      if tail.length < 4 then Except.error (str "cache: truncated v2 entry")
      else if tail.length < 4 + m % 2 ^ 32 then
        Except.error (str "cache: truncated v2 content type")
      else if (tail.drop (m % 2 ^ 32)).length < 4 + uint32 ((tail.drop (m % 2 ^ 32)).take 4) then
        Except.error (str "cache: truncated v2 headers")
      else Except.ok
          { status := (n % 2 ^ 32 : Nat)
            contentType := tail.take (m % 2 ^ 32)
            headers := readPairs (split (slice (tail.drop (m % 2 ^ 32)) 4
              (4 + uint32 ((tail.drop (m % 2 ^ 32)).take 4))) 0) Table.empty
            body := (tail.drop (m % 2 ^ 32)).drop
              (4 + uint32 ((tail.drop (m % 2 ^ 32)).take 4)) } := by
  have hentry : (9 + tail.length < 13) = (tail.length < 4) := by
    rw [eq_iff_iff]
    omega
  have htype : (9 + tail.length < 13 + m % 2 ^ 32) = (tail.length < 4 + m % 2 ^ 32) := by
    rw [eq_iff_iff]
    omega
  change unmarshalV2 (framed 2 n m tail) = _
  unfold unmarshalV2
  simp only [framed_first, framed_second, length_framed, drop_framed, slice_framed, hentry,
    htype]

/-!
## Round trips
-/

def WordStatus (status : Int) : Prop :=
  0 ≤ status ∧ status < 2 ^ 32

theorem wordStatus_iff (status : Int) :
    (((status % 2 ^ 32).toNat % 2 ^ 32 : Nat) : Int) = status <-> WordStatus status := by
  unfold WordStatus
  omega

def RoundTrips (e : Entry) : Prop :=
  exists b decoded, marshal e = Except.ok b ∧ unmarshal b = Except.ok decoded ∧
    decoded.Same e

def entryTail (e : Entry) : GoString :=
  e.contentType ++ (putUint32 (headerBlock e.headers).length ++
    (headerBlock e.headers ++ e.body))

variable {e : Entry}

theorem marshal_eq (h : e.body.length ≤ maxEntryBytes) :
    marshal e = Except.ok (framed 2 (e.status % 2 ^ 32).toNat e.contentType.length
    (entryTail e)) := by
  unfold marshal
  rw [if_neg (Nat.not_lt.mpr h)]
  rfl

theorem length_entryTail (e : Entry) :
    (entryTail e).length =
      e.contentType.length + (4 + ((headerBlock e.headers).length + e.body.length)) := by
  simp only [entryTail, List.length_append, length_putUint32]

theorem drop_entryTail (e : Entry) :
    (entryTail e).drop e.contentType.length =
      putUint32 (headerBlock e.headers).length ++ (headerBlock e.headers ++ e.body) :=
  List.drop_left

theorem uint32_take (n : Nat) (tail : GoString) :
    uint32 ((putUint32 n ++ tail).take 4) = n % 2 ^ 32 :=
  uint32_putUint32 n

theorem fits_of_roundTrips (hbody : e.body.length ≤ maxEntryBytes) (h : RoundTrips e) :
    WordStatus e.status ∧ e.contentType.length < 2 ^ 32 ∧
    (headerBlock e.headers).length < 2 ^ 32 := by
  rcases h with ⟨b, decoded, hmarshal, hunmarshal, hsame⟩
  rw [marshal_eq hbody] at hmarshal
  cases hmarshal
  rw [unmarshalV2_framed] at hunmarshal
  split at hunmarshal
  · cases hunmarshal
  split at hunmarshal
  · cases hunmarshal
  split at hunmarshal
  · cases hunmarshal
  cases hunmarshal
  have htype : e.contentType.length < 2 ^ 32 := by
    have hlength := congrArg List.length hsame.contentType
    rw [List.length_take] at hlength
    omega
  refine ⟨(wordStatus_iff e.status).mp hsame.status, htype, ?_⟩
  have hlength := congrArg List.length hsame.body
  simp only [Nat.mod_eq_of_lt htype, drop_entryTail, uint32_take, List.length_drop,
    List.length_append, length_putUint32] at hlength
  omega

theorem roundTrips_of_fits (hstorable : Storable e.headers)
    (hbody : e.body.length ≤ maxEntryBytes) (hstatus : WordStatus e.status)
    (htype : e.contentType.length < 2 ^ 32)
    (hblock : (headerBlock e.headers).length < 2 ^ 32) : RoundTrips e := by
  have hlength := length_entryTail e
  have hslice : slice (putUint32 (headerBlock e.headers).length ++
      (headerBlock e.headers ++ e.body)) 4 (4 + (headerBlock e.headers).length) =
      headerBlock e.headers :=
    slice_append rfl rfl
  have hdrop : (putUint32 (headerBlock e.headers).length ++
      (headerBlock e.headers ++ e.body)).drop (4 + (headerBlock e.headers).length) =
      e.body := by
    rw [← List.append_assoc]
    apply List.drop_left'
    rw [List.length_append, length_putUint32]
  have hread : unmarshal (framed 2 (e.status % 2 ^ 32).toNat e.contentType.length
      (entryTail e)) = Except.ok
        { status := ((e.status % 2 ^ 32).toNat % 2 ^ 32 : Nat)
          contentType := (entryTail e).take e.contentType.length
          headers := readPairs (split (headerBlock e.headers) 0) Table.empty
          body := e.body } := by
    rw [unmarshalV2_framed, if_neg (by omega), Nat.mod_eq_of_lt htype, if_neg (by omega),
      drop_entryTail, uint32_take, Nat.mod_eq_of_lt hblock, hslice, hdrop, if_neg (by
        simp only [List.length_append, length_putUint32]
        omega)]
  refine ⟨_, _, marshal_eq hbody, hread, ?_⟩
  constructor
  · exact (wordStatus_iff e.status).mpr hstatus
  · exact List.take_left
  · exact lookup_readPairs_headerBlock hstorable
  · rfl

/-- An entry of the first version is read back without header fields. -/
def LegacyDecodes (status : Int) (contentType body : GoString) : Prop :=
  exists decoded, unmarshal (layoutV1 status contentType body) = Except.ok decoded ∧
    decoded.Same ⟨status, contentType, Table.empty, body⟩

theorem layoutV1_eq (status : Int) (contentType body : GoString) :
    layoutV1 status contentType body =
      framed 1 (status % 2 ^ 32).toNat contentType.length (contentType ++ body) :=
  rfl

theorem legacyDecodes_iff (status : Int) (contentType body : GoString) :
    LegacyDecodes status contentType body <-> WordStatus status ∧ contentType.length < 2 ^ 32 := by
  unfold LegacyDecodes
  rw [layoutV1_eq, unmarshalV1_framed]
  constructor
  · intro h
    rcases h with ⟨decoded, hunmarshal, hsame⟩
    split at hunmarshal
    · cases hunmarshal
    cases hunmarshal
    refine ⟨(wordStatus_iff status).mp hsame.status, ?_⟩
    have hlength := congrArg List.length hsame.contentType
    rw [List.length_take] at hlength
    change min (contentType.length % 2 ^ 32) _ = contentType.length at hlength
    omega
  intro h
  rcases h with ⟨hstatus, htype⟩
  rw [Nat.mod_eq_of_lt htype, if_neg (by rw [List.length_append]; omega)]
  refine ⟨_, rfl, ?_⟩
  constructor
  · exact (wordStatus_iff status).mpr hstatus
  · exact List.take_left
  · intro name
    rfl
  · exact List.drop_left

/-- Entries with storable fields and a body within the limit are read back exactly when
the status and the two lengths fit into their words, and entries of the first version
exactly when the status and the length of the content type do. -/
theorem entry_codec_iff (e : Entry) (status : Int) (contentType body : GoString) :
    (Storable e.headers -> e.body.length ≤ maxEntryBytes ->
      (RoundTrips e <-> WordStatus e.status ∧ e.contentType.length < 2 ^ 32 ∧
        (headerBlock e.headers).length < 2 ^ 32)) ∧ (LegacyDecodes status contentType body <->
      WordStatus status ∧ contentType.length < 2 ^ 32) := by
  constructor
  · intro hstorable hbody
    constructor
    · exact fits_of_roundTrips hbody
    intro h
    exact roundTrips_of_fits hstorable hbody h.left h.right.left h.right.right
  · exact legacyDecodes_iff status contentType body

def taggedEntry : Entry where
  status := 200
  contentType := str "application/json"
  headers := Table.empty.set (str "Etag") (str "v1")
  body := str "[]"

theorem taggedEntry_storable : Storable taggedEntry.headers := by
  have honly : forall name value, taggedEntry.headers.lookup name = some value ->
      name = str "Etag" ∧ value = str "v1" := by
    intro name value h
    rw [taggedEntry, Table.lookup_set] at h
    split at h
    · rename_i hname
      exact ⟨hname, (Option.some.inj h).symm⟩
    · cases h
  constructor
  · intro name value h
    rw [(honly name value h).left]
    decide
  intro name value h
  rw [(honly name value h).right]
  decide

theorem entry_codec_tagged :
    RoundTrips taggedEntry ∧ LegacyDecodes 200 (str "application/json") (str "[]") := by
  have hiff := entry_codec_iff taggedEntry 200 (str "application/json") (str "[]")
  have hnames : headerNames taggedEntry.headers = [str "Etag"] :=
    List.mergeSort_singleton (str "Etag")
  have hblock : (headerBlock taggedEntry.headers).length < 2 ^ 32 := by
    rw [headerBlock, hnames]
    decide
  constructor
  · exact (hiff.left taggedEntry_storable (by decide)).mpr
      ⟨⟨by decide, by decide⟩, by decide, hblock⟩
  · exact hiff.right.mpr ⟨⟨by decide, by decide⟩, by decide⟩

/-- A content type of four gibibytes is written with the length zero. -/
def longTyped : Entry where
  status := 200
  contentType := List.replicate (2 ^ 32) 97
  headers := Table.empty
  body := []

theorem long_content_type_lost :
    WordStatus longTyped.status ∧ Storable longTyped.headers ∧
      longTyped.body.length ≤ maxEntryBytes ∧ ¬ RoundTrips longTyped := by
  have hbody : longTyped.body.length ≤ maxEntryBytes := Nat.zero_le _
  refine ⟨⟨by decide, by decide⟩, ⟨?_, ?_⟩, hbody, ?_⟩
  · intro name value h
    cases h
  · intro name value h
    cases h
  intro h
  have htype := (fits_of_roundTrips hbody h).right.left
  rw [longTyped, List.length_replicate] at htype
  exact absurd htype (Nat.lt_irrefl _)

/-!
## What the proxy stores
-/

variable {value : GoString}

theorem keepSafe_names {out : Table GoString GoString} {field : Field}
    (h : forall name value, out.lookup name = some value -> name ∈ safeHeaders)
    (hfound : (keepSafe out field).lookup name = some value) :
    name ∈ safeHeaders := by
  unfold keepSafe at hfound
  simp only at hfound
  split at hfound
  · exact h name value hfound
  rename_i hsafe
  have hmem : canonicalName field.name ∈ safeHeaders := by
    simp only [Bool.or_eq_true, Bool.not_eq_true', not_or, Bool.not_eq_false] at hsafe
    exact List.contains_iff_mem.mp hsafe.left
  have hset : forall text, (out.set (canonicalName field.name) text).lookup name =
      some value -> name ∈ safeHeaders := by
    intro text htext
    rw [Table.lookup_set] at htext
    split at htext
    · rename_i hname
      rw [hname]
      exact hmem
    · exact h name value htext
  split at hfound
  all_goals exact hset _ hfound

theorem safeHeadersOf_names (h : Header)
    (hfound : (safeHeadersOf h).lookup name = some value) : name ∈ safeHeaders := by
  have hfold : forall (fields : List Field) (out : Table GoString GoString),
      (forall name value, out.lookup name = some value -> name ∈ safeHeaders) ->
      forall name value, (fields.foldl keepSafe out).lookup name = some value ->
        name ∈ safeHeaders := by
    intro fields
    induction fields with
    | nil =>
      intro out hout
      exact hout
    | cons field fields ih =>
      intro out hout
      exact ih (keepSafe out field) fun name value => keepSafe_names hout
  exact hfold h.fields Table.empty (by intro name value h; cases h) name value hfound

/-!
## What the store returns
-/

theorem readPairs_names {parts : List GoString} {out : Table GoString GoString}
    (h : forall name value, out.lookup name = some value -> name ∈ safeHeaders)
    (hfound : (readPairs parts out).lookup name = some value) : name ∈ safeHeaders := by
  fun_induction readPairs parts out with
  | case1 field text rest out ih =>
    refine ih ?_ hfound
    intro other found hother
    split at hother
    · rename_i hsafe
      rw [Table.lookup_set] at hother
      split at hother
      · rename_i heq
        rw [heq]
        exact List.contains_iff_mem.mp hsafe
      · exact h other found hother
    · exact h other found hother
  | case2 => exact h name value hfound

/-- What a decoded entry has of the bytes it was decoded from. -/
structure DecodedFrom (b : GoString) (e : Entry) : Prop where
  names : forall name value, e.headers.lookup name = some value -> name ∈ safeHeaders
  contentType : e.contentType <:+: b
  body : e.body <:+ b

theorem slice_within (b : GoString) (low high : Nat) : slice b low high <:+: b :=
  (List.drop_suffix low _).isInfix.trans <| List.IsPrefix.isInfix <| List.take_prefix high b

/-- Whatever the store returns, a decoded entry has allow-listed headers only. -/
theorem unmarshal_decodedFrom (b : GoString) (e : Entry) (h : unmarshal b = Except.ok e) :
    DecodedFrom b e := by
  have hempty : forall name value, (Table.empty : Table GoString GoString).lookup name =
      some value -> name ∈ safeHeaders := by
    intro name value hfound
    cases hfound
  unfold unmarshal at h
  split at h
  · cases h
  split at h
  · unfold unmarshalV1 at h
    simp only at h
    split_ifs at h
    cases h
    exact ⟨hempty, slice_within _ _ _, List.drop_suffix _ _⟩
  split at h
  · unfold unmarshalV2 at h
    simp only at h
    split_ifs at h
    cases h
    exact ⟨fun name value => readPairs_names hempty, slice_within _ _ _,
      (List.drop_suffix _ _).trans (List.drop_suffix _ _)⟩
  · cases h

/-- A stored entry with two fields, of which one is not on the list. -/
def taggedBytes : GoString :=
  [2, 0, 0, 0, 200, 0, 0, 0, 1] ++ str "a" ++ [0, 0, 0, 20] ++ str "Etag" ++ 0 :: str "v" ++
    0 :: str "Set-Cookie" ++ 0 :: str "x" ++ 0 :: str "b"

theorem unmarshal_decodedFrom_tagged :
    exists e, unmarshal taggedBytes = Except.ok e ∧
      e.headers.lookup (str "Etag") = some (str "v") ∧ DecodedFrom taggedBytes e :=
  ⟨_, rfl, by decide +kernel, unmarshal_decodedFrom _ _ rfl⟩

end ReplxEdge.Cache
