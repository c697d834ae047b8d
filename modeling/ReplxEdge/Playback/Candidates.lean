import ReplxEdge.Playback.Engine
import ReplxEdge.Sync.Reconcile

/-!
# Candidates from the index and from live metadata

The candidates of a negotiation come from the owner index or, when it has none,
from the origin's own metadata. The index keeps a part under its position and
knows the video's own signals; the live reader takes the first part with a key
and all the evidence it finds on the way there.
-/

namespace ReplxEdge.Playback

open Foundation
open MediaPolicy
open Sync

/-!
## Live metadata
-/

def streamText (streams : List StreamJSON) : GoString :=
  streams.flatMap fun st =>
    str " " ++ st.displayTitle ++ str " " ++ st.extendedDisplayTitle ++ str " " ++ st.codec ++
      str " " ++ st.profile

structure LivePart where
  partOK : Bool
  partKey : GoString
  partPlexID : GoString
  streamText : GoString

def scanParts : List PartJSON -> LivePart
  | [] => ⟨false, [], [], []⟩
  | p :: rest =>
    if p.key ≠ [] then ⟨true, p.key, (p.id.map formatInt).getD [], streamText p.streams⟩
    else
      let later := scanParts rest
      { later with streamText := streamText p.streams ++ later.streamText }

def liveRange (m : MediaJSON) : DynamicRange :=
  normalizeDynamicRange
    (trimSpace (m.dynamicRange ++ str " " ++ m.hdrFormat ++ str " " ++ m.hdr ++ str " " ++
      m.displayTitle ++ str " " ++ m.extendedDisplayTitle ++ (scanParts m.parts).streamText))
    [] m.videoCodec m.videoProfile

def liveVariant (idx : Nat) (m : MediaJSON) : VariantSource where
  mediaIndex := idx
  width := m.width
  height := m.height
  bitrateKbps := m.bitrate
  dynamicRange := liveRange m
  videoCodec := m.videoCodec
  audioChannels := m.audioChannels
  partAvailable := (scanParts m.parts).partOK
  partKey := (scanParts m.parts).partKey
  partPlexID := (scanParts m.parts).partPlexID
  variantUUID := []
  partUUID := []

def liveFrom : Nat -> List MediaJSON -> List VariantSource
  | _, [] => []
  | idx, m :: rest => liveVariant idx m :: liveFrom (idx + 1) rest

/-- The candidates of the first title of a decoded answer. -/
def parseLiveVariants : List (List MediaJSON) -> Option (List VariantSource)
  | [] => none
  | media :: _ => some (liveFrom 0 media)

/-!
## The index
-/

structure RowIDs where
  variant : VariantKey -> GoString
  part : PartKey -> GoString

def itemIndexes (i : Index) (item : ItemKey) : List Int :=
  ((i.variants.entries.filter fun entry => entry.1.1 == item).map
    fun entry => entry.1.2).insertionSort (· ≤ ·)

/-- One row of the query. A variant without a part at index 0 cannot be scanned. -/
def scanRow (ids : RowIDs) (i : Index) (item : ItemKey) (idx : Int) : Option VariantSource :=
  (i.variants.lookup (item, idx)).bind fun row =>
    (i.parts.lookup ((item, idx), 0)).map fun part =>
      { mediaIndex := idx
        width := row.width
        height := row.height
        bitrateKbps := row.bitrateKbps
        dynamicRange := row.dynamicRange
        videoCodec := row.videoCodec.getD []
        audioChannels := row.audioChannels
        partAvailable := part.plexKey.getD [] != []
        partKey := part.plexKey.getD []
        partPlexID := part.plexPartID
        variantUUID := ids.variant (item, idx)
        partUUID := ids.part ((item, idx), 0) }

/-- The candidates of a title of the enabled server; nothing when the query fails or one
of its rows cannot be scanned. -/
def indexVariants (ids : RowIDs) (enabled : Option GoString) (queryFails : Bool) (i : Index)
    (ratingKey : GoString) : List VariantSource :=
  match enabled with
  | none => []
  | some server =>
    if ratingKey = [] ∨ queryFails = true then []
    else
      ((itemIndexes i (server, ratingKey)).mapM (scanRow ids i (server, ratingKey))).getD []

/-!
## Agreement
-/

def policyFields (v : VariantSource) : Variant × GoString :=
  (v.toPolicy, v.partKey)

/-- The first part has an id and, unless no part has one, a key; the evidence that only
the live reader sees changes nothing. -/
def Agrees (m : MediaJSON) : Prop :=
  exists p rest, m.parts = p :: rest ∧ p.id.isSome = true ∧
    (p.key = [] -> forall q, q ∈ rest -> q.key = []) ∧
    normalizeDynamicRange m.dynamicRange [] m.videoCodec m.videoProfile = liveRange m

theorem getD_nullIfEmpty (s : GoString) : (nullIfEmpty s).getD [] = s := by
  unfold nullIfEmpty
  split
  · rename_i hempty
    rw [hempty]
    rfl
  · rfl

theorem scanParts_partOK (parts : List PartJSON) :
    (scanParts parts).partOK = ((scanParts parts).partKey != []) := by
  induction parts with
  | nil => rfl
  | cons p rest ih =>
    rw [scanParts]
    split
    · rename_i hkey
      exact (bne_iff_ne.mpr hkey).symm
    · exact ih

theorem scanParts_eq_nil {parts : List PartJSON} :
    (scanParts parts).partKey = [] <-> forall q, q ∈ parts -> q.key = [] := by
  induction parts with
  | nil =>
    simp [scanParts]
  | cons p rest ih =>
    rw [scanParts]
    split
    · rename_i hkey
      constructor
      · intro h
        exact absurd h hkey
      intro h
      exact absurd (h p List.mem_cons_self) hkey
    rename_i hkey
    rw [List.forall_mem_cons, ← ih]
    simp only [ne_eq, not_not] at hkey
    simp [hkey]

theorem scanParts_key_eq (p : PartJSON) (rest : List PartJSON) :
    (scanParts (p :: rest)).partKey = p.key <->
      (p.key = [] -> forall q, q ∈ rest -> q.key = []) := by
  rw [scanParts]
  split
  · rename_i hkey
    simp [hkey]
  rename_i hkey
  simp only [ne_eq, not_not] at hkey
  rw [← scanParts_eq_nil]
  simp [hkey]

/-!
## Reading a reconciled item
-/

section Reading

variable {i : Index} {item : ItemKey} {media : List MediaJSON}

theorem mem_itemIndexes (h : Reconciled i item media) (idx : Int) :
    idx ∈ itemIndexes i item <-> idx ∈ seenIdx media := by
  rw [itemIndexes, List.mem_insertionSort, List.mem_map, mem_seenIdx]
  constructor
  · intro hmem
    rcases hmem with ⟨entry, hentry, rfl⟩
    rcases List.mem_filter.mp hentry with ⟨hstored, hitem⟩
    have hlookup := Table.lookup_of_mem hstored
    rw [show entry.1 = (item, entry.1.2) from Prod.ext (beq_iff_eq.mp hitem) rfl,
      h.variants, originVariant, Option.map_eq_some_iff] at hlookup
    rcases hlookup with ⟨m, hm, _⟩
    exact entryAt_some hm
  intro hrange
  rcases entryAt_exists hrange with ⟨m, hm⟩
  have hlookup : i.variants.lookup (item, idx) = some (variantRow m) := by
    rw [h.variants, originVariant, hm]
    rfl
  refine ⟨_, List.mem_filter.mpr ⟨Table.mem_of_lookup hlookup, ?_⟩, rfl⟩
  exact beq_self_eq_true item

theorem nodup_itemIndexes (i : Index) (item : ItemKey) : (itemIndexes i item).Nodup := by
  have hkeys : ((i.variants.entries.filter fun entry => entry.1.1 == item).map
      Prod.fst).Nodup :=
    i.variants.distinct.sublist (List.filter_sublist.map Prod.fst)
  have hindexes := hkeys.map_on (f := Prod.snd) ?_
  · rw [List.map_map] at hindexes
    exact (List.perm_insertionSort _ _).nodup_iff.mpr hindexes
  intro k hk other hother hsame
  rcases List.mem_map.mp hk with ⟨entry, hentry, rfl⟩
  rcases List.mem_map.mp hother with ⟨entry', hentry', rfl⟩
  have hitem := beq_iff_eq.mp (List.mem_filter.mp hentry).right
  have hitem' := beq_iff_eq.mp (List.mem_filter.mp hentry').right
  exact Prod.ext (hitem.trans hitem'.symm) hsame

theorem itemIndexes_eq (h : Reconciled i item media) : itemIndexes i item = seenIdx media := by
  have hperm : (itemIndexes i item).Perm (seenIdx media) :=
    (List.perm_ext_iff_of_nodup (nodup_itemIndexes i item)
      (List.nodup_range.map fun _ _ hsame => Int.ofNat.inj hsame)).mpr (mem_itemIndexes h)
  refine hperm.eq_of_pairwise' (List.pairwise_insertionSort _ _) ?_
  refine List.Pairwise.map Int.ofNat (fun a b hab => ?_) List.pairwise_lt_range
  exact Int.ofNat_le.mpr (Nat.le_of_lt hab)

variable {n : Nat} {m : MediaJSON}

theorem scanRow_eq (ids : RowIDs) (h : Reconciled i item media) (hm : media[n]? = some m) :
    (scanRow ids i item n).map policyFields =
    ((m.parts[0]?).bind partRow).map fun part =>
    ({ mediaIndex := n, width := m.width, height := m.height, bitrateKbps := m.bitrate,
           dynamicRange :=
             normalizeDynamicRange m.dynamicRange [] m.videoCodec m.videoProfile,
           videoCodec := m.videoCodec, audioChannels := m.audioChannels,
           playability := .unknownPlayability,
           partAvailable := part.plexKey.getD [] != [] }, part.plexKey.getD []) := by
  unfold scanRow
  rw [h.variants, originVariant, entryAt_natCast, hm, Option.map_some, Option.bind_some,
    h.parts, originPart_eq hm]
  rw [show entryAt m.parts 0 = m.parts[0]? from entryAt_natCast m.parts 0, Option.map_map]
  cases (m.parts[0]?).bind partRow with
  | none => rfl
  | some part =>
    simp only [Option.map_some, Function.comp_apply, policyFields, VariantSource.toPolicy,
      variantRow, getD_nullIfEmpty]

theorem scanRow_agrees (ids : RowIDs) (h : Reconciled i item media) (hm : media[n]? = some m) :
    (scanRow ids i item n).map policyFields = some (policyFields (liveVariant n m)) <->
      Agrees m := by
  rw [scanRow_eq ids h hm]
  unfold Agrees
  cases hparts : m.parts with
  | nil =>
    simp
  | cons p rest =>
    rw [List.getElem?_cons_zero, Option.bind_some, partRow]
    cases hid : p.id with
    | none =>
      simp [hid]
    | some id =>
      have hlive := scanParts_key_eq p rest
      have hok := scanParts_partOK (p :: rest)
      simp only [Option.map_some, policyFields, liveVariant, VariantSource.toPolicy,
        getD_nullIfEmpty, hparts, Option.some.injEq, Prod.mk.injEq, Variant.mk.injEq, true_and]
      constructor
      · intro hsame
        exact ⟨p, rest, rfl, by rw [hid]; rfl, hlive.mp hsame.right.symm, hsame.left.left⟩
      intro hagrees
      rcases hagrees with ⟨p', rest', hsplit, _, hkeys, hrange⟩
      cases hsplit
      have hkey := hlive.mpr hkeys
      exact ⟨⟨hrange, by rw [hok, hkey]⟩, hkey.symm⟩

theorem mapM_scanRow (ids : RowIDs) (h : Reconciled i item media)
    {rest : List MediaJSON} (hrest : media.drop n = rest) :
    (((List.range' n rest.length).map Int.ofNat).mapM (scanRow ids i item)).map
    (List.map policyFields) = some ((liveFrom n rest).map policyFields) <->
      forall m, m ∈ rest -> Agrees m := by
  induction rest generalizing n with
  | nil =>
    simp [liveFrom]
  | cons m rest ih =>
    rcases getElem?_of_drop hrest with ⟨hm, _, hnext⟩
    have hfirst := scanRow_agrees ids h hm
    have hlater := ih hnext
    rw [List.length_cons, List.range'_succ, List.map_cons, List.mapM_cons, liveFrom,
      List.map_cons, List.forall_mem_cons, ← hfirst, ← hlater]
    change (((scanRow ids i item (n : Int)).bind fun v =>
      (((List.range' (n + 1) rest.length).map Int.ofNat).mapM (scanRow ids i item)).bind
        fun vs => some (v :: vs)).map (List.map policyFields) = _) <-> _
    cases scanRow ids i item (n : Int) with
    | none =>
      simp
    | some v =>
      cases ((List.range' (n + 1) rest.length).map Int.ofNat).mapM
          (scanRow ids i item) with
      | none | some =>
        simp

end Reading

/-- Once an item is written, the candidates read from the index are, in what policy reads
and in the selected part, those of the live metadata exactly when every entry of the
Media array agrees. -/
theorem candidates_agree_iff (ids : RowIDs) (accepts : Accepts) (server libraryID : GoString)
    (it : ItemJSON) (gen : Option Int) (old new : Index)
    (hwritten : upsertItem accepts server libraryID it gen old = (Except.ok (), new)) :
    (parseLiveVariants [it.media]).map (List.map policyFields) =
        some ((indexVariants ids (some server) false new it.ratingKey).map policyFields) <->
      forall m, m ∈ it.media -> Agrees m := by
  change some ((liveFrom 0 it.media).map policyFields) = _ <-> _
  rw [Option.some.injEq, eq_comm]
  rcases upsertItem_ok.mp hwritten with ⟨hkey, _, hrun⟩
  have hreconciled := reconciled_of_run hrun
  have hrows := mapM_scanRow ids hreconciled (List.drop_zero (l := it.media))
  have hindexes : itemIndexes new (server, it.ratingKey) =
      (List.range' 0 it.media.length).map Int.ofNat := by
    rw [itemIndexes_eq hreconciled, seenIdx, List.range_eq_range']
  rw [← hrows]
  unfold indexVariants
  simp only [hkey, Bool.false_eq_true, or_self, if_false, hindexes]
  cases hscan : ((List.range' 0 it.media.length).map Int.ofNat).mapM
      (scanRow ids new (server, it.ratingKey)) with
  | none =>
    -- a failed scan empties the list, and there is at least the row that failed
    simp only [Option.getD_none, List.map_nil, Option.map_none, reduceCtorEq, iff_false]
    intro hempty
    cases hmedia : it.media with
    | nil =>
      rw [hmedia] at hscan
      cases hscan
    | cons m rest =>
      rw [hmedia] at hempty
      cases hempty
  | some rows =>
    simp only [Option.getD_some, Option.map_some, Option.some.injEq]

def noIDs : RowIDs :=
  ⟨fun _ => [], fun _ => []⟩

theorem two_versions_agree :
    (parseLiveVariants [(filmOf [301, 302]).media]).map (List.map policyFields) =
      some ((indexVariants noIDs (some (str "s")) false twoVersions (str "9")).map
        policyFields) := by
  refine (candidates_agree_iff noIDs (fun _ => true) (str "s") (str "lib")
    (filmOf [301, 302]) none Index.empty twoVersions rfl).mpr ?_
  intro m hm
  rcases List.mem_map.mp hm with ⟨id, hid, rfl⟩
  refine ⟨_, _, rfl, rfl, fun _ _ hnil => absurd hnil List.not_mem_nil, ?_⟩
  rcases List.mem_cons.mp hid with rfl | hid
  · decide +kernel
  rw [List.mem_singleton.mp hid]
  decide +kernel

def hdrStream : MediaJSON :=
  { version 301 with
    dynamicRange := []
    parts := [⟨some 301, str "/library/parts/301/1/file.mkv",
      [⟨str "hevc", str "main 10", str "4K (HEVC Main 10 HDR)", []⟩]⟩] }

def namelessPart : MediaJSON :=
  { version 301 with parts := [⟨none, str "/library/parts/301/1/file.mkv", []⟩] }

def writtenAlone (m : MediaJSON) : Except SyncError Unit × Index :=
  upsertItem (fun _ => true) (str "s") (str "lib") ⟨str "9", [], [m]⟩ none Index.empty

/-- The index does not know the range that the live reader sees, and has no candidate at
all where the part has no id. -/
theorem candidates_differ :
    (exists new, writtenAlone hdrStream = (Except.ok (), new) ∧
      (indexVariants noIDs (some (str "s")) false new (str "9")).map
        VariantSource.dynamicRange = [.unknown] ∧
      (parseLiveVariants [[hdrStream]]).map (List.map VariantSource.dynamicRange) =
        some [.hdrOther]) ∧ exists new, writtenAlone namelessPart = (Except.ok (), new) ∧
      indexVariants noIDs (some (str "s")) false new (str "9") = [] ∧
      (parseLiveVariants [[namelessPart]]).map (List.map VariantSource.partAvailable) =
        some [true] := by
  constructor
  · exact ⟨_, rfl, by decide +kernel, by decide +kernel⟩
  · exact ⟨_, rfl, rfl, by decide +kernel⟩

end ReplxEdge.Playback
