import ReplxEdge.Sync.Staging

/-!
# Publication is atomic

What is published of a library's collections changes in one transaction only. Before it a
pass writes a generation that no row refers to; with it the whole generation that was
scanned is published; behind it nothing is touched that is published.
-/

namespace ReplxEdge.Collections

open Foundation

variable {s : CollectionSnapshot} {members : List CollectionMember} {w v : World}
variable {row : CollectionRow} {db : Database} {gen : Nat} {key : GoString × Text}
variable {library : GoString} {ratingKey : Text} {invalidator : Option Bool}
variable {children : List (Option (Page CollectionMember))}

/-!
## Rows that keep what they publish
-/

theorem nullText_getD (t : Text) : (nullText t).getD Text.empty = t := by
  unfold nullText
  split
  · rename_i hempty
    exact Text.eq_of_bytes hempty.symm
  · rfl

def MemberRow.json (m : MemberRow) : CollectionMember where
  ratingKey := m.ratingKey
  itemType := m.itemType
  title := m.title.getD Text.empty
  thumb := m.thumb.getD Text.empty
  art := m.art.getD Text.empty

theorem CollectionMember.row_json (m : CollectionMember) : m.row.json = m := by
  unfold CollectionMember.row MemberRow.json
  simp only [nullText_getD]

def CollectionSnapshot.text (s : CollectionSnapshot) : GoString :=
  contentText s.metadata (s.ordered.map MemberRow.json)

def Scanned.text (x : Scanned) : GoString :=
  contentText x.metadata x.members

theorem CollectionSnapshot.Whole.text (h : s.Whole members) :
    s.text = contentText s.metadata members := by
  unfold CollectionSnapshot.text
  rw [h.ordered, List.map_map]
  congr 1
  exact (List.map_congr_left fun m _ => m.row_json).trans (List.map_id members)

structure RowSound (sequence : Nat) (row : CollectionRow) : Prop where
  published : forall gen, row.publishedGeneration = some gen ->
    exists s members, row.snapshots.lookup gen = some s ∧ s.Whole members ∧
      row.columns = s.metadata.columns
  generations : forall gen s, row.snapshots.lookup gen = some s -> gen ≤ sequence
  catalogued : row.catalogGeneration ≤ sequence

structure Sound (db : Database) : Prop where
  rows : forall key row, db.collections.lookup key = some row -> RowSound db.sequence row
  synced : forall key row, db.collections.lookup key = some row ->
    row.publishedGeneration ≠ none -> (db.syncs.lookup key.1).isSome = true
  homes : forall key row, db.collections.lookup key = some row -> key.1 ∈ db.libraries

def CollectionRow.Separates (row : CollectionRow) (x : Scanned) : Prop :=
  forall gen, row.publishedGeneration = some gen ->
    forall s, row.snapshots.lookup gen = some s ->
      sha256 s.text = sha256 x.text -> s.text = x.text

section Rows

variable {sequence gen : Nat} {row : CollectionRow} {x : Scanned}

theorem published_of_hash (hrow : RowSound sequence row) (hseparates : row.Separates x)
    (hhash : x.snapshot.contentHash = row.oldHash) :
    exists old s, row.publishedGeneration = some old ∧ row.snapshots.lookup old = some s ∧
      s.Whole x.members ∧ s.metadata = x.metadata ∧ row.columns = x.metadata.columns := by
  have hold : row.oldHash = some (contentHash x.metadata x.members) := hhash.symm
  unfold CollectionRow.oldHash at hold
  rcases Option.bind_eq_some_iff.mp hold with ⟨old, hgeneration, hsnapshot⟩
  rcases Option.bind_eq_some_iff.mp hsnapshot with ⟨s, hs, hsame⟩
  rcases hrow.published old hgeneration with ⟨s', members, hs', hwhole, hcolumns⟩
  rw [hs] at hs'
  cases hs'
  have hdigest : sha256 s.text = sha256 x.text := by
    rw [hwhole.text]
    exact hexEncode_inj (Option.some.inj (hwhole.hash.symm.trans hsame))
  have htext := hseparates old hgeneration s hs hdigest
  rw [hwhole.text] at htext
  rcases contentText_inj htext with ⟨hmetadata, hmembers⟩
  rw [hmembers] at hwhole
  exact ⟨old, s, hgeneration, hs, hwhole, hmetadata, hmetadata ▸ hcolumns⟩

theorem published_whole {row : CollectionRow} (hgeneration : row.publishedGeneration = some gen)
    (hs : row.snapshots.lookup gen = some s) (hwhole : s.Whole members) :
    row.published = some ⟨row.columns, members.map CollectionMember.row⟩ := by
  unfold CollectionRow.published
  rw [hgeneration, Option.map_some, hs, Option.map_some, Option.getD_some, hwhole.ordered]

theorem lookup_keepPublished {row : CollectionRow} (h : row.publishedGeneration = some gen) :
    row.keepPublished.snapshots.lookup gen = row.snapshots.lookup gen := by
  show (row.snapshots.keep _).lookup gen = _
  rw [Table.lookup_keep]
  cases row.snapshots.lookup gen with
  | none => rfl
  | some s => rw [Option.filter_some, if_pos (by simp [h])]

theorem publish_whole (hrow : RowSound sequence row) (hseparates : row.Separates x)
    (hstaged : row.snapshots.lookup gen = some x.snapshot) :
    exists number s, (row.publish gen x.snapshot).publishedGeneration = some number ∧
      row.snapshots.lookup number = some s ∧ s.Whole x.members ∧ s.metadata = x.metadata := by
  by_cases hhash : x.snapshot.contentHash = row.oldHash
  · rcases published_of_hash hrow hseparates hhash with
      ⟨old, s, hgeneration, hs, hwhole, hmetadata, _⟩
    refine ⟨old, s, ?_, hs, hwhole, hmetadata⟩
    show (if x.snapshot.contentHash ≠ row.oldHash then _ else row.publishedGeneration) = _
    rw [if_neg (not_not.mpr hhash), hgeneration]
  · exact ⟨gen, x.snapshot, if_pos hhash, hstaged, x.whole, rfl⟩

theorem published_publish (hrow : RowSound sequence row) (hseparates : row.Separates x)
    (hstaged : row.snapshots.lookup gen = some x.snapshot) :
    (row.publish gen x.snapshot).keepPublished.published = some x.published := by
  rcases publish_whole hrow hseparates hstaged with
    ⟨number, s, hgeneration, hs, hwhole, hmetadata⟩
  exact published_whole hgeneration ((lookup_keepPublished hgeneration).trans hs) hwhole

theorem RowSound.publish (hrow : RowSound sequence row) (hseparates : row.Separates x)
    (hstaged : row.snapshots.lookup gen = some x.snapshot) :
    RowSound sequence (row.publish gen x.snapshot).keepPublished := by
  rcases publish_whole hrow hseparates hstaged with
    ⟨number, s, hgeneration, hs, hwhole, hmetadata⟩
  refine ⟨?_, ?_, hrow.catalogued⟩
  · intro other hother
    have hsame : number = other := Option.some.inj (hgeneration.symm.trans hother)
    rw [← hsame, lookup_keepPublished hgeneration]
    refine ⟨s, x.members, hs, hwhole, ?_⟩
    rw [hmetadata]
    rfl
  intro other found hfound
  exact hrow.generations other found (Table.lookup_of_keep hfound)

theorem published_unchanged (hrow : RowSound sequence row) (hseparates : row.Separates x)
    (hhash : x.snapshot.contentHash = row.oldHash) : row.published = some x.published := by
  rcases published_of_hash hrow hseparates hhash with
    ⟨old, s, hgeneration, hs, hwhole, _, hcolumns⟩
  rw [published_whole hgeneration hs hwhole, hcolumns]
  rfl

end Rows

/-!
## Before the publication
-/

/-- Nothing that is published has changed, and nothing was announced. -/
structure Quiet (w v : World) : Prop where
  known : v.known = w.known
  journal : v.journal = w.journal
  libraries : v.db.libraries = w.db.libraries
  pending : forall library, v.db.pending library = w.db.pending library
  synced : forall library, (w.db.syncs.lookup library).isSome = true ->
    (v.db.syncs.lookup library).isSome = true
  view : forall library ratingKey, v.db.view library ratingKey = w.db.view library ratingKey

theorem Quiet.refl (w : World) : Quiet w w :=
  ⟨rfl, rfl, rfl, fun _ => rfl, fun _ h => h, fun _ _ => rfl⟩

theorem Quiet.trans {u : World} (h : Quiet w u) (hnext : Quiet u v) : Quiet w v where
  known := hnext.known.trans h.known
  journal := hnext.journal.trans h.journal
  libraries := hnext.libraries.trans h.libraries
  pending := fun library => (hnext.pending library).trans (h.pending library)
  synced := fun library hsynced => hnext.synced library (h.synced library hsynced)
  view := fun library ratingKey => (hnext.view library ratingKey).trans (h.view library ratingKey)

structure Unused (gen : Nat) (db : Database) : Prop where
  published : forall key row, db.collections.lookup key = some row ->
    row.publishedGeneration ≠ some gen
  catalogued : forall key row, db.collections.lookup key = some row ->
    row.catalogGeneration ≠ gen
  staged : forall key, db.staged gen key = none

theorem RowSound.mono {sequence later : Nat} (h : RowSound sequence row) (hle : sequence ≤ later)
    : RowSound later row :=
  ⟨h.published, fun gen s hs => (h.generations gen s hs).trans hle, h.catalogued.trans hle⟩

theorem Sound.unused (h : Sound db) : Unused (db.sequence + 1) db := by
  constructor
  · intro key row hrow hpublished
    rcases (h.rows key row hrow).published _ hpublished with ⟨s, _, hs, _, _⟩
    exact absurd ((h.rows key row hrow).generations _ s hs) (Nat.not_succ_le_self _)
  · intro key row hrow hcatalogued
    have hle := (h.rows key row hrow).catalogued
    rw [hcatalogued] at hle
    exact absurd hle (Nat.not_succ_le_self _)
  intro key
  unfold Database.staged
  cases hrow : db.collections.lookup key with
  | none => rfl
  | some row =>
    cases hs : row.snapshots.lookup (db.sequence + 1) with
    | none => exact hs
    | some s => exact absurd ((h.rows key row hrow).generations _ s hs) (Nat.not_succ_le_self _)

section Opening

variable {w v : World} {library : GoString}

theorem apply_ensureSync (h : w.apply (.ensureSync library) = some v) :
    Quiet w v ∧ v.db.collections = w.db.collections ∧ v.db.sequence = w.db.sequence ∧
      (v.db.syncs.lookup library).isSome = true := by
  rcases Option.map_eq_some_iff.mp h with ⟨db, hdb, rfl⟩
  unfold Database.ensureSync at hdb
  split at hdb
  · cases hdb
  split at hdb
  · rename_i hthere
    cases hdb
    exact ⟨Quiet.refl w, rfl, rfl, hthere⟩
  rename_i hmissing
  cases hdb
  have hlookup : forall other, (w.db.syncs.set library false).lookup other =
      if other = library then some false else w.db.syncs.lookup other :=
    fun other => Table.lookup_set _ _ _ _
  have hnone : w.db.syncs.lookup library = none := by simpa using hmissing
  refine ⟨⟨rfl, rfl, rfl, ?_, ?_, fun _ _ => rfl⟩, rfl, rfl, ?_⟩
  · intro other
    show ((w.db.syncs.set library false).lookup other).getD false = _
    rw [hlookup]
    split
    · rename_i hsame
      rw [hsame]
      show false = (w.db.syncs.lookup library).getD false
      rw [hnone]
      rfl
    · rfl
  · intro other hother
    show ((w.db.syncs.set library false).lookup other).isSome = true
    rw [hlookup]
    split
    · rfl
    · exact hother
  show ((w.db.syncs.set library false).lookup library).isSome = true
  rw [hlookup, if_pos rfl]
  rfl

theorem Sound.of_quiet (h : Sound w.db) (hquiet : Quiet w v)
    (hcollections : v.db.collections = w.db.collections)
    (hsequence : w.db.sequence ≤ v.db.sequence) : Sound v.db := by
  constructor
  · intro key row hrow
    rw [hcollections] at hrow
    exact (h.rows key row hrow).mono hsequence
  · intro key row hrow hpublished
    rw [hcollections] at hrow
    exact hquiet.synced key.1 (h.synced key row hrow hpublished)
  intro key row hrow
  rw [hcollections] at hrow
  rw [hquiet.libraries]
  exact h.homes key row hrow

theorem apply_nextGeneration (h : w.apply .nextGeneration = some v) :
    Quiet w v ∧ v.db.collections = w.db.collections ∧ v.db.sequence = w.db.sequence + 1 := by
  cases h
  exact ⟨⟨rfl, rfl, rfl, fun _ => rfl, fun _ h => h, fun _ _ => rfl⟩, rfl, rfl⟩

theorem Unused.of_collections {other : Database} (h : Unused gen db)
    (hcollections : other.collections = db.collections) : Unused gen other := by
  constructor
  · intro key row hrow
    rw [hcollections] at hrow
    exact h.published key row hrow
  · intro key row hrow
    rw [hcollections] at hrow
    exact h.catalogued key row hrow
  intro key
  have hstaged := h.staged key
  unfold Database.staged at hstaged ⊢
  rw [hcollections]
  exact hstaged

end Opening

section Staging

variable {gen : Nat} {start w : World}

theorem RowStaged.published {home : Prop} {old new : Option CollectionRow}
    (h : RowStaged gen home old new)
    (hunused : forall row, old = some row -> row.publishedGeneration ≠ some gen) :
    new.bind CollectionRow.published = old.bind CollectionRow.published := by
  cases h with
  | absent => rfl
  | inserted hnew hhome =>
    show CollectionRow.published _ = none
    unfold CollectionRow.published
    rw [hnew.publishedGeneration]
    rfl
  | kept hkept =>
    rename_i row new
    show CollectionRow.published _ = CollectionRow.published _
    unfold CollectionRow.published
    rw [hkept.publishedGeneration, hkept.columns]
    cases hpublished : row.publishedGeneration with
    | none => rfl
    | some number =>
      have hother : number ≠ gen := by
        intro hsame
        exact hunused row rfl (hsame ▸ hpublished)
      rw [Option.map_some, Option.map_some, hkept.snapshots number hother]

theorem Staged.quiet (h : Staged gen start w) (hunused : Unused gen start.db) :
    Quiet start w := by
  refine ⟨h.known, h.journal, h.libraries, ?_, ?_, ?_⟩
  · intro library
    unfold Database.pending
    rw [h.syncs]
  · intro library hsynced
    rw [h.syncs]
    exact hsynced
  intro library ratingKey
  exact (h.rows (library, ratingKey)).published fun row hrow =>
    hunused.published (library, ratingKey) row hrow

theorem Unused.other {number : Nat} (h : Unused gen db)
    (hrow : db.collections.lookup key = some row)
    (hnumber : row.publishedGeneration = some number) : number ≠ gen := by
  intro hsame
  exact h.published key row hrow (hsame ▸ hnumber)

theorem Staged.rowSound (h : Staged gen start w) (hunused : Unused gen start.db)
    (hgen : gen ≤ start.db.sequence) (hsound : Sound start.db)
    (hrow : w.db.collections.lookup key = some row) :
    RowSound start.db.sequence row := by
  rcases h.row_cases hrow with ⟨old, hstart, hkept⟩ | ⟨_, hnew, _⟩
  · have hold := hsound.rows key old hstart
    refine ⟨?_, ?_, ?_⟩
    · intro number hnumber
      rw [hkept.publishedGeneration] at hnumber
      rw [hkept.snapshots number (hunused.other hstart hnumber), hkept.columns]
      exact hold.published number hnumber
    · intro number s hs
      by_cases hsame : number = gen
      · rw [hsame]
        exact hgen
      rw [hkept.snapshots number hsame] at hs
      exact hold.generations number s hs
    rw [hkept.catalogGeneration]
    exact hold.catalogued
  refine ⟨?_, ?_, ?_⟩
  · intro number hnumber
    rw [hnew.publishedGeneration] at hnumber
    cases hnumber
  · intro number s hs
    by_cases hsame : number = gen
    · rw [hsame]
      exact hgen
    rw [hnew.snapshots number hsame] at hs
    cases hs
  rw [hnew.catalogGeneration]
  exact Nat.zero_le _

theorem Staged.sound (h : Staged gen start w) (hunused : Unused gen start.db)
    (hgen : gen ≤ start.db.sequence) (hsound : Sound start.db) : Sound w.db := by
  constructor
  · intro key row hrow
    rw [h.sequence]
    exact h.rowSound hunused hgen hsound hrow
  · intro key row hrow hpublished
    rw [h.syncs]
    rcases h.row_cases hrow with ⟨old, hstart, hkept⟩ | ⟨_, hnew, _⟩
    · rw [hkept.publishedGeneration] at hpublished
      exact hsound.synced key old hstart hpublished
    · exact absurd hnew.publishedGeneration hpublished
  intro key row hrow
  rw [h.libraries]
  rcases h.row_cases hrow with ⟨old, hstart, _⟩ | ⟨_, _, hhome⟩
  · exact hsound.homes key old hstart
  · exact hhome

theorem Staged.separates {x : Scanned} (h : Staged gen start w) (hunused : Unused gen start.db)
    (hseparates : forall old, start.db.collections.lookup key = some old -> old.Separates x)
    (hrow : w.db.collections.lookup key = some row) : row.Separates x := by
  intro number hnumber s hs
  rcases h.row_cases hrow with ⟨old, hstart, hkept⟩ | ⟨_, hnew, _⟩
  · rw [hkept.publishedGeneration] at hnumber
    rw [hkept.snapshots number (hunused.other hstart hnumber)] at hs
    exact hseparates old hstart number hnumber s hs
  rw [hnew.publishedGeneration] at hnumber
  cases hnumber

theorem Staged.catalogued (h : Staged gen start w) (hunused : Unused gen start.db) (hgen : gen ≠ 0)
    (hrow : w.db.collections.lookup key = some row) : row.catalogGeneration ≠ gen := by
  rcases h.row_cases hrow with ⟨old, hstart, hkept⟩ | ⟨_, hnew, _⟩
  · rw [hkept.catalogGeneration]
    exact hunused.catalogued key old hstart
  rw [hnew.catalogGeneration]
  exact hgen.symm

end Staging

/-!
## The publishing transactions
-/

/-- A generation has been staged that nothing refers to. -/
structure Ready (library : GoString) (gen : Nat) (base u : World) : Prop where
  sound : Sound base.db
  unused : Unused gen base.db
  sequence : base.db.sequence = gen
  positive : gen ≠ 0
  synced : (base.db.syncs.lookup library).isSome = true
  staged : Staged gen base u

theorem Ready.rowSound {base u : World} (h : Ready library gen base u)
    (hrow : u.db.collections.lookup key = some row) : RowSound u.db.sequence row := by
  rw [h.staged.sequence]
  exact h.staged.rowSound h.unused (le_of_eq h.sequence.symm) h.sound hrow

theorem lookup_markPending (db : Database) (library other : GoString) (changed : Bool) :
    (db.markPending library changed).lookup other =
      (db.syncs.lookup other).map fun pending =>
        if other = library then pending || changed else pending :=
  Table.lookup_modify _ _ _

section Catalog

variable {library : GoString} {gen : Nat} {base u : World} {scanned : List Scanned}

theorem lookup_publishCollections_other (db : Database) (gen : Nat) (hkey : key.1 ≠ library) :
    (db.publishCollections library gen).collections.lookup key = db.collections.lookup key := by
  unfold Database.publishCollections
  simp only [Table.lookup_modify, Table.lookup_keep, if_neg hkey]
  cases db.collections.lookup key with
  | none => rfl
  | some row =>
    simp only [Option.map_some, Option.filter_some]
    rw [if_pos (by simp [hkey])]
    rfl

theorem lookup_publishCollections (db : Database) (library : GoString) (gen : Nat)
    (ratingKey : Text) :
    (db.publishCollections library gen).collections.lookup (library, ratingKey) =
      (((db.collections.lookup (library, ratingKey)).map fun row =>
        row.catalogue gen).filter fun row => row.catalogGeneration == gen).map
          CollectionRow.keepPublished := by
  unfold Database.publishCollections
  simp only [Table.lookup_modify, Table.lookup_keep, if_true, bne_self_eq_false, Bool.false_or]

theorem publishCollections_gone (hready : Ready library gen base u)
    (hcatalogued : Catalogued library gen scanned u)
    (hfound : scanned.find? (fun x => decide (x.ratingKey = ratingKey)) = none) :
    (u.db.publishCollections library gen).collections.lookup (library, ratingKey) = none := by
  have hstaged := hcatalogued (library, ratingKey)
  rw [if_pos rfl, hfound] at hstaged
  rw [lookup_publishCollections]
  cases hrow : u.db.collections.lookup (library, ratingKey) with
  | none => rfl
  | some row =>
    unfold Database.staged at hstaged
    rw [hrow] at hstaged
    have hnone : row.snapshots.lookup gen = none := hstaged
    have hsame : row.catalogue gen = row := by
      unfold CollectionRow.catalogue
      rw [hnone]
    have hother := hready.staged.catalogued hready.unused hready.positive hrow
    rw [Option.map_some, hsame, Option.filter_some, if_neg (by simpa using hother)]
    rfl

theorem publishCollections_scanned (hcatalogued : Catalogued library gen scanned u) {x : Scanned}
    (hfound : scanned.find? (fun x => decide (x.ratingKey = ratingKey)) = some x) :
    exists row, u.db.collections.lookup (library, ratingKey) = some row ∧
      row.snapshots.lookup gen = some x.snapshot ∧
      (u.db.publishCollections library gen).collections.lookup (library, ratingKey) =
        some { (row.publish gen x.snapshot).keepPublished with catalogGeneration := gen } := by
  have hstaged := hcatalogued (library, ratingKey)
  rw [if_pos rfl, hfound] at hstaged
  unfold Database.staged at hstaged
  rcases Option.bind_eq_some_iff.mp hstaged with ⟨row, hrow, hsnapshot⟩
  refine ⟨row, hrow, hsnapshot, ?_⟩
  have hcatalogue : row.catalogue gen =
      { row.publish gen x.snapshot with catalogGeneration := gen } := by
    unfold CollectionRow.catalogue
    rw [hsnapshot]
    exact if_pos rfl
  rw [lookup_publishCollections, hrow, Option.map_some, hcatalogue, Option.filter_some,
    if_pos (by simp)]
  rfl

def SeparatesAll (library : GoString) (scanned : List Scanned) (db : Database) : Prop :=
  forall x, x ∈ scanned ->
    forall row, db.collections.lookup (library, x.ratingKey) = some row -> row.Separates x

theorem Ready.separates (hready : Ready library gen base u)
    (hseparates : SeparatesAll library scanned base.db) {x : Scanned}
    (hfound : scanned.find? (fun x => decide (x.ratingKey = ratingKey)) = some x)
    (hrow : u.db.collections.lookup (library, ratingKey) = some row) : row.Separates x := by
  have hkey : x.ratingKey = ratingKey := by simpa using List.find?_some hfound
  have hmem := List.mem_of_find?_eq_some hfound
  refine hready.staged.separates hready.unused ?_ hrow
  intro old hold
  rw [← hkey] at hold
  exact hseparates x hmem old hold

theorem view_publishCollections (hready : Ready library gen base u)
    (hcatalogued : Catalogued library gen scanned u)
    (hseparates : SeparatesAll library scanned base.db) (ratingKey : Text) :
    (u.db.publishCollections library gen).view library ratingKey =
      (scanned.find? fun x => decide (x.ratingKey = ratingKey)).map Scanned.published := by
  unfold Database.view
  cases hfound : scanned.find? (fun x => decide (x.ratingKey = ratingKey)) with
  | none =>
    rw [publishCollections_gone hready hcatalogued hfound]
    rfl
  | some x =>
    rcases publishCollections_scanned hcatalogued hfound with
      ⟨row, hrow, hsnapshot, hlookup⟩
    rw [hlookup]
    exact published_publish (hready.rowSound hrow)
      (hready.separates hseparates hfound hrow) hsnapshot

theorem view_unchanged (hready : Ready library gen base u)
    (hcatalogued : Catalogued library gen scanned u)
    (hseparates : SeparatesAll library scanned base.db)
    (hchanged : u.db.catalogueChanged library gen = false) (ratingKey : Text) :
    (u.db.publishCollections library gen).view library ratingKey = u.db.view library ratingKey := by
  rw [view_publishCollections hready hcatalogued hseparates]
  have hstaged := hcatalogued (library, ratingKey)
  rw [if_pos rfl] at hstaged
  unfold Database.staged at hstaged
  unfold Database.view
  cases hrow : u.db.collections.lookup (library, ratingKey) with
  | none =>
    rw [hrow] at hstaged
    cases hfound : scanned.find? (fun x => decide (x.ratingKey = ratingKey)) with
    | none => rfl
    | some x =>
      rw [hfound] at hstaged
      cases hstaged
  | some row =>
    have hsame : row.differs gen = false := by
      have hall := List.any_eq_false.mp hchanged _ (Table.mem_of_lookup hrow)
      simpa using hall
    rw [hrow] at hstaged
    have hlookup : row.snapshots.lookup gen = (scanned.find? fun x =>
        decide (x.ratingKey = ratingKey)).map Scanned.snapshot := hstaged
    unfold CollectionRow.differs at hsame
    rw [hlookup] at hsame
    cases hfound : scanned.find? (fun x => decide (x.ratingKey = ratingKey)) with
    | none =>
      rw [hfound] at hsame
      cases hsame
    | some x =>
      rw [hfound] at hsame
      have hhash : x.snapshot.contentHash = row.oldHash := by simpa using hsame
      exact (published_unchanged (hready.rowSound hrow)
        (hready.separates hseparates hfound hrow) hhash).symm

theorem publishCollections_sound (hready : Ready library gen base u)
    (hcatalogued : Catalogued library gen scanned u)
    (hseparates : SeparatesAll library scanned base.db) :
    Sound (u.db.publishCollections library gen) := by
  have hsound := hready.staged.sound hready.unused (le_of_eq hready.sequence.symm) hready.sound
  have hrows : forall key row,
      (u.db.publishCollections library gen).collections.lookup key = some row ->
        (u.db.collections.lookup key = some row ∧ key.1 ≠ library) ∨
          (key.1 = library ∧ RowSound u.db.sequence row ∧
            exists old, u.db.collections.lookup key = some old) := by
    intro key row hrow
    by_cases hkey : key.1 = library
    · right
      rcases key with ⟨home, ratingKey⟩
      cases hkey
      cases hfound : scanned.find? (fun x => decide (x.ratingKey = ratingKey)) with
      | none =>
        rw [publishCollections_gone hready hcatalogued hfound] at hrow
        cases hrow
      | some x =>
        rcases publishCollections_scanned hcatalogued hfound with
          ⟨old, hold, hsnapshot, hlookup⟩
        rw [hlookup] at hrow
        cases hrow
        have hpublished := (hready.rowSound hold).publish
          (hready.separates hseparates hfound hold) hsnapshot
        refine ⟨rfl, ⟨hpublished.published, hpublished.generations, ?_⟩, old, hold⟩
        rw [hready.staged.sequence, hready.sequence]
    left
    rw [lookup_publishCollections_other u.db gen hkey] at hrow
    exact ⟨hrow, hkey⟩
  constructor
  · intro key row hrow
    rcases hrows key row hrow with ⟨hold, _⟩ | ⟨_, hnew, _⟩
    · exact hsound.rows key row hold
    · exact hnew
  · intro key row hrow hpublished
    show ((u.db.markPending library _).lookup key.1).isSome = true
    rw [lookup_markPending, Option.isSome_map]
    rcases hrows key row hrow with ⟨hold, _⟩ | ⟨hkey, _, _⟩
    · exact hsound.synced key row hold hpublished
    rw [hkey, hready.staged.syncs]
    exact hready.synced
  intro key row hrow
  rcases hrows key row hrow with ⟨hold, _⟩ | ⟨_, _, old, hold⟩
  · exact hsound.homes key row hold
  · exact hsound.homes key old hold

end Catalog

section Single

variable {library : GoString} {ratingKey : Text} {gen : Nat} {base u : World} {x : Scanned}

theorem publishOneCollection_cases (h : u.db.publishOneCollection library ratingKey gen = some db) :
    exists row s, u.db.collections.lookup (library, ratingKey) = some row ∧
      row.snapshots.lookup gen = some s ∧
      db = { u.db with
        collections :=
          u.db.collections.set (library, ratingKey) (row.publish gen s).keepPublished
        syncs := u.db.markPending library (s.contentHash != row.oldHash) } := by
  unfold Database.publishOneCollection at h
  split at h
  · cases h
  rename_i row hrow
  split at h
  · cases h
  rename_i s hs
  split at h
  · cases h
  · exact ⟨row, s, hrow, hs, (Option.some.inj h).symm⟩

theorem publishOneCollection_spec (hready : Ready library gen base u)
    (hkey : x.ratingKey = ratingKey) (hseparates : SeparatesAll library [x] base.db)
    (hstaged : u.db.staged gen (library, ratingKey) = some x.snapshot)
    (h : u.db.publishOneCollection library ratingKey gen = some db) :
    Sound db ∧ db.libraries = u.db.libraries ∧ (forall other otherKey, db.view other otherKey =
        if (other, otherKey) = (library, ratingKey) then some x.published
        else u.db.view other otherKey) ∧
      exists changed, db.syncs = u.db.markPending library changed ∧
        (changed = false -> u.db.view library ratingKey = some x.published) := by
  rcases publishOneCollection_cases h with ⟨row, s, hrow, hs, rfl⟩
  cases staged_of_row hstaged hrow hs
  have hsound := hready.staged.sound hready.unused (le_of_eq hready.sequence.symm) hready.sound
  have hrowSound := hready.rowSound hrow
  have hseparated : row.Separates x := by
    refine hready.staged.separates hready.unused ?_ hrow
    intro old hold
    rw [← hkey] at hold
    exact hseparates x List.mem_cons_self old hold
  have hlookup : forall key, (u.db.collections.set (library, ratingKey)
      (row.publish gen x.snapshot).keepPublished).lookup key =
        if key = (library, ratingKey) then some (row.publish gen x.snapshot).keepPublished
        else u.db.collections.lookup key := fun key => Table.lookup_set _ _ _ _
  refine ⟨⟨?_, ?_, ?_⟩, rfl, ?_, _, rfl, ?_⟩
  · intro key found hfound
    have hat := (hlookup key).symm.trans hfound
    split at hat
    · cases hat
      exact hrowSound.publish hseparated hs
    · exact hsound.rows key found hat
  · intro key found hfound hpublished
    show ((u.db.markPending library _).lookup key.1).isSome = true
    rw [lookup_markPending, Option.isSome_map]
    have hat := (hlookup key).symm.trans hfound
    split at hat
    · rename_i hhere
      rw [hhere, hready.staged.syncs]
      exact hready.synced
    · exact hsound.synced key found hat hpublished
  · intro key found hfound
    have hat := (hlookup key).symm.trans hfound
    split at hat
    · rename_i hhere
      rw [hhere]
      exact hsound.homes (library, ratingKey) row hrow
    · exact hsound.homes key found hat
  · intro other otherKey
    show ((u.db.collections.set _ _).lookup (other, otherKey)).bind _ = _
    rw [hlookup]
    split
    · exact published_publish hrowSound hseparated hs
    · rfl
  intro hchanged
  have hhash : x.snapshot.contentHash = row.oldHash := by simpa using hchanged
  unfold Database.view
  rw [hrow]
  exact published_unchanged hrowSound hseparated hhash

end Single

/-!
## Behind the publication
-/

structure Kept (w v : World) : Prop where
  known : v.known = w.known
  libraries : v.db.libraries = w.db.libraries
  view : forall library ratingKey, v.db.view library ratingKey = w.db.view library ratingKey
  sound : Sound w.db -> Sound v.db

theorem Kept.refl (w : World) : Kept w w :=
  ⟨rfl, rfl, fun _ _ => rfl, id⟩

theorem Kept.trans {u : World} (h : Kept w u) (hnext : Kept u v) : Kept w v where
  known := hnext.known.trans h.known
  libraries := hnext.libraries.trans h.libraries
  view := fun library ratingKey => (hnext.view library ratingKey).trans (h.view library ratingKey)
  sound := fun hsound => hnext.sound (h.sound hsound)

def Follows (library : GoString) : Statement -> Prop
  | .invalidate other _ => other = library
  | .clearPending other => other = library
  | .pruneSnapshots _ => True
  | _ => False

theorem lookup_clearPending (db : Database) (library other : GoString) :
    (db.clearPending library).syncs.lookup other =
      (db.syncs.lookup other).map fun pending =>
        if other = library then false else pending :=
  Table.lookup_modify _ _ _

theorem clearPending_kept (w : World) (library : GoString) :
    Kept w (w.store (w.db.clearPending library)) := by
  refine ⟨rfl, rfl, fun _ _ => rfl, ?_⟩
  intro hsound
  refine ⟨hsound.rows, ?_, hsound.homes⟩
  intro key row hrow hpublished
  show ((w.db.clearPending library).syncs.lookup key.1).isSome = true
  rw [lookup_clearPending, Option.isSome_map]
  exact hsound.synced key row hrow hpublished

theorem pruneSnapshots_kept (w : World) (old : GoString × Text -> Nat -> Bool) :
    Kept w (w.store (w.db.pruneSnapshots old)) := by
  have hlookup : forall key, (w.db.pruneSnapshots old).collections.lookup key =
      (w.db.collections.lookup key).map fun row =>
        { row with
          snapshots := row.snapshots.keep fun gen _ =>
            !old key gen || row.publishedGeneration == some gen } :=
    fun key => Table.lookup_modify _ _ _
  have hpublished : forall (key : GoString × Text) (row : CollectionRow) (gen : Nat),
      row.publishedGeneration = some gen ->
        (row.snapshots.keep fun gen _ =>
          !old key gen || row.publishedGeneration == some gen).lookup gen =
            row.snapshots.lookup gen := by
    intro key row gen hgen
    rw [Table.lookup_keep]
    cases row.snapshots.lookup gen with
    | none => rfl
    | some s => rw [Option.filter_some, if_pos (by simp [hgen])]
  refine ⟨rfl, rfl, ?_, ?_⟩
  · intro library ratingKey
    show ((w.db.pruneSnapshots old).collections.lookup _).bind _ =
      (w.db.collections.lookup _).bind _
    rw [hlookup]
    cases w.db.collections.lookup (library, ratingKey) with
    | none => rfl
    | some row =>
      show CollectionRow.published _ = CollectionRow.published row
      unfold CollectionRow.published
      cases hgen : row.publishedGeneration with
      | none => rfl
      | some gen =>
        simp only [Option.map_some]
        rw [hpublished (library, ratingKey) row gen hgen]
  intro hsound
  have hrow : forall key row,
      (w.db.pruneSnapshots old).collections.lookup key = some row ->
        exists before, w.db.collections.lookup key = some before ∧
          row.publishedGeneration = before.publishedGeneration ∧
          RowSound w.db.sequence row := by
    intro key row hrow
    rw [hlookup] at hrow
    rcases Option.map_eq_some_iff.mp hrow with ⟨before, hbefore, rfl⟩
    have hold := hsound.rows key before hbefore
    refine ⟨before, hbefore, rfl, ?_, ?_, hold.catalogued⟩
    · intro gen hgen
      have hkept : forall s, before.snapshots.lookup gen = some s ->
          (before.snapshots.keep fun number _ =>
            !old key number || before.publishedGeneration == some number).lookup gen =
              some s := fun s hs => (hpublished key before gen hgen).trans hs
      rcases hold.published gen hgen with ⟨s, members, hs, hwhole, hcolumns⟩
      exact ⟨s, members, hkept s hs, hwhole, hcolumns⟩
    intro gen s hs
    exact hold.generations gen s (Table.lookup_of_keep hs)
  constructor
  · intro key row hfound
    rcases hrow key row hfound with ⟨_, _, _, hnew⟩
    exact hnew
  · intro key row hfound hrowPublished
    rcases hrow key row hfound with ⟨before, hbefore, hsame, _⟩
    rw [hsame] at hrowPublished
    exact hsound.synced key before hbefore hrowPublished
  intro key row hfound
  rcases hrow key row hfound with ⟨before, hbefore, _, _⟩
  exact hsound.homes key before hbefore

theorem invalidate_cases {succeeds : Bool} (h : w.invalidate library succeeds = some v) :
    (v = w ∧ w.db.pending library = false) ∨
      v = { w with journal := .invalidated :: w.journal } := by
  unfold World.invalidate at h
  split at h
  · rename_i hpending
    exact Or.inl ⟨(Option.some.inj h).symm, by simpa using hpending⟩
  split at h
  · exact Or.inr (Option.some.inj h).symm
  · cases h

theorem Follows.kept {st : Statement}
    (hfollows : Follows library st) (happly : w.apply st = some v) : Kept w v := by
  cases st with
  | invalidate other succeeds =>
    rcases invalidate_cases happly with ⟨rfl, _⟩ | rfl
    · exact Kept.refl v
    · exact ⟨rfl, rfl, fun _ _ => rfl, id⟩
  | clearPending other =>
    cases happly
    exact clearPending_kept w other
  | pruneSnapshots old =>
    cases happly
    exact pruneSnapshots_kept w old
  | ensureSync | nextGeneration | insertCollection | insertSnapshot | insertMember
  | completeSnapshot | publishCollections | publishOneCollection => exact hfollows.elim

theorem run_follows {statements : List Statement}
    (hfollows : forall st, st ∈ statements -> Follows library st)
    (hrun : run World.apply w statements = some v) : Kept w v := by
  induction statements generalizing w with
  | nil =>
    cases hrun
    exact Kept.refl v
  | cons st rest ih =>
    rcases run_cons hrun with ⟨next, happly, hrest⟩
    exact ((hfollows st List.mem_cons_self).kept happly).trans
      (ih (fun other hother => hfollows other (List.mem_cons_of_mem st hother)) hrest)

/-!
## Passes
-/

namespace Call

def home : Call -> GoString
  | .library _ name _ _ _ => name
  | .collection _ name _ _ _ => name

def publication (gen : Nat) : Call -> Statement
  | .library _ name _ _ _ => .publishCollections name gen
  | .collection _ name ratingKey _ _ => .publishOneCollection name ratingKey gen

def rest : Call -> List Statement
  | .library _ name _ invalidator old =>
    (flushCollectionInvalidation invalidator name).statements ++ [.pruneSnapshots old]
  | .collection _ name _ _ invalidator =>
    (flushCollectionInvalidation invalidator name).statements

def Scans (gen : Nat) (scanned : List Scanned) (u : World) : Call -> Prop
  | .library _ name _ _ _ => Catalogued name gen scanned u
  | .collection _ name ratingKey _ _ =>
    exists x, scanned = [x] ∧ x.ratingKey = ratingKey ∧
      u.db.staged gen (name, ratingKey) = some x.snapshot

end Call

theorem flush_follows (invalidator : Option Bool) (library : GoString) :
    forall st, st ∈ (flushCollectionInvalidation invalidator library).statements ->
      Follows library st := by
  cases invalidator with
  | none => exact Script.forall_pure
  | some succeeds => exact Script.forall_bind (Script.forall_emit rfl) fun _ =>
    Script.forall_emit rfl

theorem rest_follows (call : Call) :
    forall st, st ∈ call.rest -> Follows call.home st := by
  intro st hst
  cases call with
  | library server name origin invalidator old =>
    rcases List.mem_append.mp hst with hflush | hprune
    · exact flush_follows invalidator name st hflush
    rw [List.mem_singleton.mp hprune]
    trivial
  | collection server name ratingKey children invalidator =>
    exact flush_follows invalidator name st hst

/-- How far a pass has come: it published nothing, because it was cut off or its scan has
failed, or it published what it has scanned. -/
inductive Pass (pageSize : Nat) (w : World) (call : Call) (count : Nat) (v : World) : Prop where
  | quiet (hquiet : Quiet w v) (hsound : Sound v.db)
      (hcut : (call.script pageSize w.db).result = none ∨
        count < (call.script pageSize w.db).statements.length)
  | published {gen : Nat} {scanned : List Scanned} {base u next : World} (m : Nat)
      (hresult : (call.script pageSize w.db).result = some scanned)
      (hmem : call.publication gen ∈ (call.script pageSize w.db).statements.take count)
      (hbase : Quiet w base) (hcollections : base.db.collections = w.db.collections)
      (hready : Ready call.home gen base u) (hscans : call.Scans gen scanned u)
      (hpublish : u.apply (call.publication gen) = some next)
      (hrest : run World.apply next (call.rest.take m) = some v)
      (hall : (call.script pageSize w.db).statements.length ≤ count -> call.rest.length ≤ m)

variable {alpha : Type}

theorem scan_cases {scan : Script alpha} {count : Nat}
    {base : World} (after : alpha -> List Statement)
    (hstages : forall st, st ∈ scan.statements -> Stages library gen st)
    (hrun : run World.apply base
    ((scan.statements ++ scan.result.elim [] after).take count) = some v) :
    (Staged gen base v ∧ (scan.result = none ∨ count ≤ scan.statements.length)) ∨
      exists a u m, scan.Runs base u a ∧ Staged gen base u ∧
        count = scan.statements.length + (m + 1) ∧
        run World.apply u ((after a).take (m + 1)) = some v := by
  rw [List.take_append, run_append] at hrun
  rcases Option.bind_eq_some_iff.mp hrun with ⟨u, hscan, hafter⟩
  have hstaged : Staged gen base u := (Staged.refl gen base).run
    (fun st hst => hstages st (List.mem_of_mem_take hst)) hscan
  cases hcount : count - scan.statements.length with
  | zero =>
    rw [hcount, List.take_zero] at hafter
    cases hafter
    exact Or.inl ⟨hstaged, Or.inr (Nat.le_of_sub_eq_zero hcount)⟩
  | succ m =>
    rw [hcount] at hafter
    rw [List.take_of_length_le (by omega)] at hscan
    cases hresult : scan.result with
    | none =>
      rw [hresult] at hafter
      cases hafter
      exact Or.inl ⟨hstaged, Or.inl rfl⟩
    | some a =>
      rw [hresult] at hafter
      exact Or.inr ⟨a, u, m, ⟨hresult, hscan⟩, hstaged, by omega, hafter⟩

theorem cut_short {scan : Script alpha} {count : Nat}
    {publication : Statement} {rest : List Statement}
    (h : scan.result = none ∨ count ≤ scan.statements.length) :
    scan.result = none ∨ count <
    (scan.statements ++ scan.result.elim [] fun _ => publication :: rest).length := by
  cases hresult : scan.result with
  | none => exact Or.inl rfl
  | some a =>
    rw [hresult] at h
    rcases h with hnone | hshort
    · cases hnone
    refine Or.inr ?_
    simp only [Option.elim_some, List.length_append, List.length_cons]
    omega

section Passes

variable {pageSize count : Nat} {w v : World}

theorem syncLibraryCollections_eq (invalidator : Option Bool) (server library : GoString)
    (origin : Origin) (old : GoString × Text -> Nat -> Bool) (db : Database) :
    let scan := scanCatalog pageSize server library (db.sequence + 1) origin 0 0 (-1) []
      origin.catalog
    syncLibraryCollections pageSize invalidator server library origin old db =
      ⟨.ensureSync library :: .nextGeneration :: (scan.statements ++
        scan.result.elim [] fun _ => .publishCollections library (db.sequence + 1) ::
          (Call.library server library origin invalidator old).rest), scan.result⟩ := by
  intro scan
  have hscan : scanCatalog pageSize server library (db.sequence + 1) origin 0 0 (-1) []
      origin.catalog = scan := rfl
  unfold syncLibraryCollections
  simp only [hscan, bind, Script.andThen, Script.emit, Call.rest]
  cases scan.result with
  | none =>
    simp
  | some scanned =>
    cases invalidator with
    | none | some => rfl

variable {server : GoString}

theorem library_pass {origin : Origin} {old : GoString × Text -> Nat -> Bool} (hsound : Sound w.db)
    (h : w.execute pageSize (.library server library origin invalidator old) count = some v) :
    Pass pageSize w (.library server library origin invalidator old) count v := by
  have hscript : (Call.library server library origin invalidator old).script pageSize w.db =
      _ := syncLibraryCollections_eq invalidator server library origin old w.db
  unfold World.execute at h
  rw [hscript] at h
  match count, h with
  | 0, h =>
    cases h
    refine .quiet (Quiet.refl _) hsound (Or.inr ?_)
    rw [hscript]
    exact Nat.zero_lt_succ _
  | 1, h =>
    rcases run_cons h with ⟨next, hensure, hnil⟩
    cases hnil
    rcases apply_ensureSync hensure with ⟨hquiet, hcollections, hsequence, _⟩
    refine .quiet hquiet (hsound.of_quiet hquiet hcollections (le_of_eq hsequence.symm))
      (Or.inr ?_)
    rw [hscript]
    exact Nat.succ_lt_succ (Nat.zero_lt_succ _)
  | count + 2, h =>
    rcases run_cons h with ⟨ensured, hensure, h⟩
    rcases run_cons h with ⟨base, hnext, hscan⟩
    rcases apply_ensureSync hensure with ⟨hquiet, hcollections, hsequence, hsynced⟩
    rcases apply_nextGeneration hnext with ⟨hquiet', hcollections', hsequence'⟩
    have hbase := hquiet.trans hquiet'
    have hsame := hcollections'.trans hcollections
    have hgen : base.db.sequence = w.db.sequence + 1 := by rw [hsequence', hsequence]
    have hbaseSound := hsound.of_quiet hbase hsame (by omega)
    have hunused := hsound.unused.of_collections hsame
    have hempty : Catalogued library (w.db.sequence + 1) [] base := by
      intro key
      rw [hunused.staged key]
      split
      all_goals rfl
    rcases scan_cases _ (scanCatalog_stages pageSize server library (w.db.sequence + 1)
        origin 0 0 (-1) [] origin.catalog) hscan with ⟨hstaged, hcut⟩ | ⟨scanned, u, m, hruns,
          hstaged, hcount, hafter⟩
    · refine .quiet (hbase.trans (hstaged.quiet hunused))
        (hstaged.sound hunused (le_of_eq hgen.symm) hbaseSound) ?_
      rw [hscript]
      rcases cut_short hcut with hnone | hshort
      · exact Or.inl hnone
      · exact Or.inr (Nat.succ_lt_succ (Nat.succ_lt_succ hshort))
    rcases run_cons hafter with ⟨next, hpublish, hrest⟩
    refine .published m ?_ ?_ hbase hsame
      ⟨hbaseSound, hunused, hgen, Nat.succ_ne_zero _, hquiet'.synced library hsynced,
        hstaged⟩ (scanCatalog_runs hruns hempty) hpublish hrest ?_
    · rw [hscript]
      exact hruns.left
    · rw [hscript]
      show Statement.publishCollections library (w.db.sequence + 1) ∈ List.take _ _
      simp only [hruns.left, Option.elim_some, hcount, List.take_succ_cons]
      rw [List.take_length_add_append]
      simp
    rw [hscript]
    simp only [hruns.left, Option.elim_some, List.length_cons, List.length_append]
    omega

theorem syncCollectionOnce_eq
    (h : (syncCollectionOnce pageSize invalidator server library ratingKey children db) ≠
      Script.stop) :
    exists row, db.collections.lookup (library, ratingKey) = some row ∧
      row.publishedGeneration ≠ none ∧
      let scan := stageCollection pageSize server library (db.sequence + 1) children
        (row.columns.json ratingKey)
      syncCollectionOnce pageSize invalidator server library ratingKey children db =
        ⟨.nextGeneration :: (scan.statements ++
          scan.result.elim [] fun _ =>
            .publishOneCollection library ratingKey (db.sequence + 1) ::
              (Call.collection server library ratingKey children invalidator).rest),
          scan.result.map fun x => [x]⟩ := by
  unfold syncCollectionOnce at h ⊢
  split at h
  · exact absurd rfl h
  rename_i hkey
  rw [if_neg hkey]
  cases hrow : db.collections.lookup (library, ratingKey) with
  | none =>
    rw [hrow] at h
    exact absurd rfl h
  | some row =>
    rw [hrow] at h
    simp only at h
    split at h
    · exact absurd rfl h
    rename_i hserver
    rw [not_or] at hserver
    refine ⟨row, rfl, hserver.right, ?_⟩
    intro scan
    have hscan : stageCollection pageSize server library (db.sequence + 1) children
        (row.columns.json ratingKey) = scan := rfl
    simp only
    rw [if_neg (not_or.mpr hserver)]
    simp only [hscan, bind, Script.andThen, Script.emit, Call.rest]
    cases scan.result with
    | none =>
      simp
    | some x =>
      cases invalidator with
      | none | some => rfl

theorem collection_pass (hsound : Sound w.db)
    (h : w.execute pageSize (.collection server library ratingKey children invalidator)
      count = some v) :
    Pass pageSize w (.collection server library ratingKey children invalidator) count v := by
  by_cases hstop : syncCollectionOnce pageSize invalidator server library ratingKey children
      w.db = Script.stop
  · have hscript : (Call.collection server library ratingKey children invalidator).script
        pageSize w.db = Script.stop := hstop
    unfold World.execute at h
    rw [hscript, Script.stop, List.take_nil] at h
    cases h
    refine .quiet (Quiet.refl _) hsound (Or.inl ?_)
    rw [hscript]
    rfl
  rcases syncCollectionOnce_eq hstop with ⟨row, hrow, hpublished, hequation⟩
  have hscript : (Call.collection server library ratingKey children invalidator).script
      pageSize w.db = _ := hequation
  unfold World.execute at h
  rw [hscript] at h
  match count, h with
  | 0, h =>
    cases h
    refine .quiet (Quiet.refl _) hsound (Or.inr ?_)
    rw [hscript]
    exact Nat.zero_lt_succ _
  | count + 1, h =>
    rcases run_cons h with ⟨base, hnext, hscan⟩
    rcases apply_nextGeneration hnext with ⟨hbase, hsame, hgen⟩
    have hbaseSound := hsound.of_quiet hbase hsame (by omega)
    have hunused := hsound.unused.of_collections hsame
    rcases scan_cases _ (stageCollection_stages pageSize server library
        (w.db.sequence + 1) children (row.columns.json ratingKey)) hscan with
      ⟨hstaged, hcut⟩ | ⟨x, u, m, hruns, hstaged, hcount, hafter⟩
    · refine .quiet (hbase.trans (hstaged.quiet hunused))
        (hstaged.sound hunused (le_of_eq hgen.symm) hbaseSound) ?_
      rw [hscript]
      rcases cut_short hcut with hnone | hshort
      · exact Or.inl (Option.map_eq_none_iff.mpr hnone)
      · exact Or.inr (Nat.succ_lt_succ hshort)
    rcases run_cons hafter with ⟨next, hpublish, hrest⟩
    rcases stageCollection_runs hruns with ⟨hkey, _, hwrote⟩
    refine .published m ?_ ?_ hbase hsame
      ⟨hbaseSound, hunused, hgen, Nat.succ_ne_zero _,
        hbase.synced library (hsound.synced _ row hrow hpublished), hstaged⟩
      ⟨x, rfl, hkey, hwrote.here⟩ hpublish hrest ?_
    · rw [hscript]
      simp only [hruns.left, Option.map_some]
    · rw [hscript]
      show Statement.publishOneCollection library ratingKey (w.db.sequence + 1) ∈
        List.take _ _
      simp only [hruns.left, Option.elim_some, hcount, List.take_succ_cons]
      rw [List.take_length_add_append]
      simp
    rw [hscript]
    simp only [hruns.left, Option.elim_some, List.length_cons, List.length_append]
    omega

theorem execute_pass {call : Call} (hsound : Sound w.db)
    (h : w.execute pageSize call count = some v) : Pass pageSize w call count v := by
  cases call with
  | library server library origin invalidator old => exact library_pass hsound h
  | collection server library ratingKey children invalidator => exact collection_pass hsound h

end Passes

/-!
## What a pass publishes
-/

/-- The published collections of a library as a complete scan describes them. A scan of one
collection leaves the others. -/
def Call.newView (before : Database) (scanned : List Scanned) (ratingKey : Text) :
    Call -> Option Published
  | .library _ _ _ _ _ =>
    (scanned.find? fun x => decide (x.ratingKey = ratingKey)).map Scanned.published
  | .collection _ name target _ _ =>
    if ratingKey = target then scanned.head?.map Scanned.published
    else before.view name ratingKey

/-- The digests tell everything that a pass scans from what is published. -/
def Separated (pageSize : Nat) (w : World) (call : Call) : Prop :=
  forall scanned, (call.script pageSize w.db).result = some scanned ->
    SeparatesAll call.home scanned w.db

structure Publishes (call : Call) (scanned : List Scanned) (u next : World) : Prop where
  sound : Sound next.db
  known : next.known = u.known
  journal : next.journal = .committed u.db next.db :: u.journal
  libraries : next.db.libraries = u.db.libraries
  others : forall other ratingKey, other ≠ call.home ->
    next.db.view other ratingKey = u.db.view other ratingKey
  view : forall ratingKey,
    next.db.view call.home ratingKey = call.newView u.db scanned ratingKey
  announced : exists changed, next.db.syncs = u.db.markPending call.home changed ∧
    (changed = false -> forall ratingKey,
      next.db.view call.home ratingKey = u.db.view call.home ratingKey)

variable {next : World}

theorem publication_publishes {call : Call} {scanned : List Scanned}
    {base u : World} (hready : Ready call.home gen base u) (hscans : call.Scans gen scanned u)
    (hseparates : SeparatesAll call.home scanned base.db)
    (hpublish : u.apply (call.publication gen) = some next) :
    Publishes call scanned u next := by
  cases call with
  | library server library origin invalidator old =>
    cases hpublish
    refine ⟨publishCollections_sound hready hscans hseparates, rfl, rfl, rfl, ?_,
      view_publishCollections hready hscans hseparates, _, rfl,
      view_unchanged hready hscans hseparates⟩
    intro other ratingKey hother
    show ((u.db.publishCollections library gen).collections.lookup _).bind _ = _
    have hkey : (other, ratingKey).1 ≠ library := hother
    rw [lookup_publishCollections_other u.db gen hkey]
    rfl
  | collection server library target children invalidator =>
    rcases hscans with ⟨x, rfl, hkey, hstaged⟩
    rcases Option.map_eq_some_iff.mp hpublish with ⟨db, hdb, rfl⟩
    rcases publishOneCollection_spec hready hkey hseparates hstaged hdb with
      ⟨hsound, hlibraries, hview, changed, hsyncs, hunchanged⟩
    have hhere : forall ratingKey, db.view library ratingKey =
        if ratingKey = target then some x.published else u.db.view library ratingKey := by
      intro ratingKey
      rw [hview]
      by_cases hsame : ratingKey = target
      · rw [if_pos (by rw [hsame]; rfl), if_pos hsame]
      · rw [if_neg (fun heq => hsame (Prod.mk.inj heq).right), if_neg hsame]
    refine ⟨hsound, rfl, rfl, hlibraries, ?_, hhere, changed, hsyncs, ?_⟩
    · intro other ratingKey hother
      show db.view other ratingKey = _
      rw [hview, if_neg (fun heq => hother (Prod.mk.inj heq).left)]
    intro hsame ratingKey
    show db.view library ratingKey = _
    rw [hhere]
    split
    · rename_i htarget
      rw [htarget]
      exact (hunchanged hsame).symm
    · rfl

section Atomic

variable {pageSize count : Nat} {w v : World} {call : Call}

theorem published_views {scanned : List Scanned} {base u : World} {m : Nat}
    (hbase : Quiet w base) (hcollections : base.db.collections = w.db.collections)
    (hready : Ready call.home gen base u) (hscans : call.Scans gen scanned u)
    (hseparates : SeparatesAll call.home scanned w.db)
    (hpublish : u.apply (call.publication gen) = some next)
    (hrest : run World.apply next (call.rest.take m) = some v) :
    Publishes call scanned u next ∧ Quiet w u ∧ Kept next v := by
  have hseparated : SeparatesAll call.home scanned base.db := by
    intro x hx row hrow
    rw [hcollections] at hrow
    exact hseparates x hx row hrow
  refine ⟨publication_publishes hready hscans hseparated hpublish,
    hbase.trans (hready.staged.quiet hready.unused), ?_⟩
  exact run_follows (fun st hst => rest_follows call st (List.mem_of_mem_take hst)) hrest

theorem execute_sound (hsound : Sound w.db) (hseparated : Separated pageSize w call)
    (h : w.execute pageSize call count = some v) : Sound v.db := by
  cases execute_pass hsound h with
  | quiet _ hv _ => exact hv
  | published m hresult _ hbase hcollections hready hscans hpublish hrest _ =>
    rcases published_views hbase hcollections hready hscans (hseparated _ hresult) hpublish
      hrest with ⟨hpublishes, _, hkept⟩
    exact hkept.sound hpublishes.sound

end Atomic

/-- The digests tell apart what the passes of a run compare. -/
def Separating (pageSize : Nat) (w : World) : SyncEvent -> Prop
  | .pass call _ => Separated pageSize w call
  | _ => True

theorem Sound.deleteLibrary (h : Sound db) (library : GoString) :
    Sound (db.deleteLibrary library) := by
  have hrow : forall key row, (db.deleteLibrary library).collections.lookup key = some row ->
      db.collections.lookup key = some row ∧ key.1 ≠ library := by
    intro key row hrow
    have hkept := (List.mem_filter.mp (Table.mem_of_lookup hrow)).right
    exact ⟨Table.lookup_of_keep hrow, by simpa using hkept⟩
  constructor
  · intro key row hfound
    exact h.rows key row (hrow key row hfound).left
  · intro key row hfound hpublished
    rcases hrow key row hfound with ⟨hold, hother⟩
    show ((db.syncs.delete library).lookup key.1).isSome = true
    rw [Table.lookup_delete_ne _ hother]
    exact h.synced key row hold hpublished
  intro key row hfound
  rcases hrow key row hfound with ⟨hold, hother⟩
  exact List.mem_filter.mpr ⟨h.homes key row hold, by simpa using hother⟩

theorem step_sound {pageSize : Nat} {e : SyncEvent} (hsound : Sound w.db)
    (hseparating : Separating pageSize w e) (h : w.step pageSize e = some v) :
    Sound v.db := by
  cases e with
  | pass call count => exact execute_sound hsound hseparating h
  | createLibrary library =>
    simp only [World.step] at h
    split at h
    · cases h
    cases h
    exact ⟨hsound.rows, hsound.synced, fun key row hrow =>
      List.mem_cons_of_mem library (hsound.homes key row hrow)⟩
  | deleteLibrary library =>
    cases h
    exact hsound.deleteLibrary library

theorem initial_sound : Sound World.initial.db := by
  constructor
  all_goals
    intro key row hrow
    cases hrow

theorem run_sound {pageSize : Nat} {events : List SyncEvent}
    (hseparating : Along (World.step pageSize) (Separating pageSize) World.initial events)
    (hrun : run (World.step pageSize) World.initial events = some w) : Sound w.db := by
  have hkeeps : (fun world : World => Sound world.db) w :=
    run_invariant (fun _ _ _ hs hp hstep => step_sound hs hp hstep) initial_sound hseparating
      hrun
  exact hkeeps

/-- However far a pass comes, the published collections are the previous ones or those that
it has scanned; before its transaction they are the previous ones, and other libraries and
other collections of a library are left alone. -/
theorem publication_atomic {pageSize count : Nat} {w v : World} {call : Call}
    {events : List SyncEvent}
    (hseparating : Along (World.step pageSize) (Separating pageSize) World.initial events)
    (hrun : run (World.step pageSize) World.initial events = some w)
    (hseparated : Separated pageSize w call) (hexecute : w.execute pageSize call count = some v) :
    (forall other ratingKey, other ≠ call.home ->
      v.db.view other ratingKey = w.db.view other ratingKey) ∧
    ((forall ratingKey, v.db.view call.home ratingKey = w.db.view call.home ratingKey) ∨
      exists scanned, (call.script pageSize w.db).result = some scanned ∧
        forall ratingKey, v.db.view call.home ratingKey = call.newView w.db scanned ratingKey) ∧
    ((forall gen, call.publication gen ∉ (call.script pageSize w.db).statements.take count) ->
      forall library ratingKey, v.db.view library ratingKey = w.db.view library ratingKey) ∧
    (forall server library target children invalidator,
      call = .collection server library target children invalidator ->
        forall ratingKey, ratingKey ≠ target ->
          v.db.view library ratingKey = w.db.view library ratingKey) := by
  have hsound := run_sound hseparating hrun
  cases execute_pass hsound hexecute with
  | quiet hquiet _ _ =>
    exact ⟨fun other ratingKey _ => hquiet.view other ratingKey,
      Or.inl fun ratingKey => hquiet.view call.home ratingKey,
      fun _ library ratingKey => hquiet.view library ratingKey,
      fun _ library _ _ _ _ ratingKey _ => hquiet.view library ratingKey⟩
  | published m hresult hmem hbase hcollections hready hscans hpublish hrest hall =>
    rename_i gen scanned base u next
    rcases published_views hbase hcollections hready hscans (hseparated _ hresult) hpublish
      hrest with ⟨hpublishes, hquiet, hkept⟩
    have hview : forall ratingKey, v.db.view call.home ratingKey =
        call.newView w.db scanned ratingKey := by
      intro ratingKey
      rw [hkept.view, hpublishes.view]
      cases call with
      | library => rfl
      | collection server library target children invalidator =>
        simp only [Call.newView, hquiet.view]
    refine ⟨?_, Or.inr ⟨scanned, hresult, hview⟩, fun hnot => absurd hmem (hnot gen), ?_⟩
    · intro other ratingKey hother
      rw [hkept.view, hpublishes.others other ratingKey hother, hquiet.view]
    intro server library target children invalidator hcall ratingKey hother
    rw [hcall] at hview
    exact (hview ratingKey).trans (if_neg hother)

/-!
### A refresh
-/

instance (row : CollectionRow) (x : Scanned) : Decidable (row.Separates x) :=
  inferInstanceAs (Decidable (forall gen, row.publishedGeneration = some gen ->
    forall s, row.snapshots.lookup gen = some s ->
      sha256 s.text = sha256 x.text -> s.text = x.text))

instance (library : GoString) (scanned : List Scanned) (db : Database) :
    Decidable (SeparatesAll library scanned db) :=
  inferInstanceAs (Decidable (forall x, x ∈ scanned ->
    forall row, db.collections.lookup (library, x.ratingKey) = some row -> row.Separates x))

instance (pageSize : Nat) (w : World) (call : Call) : Decidable (Separated pageSize w call) :=
  inferInstanceAs (Decidable (forall scanned, (call.script pageSize w.db).result = some scanned ->
      SeparatesAll call.home scanned w.db))

instance Separating.decidable (pageSize : Nat) (w : World) :
    (e : SyncEvent) -> Decidable (Separating pageSize w e)
  | .pass call _ => inferInstanceAs (Decidable (Separated pageSize w call))
  | .createLibrary _ => isTrue trivial
  | .deleteLibrary _ => isTrue trivial

def Text.ofString (s : String) : Text :=
  if h : validText (str s) = true then ⟨str s, h⟩ else Text.empty

def filmCollection (ratingKey title : String) : CollectionJSON where
  ratingKey := Text.ofString ratingKey
  key := Text.empty
  title := Text.ofString title
  titleSort := Text.empty
  summary := Text.empty
  thumb := Text.empty
  art := Text.empty
  smart := none

def film (ratingKey : String) : CollectionMember :=
  ⟨Text.ofString ratingKey, Text.ofString "movie", Text.empty, Text.empty, Text.empty⟩

def filmOrigin : Origin where
  catalog := [some ⟨none, none, some 2, [filmCollection "11" "Noir", filmCollection "12" "War"]⟩]
  children := fun ratingKey =>
    if ratingKey = Text.ofString "11" then [some ⟨none, none, none, [film "1", film "2"]⟩]
    else [some ⟨none, none, none, [film "3"]⟩]

def films : GoString := str "films"

def filmPass : Call :=
  .library (str "server") films filmOrigin (some true) fun _ _ => true

def filmRefresh : Call :=
  .collection (str "server") films (Text.ofString "11")
    [some ⟨none, none, none, [film "2", film "1"]⟩] (some true)

theorem publication_atomic_refresh :
    exists w v, run (World.step 100) World.initial
        [.createLibrary films, .pass filmPass 100] = some w ∧
      w.execute 100 filmRefresh 100 = some v ∧
      (w.db.view films (Text.ofString "11")).map Published.members =
        some [(film "1").row, (film "2").row] ∧
      (v.db.view films (Text.ofString "11")).map Published.members =
        some [(film "2").row, (film "1").row] ∧
      v.db.view films (Text.ofString "12") = w.db.view films (Text.ofString "12") := by
  have hseparating : Along (World.step 100) (Separating 100) World.initial
      [.createLibrary films, .pass filmPass 100] := by
    decide +kernel
  have hcheck : ((run (World.step 100) World.initial
      [.createLibrary films, .pass filmPass 100]).any fun w =>
        decide (Separated 100 w filmRefresh) &&
          decide ((w.db.view films (Text.ofString "11")).map Published.members =
            some [(film "1").row, (film "2").row]) &&
          (w.execute 100 filmRefresh 100).any fun v =>
            decide ((v.db.view films (Text.ofString "11")).map Published.members =
              some [(film "2").row, (film "1").row])) = true := by
    decide +kernel
  rcases exists_of_any hcheck with ⟨w, hrun, hw⟩
  simp only [Bool.and_eq_true, decide_eq_true_eq] at hw
  rcases hw with ⟨⟨hseparated, hold⟩, hexecuted⟩
  rcases exists_of_any hexecuted with ⟨v, hexecute, hnew⟩
  rw [decide_eq_true_eq] at hnew
  have hatomic := publication_atomic hseparating hrun hseparated hexecute
  exact ⟨w, v, hrun, hexecute, hold, hnew,
    hatomic.right.right.right _ _ _ _ _ rfl (Text.ofString "12") (by decide)⟩

end ReplxEdge.Collections
