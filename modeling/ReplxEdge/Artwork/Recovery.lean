import ReplxEdge.Artwork.Quota
import ReplxEdge.Artwork.Files

/-!
# What a recovery restores

A crash may leave any files next to the rows of the last commit. Whatever they are, a
recovery that succeeds leaves rows that have their files and files that have a reason to
be there, and it loses no reference that could still be served.
-/

namespace ReplxEdge.Artwork

open Foundation

variable {t : Tables} {parseMediaType : GoString -> Option GoString} {digests : List GoString}
variable {digest path : GoString}

/-!
## Digests in the tables
-/

def Keyed (t : Tables) : Prop :=
  forall digest blob, t.blobs.lookup digest = some blob -> digestKey digest = true

theorem digestKey_hexEncode {s : GoString} (h : s.length = 32) :
    digestKey (hexEncode s) = true := by
  have hdigit : forall n : Fin 16, ((48 ≤ hexDigit n && hexDigit n ≤ 57) ||
      (97 ≤ hexDigit n && hexDigit n ≤ 102)) = true := by
    decide
  unfold digestKey
  rw [Bool.and_eq_true, beq_iff_eq, hexEncode_length, h]
  refine ⟨rfl, List.all_eq_true.mpr ?_⟩
  intro c hc
  rcases List.mem_flatMap.mp hc with ⟨b, _, hdigits⟩
  have hb : b.toNat < 256 := UInt8.toNat_lt b
  rcases List.mem_cons.mp hdigits with hhigh | hrest
  · rw [hhigh]
    exact hdigit ⟨b.toNat / 16, by omega⟩
  rw [List.mem_singleton.mp hrest]
  exact hdigit ⟨b.toNat % 16, by omega⟩

theorem Fewer.keyed {left : Tables} (hfewer : Fewer t left) (h : Keyed t) : Keyed left :=
  fun digest blob hblob => h digest blob (hfewer.blobs digest blob hblob)

theorem publishRows_keyed (h : Keyed t) (now : Instant) (id key : GoString)
    (priority : Priority) (image : Image) :
    Keyed (publishRows t now id key priority image) := by
  intro digest blob hblob
  simp only [publishRows, Tables.putVariant, Tables.deleteReservation, Table.lookup_set]
    at hblob
  split at hblob
  · rename_i hdigest
    rw [hdigest]
    exact digestKey_hexEncode (sha256_length image.body)
  · exact h digest blob hblob

theorem settle_keyed {o : Outside} {new : Option Tables} (h : Keyed t)
    (hnew : forall left, new = some left -> Keyed left) : Keyed (settle o t new) := by
  rcases settle_cases o t new with hold | ⟨left, hleft, hsettled⟩
  · rw [hold]
    exact h
  rw [hsettled]
  exact hnew left hleft

theorem stepReserve_keyed (opts : SharedOptions) {s : State} (h : Keyed s.tables)
    (key : GoString) (priority : Priority) (raw : Option GoString) (o : Outside) :
    Keyed (stepReserve opts s key priority raw o).tables := by
  unfold stepReserve
  split
  · exact h
  split
  · exact h
  · rename_i left hcapacity
    refine settle_keyed h ?_
    intro found hfound
    cases hfound
    exact (reserve_capacity hcapacity).keyed h
  rename_i reserved id hreserved
  refine settle_keyed h ?_
  intro found hfound
  cases hfound
  rcases reserve_reserved hreserved with ⟨left, _, _, _, hfewer, _, _, _, _, rfl⟩
  exact hfewer.keyed h

theorem stepStage_keyed (parseMediaType : GoString -> Option GoString) {s : State}
    (h : Keyed s.tables) (i : Nat) (handle : Handle) (contentType body : GoString) (o : Outside) :
    Keyed (stepStage parseMediaType s i handle contentType body o).tables := by
  unfold stepStage
  split
  · exact h
  refine settle_keyed h ?_
  intro left hleft
  rcases stageCandidate_row hleft with ⟨row, _, rfl⟩
  exact h

theorem stepPublish_keyed (opts : SharedOptions) {s : State} (h : Keyed s.tables) (i : Nat)
    (handle : Handle) (image : Image) (o : Outside) :
    Keyed (stepPublish opts s i handle image o).tables := by
  refine settle_keyed h ?_
  intro left hleft
  exact (publishImage_rows hleft).right.keyed (publishRows_keyed h _ _ _ _ _)

variable {opts : SharedOptions}

theorem step_keyed {s t : State} {a : Action} (h : Keyed s.tables)
    (hstep : step opts parseMediaType s a = some t) : Keyed t.tables := by
  cases a with
  | reserve key priority raw o =>
    cases hstep
    exact stepReserve_keyed opts h key priority raw o
  | stage i contentType body o =>
    rcases Option.bind_eq_some_iff.mp hstep with ⟨handle, _, hphase⟩
    split at hphase
    · cases hphase
      exact stepStage_keyed parseMediaType h i handle contentType body o
    · cases hphase
  | publish i o =>
    rcases Option.bind_eq_some_iff.mp hstep with ⟨handle, _, hphase⟩
    split at hphase
    · rename_i image _
      cases hphase
      exact stepPublish_keyed opts h i handle image o
    · cases hphase
  | cancel i o =>
    rcases Option.bind_eq_some_iff.mp hstep with ⟨handle, _, hphase⟩
    have hreleased : Keyed (stepCancel s i handle o).tables :=
      settle_keyed h fun _ hleft => (releaseReservation_fewer hleft).keyed h
    split at hphase
    · cases hphase
      exact hreleased
    · cases hphase
      exact hreleased
    · cases hphase
  | sweep o =>
    cases hstep
    exact settle_keyed h fun _ hleft => (sweep_fewer hleft).keyed h
  | evictLowPriority o =>
    cases hstep
    exact settle_keyed h fun _ hleft => (evictLowPriority_fewer hleft).keyed h
  | recover o =>
    cases hstep
    exact settle_keyed h fun _ hleft => (recoverRows_fewer hleft).keyed h

/-!
## Rows that lose their file
-/

theorem deleteBlobs_reservations (digests : List GoString) (t : Tables) :
    (digests.foldl Tables.deleteBlob t).reservations = t.reservations := by
  induction digests generalizing t with
  | nil => rfl
  | cons digest rest ih => exact ih (t.deleteBlob digest)

theorem deleteBlobs_blob (h : digest ∉ digests) :
    (digests.foldl Tables.deleteBlob t).blobs.lookup digest = t.blobs.lookup digest := by
  induction digests generalizing t with
  | nil => rfl
  | cons first rest ih =>
    rw [List.mem_cons, not_or] at h
    have hfirst : (t.deleteBlob first).blobs.lookup digest = t.blobs.lookup digest :=
      t.blobs.lookup_delete_ne h.left
    rw [List.foldl_cons, ih h.right, hfirst]

theorem deleteBlobs_gone (h : digest ∈ digests) :
    (digests.foldl Tables.deleteBlob t).blobs.lookup digest = none := by
  induction digests generalizing t with
  | nil => cases h
  | cons first rest ih =>
    rw [List.foldl_cons]
    by_cases hrest : digest ∈ rest
    · exact ih hrest
    rcases List.mem_cons.mp h with hfirst | hlater
    · rw [deleteBlobs_blob hrest, hfirst]
      exact t.blobs.lookup_delete_self first
    · exact absurd hlater hrest

theorem deleteBlob_variant {key : GoString} {v : Variant}
    (h : t.variants.lookup key = some v) (hother : v.blobDigest ≠ digest) :
    (t.deleteBlob digest).variants.lookup key = some v := by
  show (t.variants.keep fun _ found => found.blobDigest != digest).lookup key = some v
  rw [Table.lookup_keep, h, Option.filter_some, if_pos (by simpa using hother)]

theorem deleteBlobs_variant {key : GoString}
    {v : Variant} (h : t.variants.lookup key = some v) (hother : v.blobDigest ∉ digests) :
    (digests.foldl Tables.deleteBlob t).variants.lookup key = some v := by
  induction digests generalizing t with
  | nil => exact h
  | cons first rest ih =>
    rw [List.mem_cons, not_or] at hother
    exact ih (deleteBlob_variant h hother.left) hother.right

/-!
## A reference that could be served
-/

namespace Site

variable {id : GoString}

section Standing

variable {l : Layout} {h : Host} {s left : Site} {key : GoString} {v : Variant} {blob : Blob}
variable {content : GoString}

structure Stands (l : Layout) (key : GoString) (v : Variant) (blob : Blob)
    (content : GoString) (s : Site) : Prop where
  variant : s.tables.variants.lookup key = some v
  blob : s.tables.blobs.lookup v.blobDigest = some blob
  file : s.disk.lookup (l.blobPath v.blobDigest) = some content

theorem remove_other {disk rest : Disk} {other : GoString}
    (hremove : h.remove disk path = some rest) (hother : other ≠ path) :
    rest.lookup other = disk.lookup other := by
  unfold Host.remove at hremove
  split at hremove
  · cases hremove
    rfl
  split at hremove
  · cases hremove
  cases hremove
  exact disk.lookup_delete_ne hother

theorem removeCandidate_keeps {disk rest : Disk} {candidate : Option GoString}
    (hdigest : digestKey digest = true) (hblob : t.blobs.lookup digest = some blob)
    (hremove : removeCandidate l h t disk candidate = some rest) :
    rest.lookup (l.blobPath digest) = disk.lookup (l.blobPath digest) := by
  cases candidate with
  | none =>
    cases hremove
    rfl
  | some other =>
    simp only [removeCandidate] at hremove
    split at hremove
    · cases hremove
    rename_i hother
    split at hremove
    · cases hremove
      rfl
    rename_i hfree
    refine remove_other hremove ?_
    intro hpath
    have hsame := l.blobPath_inj hdigest (by simpa using hother) hpath
    rw [← hsame, hblob] at hfree
    exact hfree rfl

theorem Stands.releaseReservation (hstands : Stands l key v blob content s)
    (hdigest : digestKey v.blobDigest = true) (hrelease : releaseReservation l h s id = some left) :
    Stands l key v blob content left := by
  unfold Site.releaseReservation at hrelease
  cases hremove : h.remove s.disk (l.tmpPath id) with
  | none =>
    rw [hremove] at hrelease
    cases hrelease
  | some disk =>
    rw [hremove] at hrelease
    have hfile := remove_other hremove (l.tmpPath_ne_blobPath id v.blobDigest).symm
    simp only at hrelease
    split at hrelease
    · cases hrelease
      exact ⟨hstands.variant, hstands.blob, hfile.trans hstands.file⟩
    rcases Option.map_eq_some_iff.mp hrelease with ⟨rest, hcandidate, rfl⟩
    have hkept := removeCandidate_keeps hdigest hstands.blob hcandidate
    exact ⟨hstands.variant, hstands.blob, (hkept.trans hfile).trans hstands.file⟩

theorem Stands.cleanExpired (hstands : Stands l key v blob content s)
    (hdigest : digestKey v.blobDigest = true) (hclean : cleanExpired l h s = some left) :
    Stands l key v blob content left := by
  refine foldlM_invariant ?_ hstands hclean
  intro site id next hsite hstep
  unfold releaseExpired at hstep
  split at hstep
  · cases hstep
  · exact hsite.releaseReservation hdigest hstep

theorem Stands.deleteExpired (hstands : Stands l key v blob content s)
    (hlive : h.now < v.expiresAt) : Stands l key v blob content (deleteExpired h s) := by
  refine ⟨?_, hstands.blob, hstands.file⟩
  show (s.tables.variants.keep _).lookup key = some v
  rw [Table.lookup_keep, hstands.variant, Option.filter_some, if_pos]
  rw [Bool.not_eq_true', List.contains_eq_mem, decide_eq_false_iff_not]
  intro hmem
  rcases List.mem_map.mp hmem with ⟨entry, hentry, hkey⟩
  rcases List.mem_filter.mp hentry with ⟨hentry, hexpired⟩
  have hfound := Table.lookup_of_mem hentry
  rw [hkey, hstands.variant, Option.some.injEq] at hfound
  rw [← hfound, decide_eq_true_eq] at hexpired
  exact absurd hlive (not_lt.mpr hexpired)

theorem Stands.removeBlob (hstands : Stands l key v blob content s)
    (hdigest : digestKey v.blobDigest = true) (hother : v.blobDigest ≠ digest)
    (hremove : removeBlob l h s digest = some left) : Stands l key v blob content left := by
  unfold Site.removeBlob at hremove
  split at hremove
  · cases hremove
  rename_i hvalid
  rcases Option.map_eq_some_iff.mp hremove with ⟨disk, hdisk, rfl⟩
  refine ⟨deleteBlob_variant hstands.variant hother,
    (s.tables.blobs.lookup_delete_ne hother).trans hstands.blob,
    (remove_other hdisk ?_).trans hstands.file⟩
  intro hpath
  exact hother (l.blobPath_inj hdigest (by simpa using hvalid) hpath)

theorem Stands.removeUnreferenced (hstands : Stands l key v blob content s)
    (hdigest : digestKey v.blobDigest = true)
    (hremove : removeUnreferenced l h s = some left) : Stands l key v blob content left := by
  have hreferred : s.tables.refersTo v.blobDigest = true :=
    List.any_eq_true.mpr ⟨(key, v), Table.mem_of_lookup hstands.variant, beq_self_eq_true _⟩
  have hspared : v.blobDigest ∉ (s.tables.blobs.entries.filter fun entry =>
      !s.tables.refersTo entry.1).map Prod.fst := by
    intro hmem
    rcases List.mem_map.mp hmem with ⟨entry, hentry, hkey⟩
    have hunreferred := (List.mem_filter.mp hentry).right
    rw [hkey, hreferred] at hunreferred
    cases hunreferred
  unfold Site.removeUnreferenced at hremove
  -- the digests were listed before the first of them was removed
  generalize (s.tables.blobs.entries.filter fun entry =>
    !s.tables.refersTo entry.1).map Prod.fst = digests at hremove hspared
  clear hreferred
  induction digests generalizing s with
  | nil =>
    cases hremove
    exact hstands
  | cons digest rest ih =>
    rw [List.mem_cons, not_or] at hspared
    rw [List.foldlM_cons] at hremove
    rcases Option.bind_eq_some_iff.mp hremove with ⟨next, hnext, hrest⟩
    exact ih (hstands.removeBlob hdigest hspared.left hnext) hrest hspared.right

theorem Stands.walk (hstands : Stands l key v blob content s)
    (hdigest : digestKey v.blobDigest = true) (hsize : content.length = blob.byteSize) :
    Stands l key v blob content (walk l h s) := by
  have hrecorded : recorded l s.tables (l.blobPath v.blobDigest) content = true := by
    unfold recorded
    rw [nameDigest_blobPath l hdigest, hdigest, hstands.blob]
    simp [hsize]
  have hfate : fate l h s.tables (l.blobPath v.blobDigest) content ≠ .removed := by
    unfold fate
    rw [hrecorded]
    split
    · simp
    split
    · simp
    · simp
  refine ⟨hstands.variant, hstands.blob, ?_⟩
  show (s.disk.keep _).lookup _ = some content
  rw [Table.lookup_keep, hstands.file, Option.filter_some, if_pos (by simpa using hfate)]

theorem Stands.retire (hstands : Stands l key v blob content s) (digests : List GoString) :
    Stands l key v blob content
      ⟨s.disk, (digests.filter (missing l s)).foldl Tables.deleteBlob s.tables⟩ := by
  have hfound : v.blobDigest ∉ digests.filter (missing l s) := by
    intro hmem
    have hmissing := (List.mem_filter.mp hmem).right
    rw [missing, hstands.file] at hmissing
    cases hmissing
  exact ⟨deleteBlobs_variant hstands.variant hfound,
    (deleteBlobs_blob hfound).trans hstands.blob, hstands.file⟩

end Standing

/-!
## Recovery
-/

section Recovery

variable {l : Layout} {h : Host} {s after : Site}

theorem recover_cases (hrecover : recover l h s = some after) :
    exists cleaned tidy, cleanExpired l h s = some cleaned ∧
      removeUnreferenced l h (deleteExpired h cleaned) = some tidy ∧
      after = setUntracked ⟨(walk l h tidy).disk, ((tidy.tables.blobs.entries.map Prod.fst).filter
          (missing l (walk l h tidy))).foldl Tables.deleteBlob tidy.tables⟩
        (untracked l h tidy) := by
  unfold recover at hrecover
  split at hrecover
  · cases hrecover
  rename_i cleaned hclean
  rw [hclean]
  cases htidy : removeUnreferenced l h (deleteExpired h cleaned) with
  | none =>
    rw [htidy] at hrecover
    cases hrecover
  | some tidy =>
    refine ⟨cleaned, tidy, rfl, htidy, ?_⟩
    rw [htidy] at hrecover
    simp only [retireMissing] at hrecover
    split at hrecover
    · cases hrecover
    split at hrecover
    · cases hrecover
    rename_i retired hretired
    split at hretired
    · cases hretired
    cases hretired
    split at hrecover
    · cases hrecover
    · exact (Option.some.inj hrecover).symm

def ActiveFile (l : Layout) (t : Tables) (path : GoString) : Prop :=
  exists id row, t.reservations.lookup id = some row ∧
    (path = l.tmpPath id ∨
      exists digest, row.candidateDigest = some digest ∧ path = l.blobPath digest)

def BlobFile (l : Layout) (t : Tables) (path content : GoString) : Prop :=
  exists digest blob, t.blobs.lookup digest = some blob ∧ path = l.blobPath digest ∧
    blob.byteSize = content.length

theorem activeFile_of_mem (hmem : path ∈ active l t) :
    ActiveFile l t path := by
  rcases List.mem_flatMap.mp hmem with ⟨entry, hentry, hpath⟩
  refine ⟨entry.1, entry.2, Table.lookup_of_mem hentry, ?_⟩
  rcases List.mem_cons.mp hpath with htmp | hcandidate
  · exact Or.inl htmp
  rcases List.mem_map.mp hcandidate with ⟨digest, hdigest, hblob⟩
  exact Or.inr ⟨digest, Option.mem_toList.mp hdigest, hblob.symm⟩

theorem blobFile_of_recorded {content : GoString}
    (hrecorded : recorded l t path content = true) : BlobFile l t path content := by
  unfold recorded at hrecorded
  rw [Bool.and_eq_true, Bool.and_eq_true, beq_iff_eq] at hrecorded
  rcases exists_of_any hrecorded.right with ⟨blob, hblob, hsize⟩
  exact ⟨nameDigest path, blob, hblob, hrecorded.left.right, by simpa using hsize⟩

theorem fate_cases {content : GoString} (howned : l.owns path = true)
    (hfate : fate l h t path content ≠ .removed) :
    ActiveFile l t path ∨ BlobFile l t path content ∨ fate l h t path content = .counted := by
  unfold fate at hfate ⊢
  rw [howned] at hfate ⊢
  split at hfate
  · rename_i hactive
    exact Or.inl (activeFile_of_mem (by simpa using hactive))
  rename_i hinactive
  rw [if_neg hinactive, if_pos rfl]
  rw [if_pos rfl] at hfate
  split at hfate
  · rename_i hrecorded
    exact Or.inr (Or.inl (blobFile_of_recorded hrecorded))
  rename_i hunrecorded
  rw [if_neg hunrecorded]
  split at hfate
  · rename_i hfails
    exact Or.inr (Or.inr (if_pos hfails))
  · exact absurd rfl hfate

structure Recovered (l : Layout) (now : Instant) (s after : Site) : Prop where
  rows : forall digest blob, after.tables.blobs.lookup digest = some blob ->
    exists content, after.disk.lookup (l.blobPath digest) = some content
  files : exists counted : Disk,
    (forall path content, counted.lookup path = some content ->
      after.disk.lookup path = some content) ∧
    after.tables.untrackedBytes = counted.weigh (fun _ content => content.length) ∧
    forall path content, after.disk.lookup path = some content -> l.owns path = true ->
      ActiveFile l after.tables path ∨ BlobFile l after.tables path content ∨
        counted.lookup path = some content
  references : forall key v blob content, Stands l key v blob content s ->
    now < v.expiresAt -> content.length = blob.byteSize -> Stands l key v blob content after

theorem rows_of_retired (tidy : Site) {blob : Blob}
    (hblob : (((tidy.tables.blobs.entries.map Prod.fst).filter (missing l tidy)).foldl
      Tables.deleteBlob tidy.tables).blobs.lookup digest = some blob) :
    exists content, tidy.disk.lookup (l.blobPath digest) = some content := by
  have hrow := (deleteBlobs_fewer _ tidy.tables).blobs digest blob hblob
  have hlisted : digest ∈ tidy.tables.blobs.entries.map Prod.fst :=
    List.mem_map.mpr ⟨(digest, blob), Table.mem_of_lookup hrow, rfl⟩
  cases hfile : tidy.disk.lookup (l.blobPath digest) with
  | some content => exact ⟨content, rfl⟩
  | none =>
    have hmissing : missing l tidy digest = true := by
      unfold missing
      rw [hfile]
      rfl
    rw [deleteBlobs_gone (List.mem_filter.mpr ⟨hlisted, hmissing⟩)] at hblob
    cases hblob

theorem BlobFile.retired {tidy : Site} {content : GoString}
    (hblob : BlobFile l tidy.tables path content) (hfile : tidy.disk.lookup path = some content) :
    BlobFile l ((digests.filter (missing l tidy)).foldl Tables.deleteBlob tidy.tables) path
      content := by
  rcases hblob with ⟨digest, blob, hrow, hpath, hsize⟩
  refine ⟨digest, blob, ?_, hpath, hsize⟩
  rw [deleteBlobs_blob]
  · exact hrow
  intro hmem
  have hmissing := (List.mem_filter.mp hmem).right
  rw [missing, ← hpath, hfile] at hmissing
  cases hmissing

theorem recovered (hkeyed : Keyed s.tables) (hrecover : recover l h s = some after) :
    Recovered l h.now s after := by
  rcases recover_cases hrecover with ⟨cleaned, tidy, hclean, htidy, rfl⟩
  constructor
  · intro digest blob hblob
    exact rows_of_retired (walk l h tidy) hblob
  · refine ⟨countedFiles l h tidy, ?_, rfl, ?_⟩
    · intro path content hcounted
      have hfile := Table.lookup_of_keep hcounted
      have hfate := (List.mem_filter.mp (Table.mem_of_lookup hcounted)).right
      show (tidy.disk.keep _).lookup path = some content
      rw [Table.lookup_keep, hfile, Option.filter_some, if_pos]
      rw [beq_iff_eq] at hfate
      simp [hfate]
    intro path content hfile howned
    have hthere := Table.lookup_of_keep hfile
    have hfate := (List.mem_filter.mp (Table.mem_of_lookup hfile)).right
    rcases fate_cases howned (by simpa using hfate) with hactive | hblob | hcounted
    · rcases hactive with ⟨id, row, hrow, hpath⟩
      refine Or.inl ⟨id, row, ?_, hpath⟩
      exact (congrArg (fun rows => rows.lookup id)
        (deleteBlobs_reservations _ tidy.tables)).trans hrow
    · have hwalked : BlobFile l (walk l h tidy).tables path content := hblob
      exact Or.inr (Or.inl (hwalked.retired hfile))
    refine Or.inr (Or.inr ?_)
    show (tidy.disk.keep _).lookup path = some content
    rw [Table.lookup_keep, hthere, Option.filter_some, if_pos (by simp [hcounted])]
  intro key v blob content hstands hlive hsize
  have hdigest := hkeyed v.blobDigest blob hstands.blob
  have htidied := ((hstands.cleanExpired hdigest hclean).deleteExpired hlive
    ).removeUnreferenced hdigest htidy
  have hwalked : Stands l key v blob content (walk l h tidy) := htidied.walk hdigest hsize
  have hretired := hwalked.retire (tidy.tables.blobs.entries.map Prod.fst)
  exact ⟨hretired.variant, hretired.blob, hretired.file⟩

end Recovery

/-!
## The rows of a recovery

The tables change as they do in a recovery that is told which removals fail and which
files are missing.
-/

section Rows

variable {l : Layout} {h : Host} {s left : Site} {disk : Disk}
variable (absent : GoString -> Bool)

def outside (l : Layout) (h : Host) (disk : Disk) (absent : GoString -> Bool) : Outside where
  now := h.now
  removeFails := fun file =>
    (disk.lookup (l.path file)).isSome && h.removeFails (l.path file)
  writeFails := false
  missing := absent
  free := fun _ => none
  blobOrder := Order.stored _
  variantOrder := Order.stored _
  committed := h.committed
  acknowledged := true

/-- Files that are left of others; those that are gone could be removed. -/
structure Remains (h : Host) (disk left : Disk) : Prop where
  kept : forall path content, left.lookup path = some content ->
    disk.lookup path = some content
  removable : forall path, (disk.lookup path).isSome = true -> left.lookup path = none ->
    h.removeFails path = false

theorem Remains.refl (h : Host) (disk : Disk) : Remains h disk disk := by
  refine ⟨fun _ _ hfile => hfile, ?_⟩
  intro path hfile hgone
  rw [hgone] at hfile
  cases hfile

theorem Remains.remove {rest next : Disk} (hremains : Remains h disk rest)
    (hremove : h.remove rest path = some next) :
    ((disk.lookup path).isSome && h.removeFails path) = false ∧ Remains h disk next := by
  unfold Host.remove at hremove
  split at hremove
  · rename_i hgone
    cases hremove
    refine ⟨?_, hremains⟩
    cases hfile : (disk.lookup path).isSome with
    | false => rfl
    | true => exact hremains.removable path hfile hgone
  split at hremove
  · cases hremove
  rename_i hfails
  cases hremove
  have hremovable : h.removeFails path = false := by simpa using hfails
  refine ⟨by rw [hremovable, Bool.and_false], ?_, ?_⟩
  · intro other content hfile
    exact hremains.kept other content (Table.lookup_of_delete hfile)
  intro other hfile hgone
  by_cases hother : other = path
  · rw [hother]
    exact hremovable
  rw [Table.lookup_delete_ne _ hother] at hgone
  exact hremains.removable other hfile hgone

theorem releaseReservation_tables (hremains : Remains h disk s.disk)
    (hrelease : releaseReservation l h s id = some left) :
    Artwork.releaseReservation (outside l h disk absent) s.tables id = some left.tables ∧
      Remains h disk left.disk := by
  unfold releaseReservation at hrelease
  split at hrelease
  · cases hrelease
  rename_i rest hremove
  rcases hremains.remove hremove with ⟨htmp, hrest⟩
  have htold : (outside l h disk absent).removeFails (.temporary id) = false := htmp
  unfold Artwork.releaseReservation
  rw [htold, if_neg (by simp)]
  cases hrow : s.tables.reservations.lookup id with
  | none =>
    rw [hrow] at hrelease
    cases hrelease
    exact ⟨rfl, hrest⟩
  | some row =>
    rw [hrow] at hrelease
    rcases Option.map_eq_some_iff.mp hrelease with ⟨next, hcandidate, rfl⟩
    cases hdigest : row.candidateDigest with
    | none =>
      rw [hdigest] at hcandidate
      cases hcandidate
      refine ⟨?_, hrest⟩
      simp only [hdigest]
    | some digest =>
      simp only [hdigest, removeCandidate] at hcandidate ⊢
      split at hcandidate
      · cases hcandidate
      rename_i hvalid
      rw [if_neg hvalid]
      split at hcandidate
      · rename_i hcommitted
        cases hcandidate
        rw [Option.isSome_iff_ne_none] at hcommitted
        rw [if_neg (by simp [Option.isNone_iff_eq_none, hcommitted])]
        exact ⟨rfl, hrest⟩
      rcases hrest.remove hcandidate with ⟨hblob, hnext⟩
      have hsaid : (outside l h disk absent).removeFails (.blob digest) =
          false := hblob
      rw [hsaid, Bool.and_false, if_neg (by simp)]
      exact ⟨rfl, hnext⟩

theorem cleanExpired_tables (hremains : Remains h disk s.disk)
    (hclean : cleanExpired l h s = some left) :
    Artwork.cleanExpired (outside l h disk absent) s.tables = some left.tables ∧
      Remains h disk left.disk := by
  refine foldlM_simulation Site.tables (fun site => Remains h disk site.disk) ?_ hremains
    hclean
  intro site id next hsite hstep
  unfold releaseExpired at hstep
  unfold Artwork.releaseExpired
  split at hstep
  · cases hstep
  rename_i hlength
  rw [if_neg hlength]
  exact releaseReservation_tables absent hsite hstep

theorem removeUnreferenced_tables (hremains : Remains h disk s.disk)
    (hremove : removeUnreferenced l h s = some left) :
    Artwork.removeUnreferenced (outside l h disk absent) s.tables = some left.tables := by
  refine (foldlM_simulation Site.tables (fun site => Remains h disk site.disk) ?_ hremains
    hremove).left
  intro site digest next hsite hstep
  unfold removeBlob at hstep
  unfold Artwork.removeBlob
  split at hstep
  · cases hstep
  rename_i hvalid
  rcases Option.map_eq_some_iff.mp hstep with ⟨rest, hrest, rfl⟩
  rcases hsite.remove hrest with ⟨hblob, hnext⟩
  have hsaid : (outside l h disk absent).removeFails (.blob digest) = false := hblob
  rw [if_neg hvalid, hsaid, if_neg (by simp)]
  exact ⟨rfl, hnext⟩

theorem recover_tables {after : Site} (hrecover : recover l h s = some after) :
    exists o tables, o.now = h.now ∧ recoverRows o s.tables = some tables ∧
      after.tables = { tables with untrackedBytes := after.tables.untrackedBytes } := by
  rcases recover_cases hrecover with ⟨cleaned, tidy, hclean, htidy, rfl⟩
  let absent := missing l (walk l h tidy)
  rcases cleanExpired_tables absent (Remains.refl h s.disk) hclean with
    ⟨hcleaned, hremains⟩
  have hfiles : Remains h s.disk (deleteExpired h cleaned).disk := hremains
  have htidied := removeUnreferenced_tables absent hfiles htidy
  refine ⟨outside l h s.disk absent, _, rfl, ?_, rfl⟩
  unfold recoverRows
  rw [hcleaned]
  have hexpired : (deleteExpired h cleaned).tables =
      cleaned.tables.deleteVariants
        (expiredKeys (outside l h s.disk absent) cleaned.tables) := rfl
  rw [hexpired] at htidied
  simp only [htidied]
  rfl

end Rows

/-!
## Reading
-/

theorem getContext_digest {l : Layout} {r : Reading} {s : Site} {key : GoString} {hit : Hit}
    (hget : getContext l r s key = some hit) :
    exists v, s.tables.variants.lookup key = some v ∧ r.now < v.expiresAt ∧
      hexEncode (sha256 hit.body) = v.blobDigest := by
  unfold getContext at hget
  split at hget
  · cases hget
  split at hget
  · cases hget
  rename_i v hv
  split at hget
  · cases hget
  rename_i hlive
  split at hget
  · cases hget
  split at hget
  · cases hget
  split at hget
  · cases hget
  split at hget
  · cases hget
  split at hget
  · cases hget
  rename_i hdigest
  split at hget
  · cases hget
  cases hget
  exact ⟨v, hv, not_le.mp hlive, not_not.mp hdigest⟩

end Site

/-!
## Crashes
-/

/-- The files, next to the committed rows and the reservation objects. -/
structure World where
  disk : Disk
  state : State

def World.site (w : World) : Site :=
  ⟨w.disk, w.state.tables⟩

/-- A transaction changes files before it commits, and it may crash at any point. So the
files may change in any way at any time. -/
inductive Event where
  | transaction (a : Action)
  | files (disk : Disk)
  | recover (h : Host)

def World.step (opts : SharedOptions) (parseMediaType : GoString -> Option GoString)
    (l : Layout) (w : World) : Event -> Option World
  | .transaction a =>
    (Artwork.step opts parseMediaType w.state a).map fun state => ⟨w.disk, state⟩
  | .files disk => some ⟨disk, w.state⟩
  | .recover h =>
    (Site.recover l h w.site).map fun after =>
      ⟨after.disk, { w.state with tables := after.tables }⟩

theorem World.step_keyed {l : Layout} {w next : World} {e : Event}
    (h : Keyed w.state.tables) (hstep : w.step opts parseMediaType l e = some next) :
    Keyed next.state.tables := by
  cases e with
  | transaction a =>
    rcases Option.map_eq_some_iff.mp hstep with ⟨state, hstate, rfl⟩
    exact Artwork.step_keyed h hstate
  | files disk =>
    cases hstep
    exact h
  | recover host =>
    rcases Option.map_eq_some_iff.mp hstep with ⟨after, hafter, rfl⟩
    rcases Site.recover_tables hafter with ⟨o, tables, _, hrecovered, hsame⟩
    have hkeyed := (recoverRows_fewer hrecovered).keyed h
    show Keyed after.tables
    rw [hsame]
    exact hkeyed

/-- After every sequence of transactions, crashes and recoveries, the next recovery that
succeeds puts files and rows in order, and only bodies with the digest of a live reference
are handed out. -/
theorem crash_recovery (opts : SharedOptions)
    (parseMediaType : GoString -> Option GoString) (l : Layout) {start w : World}
    {events : List Event} (hkeyed : Keyed start.state.tables)
    (hrun : run (World.step opts parseMediaType l) start events = some w) :
    (forall h after, Site.recover l h w.site = some after -> Site.Recovered l h.now w.site after) ∧
    forall r key hit, Site.getContext l r w.site key = some hit ->
      exists v, w.state.tables.variants.lookup key = some v ∧ r.now < v.expiresAt ∧
        hexEncode (sha256 hit.body) = v.blobDigest := by
  have hend : (fun world : World => Keyed world.state.tables) w :=
    run_keeps (fun _ _ _ hs hstep => World.step_keyed hs hstep) hkeyed hrun
  constructor
  · intro h after hrecover
    exact Site.recovered hend hrecover
  intro r key hit hget
  exact Site.getContext_digest hget

def cacheLayout : Layout where
  base := str "/cache"
  dir := str "/cache/shared-v1/0"
  below := by decide

def posterPath : GoString :=
  cacheLayout.blobPath (hexEncode (sha256 (str "poster")))

def bannerPath : GoString :=
  cacheLayout.blobPath (hexEncode (sha256 (str "banner")))

/-- One image is published. The process dies after it has moved the file of a second one
into place; an old file lies in the configured directory. -/
def crashedTransfer : List Event :=
  [.transaction (.reserve (List.replicate 64 97) .high (some (List.replicate 32 48)) smooth),
    .transaction (.reserve (List.replicate 64 98) .low (some (List.replicate 32 49)) smooth),
    .transaction (.stage 0 (str "image/png") (str "poster") smooth),
    .transaction (.publish 0 smooth),
    .transaction (.stage 1 (str "image/png") (str "banner") smooth),
    .files (((Table.empty.set posterPath (str "poster")).set bannerPath
      (str "banner")).set (str "/cache/old") (str "old"))]

/-- The next process starts after the reservation of the second transfer has ended. -/
def nextProcess : Host where
  now := 3 * minute
  removeFails := fun _ => false
  statFails := fun _ => false
  walkFails := false
  statementFails := false
  committed := true

theorem crash_recovery_transfer :
    exists w after, run (World.step defaultOptions some cacheLayout)
        ⟨Table.empty, ⟨emptyTables, []⟩⟩ crashedTransfer = some w ∧
      w.disk.lookup bannerPath = some (str "banner") ∧
      Site.recover cacheLayout nextProcess w.site = some after ∧
      after.disk.lookup posterPath = some (str "poster") ∧
      after.disk.lookup bannerPath = none ∧ after.tables.untrackedBytes = 3 ∧
      after.tables.reservationCount = 0 ∧
      Site.Recovered cacheLayout nextProcess.now w.site after := by
  have hcheck : ((run (World.step defaultOptions some cacheLayout)
      ⟨Table.empty, ⟨emptyTables, []⟩⟩ crashedTransfer).any fun w =>
        w.disk.lookup bannerPath == some (str "banner") &&
          (Site.recover cacheLayout nextProcess w.site).any fun after =>
            after.disk.lookup posterPath == some (str "poster") &&
              after.disk.lookup bannerPath == none &&
              after.tables.untrackedBytes == 3 && after.tables.reservationCount == 0) =
      true := by
    decide +kernel
  have hkeyed : Keyed emptyTables := by
    intro digest blob hblob
    cases hblob
  rcases exists_of_any hcheck with ⟨w, hrun, hw⟩
  rw [Bool.and_eq_true, beq_iff_eq] at hw
  rcases exists_of_any hw.right with ⟨after, hafter, hleft⟩
  simp only [Bool.and_eq_true, beq_iff_eq] at hleft
  rcases hleft with ⟨⟨⟨hposter, hbanner⟩, huntracked⟩, hcount⟩
  exact ⟨w, after, hrun, hw.left, hafter, hposter, hbanner, huntracked, hcount,
    (crash_recovery defaultOptions some cacheLayout hkeyed hrun).left nextProcess after hafter⟩

end ReplxEdge.Artwork
