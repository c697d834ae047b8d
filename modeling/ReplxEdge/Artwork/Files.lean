import ReplxEdge.Artwork.Deletions

/-!
# The files of the store

Bodies lie in files named after their digests, and a transfer on its way has a temporary
file. A file operation takes effect at once, while the rows of a transaction do so at its
commit; what a crash leaves between the two is put right by a recovery, which compares the
rows with a walk over the directory.
-/

namespace ReplxEdge.Artwork

open Foundation

/-!
## Paths
-/

/-- The directory of the store; the configured one that it lies in has other files. -/
structure Layout where
  base : GoString
  dir : GoString
  below : hasPrefix dir (base ++ [47]) = true

namespace Layout

def blobPath (l : Layout) (digest : GoString) : GoString :=
  l.dir ++ (str "/blobs/" ++ (digest.take 2 ++ (47 :: ((digest.drop 2).take 2 ++
    (47 :: (digest ++ str ".body"))))))

def tmpPath (l : Layout) (id : GoString) : GoString :=
  l.dir ++ (str "/tmp/" ++ (id ++ str ".tmp"))

def path (l : Layout) : File -> GoString
  | .temporary id => l.tmpPath id
  | .blob digest => l.blobPath digest

def owns (l : Layout) (path : GoString) : Bool :=
  hasPrefix path (l.dir ++ [47])

theorem tmpPath_ne_blobPath (l : Layout) (id digest : GoString) :
    l.tmpPath id ≠ l.blobPath digest := by
  intro h
  have hrest := List.append_cancel_left h
  have htmp : str "/tmp/" = 47 :: 116 :: str "mp/" := by decide
  have hblobs : str "/blobs/" = 47 :: 98 :: str "lobs/" := by decide
  rw [htmp, hblobs, List.cons_append, List.cons_append, List.cons_append, List.cons_append] at hrest
  have hletter := (List.cons.inj (List.cons.inj hrest).right).left
  exact absurd hletter (by decide)

end Layout

theorem digestKey_length {digest : GoString} (h : digestKey digest = true) :
    digest.length = 64 := by
  unfold digestKey at h
  rw [Bool.and_eq_true, beq_iff_eq] at h
  exact h.left

theorem slash_not_mem_digest {digest : GoString} (h : digestKey digest = true) :
    (47 : UInt8) ∉ digest := by
  unfold digestKey at h
  rw [Bool.and_eq_true] at h
  intro hmem
  have hslash := List.all_eq_true.mp h.right 47 hmem
  exact absurd hslash (by decide)

theorem Layout.blobPath_inj (l : Layout) {a b : GoString} (ha : digestKey a = true)
    (hb : digestKey b = true) (h : l.blobPath a = l.blobPath b) : a = b := by
  have hlength := (digestKey_length ha).trans (digestKey_length hb).symm
  have hafter := (List.append_inj (List.append_cancel_left (List.append_cancel_left h))
    (by simp [hlength])).right
  have hname := (List.append_inj (List.cons.inj hafter).right (by simp [hlength])).right
  exact List.append_cancel_right (List.cons.inj hname).right

def nameDigest (path : GoString) : GoString :=
  trimSuffix (afterLast path 47) (str ".body")

theorem nameDigest_blobPath (l : Layout) {digest : GoString} (h : digestKey digest = true) :
    nameDigest (l.blobPath digest) = digest := by
  have hslash : (47 : UInt8) ∉ digest ++ str ".body" := by
    rw [List.mem_append]
    intro hmem
    rcases hmem with hmem | hmem
    · exact slash_not_mem_digest h hmem
    · exact absurd hmem (by decide)
  have hpath : l.blobPath digest = (l.dir ++ (str "/blobs/" ++ (digest.take 2 ++
      (47 :: (digest.drop 2).take 2)))) ++ 47 :: (digest ++ str ".body") := by
    simp [Layout.blobPath]
  unfold nameDigest
  rw [hpath, afterLast_append _ hslash, trimSuffix_append_self]

/-!
## Files and rows
-/

abbrev Disk := Table GoString GoString

structure Site where
  disk : Disk
  tables : Tables

/-- What a recovery meets. `walkFails` also stands for a file that is not regular. -/
structure Host where
  now : Instant
  removeFails : GoString -> Bool
  statFails : GoString -> Bool
  walkFails : Bool
  statementFails : Bool
  committed : Bool

/-- `os.Remove`; a file that does not exist is as good as removed. -/
def Host.remove (h : Host) (disk : Disk) (path : GoString) : Option Disk :=
  match disk.lookup path with
  | none => some disk
  | some _ => if h.removeFails path then none else some (disk.delete path)

namespace Site

def removeBlob (l : Layout) (h : Host) (s : Site) (digest : GoString) : Option Site :=
  if !digestKey digest then none
  else (h.remove s.disk (l.blobPath digest)).map fun disk => ⟨disk, s.tables.deleteBlob digest⟩

/-- The body of a candidate goes, unless it was committed by another transfer. -/
def removeCandidate (l : Layout) (h : Host) (t : Tables) (disk : Disk) :
    Option GoString -> Option Disk
  | none => some disk
  | some digest =>
    if !digestKey digest then none
    else if (t.blobs.lookup digest).isSome then some disk
    else h.remove disk (l.blobPath digest)

def releaseReservation (l : Layout) (h : Host) (s : Site) (id : GoString) : Option Site :=
  match h.remove s.disk (l.tmpPath id) with
  | none => none
  | some disk =>
    match s.tables.reservations.lookup id with
    | none => some ⟨disk, s.tables⟩
    | some row =>
      (removeCandidate l h s.tables disk row.candidateDigest).map fun left =>
        ⟨left, s.tables.deleteReservation id⟩

def releaseExpired (l : Layout) (h : Host) (s : Site) (id : GoString) : Option Site :=
  if id.length ≠ 32 then none else releaseReservation l h s id

def cleanExpired (l : Layout) (h : Host) (s : Site) : Option Site :=
  ((s.tables.reservations.entries.filter fun entry => decide (entry.2.expiresAt ≤ h.now)).map
    Prod.fst).foldlM (releaseExpired l h) s

def deleteExpired (h : Host) (s : Site) : Site :=
  ⟨s.disk, s.tables.deleteVariants ((s.tables.variants.entries.filter fun entry =>
    decide (entry.2.expiresAt ≤ h.now)).map Prod.fst)⟩

def removeUnreferenced (l : Layout) (h : Host) (s : Site) : Option Site :=
  ((s.tables.blobs.entries.filter fun entry => !s.tables.refersTo entry.1).map
    Prod.fst).foldlM (removeBlob l h) s

/-!
## The walk
-/

def active (l : Layout) (t : Tables) : List GoString :=
  t.reservations.entries.flatMap fun entry =>
    l.tmpPath entry.1 :: entry.2.candidateDigest.toList.map l.blobPath

def recorded (l : Layout) (t : Tables) (path content : GoString) : Bool :=
  digestKey (nameDigest path) && path == l.blobPath (nameDigest path) &&
    (t.blobs.lookup (nameDigest path)).any fun blob => blob.byteSize == content.length

inductive Fate where
  | kept
  | removed
  | counted
deriving DecidableEq

/-- What the walk does with a file. One that cannot be removed is counted, and so are
those outside the store. -/
def fate (l : Layout) (h : Host) (t : Tables) (path content : GoString) : Fate :=
  if (active l t).contains path then .kept
  else if l.owns path then
    if recorded l t path content then .kept
    else if h.removeFails path then .counted
    else .removed
  else .counted

/-- The walk comes to every file once, and what it does with one does not depend on the
others. -/
def walk (l : Layout) (h : Host) (s : Site) : Site :=
  ⟨s.disk.keep fun path content => fate l h s.tables path content != .removed, s.tables⟩

def countedFiles (l : Layout) (h : Host) (s : Site) : Disk :=
  s.disk.keep fun path content => fate l h s.tables path content == .counted

def untracked (l : Layout) (h : Host) (s : Site) : Nat :=
  (countedFiles l h s).weigh fun _ content => content.length

/-!
## Recovery
-/

def missing (l : Layout) (s : Site) (digest : GoString) : Bool :=
  (s.disk.lookup (l.blobPath digest)).isNone

/-- A body without a file loses its row, and its references with it. -/
def retireMissing (l : Layout) (h : Host) (s : Site) : Option Site :=
  let digests := s.tables.blobs.entries.map Prod.fst
  if digests.any fun digest => h.statFails (l.blobPath digest) then none
  else some ⟨s.disk, (digests.filter (missing l s)).foldl Tables.deleteBlob s.tables⟩

def setUntracked (s : Site) (n : Nat) : Site :=
  ⟨s.disk, { s.tables with untrackedBytes := n }⟩

def recover (l : Layout) (h : Host) (s : Site) : Option Site :=
  match cleanExpired l h s with
  | none => none
  | some cleaned =>
    match removeUnreferenced l h (deleteExpired h cleaned) with
    | none => none
    | some tidy =>
      if h.walkFails then none
      else
        match retireMissing l h (walk l h tidy) with
        | none => none
        | some retired =>
          if h.statementFails || !h.committed then none
          else some (setUntracked retired (untracked l h tidy))

/-!
## Reading
-/

structure Reading where
  now : Instant
  readFails : Bool
  updateFails : Bool
  committed : Bool

def readBlob (r : Reading) (disk : Disk) (path : GoString) : Option GoString :=
  match disk.lookup path with
  | none => none
  | some body =>
    if r.readFails then none
    else if body.length ≤ maxBodyBytes then some body
    else none

/-- A reference was used. Within a minute of the last time nothing is written. -/
def accessed (r : Reading) (t : Tables) (key : GoString) (v : Variant) :
    Table GoString Variant :=
  if v.lastAccessedAt + minute ≤ r.now then
    t.variants.set key { v with lastAccessedAt := r.now }
  else t.variants

structure Hit where
  contentType : GoString
  body : GoString
  variants : Table GoString Variant

/-- The content type and the body that a caller is given, and the references as they are
left. -/
def getContext (l : Layout) (r : Reading) (s : Site) (key : GoString) : Option Hit :=
  if !digestKey key then none
  else
    match s.tables.variants.lookup key with
    | none => none
    | some v =>
      if v.expiresAt ≤ r.now then none
      else
        match s.tables.blobs.lookup v.blobDigest with
        | none => none
        | some blob =>
          if !digestKey v.blobDigest then none
          else
            match readBlob r s.disk (l.blobPath v.blobDigest) with
            | none => none
            | some body =>
              if body.length ≠ blob.byteSize then none
              else if hexEncode (sha256 body) ≠ v.blobDigest then none
              else if r.updateFails || !r.committed then none
              else some ⟨v.contentType, body, accessed r s.tables key v⟩

end Site
end ReplxEdge.Artwork
