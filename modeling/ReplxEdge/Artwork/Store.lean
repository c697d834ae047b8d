import ReplxEdge.Foundation.Digest
import ReplxEdge.Foundation.Runes
import ReplxEdge.Foundation.Table
import Mathlib.Data.List.Sort

/-!
# The shared artwork store

Image bodies under a byte budget. Three tables hold the bodies by their digest, the
references to them and the space that is reserved for transfers on their way. Every
operation is made of transactions that hold the store's row lock, so a run is a
sequence of transactions; each one has its own clock reading and meets failures of
its own.
-/

namespace ReplxEdge.Artwork

open Foundation

/-!
## Options
-/

inductive Priority where
  | low
  | normal
  | high
  | protectedTier
deriving DecidableEq

def Priority.rank : Priority -> Nat
  | low => 0
  | normal => 1
  | high => 2
  | protectedTier => 3

def maxBodyBytes : Nat := 8388608

def variantOverhead : Nat := 1024

def blobOverhead : Nat := 4096

def reservationBytes : Nat := maxBodyBytes + variantOverhead + blobOverhead

def reservationTTL : Duration := 2 * minute

def variantTTL : Duration := 7 * 24 * 60 * minute

/-- The options that `NewShared` accepts. The budget is made from a configured number
of GiB, which is at most 10000. -/
structure SharedOptions where
  maxBytes : Nat
  minFreeBytes : Nat
  lowWatermarkBytes : Nat
  protectedBytes : Nat
  maxReservations : Nat
  positive : 0 < maxBytes
  lowWatermark_le : lowWatermarkBytes ≤ maxBytes
  protected_le : protectedBytes ≤ maxBytes
  reservations_pos : 1 ≤ maxReservations
  reservations_le : maxReservations ≤ 128
  configured : maxBytes ≤ 10000 * 2 ^ 30

/-- A sum as an `int64` holds it. -/
def int64 (n : Int) : Int :=
  n.bmod (2 ^ 64)

theorem int64_eq {n : Int} (hlow : -(2 ^ 63) ≤ n) (hhigh : n < 2 ^ 63) : int64 n = n := by
  unfold int64
  apply Int.bmod_eq_of_le
  · omega
  · omega

/-!
## Tables
-/

structure Blob where
  byteSize : Nat
  positive : 0 < byteSize
  capped : byteSize ≤ maxBodyBytes

structure Variant where
  blobDigest : GoString
  contentType : GoString
  priority : Priority
  expiresAt : Instant
  lastAccessedAt : Instant

/-- Space for one transfer. `candidateDigest` is the body it may have published. -/
structure ReservationRow where
  reservedBytes : Nat
  priority : Priority
  expiresAt : Instant
  candidateDigest : Option GoString

/-- The rows of one store: bodies by digest, references by variant key, reservations by
id. A reference has a body. -/
structure Tables where
  blobs : Table GoString Blob
  variants : Table GoString Variant
  reservations : Table GoString ReservationRow
  untrackedBytes : Nat
  referenced : forall key v, variants.lookup key = some v ->
    blobs.lookup v.blobDigest ≠ none

namespace Tables

def payloadBytes (t : Tables) : Nat :=
  t.blobs.weigh fun _ blob => blob.byteSize

def blobCount (t : Tables) : Nat :=
  t.blobs.weigh fun _ _ => 1

def variantCount (t : Tables) : Nat :=
  t.variants.weigh fun _ _ => 1

def reservationCount (t : Tables) : Nat :=
  t.reservations.weigh fun _ _ => 1

def metadataBytes (t : Tables) : Nat :=
  t.blobCount * blobOverhead + t.variantCount * variantOverhead

def reservedBytes (t : Tables) : Nat :=
  t.reservations.weigh fun _ row => row.reservedBytes

def totalBytes (t : Tables) : Nat :=
  t.payloadBytes + t.metadataBytes + t.reservedBytes + t.untrackedBytes

def liveReferences (t : Tables) (now : Instant) (digest : GoString) : List Variant :=
  (t.variants.entries.map Prod.snd).filter fun v =>
    v.blobDigest == digest && decide (now < v.expiresAt)

def refersTo (t : Tables) (digest : GoString) : Bool :=
  t.variants.entries.any fun entry => entry.2.blobDigest == digest

/-- What counts against the protected pool: bodies with a live protected reference,
protected reservations, and the references themselves. -/
def protectedBytes (t : Tables) (now : Instant) : Nat :=
  (t.blobs.keep fun digest _ => (t.liveReferences now digest).any fun v =>
      v.priority == .protectedTier).weigh (fun _ blob => blob.byteSize + blobOverhead) +
    (t.reservations.keep fun _ row => row.priority == .protectedTier).weigh
      (fun _ row => row.reservedBytes) +
    (t.variants.keep fun _ v => v.priority == .protectedTier &&
      decide (now < v.expiresAt)).weigh (fun _ _ => 1) * variantOverhead

def deleteBlob (t : Tables) (digest : GoString) : Tables where
  blobs := t.blobs.delete digest
  variants := t.variants.keep fun _ v => v.blobDigest != digest
  reservations := t.reservations
  untrackedBytes := t.untrackedBytes
  referenced := by
    intro key v hv
    have hkept := (List.mem_filter.mp (Table.mem_of_lookup hv)).right
    rw [t.blobs.lookup_delete_ne (by simpa using hkept)]
    exact t.referenced key v (Table.lookup_of_keep hv)

def deleteVariants (t : Tables) (keys : List GoString) : Tables where
  blobs := t.blobs
  variants := t.variants.keep fun key _ => !keys.contains key
  reservations := t.reservations
  untrackedBytes := t.untrackedBytes
  referenced := fun key v hv => t.referenced key v (Table.lookup_of_keep hv)

def deleteReservation (t : Tables) (id : GoString) : Tables :=
  { t with reservations := t.reservations.delete id }

def setReservation (t : Tables) (id : GoString) (row : ReservationRow) : Tables :=
  { t with reservations := t.reservations.set id row }

def putVariant (t : Tables) (key : GoString) (blob : Blob) (v : Variant) : Tables where
  blobs := t.blobs.set v.blobDigest blob
  variants := t.variants.set key v
  reservations := t.reservations
  untrackedBytes := t.untrackedBytes
  referenced := by
    intro other found hfound
    rw [Table.lookup_set]
    rcases Table.lookup_set_cases hfound with hnew | hold
    · rw [hnew, if_pos rfl]
      exact Option.some_ne_none blob
    split
    · exact Option.some_ne_none blob
    · exact t.referenced other found hold

end Tables

/-!
## Statistics
-/

structure Stats where
  reservations : Int
  reservedBytes : Int
  protectedBytes : Int
  totalBytes : Int
  freeBytes : Nat

/-- The state of the store next to what a probe of the file system answers. The
statistics fail when the probe does. -/
def stats (now : Instant) (probe : Option Nat) (t : Tables) : Option Stats :=
  probe.map fun free =>
    { reservations := t.reservationCount
      reservedBytes := t.reservedBytes
      protectedBytes := int64 (t.protectedBytes now)
      totalBytes := int64 t.totalBytes
      freeBytes := free }

/-!
## What a transaction meets
-/

inductive File where
  | temporary (id : GoString)
  | blob (digest : GoString)
deriving DecidableEq

/-- The clock, the file system and the database during one transaction. `free` answers
the probes in their order. A statement that fails rolls the transaction back, and a
commit may succeed without being acknowledged. -/
structure Outside where
  now : Instant
  removeFails : File -> Bool
  writeFails : Bool
  missing : GoString -> Bool
  free : Nat -> Option Nat
  blobOrder : Order (GoString × Blob)
  variantOrder : Order (GoString × Variant)
  committed : Bool
  acknowledged : Bool

def digestKey (key : GoString) : Bool :=
  key.length == 64 && key.all fun c => (48 ≤ c && c ≤ 57) || (97 ≤ c && c ≤ 102)

def removeBlob (o : Outside) (t : Tables) (digest : GoString) : Option Tables :=
  if !digestKey digest then none
  else if o.removeFails (.blob digest) then none
  else some (t.deleteBlob digest)

/-- A reservation is given up only once its files are gone. -/
def releaseReservation (o : Outside) (t : Tables) (id : GoString) : Option Tables :=
  if o.removeFails (.temporary id) then none
  else
    match t.reservations.lookup id with
    | none => some t
    | some row =>
      match row.candidateDigest with
      | none => some (t.deleteReservation id)
      | some digest =>
        if !digestKey digest then none
        else if (t.blobs.lookup digest).isNone && o.removeFails (.blob digest) then none
        else some (t.deleteReservation id)

def releaseExpired (o : Outside) (t : Tables) (id : GoString) : Option Tables :=
  if id.length ≠ 32 then none else releaseReservation o t id

def cleanExpired (o : Outside) (t : Tables) : Option Tables :=
  ((t.reservations.entries.filter fun entry => decide (entry.2.expiresAt ≤ o.now)).map
    Prod.fst).foldlM (releaseExpired o) t

def expiredKeys (o : Outside) (t : Tables) : List GoString :=
  ((o.variantOrder.visit t.variants.entries).filter fun entry =>
    decide (entry.2.expiresAt ≤ o.now)).map Prod.fst

def pruneExpiredBatch (o : Outside) (t : Tables) : Tables :=
  t.deleteVariants ((expiredKeys o t).take 128)

/-- The batches of the source together visit every body without a reference. -/
def removeUnreferenced (o : Outside) (t : Tables) : Option Tables :=
  ((t.blobs.entries.filter fun entry => !t.refersTo entry.1).map Prod.fst).foldlM
    (removeBlob o) t

/-!
## Eviction
-/

def livePriority (t : Tables) (now : Instant) (digest : GoString) : Nat :=
  ((t.liveReferences now digest).map fun v => v.priority.rank).foldl max 0

def lastAccessed (t : Tables) (now : Instant) (digest : GoString) : Option Instant :=
  ((t.liveReferences now digest).map Variant.lastAccessedAt).max?

/-- `NULLS FIRST`. -/
def accessedBefore : Option Instant -> Option Instant -> Bool
  | none, none => false
  | none, some _ => true
  | some _, none => false
  | some a, some b => decide (a < b)

/-- Lower tiers first, then the oldest use, then the larger body. -/
def evictedFirst (t : Tables) (now : Instant) (a b : GoString × Blob) : Bool :=
  let tierA := livePriority t now a.1
  let tierB := livePriority t now b.1
  let usedA := lastAccessed t now a.1
  let usedB := lastAccessed t now b.1
  decide (tierA < tierB) || (tierA == tierB &&
    (accessedBefore usedA usedB || (usedA == usedB && decide (b.2.byteSize ≤ a.2.byteSize))))

def evictionCandidates (o : Outside) (t : Tables) (priority : Priority) : List GoString :=
  ((((o.blobOrder.visit t.blobs.entries).filter fun entry =>
    decide (livePriority t o.now entry.1 ≤ priority.rank)).insertionSort
      fun a b => evictedFirst t o.now a b = true).take 128).map Prod.fst

/-- The limits that a room test checks: whether the high watermark was crossed, and the
bytes to get down to. -/
structure Pressure where
  crossed : Bool
  target : Int

def pressureOf (opts : SharedOptions) (need : Nat) (st : Stats) : Pressure :=
  if int64 (st.totalBytes + need) > opts.maxBytes then
    if int64 (opts.lowWatermarkBytes + need) > opts.maxBytes then
      ⟨true, int64 (opts.maxBytes - need)⟩
    else ⟨true, opts.lowWatermarkBytes⟩
  else ⟨false, opts.maxBytes⟩

def hasRoom (opts : SharedOptions) (need protectedNeed : Nat) (p : Pressure) (st : Stats) :
    Bool :=
  decide (int64 (st.totalBytes + need) ≤ opts.maxBytes) &&
    (!p.crossed || decide (st.totalBytes ≤ p.target)) &&
    decide ((opts.minFreeBytes + st.reservedBytes + need) % 2 ^ 64 ≤ (st.freeBytes : Int)) &&
    (protectedNeed == 0 || decide (int64 (st.protectedBytes + protectedNeed) ≤ opts.protectedBytes))

/-- How an attempt to make room ends: with room, without it, or with an error. -/
inductive Room where
  | made (t : Tables)
  | short (t : Tables)
  | failed (t : Tables)

def Room.tables : Room -> Tables
  | made t => t
  | short t => t
  | failed t => t

/-- Remove candidates until there is room. One whose file stays is passed over. -/
def evictUntil (o : Outside) (room : Stats -> Bool) : Nat -> List GoString -> Tables -> Room
  | _, [], t => .short t
  | probe, digest :: rest, t =>
    match removeBlob o t digest with
    | none => evictUntil o room probe rest t
    | some left =>
      match stats o.now (o.free probe) left with
      | none => .failed left
      | some st =>
        if room st then .made left
        else evictUntil o room (probe + 1) rest left

def makeRoom (opts : SharedOptions) (o : Outside) (probe : Nat) (t : Tables)
    (priority : Priority) (need protectedNeed : Nat) : Room :=
  match stats o.now (o.free probe) t with
  | none => .failed t
  | some st =>
    let room := hasRoom opts need protectedNeed (pressureOf opts need st)
    if room st then .made t
    else evictUntil o room (probe + 1) (evictionCandidates o t priority) t

/-!
## Reservations
-/

inductive ReserveResult where
  | error
  | capacity (t : Tables)
  | reserved (t : Tables) (id : GoString)

def freshReservation (priority : Priority) (now : Instant) : ReservationRow where
  reservedBytes := reservationBytes
  priority := priority
  expiresAt := now + reservationTTL
  candidateDigest := none

/-- Evictions are kept when the space still does not suffice. `raw` is the random id. -/
def reserve (opts : SharedOptions) (o : Outside) (t : Tables) (priority : Priority)
    (raw : Option GoString) : ReserveResult :=
  match cleanExpired o t with
  | none => .error
  | some cleaned =>
    let pruned := pruneExpiredBatch o cleaned
    match stats o.now (o.free 0) pruned with
    | none => .error
    | some st =>
      if st.reservations ≥ opts.maxReservations then .error
      else
        let protectedNeed :=
          if priority = .protectedTier then reservationBytes else 0
        match makeRoom opts o 1 pruned priority reservationBytes protectedNeed with
        | .failed _ => .error
        | .short left => .capacity left
        | .made left =>
          match raw with
          | none => .error
          | some id =>
            -- the id is the table's key
            if (left.reservations.lookup id).isSome then .error
            else .reserved
              (left.setReservation id (freshReservation priority o.now)) id

structure Image where
  contentType : GoString
  body : GoString
  positive : 0 < body.length
  capped : body.length ≤ maxBodyBytes

def Image.digest (image : Image) : GoString :=
  hexEncode (sha256 image.body)

def Image.blob (image : Image) : Blob :=
  ⟨image.body.length, image.positive, image.capped⟩

/-- `parseMediaType` is the standard library's. -/
def checkImage (parseMediaType : GoString -> Option GoString) (contentType body : GoString) :
    Option Image :=
  match parseMediaType contentType with
  | none => none
  | some mediaType =>
    if h : 0 < body.length ∧ body.length ≤ maxBodyBytes then
      if hasPrefix (toLower mediaType) (str "image/") ∧ contentType.length ≤ 255 then
        some ⟨contentType, body, h.left, h.right⟩
      else none
    else none

/-- The first transaction of a commit names the body that will be published. -/
def stageCandidate (o : Outside) (t : Tables) (id digest : GoString) : Option Tables :=
  match t.reservations.lookup id with
  | none => none
  | some row =>
    if o.now < row.expiresAt then
      some (t.setReservation id { row with candidateDigest := some digest })
    else none

/-- A reference keeps the higher tier. -/
def mergedPriority (old : Option Variant) (priority : Priority) : Priority :=
  match old with
  | none => priority
  | some v => if v.priority.rank ≤ priority.rank then priority else v.priority

def publishRows (t : Tables) (now : Instant) (id key : GoString) (priority : Priority)
    (image : Image) : Tables :=
  (t.putVariant key image.blob
    { blobDigest := image.digest
      contentType := image.contentType
      priority := mergedPriority (t.variants.lookup key) priority
      expiresAt := now + variantTTL
      lastAccessedAt := now }).deleteReservation id

/-- The second transaction of a commit: the image takes the place of its reservation,
and a body that lost its last reference goes. -/
def publishImage (opts : SharedOptions) (o : Outside) (t : Tables) (id key : GoString)
    (priority : Priority) (image : Image) : Option Tables :=
  match t.reservations.lookup id with
  | none => none
  | some row =>
    if o.now < row.expiresAt ∧ row.candidateDigest = some image.digest then
      match o.free 0 with
      | none => none
      | some free =>
        if free < (opts.minFreeBytes + image.body.length) % 2 ^ 64 then none
        else if o.writeFails then none
        else
          let published := publishRows t o.now id key priority image
          match t.variants.lookup key with
          | none => some published
          | some previous =>
            if previous.blobDigest ≠ [] ∧ previous.blobDigest ≠ image.digest ∧
                published.refersTo previous.blobDigest = false then
              removeBlob o published previous.blobDigest
            else some published
    else none

/-!
## Maintenance
-/

/-- Under pressure the sweep evicts as well, and keeps what that achieves. -/
def sweep (opts : SharedOptions) (o : Outside) (t : Tables) : Option Tables :=
  match cleanExpired o t with
  | none => none
  | some cleaned =>
    match removeUnreferenced o (pruneExpiredBatch o cleaned) with
    | none => none
    | some tidy =>
      match stats o.now (o.free 0) tidy with
      | none => none
      | some st =>
        let evicted :=
          if st.totalBytes > opts.maxBytes ∨
              (st.freeBytes : Int) < (opts.minFreeBytes + st.reservedBytes) % 2 ^ 64 then
            (makeRoom opts o 1 tidy .protectedTier 0 0).tables
          else tidy
        match stats o.now (o.free 130) evicted with
        | none => none
        | some _ => some evicted

/-- Bodies whose live references are all low, the longest unused first and equals in any
order. -/
def lowPriorityDigests (o : Outside) (t : Tables) : List GoString :=
  ((((o.blobOrder.visit t.blobs.entries).filter fun entry =>
    livePriority t o.now entry.1 == 0).insertionSort fun a b =>
      accessedBefore (lastAccessed t o.now b.1) (lastAccessed t o.now a.1) = false).take
        128).map Prod.fst

def evictLowPriority (o : Outside) (t : Tables) : Option Tables :=
  match stats o.now (o.free 0) t with
  | none => none
  | some _ =>
    match (lowPriorityDigests o t).foldlM (removeBlob o) t with
    | none => none
    | some evicted =>
      match stats o.now (o.free 1) evicted with
      | none => none
      | some _ => some evicted

/-- The rows that a recovery deletes: bodies whose file is missing lose theirs. The walk over
the files, and the count of untracked bytes that it writes, stand with the files. -/
def recoverRows (o : Outside) (t : Tables) : Option Tables :=
  match cleanExpired o t with
  | none => none
  | some cleaned =>
    match removeUnreferenced o (cleaned.deleteVariants (expiredKeys o cleaned)) with
    | none => none
    | some tidy =>
      some (((tidy.blobs.entries.map Prod.fst).filter o.missing).foldl Tables.deleteBlob tidy)

/-!
## The system
-/

inductive Phase where
  | idle
  | staged (image : Image)
  | failing
  | closed

structure Handle where
  id : GoString
  key : GoString
  priority : Priority
  phase : Phase

structure State where
  tables : Tables
  handles : List Handle

inductive Action where
  | reserve (key : GoString) (priority : Priority) (raw : Option GoString) (o : Outside)
  | stage (i : Nat) (contentType body : GoString) (o : Outside)
  | publish (i : Nat) (o : Outside)
  | cancel (i : Nat) (o : Outside)
  | sweep (o : Outside)
  | evictLowPriority (o : Outside)
  | recover (o : Outside)

/-- What the database holds after a transaction; `none` is an error before the commit. -/
def settle (o : Outside) (old : Tables) (new : Option Tables) : Tables :=
  match new with
  | none => old
  | some t => if o.committed then t else old

def Outside.confirmed (o : Outside) : Bool :=
  o.committed && o.acknowledged

def State.setPhase (s : State) (i : Nat) (handle : Handle) (phase : Phase) : State :=
  { s with handles := s.handles.set i { handle with phase := phase } }

def stepReserve (opts : SharedOptions) (s : State) (key : GoString) (priority : Priority)
    (raw : Option GoString) (o : Outside) : State :=
  if !digestKey key then s
  else
    match reserve opts o s.tables priority raw with
    | .error => s
    | .capacity t => { s with tables := settle o s.tables (some t) }
    | .reserved t id =>
      { tables := settle o s.tables (some t)
        handles :=
          if o.confirmed then s.handles ++ [⟨id, key, priority, .idle⟩]
          else s.handles }

/-- A commit that fails at any point goes on to cancel. -/
def stepStage (parseMediaType : GoString -> Option GoString) (s : State) (i : Nat)
    (handle : Handle) (contentType body : GoString) (o : Outside) : State :=
  match checkImage parseMediaType contentType body with
  | none => s.setPhase i handle .failing
  | some image =>
    let staged := stageCandidate o s.tables handle.id image.digest
    { s.setPhase i handle
        (if staged.isSome && o.confirmed then .staged image else .failing) with
      tables := settle o s.tables staged }

def stepPublish (opts : SharedOptions) (s : State) (i : Nat) (handle : Handle)
    (image : Image) (o : Outside) : State :=
  let published := publishImage opts o s.tables handle.id handle.key handle.priority image
  { s.setPhase i handle
      (if published.isSome && o.confirmed then .closed else .failing) with
    tables := settle o s.tables published }

def stepCancel (s : State) (i : Nat) (handle : Handle) (o : Outside) : State :=
  { s.setPhase i handle .closed with
    tables := settle o s.tables (releaseReservation o s.tables handle.id) }

/-- One transaction. Commit and cancel of one reservation exclude each other, so an
action on a reservation object that is not in its phase is not enabled. -/
def step (opts : SharedOptions) (parseMediaType : GoString -> Option GoString) (s : State) :
    Action -> Option State
  | .reserve key priority raw o => some (stepReserve opts s key priority raw o)
  | .stage i contentType body o =>
    s.handles[i]?.bind fun handle =>
      match handle.phase with
      | .idle => some (stepStage parseMediaType s i handle contentType body o)
      | _ => none
  | .publish i o =>
    s.handles[i]?.bind fun handle =>
      match handle.phase with
      | .staged image => some (stepPublish opts s i handle image o)
      | _ => none
  | .cancel i o =>
    s.handles[i]?.bind fun handle =>
      match handle.phase with
      | .idle => some (stepCancel s i handle o)
      | .failing => some (stepCancel s i handle o)
      | _ => none
  | .sweep o => some { s with tables := settle o s.tables (sweep opts o s.tables) }
  | .evictLowPriority o =>
    some { s with tables := settle o s.tables (evictLowPriority o s.tables) }
  | .recover o => some { s with tables := settle o s.tables (recoverRows o s.tables) }

end ReplxEdge.Artwork
