import ReplxEdge.Artwork.Quota

/-!
# The protected pool

Bodies with a live protected reference, the references themselves and protected
reservations share a pool of their own. A reservation is admitted against it only when it
is protected itself, but a reference that is published again keeps its higher tier.
-/

namespace ReplxEdge.Artwork

open Foundation

variable {key id : GoString} {row : ReservationRow} {left : Tables} {priority : Priority}

def WithinPool (opts : SharedOptions) (now : Instant) (t : Tables) : Prop :=
  forall free st, stats now free t = some st -> st.protectedBytes ≤ opts.protectedBytes

/-!
## The figure
-/

structure Shields (now : Instant) (v : Variant) : Prop where
  live : now < v.expiresAt
  tier : v.priority = .protectedTier

variable {v : Variant}

namespace Tables

variable (t : Tables) (now : Instant)

def protectedBlobs : Table GoString Blob :=
  t.blobs.keep fun digest _ => (t.liveReferences now digest).any fun v =>
    v.priority == .protectedTier

def protectedReservations : Table GoString ReservationRow :=
  t.reservations.keep fun _ row => row.priority == .protectedTier

def protectedVariants : Table GoString Variant :=
  t.variants.keep fun _ v => v.priority == .protectedTier && decide (now < v.expiresAt)

theorem protectedBytes_eq : t.protectedBytes now =
    (t.protectedBlobs now).weigh (fun _ blob => blob.byteSize + blobOverhead) +
      t.protectedReservations.weigh (fun _ row => row.reservedBytes) +
      (t.protectedVariants now).weigh (fun _ _ => 1) * variantOverhead :=
  rfl

variable {t now}

theorem protectedVariants_iff :
    (t.protectedVariants now).lookup key = some v <->
      t.variants.lookup key = some v ∧ Shields now v := by
  unfold protectedVariants
  rw [Table.lookup_keep, Option.filter_eq_some_iff]
  constructor
  · intro h
    refine ⟨h.left, ?_, ?_⟩
    · simpa using (Bool.and_eq_true_iff.mp h.right).right
    · simpa using (Bool.and_eq_true_iff.mp h.right).left
  intro h
  exact ⟨h.left, by simp [h.right.tier, h.right.live]⟩

theorem protectedReservations_iff :
    t.protectedReservations.lookup id = some row <->
      t.reservations.lookup id = some row ∧ row.priority = .protectedTier := by
  unfold protectedReservations
  rw [Table.lookup_keep, Option.filter_eq_some_iff, beq_iff_eq]

theorem protectedBlobs_iff {digest : GoString} {blob : Blob} :
    (t.protectedBlobs now).lookup digest = some blob <-> t.blobs.lookup digest = some blob ∧
        exists key v, t.variants.lookup key = some v ∧ v.blobDigest = digest ∧ Shields now v := by
  unfold protectedBlobs
  rw [Table.lookup_keep, Option.filter_eq_some_iff]
  refine and_congr_right fun _ => ?_
  unfold liveReferences
  rw [List.any_eq_true]
  constructor
  · intro h
    rcases h with ⟨v, hv, htier⟩
    rcases List.mem_filter.mp hv with ⟨hmem, hlive⟩
    rcases List.mem_map.mp hmem with ⟨entry, hentry, rfl⟩
    rw [Bool.and_eq_true, beq_iff_eq, decide_eq_true_eq] at hlive
    exact ⟨entry.1, entry.2, Table.lookup_of_mem hentry, hlive.left, hlive.right,
      by simpa using htier⟩
  intro h
  rcases h with ⟨key, v, hv, hdigest, hshields⟩
  refine ⟨v, List.mem_filter.mpr ⟨?_, ?_⟩, by simp [hshields.tier]⟩
  · exact List.mem_map.mpr ⟨(key, v), Table.mem_of_lookup hv, rfl⟩
  · simp [hdigest, hshields.live]

theorem protectedBytes_le_total (t : Tables) (now : Instant) :
    t.protectedBytes now ≤ t.totalBytes := by
  have hblobs : (t.protectedBlobs now).weigh (fun _ blob => blob.byteSize + blobOverhead) ≤
      t.payloadBytes + t.blobCount * blobOverhead := by
    refine (Table.weigh_keep_le _ _ _).trans (le_of_eq ?_)
    unfold payloadBytes blobCount Table.weigh
    induction t.blobs.entries with
    | nil => rfl
    | cons entry rest ih =>
      simp only [List.map_cons, List.sum_cons, ih]
      unfold blobOverhead
      omega
  have hreserved : t.protectedReservations.weigh (fun _ row => row.reservedBytes) ≤
      t.reservedBytes :=
    Table.weigh_keep_le _ _ _
  have hvariants : (t.protectedVariants now).weigh (fun _ _ => 1) ≤ t.variantCount :=
    Table.weigh_keep_le _ _ _
  rw [protectedBytes_eq]
  unfold totalBytes metadataBytes
  unfold blobOverhead variantOverhead at *
  omega

end Tables

theorem Fewer.protectedBytes_le {t : Tables} (h : Fewer t left) {now later : Instant}
    (hle : now ≤ later) : left.protectedBytes later ≤ t.protectedBytes now := by
  have hshields : forall v, Shields later v -> Shields now v :=
    fun v hv => ⟨lt_of_le_of_lt hle hv.live, hv.tier⟩
  rw [Tables.protectedBytes_eq, Tables.protectedBytes_eq]
  refine Nat.add_le_add (Nat.add_le_add ?_ ?_) (Nat.mul_le_mul_right _ ?_)
  · refine Table.weigh_mono ?_ _
    intro digest blob hblob
    rcases Tables.protectedBlobs_iff.mp hblob with ⟨hfound, key, v, hv, hdigest, hlive⟩
    exact Tables.protectedBlobs_iff.mpr
      ⟨h.blobs digest blob hfound, key, v, h.variants key v hv, hdigest, hshields v hlive⟩
  · refine Table.weigh_mono ?_ _
    intro id row hrow
    rcases Tables.protectedReservations_iff.mp hrow with ⟨hfound, htier⟩
    exact Tables.protectedReservations_iff.mpr ⟨h.reservations id row hfound, htier⟩
  refine Table.weigh_mono ?_ _
  intro key v hv
  rcases Tables.protectedVariants_iff.mp hv with ⟨hfound, hlive⟩
  exact Tables.protectedVariants_iff.mpr ⟨h.variants key v hfound, hshields v hlive⟩

theorem WithinPool.figure {opts : SharedOptions} {now : Instant} {t : Tables}
    (h : WithinPool opts now t) : int64 (t.protectedBytes now) ≤ opts.protectedBytes := by
  have hfigure := h (some 0) _ rfl
  simpa only using hfigure

theorem withinPool_iff {opts : SharedOptions} {now : Instant} {t : Tables}
    (hquota : WithinQuota opts t) :
    WithinPool opts now t <-> t.protectedBytes now ≤ opts.protectedBytes := by
  have hconfigured := opts.configured
  have hbytes : t.totalBytes ≤ opts.maxBytes := hquota.bytes
  have hpart := t.protectedBytes_le_total now
  have hexact : int64 (t.protectedBytes now) = t.protectedBytes now :=
    int64_eq (by omega) (by omega)
  constructor
  · intro h
    have hfigure := h.figure
    rw [hexact] at hfigure
    omega
  intro h free st hst
  rcases Option.map_eq_some_iff.mp hst with ⟨_, _, rfl⟩
  simp only [hexact]
  omega

/-!
## Rows that are added
-/

section Rows

variable {opts : SharedOptions} {t : Tables} {now : Instant}

theorem hasRoom_pool {admitted : Instant} {free : Option Nat} {p : Pressure} {st : Stats}
    (hstats : stats admitted free t = some st)
    (hroom : hasRoom opts reservationBytes reservationBytes p st = true)
    (hquota : WithinQuota opts t) :
    t.protectedBytes admitted + reservationBytes ≤ opts.protectedBytes := by
  have hconfigured := opts.configured
  have hbytes : t.totalBytes ≤ opts.maxBytes := hquota.bytes
  have hpart := t.protectedBytes_le_total admitted
  have hreservation : reservationBytes = 8393728 := rfl
  rcases Option.map_eq_some_iff.mp hstats with ⟨_, _, rfl⟩
  unfold hasRoom at hroom
  have hpool := (Bool.and_eq_true_iff.mp hroom).right
  rw [Bool.or_eq_true, decide_eq_true_eq, beq_iff_eq] at hpool
  rcases hpool with hzero | hsum
  · omega
  simp only at hsum
  rw [int64_eq (n := (t.protectedBytes admitted : Int)) (by omega) (by omega),
    int64_eq (by omega) (by omega)] at hsum
  omega

def ReservationRow.share (row : ReservationRow) : Nat :=
  if row.priority = .protectedTier then row.reservedBytes else 0

theorem deleteReservation_protected (now : Instant) (hrow : t.reservations.lookup id = some row) :
    (t.deleteReservation id).protectedBytes now + row.share ≤ t.protectedBytes now := by
  have hrows : (t.deleteReservation id).protectedReservations.weigh
      (fun _ found => found.reservedBytes) + row.share ≤
        t.protectedReservations.weigh fun _ found => found.reservedBytes := by
    have hless : (t.deleteReservation id).protectedReservations.weigh
        (fun _ found => found.reservedBytes) ≤
          (t.protectedReservations.delete id).weigh fun _ found => found.reservedBytes := by
      refine Table.weigh_mono ?_ _
      intro other found hfound
      rcases Tables.protectedReservations_iff.mp hfound with ⟨hkept, htier⟩
      have hother : other ≠ id := by
        intro hsame
        rw [hsame] at hkept
        simp [Tables.deleteReservation] at hkept
      rw [Table.lookup_delete_ne _ hother]
      exact Tables.protectedReservations_iff.mpr ⟨Table.lookup_of_delete hkept, htier⟩
    unfold ReservationRow.share
    split
    · rename_i htier
      have hprotected := Tables.protectedReservations_iff.mpr ⟨hrow, htier⟩
      have hshare := Table.weigh_delete_add hprotected fun _ found => found.reservedBytes
      omega
    · exact hless.trans (Table.weigh_delete_le _ _ _)
  have hblobs : (t.deleteReservation id).protectedBlobs now = t.protectedBlobs now := rfl
  have hvariants : (t.deleteReservation id).protectedVariants now =
      t.protectedVariants now := rfl
  rw [Tables.protectedBytes_eq, Tables.protectedBytes_eq, hblobs, hvariants]
  omega

theorem setReservation_protected (t : Tables) (now : Instant) (id : GoString)
    (row : ReservationRow) :
    (t.setReservation id row).protectedBytes now ≤
      row.share + (t.deleteReservation id).protectedBytes now := by
  have hrows : (t.setReservation id row).protectedReservations.weigh
        (fun _ found => found.reservedBytes) ≤
      row.share + (t.deleteReservation id).protectedReservations.weigh
        fun _ found => found.reservedBytes := by
    apply Table.weigh_le_add (k := id)
    · intro found hfound
      rcases Tables.protectedReservations_iff.mp hfound with ⟨hset, htier⟩
      simp only [Tables.setReservation, Table.lookup_set, if_true] at hset
      cases hset
      unfold ReservationRow.share
      rw [if_pos htier]
    intro other found hother hfound
    rcases Tables.protectedReservations_iff.mp hfound with ⟨hset, htier⟩
    simp only [Tables.setReservation, Table.lookup_set, if_neg hother] at hset
    refine Tables.protectedReservations_iff.mpr ⟨?_, htier⟩
    unfold Tables.deleteReservation
    rw [Table.lookup_delete_ne _ hother]
    exact hset
  have hblobs : (t.setReservation id row).protectedBlobs now =
      (t.deleteReservation id).protectedBlobs now := rfl
  have hvariants : (t.setReservation id row).protectedVariants now =
      (t.deleteReservation id).protectedVariants now := rfl
  rw [Tables.protectedBytes_eq, Tables.protectedBytes_eq, hblobs, hvariants]
  omega

theorem stageCandidate_protected {o : Outside} {digest : GoString}
    (h : stageCandidate o t id digest = some left) :
    left.protectedBytes now ≤ t.protectedBytes now := by
  rcases stageCandidate_row h with ⟨row, hrow, rfl⟩
  have hset := setReservation_protected t now id
    { row with candidateDigest := some digest }
  have hshare : ReservationRow.share { row with candidateDigest := some digest } =
      row.share := rfl
  have hgiven := deleteReservation_protected now hrow
  omega

theorem putVariant_shielding (t : Tables) (now : Instant) (key : GoString) (blob : Blob)
    (v : Variant) :
    (t.putVariant key blob v).protectedBytes now ≤ reservationBytes + t.protectedBytes now := by
  have hblobs : ((t.putVariant key blob v).protectedBlobs now).weigh
        (fun _ found => found.byteSize + blobOverhead) ≤
      (maxBodyBytes + blobOverhead) +
        (t.protectedBlobs now).weigh fun _ found => found.byteSize + blobOverhead := by
    apply Table.weigh_le_add (k := v.blobDigest)
    · intro found _
      exact Nat.add_le_add_right found.capped _
    intro digest found hother hfound
    rcases Tables.protectedBlobs_iff.mp hfound with ⟨hset, other, w, hw, hdigest, hlive⟩
    simp only [Tables.putVariant, Table.lookup_set, if_neg hother] at hset
    rcases Table.lookup_set_cases hw with hnew | hold
    · rw [hnew] at hdigest
      exact absurd hdigest.symm hother
    · exact Tables.protectedBlobs_iff.mpr ⟨hset, other, w, hold, hdigest, hlive⟩
  have hvariants : ((t.putVariant key blob v).protectedVariants now).weigh (fun _ _ => 1) ≤
      1 + (t.protectedVariants now).weigh fun _ _ => 1 := by
    apply Table.weigh_le_add (k := key)
    · intro _ _
      exact le_refl 1
    intro other found hother hfound
    rcases Tables.protectedVariants_iff.mp hfound with ⟨hset, hlive⟩
    simp only [Tables.putVariant, Table.lookup_set, if_neg hother] at hset
    exact Tables.protectedVariants_iff.mpr ⟨hset, hlive⟩
  have hreservations : (t.putVariant key blob v).protectedReservations =
      t.protectedReservations := rfl
  have hreservation : reservationBytes = maxBodyBytes + variantOverhead + blobOverhead := rfl
  rw [Tables.protectedBytes_eq, Tables.protectedBytes_eq, hreservations]
  unfold blobOverhead variantOverhead at *
  omega

theorem putVariant_plain {blob : Blob} (htier : v.priority ≠ .protectedTier)
    (hsize : forall known, t.blobs.lookup v.blobDigest = some known ->
      known.byteSize = blob.byteSize) :
    (t.putVariant key blob v).protectedBytes now ≤ t.protectedBytes now := by
  -- a protected reference is an old one
  have hold : forall other w, (t.putVariant key blob v).variants.lookup other = some w ->
      Shields now w -> t.variants.lookup other = some w := by
    intro other w hw hlive
    rcases Table.lookup_set_cases hw with hnew | hold
    · rw [hnew] at hlive
      exact absurd hlive.tier htier
    · exact hold
  have hreservations : (t.putVariant key blob v).protectedReservations =
      t.protectedReservations := rfl
  rw [Tables.protectedBytes_eq, Tables.protectedBytes_eq, hreservations]
  refine Nat.add_le_add (Nat.add_le_add_right ?_ _) (Nat.mul_le_mul_right _ ?_)
  · refine Table.weigh_mono ?_ _
    intro digest found hfound
    rcases Tables.protectedBlobs_iff.mp hfound with ⟨hset, other, w, hw, hdigest, hlive⟩
    have hw' := hold other w hw hlive
    refine Tables.protectedBlobs_iff.mpr ⟨?_, other, w, hw', hdigest, hlive⟩
    simp only [Tables.putVariant, Table.lookup_set] at hset
    split at hset
    · rename_i hsame
      -- the body is known, so its row is written as it was
      have hknown := t.referenced other w hw'
      rw [hdigest] at hknown
      cases hfind : t.blobs.lookup digest with
      | none => exact absurd hfind hknown
      | some known =>
        have hbytes := hsize known (hsame ▸ hfind)
        rw [← hset]
        cases known
        cases blob
        simp only at hbytes
        subst hbytes
        rfl
    · exact hset
  refine Table.weigh_mono ?_ _
  intro other w hw
  rcases Tables.protectedVariants_iff.mp hw with ⟨hset, hlive⟩
  exact Tables.protectedVariants_iff.mpr ⟨hold other w hset hlive, hlive⟩

end Rows

/-!
## Runs
-/

/-- Every reservation object that still has a row has reserved a whole transfer, for its
own tier. -/
def Held (s : State) : Prop :=
  forall handle, handle ∈ s.handles ->
    forall row, s.tables.reservations.lookup handle.id = some row ->
      row.reservedBytes = reservationBytes ∧ row.priority = handle.priority

def Action.time : Action -> Instant
  | .reserve _ _ _ o => o.now
  | .stage _ _ _ o => o.now
  | .publish _ o => o.now
  | .cancel _ o => o.now
  | .sweep o => o.now
  | .evictLowPriority o => o.now
  | .recover o => o.now

/-- An image of a lower tier that is published: its key holds no protected reference, and
the size of its body is what a row of that digest says. -/
def Plain (t : Tables) (key : GoString) (image : Image) : Prop :=
  (forall v, t.variants.lookup key = some v -> v.priority ≠ .protectedTier) ∧
    forall blob, t.blobs.lookup image.digest = some blob -> blob.byteSize = image.body.length

/-- A transaction takes a new id for a reservation, and publishes a plain image if its
reservation is not protected. -/
def Sparing (s : State) : Action -> Prop
  | .reserve _ _ raw _ => forall handle, handle ∈ s.handles -> raw ≠ some handle.id
  | .publish i _ =>
    match s.handles[i]? with
    | none => True
    | some handle =>
      match handle.phase with
      | .staged image =>
        handle.priority ≠ .protectedTier -> Plain s.tables handle.key image
      | _ => True
  | _ => True

/-- A sparing transaction that is not after `now`. -/
def Covered (now : Instant) (s : State) (a : Action) : Prop :=
  a.time ≤ now ∧ Sparing s a

instance (t : Tables) (key : GoString) (image : Image) : Decidable (Plain t key image) :=
  inferInstanceAs (Decidable (_ ∧ _))

instance (s : State) (a : Action) : Decidable (Sparing s a) := by
  unfold Sparing
  split
  · infer_instance
  · split
    · exact isTrue trivial
    split
    · infer_instance
    · exact isTrue trivial
  · exact isTrue trivial

instance (now : Instant) (s : State) (a : Action) : Decidable (Covered now s a) :=
  inferInstanceAs (Decidable (_ ∧ _))

/-- A transaction that adds no reservation and does not raise the figure. -/
structure Keeps (now : Instant) (t left : Tables) : Prop where
  rows : forall id row, left.reservations.lookup id = some row ->
    exists old, t.reservations.lookup id = some old ∧
      old.reservedBytes = row.reservedBytes ∧ old.priority = row.priority
  pool : left.protectedBytes now ≤ t.protectedBytes now

variable {raw : Option GoString}

section Keeps

variable {opts : SharedOptions} {now : Instant} {t left : Tables} {o : Outside}

theorem Keeps.refl (now : Instant) (t : Tables) : Keeps now t t :=
  ⟨fun _ row hrow => ⟨row, hrow, rfl, rfl⟩, le_refl _⟩

theorem Keeps.settle {new : Option Tables} (h : forall left, new = some left -> Keeps now t left) :
    Keeps now t (settle o t new) := by
  rcases settle_cases o t new with hold | ⟨left, hnew, hleft⟩
  · rw [hold]
    exact Keeps.refl now t
  rw [hleft]
  exact h left hnew

theorem Fewer.keeps (h : Fewer t left) (now : Instant) : Keeps now t left :=
  ⟨fun id row hrow => ⟨row, h.reservations id row hrow, rfl, rfl⟩,
    h.protectedBytes_le (le_refl now)⟩

theorem stageCandidate_keeps {digest : GoString}
    (h : stageCandidate o t id digest = some left) : Keeps now t left := by
  refine ⟨?_, stageCandidate_protected h⟩
  rcases stageCandidate_row h with ⟨row, hrow, rfl⟩
  intro other found hfound
  simp only [Tables.setReservation, Table.lookup_set] at hfound
  split at hfound
  · rename_i hsame
    cases hfound
    exact ⟨row, hsame ▸ hrow, rfl, rfl⟩
  · exact ⟨found, hfound, rfl, rfl⟩

variable {image : Image}

theorem publishRows_protected {published : Instant} (hrow : t.reservations.lookup id = some row)
    (hwhole : row.reservedBytes = reservationBytes) (htier : row.priority = priority)
    (hplain : priority ≠ .protectedTier -> Plain t key image) :
    (publishRows t published id key priority image).protectedBytes now ≤ t.protectedBytes now := by
  have hgiven := deleteReservation_protected now hrow
  -- the reservation may as well be closed first
  show ((t.deleteReservation id).putVariant key image.blob _).protectedBytes now ≤ _
  by_cases hprotected : priority = .protectedTier
  · have hshare : row.share = reservationBytes := by
      unfold ReservationRow.share
      rw [if_pos (htier.trans hprotected), hwhole]
    have hput := putVariant_shielding (t.deleteReservation id) now key image.blob
      { blobDigest := image.digest
        contentType := image.contentType
        priority := mergedPriority (t.variants.lookup key) priority
        expiresAt := published + variantTTL
        lastAccessedAt := published }
    omega
  rcases hplain hprotected with ⟨hold, hsize⟩
  have hmerged : mergedPriority (t.variants.lookup key) priority ≠ .protectedTier := by
    unfold mergedPriority
    split
    · exact hprotected
    rename_i v hv
    split
    · exact hprotected
    · exact hold v hv
  exact (putVariant_plain hmerged hsize).trans
    ((deleteReservation_fewer t id).protectedBytes_le (le_refl now))

theorem publishImage_keeps (hrows : forall row, t.reservations.lookup id = some row ->
      row.reservedBytes = reservationBytes ∧ row.priority = priority)
    (hplain : priority ≠ .protectedTier -> Plain t key image)
    (h : publishImage opts o t id key priority image = some left) : Keeps now t left := by
  rcases publishImage_rows h with ⟨⟨row, hrow⟩, hfewer⟩
  rcases hrows row hrow with ⟨hwhole, htier⟩
  refine ⟨?_, ?_⟩
  · intro other found hfound
    exact ⟨found, publishRows_rows (hfewer.reservations other found hfound), rfl, rfl⟩
  exact (hfewer.protectedBytes_le (le_refl now)).trans
    (publishRows_protected hrow hwhole htier hplain)

theorem reserve_pool {reserved : Tables} (hquota : WithinQuota opts t) (hnow : o.now ≤ now)
    (hpool : t.protectedBytes now ≤ opts.protectedBytes)
    (h : reserve opts o t priority raw = .reserved reserved id) :
    reserved.protectedBytes now ≤ opts.protectedBytes := by
  rcases reserve_reserved h with ⟨left, free, st, p, hfewer, _, hstats, htest, _, rfl⟩
  have hset := setReservation_protected left now id
    (freshReservation priority o.now)
  have hless := (deleteReservation_fewer left id).protectedBytes_le (le_refl now)
  have hshare : (freshReservation priority o.now).share =
      if priority = .protectedTier then reservationBytes else 0 := rfl
  rw [hshare] at hset
  by_cases hprotected : priority = .protectedTier
  · rw [if_pos hprotected] at hset htest
    have hroom := hasRoom_pool hstats htest (hfewer.noLarger.withinQuota hquota)
    have hlater := (Fewer.refl left).protectedBytes_le hnow
    omega
  rw [if_neg hprotected] at hset
  have hleft := hfewer.protectedBytes_le (le_refl now)
  omega

end Keeps

structure Pooled (opts : SharedOptions) (now : Instant) (s : State) : Prop where
  invariant : Invariant opts s
  held : Held s
  pool : s.tables.protectedBytes now ≤ opts.protectedBytes

section Steps

variable {opts : SharedOptions} {now : Instant} {s : State} {o : Outside} {i : Nat}
variable {handle : Handle}

variable {handles : List Handle}

theorem Held.of_keeps (h : Held s) (hkeeps : Keeps now s.tables left)
    (hknown : forall handle, handle ∈ handles ->
      exists known, known ∈ s.handles ∧ known.id = handle.id ∧
        known.priority = handle.priority) : Held ⟨left, handles⟩ := by
  intro handle hhandle row hrow
  rcases hknown handle hhandle with ⟨known, hmem, hid, htier⟩
  rcases hkeeps.rows handle.id row hrow with ⟨old, hold, hbytes, hpriority⟩
  rcases h known hmem old (hid ▸ hold) with ⟨hwhole, hsame⟩
  exact ⟨hbytes ▸ hwhole, hpriority ▸ hsame.trans htier⟩

theorem known_setPhase (hget : s.handles[i]? = some handle) (phase : Phase) :
    forall other, other ∈ (s.setPhase i handle phase).handles ->
      exists known, known ∈ s.handles ∧ known.id = other.id ∧ known.priority = other.priority := by
  intro other hother
  rcases List.mem_or_eq_of_mem_set hother with hold | hnew
  · exact ⟨other, hold, rfl, rfl⟩
  · exact ⟨handle, List.mem_of_getElem? hget, by rw [hnew], by rw [hnew]⟩

variable {next : State}

theorem Pooled.of_keeps (hs : Pooled opts now s) (hinv : Invariant opts next)
    (hkeeps : Keeps now s.tables next.tables) (hknown : forall handle, handle ∈ next.handles ->
      exists known, known ∈ s.handles ∧ known.id = handle.id ∧
        known.priority = handle.priority) : Pooled opts now next :=
  ⟨hinv, hs.held.of_keeps hkeeps hknown, hkeeps.pool.trans hs.pool⟩

theorem Held.reserve (key : GoString) (h : Held s) (hfewer : Fewer s.tables left)
    (hfresh : forall handle, handle ∈ s.handles -> handle.id ≠ id)
    (hhandles : forall handle, handle ∈ handles ->
      handle ∈ s.handles ∨ handle = ⟨id, key, priority, .idle⟩) :
    Held ⟨left.setReservation id (freshReservation priority o.now), handles⟩ := by
  intro handle hhandle row hrow
  simp only [Tables.setReservation, Table.lookup_set] at hrow
  rcases hhandles handle hhandle with hold | hnew
  · rw [if_neg (hfresh handle hold)] at hrow
    exact h handle hold row (hfewer.reservations handle.id row hrow)
  rw [hnew, if_pos rfl] at hrow
  cases hrow
  rw [hnew]
  exact ⟨rfl, rfl⟩

theorem stepReserve_pooled (hs : Pooled opts now s) (hnow : o.now ≤ now)
    (hfresh : forall handle, handle ∈ s.handles -> raw ≠ some handle.id) :
    Pooled opts now (stepReserve opts s key priority raw o) := by
  have hinv := stepReserve_invariant hs.invariant key priority raw o
  revert hinv
  unfold stepReserve
  split
  · exact fun _ => hs
  cases hreserve : reserve opts o s.tables priority raw with
  | error => exact fun _ => hs
  | capacity left =>
    have hkeeps : Keeps now s.tables (settle o s.tables (some left)) := by
      refine Keeps.settle ?_
      intro found hfound
      cases hfound
      exact (reserve_capacity hreserve).keeps now
    exact fun hinv => hs.of_keeps hinv hkeeps fun handle h => ⟨handle, h, rfl, rfl⟩
  | reserved reserved id =>
    intro hinv
    refine ⟨hinv, ?_, ?_⟩
    · rcases reserve_reserved hreserve with ⟨left, _, _, _, hfewer, _, _, _, hraw, rfl⟩
      cases hcommitted : o.committed with
      | false =>
        simp only [settle, Outside.confirmed, hcommitted, Bool.false_and,
          Bool.false_eq_true, if_false]
        exact hs.held
      | true =>
        simp only [settle, hcommitted, if_true]
        refine hs.held.reserve key hfewer ?_ ?_
        · intro handle hhandle hid
          exact hfresh handle hhandle (hid ▸ hraw)
        intro handle hhandle
        split at hhandle
        · rcases List.mem_append.mp hhandle with hold | hnew
          · exact Or.inl hold
          · exact Or.inr (List.mem_singleton.mp hnew)
        · exact Or.inl hhandle
    show (settle o s.tables (some reserved)).protectedBytes now ≤ opts.protectedBytes
    rcases settle_cases o s.tables (some reserved) with hold | ⟨left, hnew, hleft⟩
    · rw [hold]
      exact hs.pool
    cases hnew
    rw [hleft]
    exact reserve_pool hs.invariant.quota hnow hs.pool hreserve

theorem step_pooled {parseMediaType : GoString -> Option GoString}
    {a : Action} (hs : Pooled opts now s) (hcovered : Covered now s a)
    (hstep : step opts parseMediaType s a = some next) : Pooled opts now next := by
  have hinv := step_invariant hs.invariant hstep
  have hsame : forall handle, handle ∈ s.handles -> exists known, known ∈ s.handles ∧
      known.id = handle.id ∧ known.priority = handle.priority :=
    fun handle hhandle => ⟨handle, hhandle, rfl, rfl⟩
  cases a with
  | reserve key priority raw o =>
    cases hstep
    exact stepReserve_pooled hs hcovered.left hcovered.right
  | stage i contentType body o =>
    rcases Option.bind_eq_some_iff.mp hstep with ⟨handle, hget, hphase⟩
    split at hphase
    · cases hphase
      revert hinv
      unfold stepStage
      split
      · exact fun hinv => hs.of_keeps hinv (Keeps.refl now s.tables) (known_setPhase hget _)
      exact fun hinv => hs.of_keeps hinv (Keeps.settle fun _ => stageCandidate_keeps)
        (known_setPhase hget _)
    · cases hphase
  | publish i o =>
    rcases Option.bind_eq_some_iff.mp hstep with ⟨handle, hget, hphase⟩
    split at hphase
    · rename_i image himage
      cases hphase
      have hplain := hcovered.right
      simp only [Sparing, hget, himage] at hplain
      exact hs.of_keeps hinv (Keeps.settle fun _ => publishImage_keeps
        (hs.held handle (List.mem_of_getElem? hget)) hplain) (known_setPhase hget _)
    · cases hphase
  | cancel i o =>
    have hcancel : forall handle, s.handles[i]? = some handle ->
        Invariant opts (stepCancel s i handle o) ->
          Pooled opts now (stepCancel s i handle o) :=
      fun handle hget hinv => hs.of_keeps hinv
        ((settle_fewer fun _ => releaseReservation_fewer).keeps now) (known_setPhase hget _)
    rcases Option.bind_eq_some_iff.mp hstep with ⟨handle, hget, hphase⟩
    split at hphase
    · cases hphase
      exact hcancel handle hget hinv
    · cases hphase
      exact hcancel handle hget hinv
    · cases hphase
  | sweep o =>
    cases hstep
    exact hs.of_keeps hinv ((settle_fewer fun _ => sweep_fewer).keeps now) hsame
  | evictLowPriority o =>
    cases hstep
    exact hs.of_keeps hinv ((settle_fewer fun _ => evictLowPriority_fewer).keeps now) hsame
  | recover o =>
    cases hstep
    exact hs.of_keeps hinv ((settle_fewer fun _ => recoverRows_fewer).keeps now) hsame

end Steps

/-- After every sequence of covered transactions, whatever fails in them, the figure is
within the pool at every time that no transaction is after. -/
theorem protected_pool (opts : SharedOptions) (parseMediaType : GoString -> Option GoString)
    {s t : State} {actions : List Action} {start now : Instant} (hbacked : Held s)
    (hquota : WithinQuota opts s.tables) (hpool : WithinPool opts start s.tables)
    (hstart : start ≤ now) (hcovered : Along (step opts parseMediaType) (Covered now) s actions)
    (hrun : run (step opts parseMediaType) s actions = some t) :
    WithinPool opts now t.tables := by
  have hinvariant : Invariant opts s :=
    ⟨hquota, fun handle hhandle row hrow => (hbacked handle hhandle row hrow).left⟩
  have hinitial : s.tables.protectedBytes now ≤ opts.protectedBytes :=
    ((Fewer.refl s.tables).protectedBytes_le hstart).trans ((withinPool_iff hquota).mp hpool)
  have hpooled : Pooled opts now t :=
    run_invariant (fun _ _ _ hs hcond hstep => step_pooled hs hcond hstep)
      ⟨hinvariant, hbacked, hinitial⟩ hcovered hrun
  exact (withinPool_iff hpooled.invariant.quota).mpr hpooled.pool

def smallPool : SharedOptions :=
  { defaultOptions with
    protectedBytes := reservationBytes + 1 + blobOverhead + variantOverhead
    protected_le := by decide }

def protectedTransfers : List Action :=
  [.reserve (List.replicate 64 97) .protectedTier (some (List.replicate 32 48)) smooth,
    .stage 0 (str "image/png") (str "a") smooth, .publish 0 smooth,
    .reserve (List.replicate 64 97) .low (some (List.replicate 32 49)) smooth,
    .reserve (List.replicate 64 98) .protectedTier (some (List.replicate 32 50)) smooth]

theorem protected_pool_filled :
    exists t, run (step smallPool some) ⟨emptyTables, []⟩ protectedTransfers = some t ∧
      t.tables.protectedBytes 0 = smallPool.protectedBytes ∧ WithinPool smallPool 0 t.tables := by
  have hcheck : ((run (step smallPool some) ⟨emptyTables, []⟩ protectedTransfers).any fun t =>
      t.tables.protectedBytes 0 == smallPool.protectedBytes) = true := by
    decide +kernel
  have hcovered : Along (step smallPool some) (Covered 0) ⟨emptyTables, []⟩
      protectedTransfers := by
    decide +kernel
  have hempty : WithinQuota smallPool emptyTables := ⟨by decide, by decide⟩
  rcases exists_of_any hcheck with ⟨t, hrun, hbytes⟩
  refine ⟨t, hrun, by simpa using hbytes, protected_pool smallPool some ?_ hempty ?_
    (le_refl 0) hcovered hrun⟩
  · intro handle hhandle
    cases hhandle
  · exact (withinPool_iff hempty).mpr (by decide)

/-- The low reservation publishes a larger image under the key of the protected one, whose
tier it keeps without having been counted. -/
theorem protected_pool_exceeded :
    exists t, run (step smallPool some) ⟨emptyTables, []⟩
        (protectedTransfers ++ [.stage 1 (str "image/png") (str "ab") smooth,
          .publish 1 smooth]) = some t ∧ t.tables.protectedBytes 0 = smallPool.protectedBytes + 1 ∧
      ¬ WithinPool smallPool 0 t.tables := by
  have hcheck : ((run (step smallPool some) ⟨emptyTables, []⟩
      (protectedTransfers ++ [.stage 1 (str "image/png") (str "ab") smooth,
        .publish 1 smooth])).any fun t =>
          t.tables.protectedBytes 0 == smallPool.protectedBytes + 1 &&
            decide (smallPool.protectedBytes < int64 (t.tables.protectedBytes 0))) = true := by
    decide +kernel
  rcases exists_of_any hcheck with ⟨t, hrun, hboth⟩
  rw [Bool.and_eq_true, beq_iff_eq, decide_eq_true_eq] at hboth
  refine ⟨t, hrun, hboth.left, ?_⟩
  intro hpool
  exact absurd hboth.right (not_lt.mpr hpool.figure)

end ReplxEdge.Artwork
