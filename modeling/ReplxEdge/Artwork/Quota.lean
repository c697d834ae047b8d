import ReplxEdge.Artwork.Deletions

/-!
# The artwork quota

Bodies, references, reservations and untracked files together stay within the budget,
and there are never more reservations than allowed. Only two transactions add rows.
A reservation is admitted against the whole budget, and an image that is published
takes at most the space that its reservation gives back.
-/

namespace ReplxEdge.Artwork

open Foundation

variable {t left : Tables} {opts : SharedOptions} {id : GoString} {s : State} {handle : Handle}

structure WithinQuota (opts : SharedOptions) (t : Tables) : Prop where
  bytes : t.payloadBytes + t.metadataBytes + t.reservedBytes + t.untrackedBytes ≤
    opts.maxBytes
  reservations : t.reservationCount ≤ opts.maxReservations

/-- Every reservation object that still has a row has reserved a whole transfer. -/
def Backed (s : State) : Prop :=
  forall handle, handle ∈ s.handles ->
    forall row, s.tables.reservations.lookup handle.id = some row ->
      row.reservedBytes = reservationBytes

/-!
## Transactions that add nothing
-/

/-- No count and no sum grows, and reservations keep their size. -/
structure NoLarger (t left : Tables) : Prop where
  payload : left.payloadBytes ≤ t.payloadBytes
  blobs : left.blobCount ≤ t.blobCount
  variants : left.variantCount ≤ t.variantCount
  reserved : left.reservedBytes ≤ t.reservedBytes
  reservations : left.reservationCount ≤ t.reservationCount
  untracked : left.untrackedBytes = t.untrackedBytes
  rows : forall id row, left.reservations.lookup id = some row ->
    exists old, t.reservations.lookup id = some old ∧ old.reservedBytes = row.reservedBytes

namespace NoLarger

theorem refl (t : Tables) : NoLarger t t :=
  ⟨le_rfl, le_rfl, le_rfl, le_rfl, le_rfl, rfl, fun _ row h => ⟨row, h, rfl⟩⟩

theorem totalBytes_le (h : NoLarger t left) :
    left.totalBytes ≤ t.totalBytes := by
  have hpayload := h.payload
  have hblobs := h.blobs
  have hvariants := h.variants
  have hreserved := h.reserved
  have huntracked := h.untracked
  unfold Tables.totalBytes Tables.metadataBytes blobOverhead variantOverhead
  omega

theorem withinQuota (h : NoLarger t left) (hquota : WithinQuota opts t) : WithinQuota opts left :=
  ⟨h.totalBytes_le.trans hquota.bytes, h.reservations.trans hquota.reservations⟩

end NoLarger

theorem Fewer.noLarger (h : Fewer t left) : NoLarger t left where
  payload := Table.weigh_mono h.blobs _
  blobs := Table.weigh_mono h.blobs _
  variants := Table.weigh_mono h.variants _
  reserved := Table.weigh_mono h.reservations _
  reservations := h.reservationCount_le
  untracked := h.untracked
  rows := fun id row hrow => ⟨row, h.reservations id row hrow, rfl⟩

variable {o : Outside}

theorem stageCandidate_noLarger {digest : GoString}
    (h : stageCandidate o t id digest = some left) : NoLarger t left := by
  rcases stageCandidate_row h with ⟨row, hrow, rfl⟩
  have hbytes := Table.weigh_delete_add hrow fun _ found => found.reservedBytes
  have hcount := Table.weigh_delete_add hrow fun _ _ => 1
  refine ⟨le_rfl, le_rfl, le_rfl, ?_, ?_, rfl, ?_⟩
  · unfold Tables.reservedBytes Tables.setReservation
    rw [Table.weigh_set, Nat.add_comm]
    exact hbytes
  · unfold Tables.reservationCount Tables.setReservation
    rw [Table.weigh_set]
    omega
  intro other found hfound
  unfold Tables.setReservation at hfound
  rw [Table.lookup_set] at hfound
  split at hfound
  · rename_i hsame
    cases hfound
    exact ⟨row, hsame ▸ hrow, rfl⟩
  · exact ⟨found, hfound, rfl⟩

/-!
## Making room
-/

variable {now : Instant}

theorem hasRoom_total {free : Option Nat} {protectedNeed : Nat} {p : Pressure}
    {st : Stats} (hstats : stats now free t = some st)
    (hroom : hasRoom opts reservationBytes protectedNeed p st = true)
    (hbytes : t.totalBytes ≤ opts.maxBytes) :
    t.totalBytes + reservationBytes ≤ opts.maxBytes := by
  have hconfigured := opts.configured
  have hreservation : reservationBytes = 8393728 := rfl
  rcases Option.map_eq_some_iff.mp hstats with ⟨_, _, rfl⟩
  unfold hasRoom at hroom
  rw [Bool.and_eq_true, Bool.and_eq_true, Bool.and_eq_true, decide_eq_true_eq] at hroom
  have hsum := hroom.left.left.left
  simp only at hsum
  rw [int64_eq (n := (t.totalBytes : Int)) (by omega) (by omega),
    int64_eq (by omega) (by omega)] at hsum
  omega

/-!
## Transactions that add rows
-/

variable {priority : Priority}

theorem reserve_room {reserved : Tables} {raw : Option GoString} (hquota : WithinQuota opts t)
    (h : reserve opts o t priority raw = .reserved reserved id) :
    exists left, NoLarger t left ∧ left.totalBytes + reservationBytes ≤ opts.maxBytes ∧
      left.reservationCount < opts.maxReservations ∧
      reserved = left.setReservation id (freshReservation priority o.now) := by
  rcases reserve_reserved h with ⟨left, free, st, p, hfewer, hcount, hstats, htest, _, hrows⟩
  have hbytes := (hfewer.noLarger.withinQuota hquota).bytes
  exact ⟨left, hfewer.noLarger, hasRoom_total hstats htest hbytes, hcount, hrows⟩

theorem setReservation_withinQuota (id : GoString) (priority : Priority) (now : Instant)
    (hbytes : left.totalBytes + reservationBytes ≤ opts.maxBytes)
    (hcount : left.reservationCount < opts.maxReservations) :
    WithinQuota opts (left.setReservation id (freshReservation priority now)) := by
  have hreserved : (left.setReservation id (freshReservation priority now)).reservedBytes ≤
      reservationBytes + left.reservedBytes := by
    unfold Tables.reservedBytes Tables.setReservation
    rw [Table.weigh_set]
    exact Nat.add_le_add_left (Table.weigh_delete_le _ _ _) _
  have hrows : (left.setReservation id (freshReservation priority now)).reservationCount ≤
      1 + left.reservationCount := by
    unfold Tables.reservationCount Tables.setReservation
    rw [Table.weigh_set]
    exact Nat.add_le_add_left (Table.weigh_delete_le _ _ _) _
  constructor
  · change left.payloadBytes + left.metadataBytes + _ + left.untrackedBytes ≤ opts.maxBytes
    unfold Tables.totalBytes at hbytes
    omega
  · omega

theorem publishRows_noLarger {row : ReservationRow} (hrow : t.reservations.lookup id = some row)
    (hwhole : row.reservedBytes = reservationBytes) (now : Instant) (key : GoString)
    (priority : Priority) (image : Image) :
    (publishRows t now id key priority image).totalBytes ≤ t.totalBytes ∧
      (publishRows t now id key priority image).reservationCount ≤ t.reservationCount := by
  have hpayload : (publishRows t now id key priority image).payloadBytes ≤
      image.body.length + t.payloadBytes := by
    unfold Tables.payloadBytes publishRows Tables.deleteReservation Tables.putVariant
    rw [Table.weigh_set]
    exact Nat.add_le_add_left (Table.weigh_delete_le _ _ _) _
  have hblobs : (publishRows t now id key priority image).blobCount ≤ 1 + t.blobCount := by
    unfold Tables.blobCount publishRows Tables.deleteReservation Tables.putVariant
    rw [Table.weigh_set]
    exact Nat.add_le_add_left (Table.weigh_delete_le _ _ _) _
  have hvariants : (publishRows t now id key priority image).variantCount ≤
      1 + t.variantCount := by
    unfold Tables.variantCount publishRows Tables.deleteReservation Tables.putVariant
    rw [Table.weigh_set]
    exact Nat.add_le_add_left (Table.weigh_delete_le _ _ _) _
  have hreserved : (publishRows t now id key priority image).reservedBytes +
      row.reservedBytes ≤ t.reservedBytes :=
    Table.weigh_delete_add hrow fun _ found => found.reservedBytes
  have huntracked : (publishRows t now id key priority image).untrackedBytes =
      t.untrackedBytes := rfl
  have hcapped := image.capped
  have hreservation : reservationBytes = maxBodyBytes + variantOverhead + blobOverhead := rfl
  constructor
  · unfold Tables.totalBytes Tables.metadataBytes
    unfold blobOverhead variantOverhead at *
    omega
  · exact Table.weigh_delete_le _ _ _

theorem publishRows_rows {key : GoString} {image : Image} {other : GoString} {row : ReservationRow}
    (h : (publishRows t now id key priority image).reservations.lookup other = some row) :
    t.reservations.lookup other = some row :=
  Table.lookup_of_delete h

/-!
## Runs
-/

structure Invariant (opts : SharedOptions) (s : State) : Prop where
  quota : WithinQuota opts s.tables
  backed : Backed s

theorem Invariant.of_noLarger (hs : Invariant opts s) (h : NoLarger s.tables left)
    {handles : List Handle} (hids : forall handle, handle ∈ handles ->
      exists known, known ∈ s.handles ∧ known.id = handle.id) :
    Invariant opts ⟨left, handles⟩ where
  quota := h.withinQuota hs.quota
  backed := by
    intro handle hhandle row hrow
    rcases hids handle hhandle with ⟨known, hknown, hid⟩
    rcases h.rows handle.id row hrow with ⟨old, hold, hbytes⟩
    rw [← hbytes]
    exact hs.backed known hknown old (hid ▸ hold)

theorem known_ids (s : State) : forall handle, handle ∈ s.handles ->
    exists known, known ∈ s.handles ∧ known.id = handle.id :=
  fun handle hhandle => ⟨handle, hhandle, rfl⟩

variable {i : Nat}

theorem known_ids_setPhase (hget : s.handles[i]? = some handle) (phase : Phase) :
    forall other, other ∈ (s.setPhase i handle phase).handles ->
      exists known, known ∈ s.handles ∧ known.id = other.id := by
  intro other hother
  rcases List.mem_or_eq_of_mem_set hother with hold | hnew
  · exact ⟨other, hold, rfl⟩
  · exact ⟨handle, List.mem_of_getElem? hget, by rw [hnew]⟩

theorem stepReserve_invariant (hs : Invariant opts s)
    (key : GoString) (priority : Priority) (raw : Option GoString) (o : Outside) :
    Invariant opts (stepReserve opts s key priority raw o) := by
  unfold stepReserve
  split
  · exact hs
  cases hreserve : reserve opts o s.tables priority raw with
  | error => exact hs
  | capacity left =>
    refine hs.of_noLarger (settle_fewer ?_).noLarger (known_ids s)
    intro found hfound
    cases hfound
    exact reserve_capacity hreserve
  | reserved reserved id =>
    rcases reserve_room hs.quota hreserve with ⟨left, hleft, hbytes, hcount, rfl⟩
    simp only
    -- a row under the id of any object is an old one or a whole reservation
    have hwhole : forall other row,
        (left.setReservation id (freshReservation priority o.now)).reservations.lookup
          other = some row ->
        row.reservedBytes = reservationBytes ∨
          left.reservations.lookup other = some row := by
      intro other row hrow
      rcases Table.lookup_set_cases hrow with hnew | hold
      · left
        rw [hnew]
        rfl
      · exact Or.inr hold
    have hid : (left.setReservation id
        (freshReservation priority o.now)).reservations.lookup id =
          some (freshReservation priority o.now) := by
      unfold Tables.setReservation
      rw [Table.lookup_set, if_pos rfl]
    cases hcommitted : o.committed with
    | false =>
      have hunconfirmed : o.confirmed = false := by
        unfold Outside.confirmed
        rw [hcommitted, Bool.false_and]
      unfold settle
      simp only [hcommitted, hunconfirmed, Bool.false_eq_true, if_false]
      exact hs
    | true =>
      unfold settle
      simp only [hcommitted, if_true]
      refine ⟨setReservation_withinQuota id priority o.now hbytes hcount, ?_⟩
      intro handle hhandle row hrow
      rcases hwhole handle.id row hrow with hbytes' | hold
      · exact hbytes'
      split at hhandle
      · rcases List.mem_append.mp hhandle with hknown | hnew
        · rcases hleft.rows handle.id row hold with ⟨old, hfound, hsame⟩
          rw [← hsame]
          exact hs.backed handle hknown old hfound
        rw [List.mem_singleton] at hnew
        rw [hnew] at hrow
        have hsame := hrow.symm.trans hid
        cases hsame
        rfl
      rcases hleft.rows handle.id row hold with ⟨old, hfound, hsame⟩
      rw [← hsame]
      exact hs.backed handle hhandle old hfound

theorem stepStage_invariant (hs : Invariant opts s)
    (parseMediaType : GoString -> Option GoString) (hget : s.handles[i]? = some handle)
    (contentType body : GoString) (o : Outside) :
    Invariant opts (stepStage parseMediaType s i handle contentType body o) := by
  unfold stepStage
  split
  · exact hs.of_noLarger (NoLarger.refl s.tables) (known_ids_setPhase hget _)
  refine hs.of_noLarger ?_ (known_ids_setPhase hget _)
  rcases settle_cases o s.tables (stageCandidate o s.tables handle.id _) with
    hold | ⟨left, hstaged, hleft⟩
  · rw [hold]
    exact NoLarger.refl s.tables
  rw [hleft]
  exact stageCandidate_noLarger hstaged

theorem stepPublish_invariant (hs : Invariant opts s)
    (hget : s.handles[i]? = some handle) (image : Image)
    (o : Outside) : Invariant opts (stepPublish opts s i handle image o) := by
  unfold stepPublish
  cases hpublish : publishImage opts o s.tables handle.id handle.key handle.priority image with
  | none => exact hs.of_noLarger (NoLarger.refl s.tables) (known_ids_setPhase hget _)
  | some left =>
    rcases publishImage_rows hpublish with ⟨⟨row, hrow⟩, hfewer⟩
    have hleft := hfewer.noLarger
    have hwhole := hs.backed handle (List.mem_of_getElem? hget) row hrow
    have hrows := publishRows_noLarger hrow hwhole o.now handle.key handle.priority image
    cases hcommitted : o.committed with
    | false =>
      unfold settle
      simp only [hcommitted, Bool.false_eq_true, if_false]
      exact hs.of_noLarger (NoLarger.refl s.tables) (known_ids_setPhase hget _)
    | true =>
      unfold settle
      simp only [hcommitted, if_true]
      refine ⟨hleft.withinQuota
        ⟨hrows.left.trans hs.quota.bytes, hrows.right.trans hs.quota.reservations⟩, ?_⟩
      intro other hother found hfound
      rcases known_ids_setPhase hget _ other hother with ⟨known, hknown, hid⟩
      rcases hleft.rows other.id found hfound with ⟨old, hold, hbytes⟩
      rw [← hbytes]
      exact hs.backed known hknown old (hid ▸ publishRows_rows hold)

theorem stepCancel_invariant (hs : Invariant opts s)
    (hget : s.handles[i]? = some handle) (o : Outside) :
    Invariant opts (stepCancel s i handle o) := by
  unfold stepCancel
  exact hs.of_noLarger (settle_fewer fun _ h => releaseReservation_fewer h).noLarger
    (known_ids_setPhase hget _)

theorem step_invariant {parseMediaType : GoString -> Option GoString} {t : State} {a : Action}
    (hs : Invariant opts s) (hstep : step opts parseMediaType s a = some t) :
    Invariant opts t := by
  cases a with
  | reserve key priority raw o =>
    cases hstep
    exact stepReserve_invariant hs key priority raw o
  | stage i contentType body o =>
    rcases Option.bind_eq_some_iff.mp hstep with ⟨handle, hget, hphase⟩
    split at hphase
    · cases hphase
      exact stepStage_invariant hs parseMediaType hget contentType body o
    · cases hphase
  | publish i o =>
    rcases Option.bind_eq_some_iff.mp hstep with ⟨handle, hget, hphase⟩
    split at hphase
    · cases hphase
      exact stepPublish_invariant hs hget _ o
    · cases hphase
  | cancel i o =>
    rcases Option.bind_eq_some_iff.mp hstep with ⟨handle, hget, hphase⟩
    split at hphase
    · cases hphase
      exact stepCancel_invariant hs hget o
    · cases hphase
      exact stepCancel_invariant hs hget o
    · cases hphase
  | sweep o =>
    cases hstep
    exact hs.of_noLarger (settle_fewer fun _ h => sweep_fewer h).noLarger (known_ids s)
  | evictLowPriority o =>
    cases hstep
    exact hs.of_noLarger (settle_fewer fun _ h => evictLowPriority_fewer h).noLarger
      (known_ids s)
  | recover o =>
    cases hstep
    exact hs.of_noLarger (settle_fewer fun _ h => recoverRows_fewer h).noLarger (known_ids s)

/-- The budget and the number of reservations hold after every sequence of
transactions, whatever fails in them. -/
theorem artwork_quota (opts : SharedOptions)
    (parseMediaType : GoString -> Option GoString) {s t : State} {actions : List Action}
    (hbacked : Backed s) (hquota : WithinQuota opts s.tables)
    (hrun : run (step opts parseMediaType) s actions = some t) :
    WithinQuota opts t.tables := by
  have hinvariant : Invariant opts t :=
    run_keeps (fun _ _ _ hs hstep => step_invariant hs hstep) ⟨hquota, hbacked⟩ hrun
  exact hinvariant.quota

def defaultOptions : SharedOptions where
  maxBytes := 100 * 2 ^ 30
  minFreeBytes := 30 * 2 ^ 30
  lowWatermarkBytes := 90 * 2 ^ 30
  protectedBytes := 5 * 2 ^ 30
  maxReservations := 32
  positive := by decide
  lowWatermark_le := by decide
  protected_le := by decide
  reservations_pos := by decide
  reservations_le := by decide
  configured := by decide

def emptyTables : Tables where
  blobs := Table.empty
  variants := Table.empty
  reservations := Table.empty
  untrackedBytes := 0
  referenced := by
    intro key v h
    cases h

def smooth : Outside where
  now := 0
  removeFails := fun _ => false
  writeFails := false
  missing := fun _ => false
  free := fun _ => some (200 * 2 ^ 30)
  blobOrder := Order.stored _
  variantOrder := Order.stored _
  committed := true
  acknowledged := true

def twoTransfers : List Action :=
  [.reserve (List.replicate 64 97) .high (some (List.replicate 32 48)) smooth,
    .reserve (List.replicate 64 98) .low (some (List.replicate 32 49)) smooth,
    .stage 0 (str "image/png") (str "poster") smooth, .publish 0 smooth,
    .cancel 1 smooth]

theorem artwork_quota_two_transfers :
    exists t, run (step defaultOptions some) ⟨emptyTables, []⟩ twoTransfers = some t ∧
      t.tables.blobCount = 1 ∧ t.tables.reservationCount = 0 ∧
      WithinQuota defaultOptions t.tables := by
  have hcheck : ((run (step defaultOptions some) ⟨emptyTables, []⟩ twoTransfers).any fun t =>
      t.tables.blobCount == 1 && t.tables.reservationCount == 0) = true := by
    decide +kernel
  rcases exists_of_any hcheck with ⟨t, hrun, hcounts⟩
  rw [Bool.and_eq_true, beq_iff_eq, beq_iff_eq] at hcounts
  refine ⟨t, hrun, hcounts.left, hcounts.right,
    artwork_quota defaultOptions some ?_ ?_ hrun⟩
  · intro handle hhandle
    cases hhandle
  · exact ⟨by decide, by decide⟩

end ReplxEdge.Artwork
