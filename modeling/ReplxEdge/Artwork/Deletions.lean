import ReplxEdge.Artwork.Store

/-!
# Transactions that delete

Tidying up, eviction and recovery only delete rows, and so do the first parts of a
reservation. What they leave is compared with what they found; sums and figures over the
tables follow from that.
-/

namespace ReplxEdge.Artwork

open Foundation

variable {t left : Tables} {o : Outside} {id : GoString} {opts : SharedOptions}
variable {priority : Priority} {raw : Option GoString}

structure Fewer (t left : Tables) : Prop where
  blobs : forall digest blob, left.blobs.lookup digest = some blob ->
    t.blobs.lookup digest = some blob
  variants : forall key v, left.variants.lookup key = some v ->
    t.variants.lookup key = some v
  reservations : forall id row, left.reservations.lookup id = some row ->
    t.reservations.lookup id = some row
  untracked : left.untrackedBytes = t.untrackedBytes

namespace Fewer

theorem refl (t : Tables) : Fewer t t :=
  ⟨fun _ _ h => h, fun _ _ h => h, fun _ _ h => h, rfl⟩

theorem trans {a b c : Tables} (hab : Fewer a b) (hbc : Fewer b c) : Fewer a c where
  blobs := fun digest blob h => hab.blobs digest blob (hbc.blobs digest blob h)
  variants := fun key v h => hab.variants key v (hbc.variants key v h)
  reservations := fun id row h => hab.reservations id row (hbc.reservations id row h)
  untracked := hbc.untracked.trans hab.untracked

theorem reservationCount_le (h : Fewer t left) :
    left.reservationCount ≤ t.reservationCount :=
  Table.weigh_mono h.reservations _

end Fewer

theorem deleteBlob_fewer (t : Tables) (digest : GoString) :
    Fewer t (t.deleteBlob digest) where
  blobs := fun _ _ h => Table.lookup_of_delete h
  variants := fun _ _ h => Table.lookup_of_keep h
  reservations := fun _ _ h => h
  untracked := rfl

theorem deleteVariants_fewer (t : Tables) (keys : List GoString) :
    Fewer t (t.deleteVariants keys) where
  blobs := fun _ _ h => h
  variants := fun _ _ h => Table.lookup_of_keep h
  reservations := fun _ _ h => h
  untracked := rfl

theorem deleteReservation_fewer (t : Tables) (id : GoString) :
    Fewer t (t.deleteReservation id) where
  blobs := fun _ _ h => h
  variants := fun _ _ h => h
  reservations := fun _ _ h => Table.lookup_of_delete h
  untracked := rfl

theorem removeBlob_fewer {digest : GoString}
    (h : removeBlob o t digest = some left) : Fewer t left := by
  unfold removeBlob at h
  split at h
  · cases h
  split at h
  · cases h
  cases h
  exact deleteBlob_fewer t digest

theorem releaseReservation_fewer (h : releaseReservation o t id = some left) : Fewer t left := by
  unfold releaseReservation at h
  split at h
  · cases h
  cases hrow : t.reservations.lookup id with
  | none =>
    rw [hrow] at h
    cases h
    exact Fewer.refl t
  | some row =>
    rw [hrow] at h
    simp only at h
    cases hcandidate : row.candidateDigest with
    | none =>
      rw [hcandidate] at h
      cases h
      exact deleteReservation_fewer t id
    | some digest =>
      rw [hcandidate] at h
      simp only at h
      split at h
      · cases h
      split at h
      · cases h
      cases h
      exact deleteReservation_fewer t id

theorem releaseExpired_fewer (h : releaseExpired o t id = some left) : Fewer t left := by
  unfold releaseExpired at h
  split at h
  · cases h
  · exact releaseReservation_fewer h

theorem cleanExpired_fewer (h : cleanExpired o t = some left) : Fewer t left :=
  foldlM_invariant (fun _ _ _ hs hstep => hs.trans (releaseExpired_fewer hstep))
    (Fewer.refl t) h

variable {digests : List GoString}

theorem removeBlobs_fewer (h : digests.foldlM (removeBlob o) t = some left) : Fewer t left :=
  foldlM_invariant (fun _ _ _ hs hstep => hs.trans (removeBlob_fewer hstep))
    (Fewer.refl t) h

theorem deleteBlobs_fewer (digests : List GoString) (t : Tables) :
    Fewer t (digests.foldl Tables.deleteBlob t) := by
  induction digests generalizing t with
  | nil => exact Fewer.refl t
  | cons digest rest ih => exact (deleteBlob_fewer t digest).trans (ih (t.deleteBlob digest))

/-!
## Making room
-/

/-- The bodies that `evictUntil` removes, one after the other. -/
def evicted (o : Outside) (room : Stats -> Bool) : Nat -> List GoString -> Tables -> List GoString
  | _, [], _ => []
  | probe, digest :: rest, t =>
    match removeBlob o t digest with
    | none => evicted o room probe rest t
    | some left =>
      digest :: match stats o.now (o.free probe) left with
        | none => []
        | some st => if room st then [] else evicted o room (probe + 1) rest left

/-- The bodies that `makeRoom` removes, one after the other. -/
def victims (opts : SharedOptions) (o : Outside) (probe : Nat) (t : Tables)
    (priority : Priority) (need protectedNeed : Nat) : List GoString :=
  match stats o.now (o.free probe) t with
  | none => []
  | some st =>
    let room := hasRoom opts need protectedNeed (pressureOf opts need st)
    if room st then []
    else evicted o room (probe + 1) (evictionCandidates o t priority) t

theorem removeBlob_eq {digest : GoString} (h : removeBlob o t digest = some left) :
    left = t.deleteBlob digest := by
  unfold removeBlob at h
  repeat' split at h
  all_goals cases h
  rfl

theorem evicted_spec (o : Outside) (room : Stats -> Bool) (probe : Nat)
    (digests : List GoString) (t : Tables) :
    (evictUntil o room probe digests t).tables =
        (evicted o room probe digests t).foldl Tables.deleteBlob t ∧
      (evicted o room probe digests t).Sublist digests := by
  induction digests generalizing probe t with
  | nil => exact ⟨rfl, List.Sublist.refl _⟩
  | cons digest rest ih =>
    unfold evictUntil evicted
    cases hremove : removeBlob o t digest with
    | none => exact ⟨(ih probe t).left, (ih probe t).right.cons digest⟩
    | some left =>
      cases removeBlob_eq hremove
      have hlast : [digest].Sublist (digest :: rest) := (List.nil_sublist rest).cons_cons digest
      cases hstats : stats o.now (o.free probe) (t.deleteBlob digest) with
      | none => simp [hstats, hlast, Room.tables]
      | some st =>
        by_cases hroom : room st = true
        · simp [hstats, hroom, hlast, Room.tables]
        have hnext := ih (probe + 1) (t.deleteBlob digest)
        simp [hstats, hroom, hnext]

theorem evictUntil_fewer (o : Outside) (room : Stats -> Bool) (probe : Nat)
    (digests : List GoString) (t : Tables) :
    Fewer t (evictUntil o room probe digests t).tables := by
  rw [(evicted_spec o room probe digests t).left]
  exact deleteBlobs_fewer _ t

theorem makeRoom_fewer (opts : SharedOptions) (o : Outside) (probe : Nat) (t : Tables)
    (priority : Priority) (need protectedNeed : Nat) :
    Fewer t (makeRoom opts o probe t priority need protectedNeed).tables := by
  unfold makeRoom
  split
  · exact Fewer.refl t
  simp only
  split
  · exact Fewer.refl t
  · exact evictUntil_fewer o _ _ _ t

variable {probe : Nat}

/-- Every body that goes takes one probe of the free space, the last one on what is left. -/
theorem evictUntil_made {room : Stats -> Bool}
    (h : evictUntil o room (probe + 1) digests t = .made left) :
    exists st, stats o.now (o.free (probe + (evicted o room (probe + 1) digests t).length))
      left = some st ∧ room st = true := by
  induction digests generalizing probe t with
  | nil => cases h
  | cons digest rest ih =>
    unfold evictUntil at h
    unfold evicted
    cases hremove : removeBlob o t digest with
    | none =>
      rw [hremove] at h
      exact ih h
    | some kept =>
      rw [hremove] at h
      simp only at h ⊢
      cases hstats : stats o.now (o.free (probe + 1)) kept with
      | none =>
        rw [hstats] at h
        cases h
      | some st =>
        rw [hstats] at h
        simp only at h ⊢
        split at h
        · rename_i hroom
          cases h
          exact ⟨st, by simpa [hroom] using hstats, hroom⟩
        · rename_i hroom
          rcases ih h with ⟨st', hst', hroom'⟩
          exact ⟨st', by simpa [hroom, Nat.add_assoc, Nat.add_comm] using hst', hroom'⟩

theorem makeRoom_made {need protectedNeed : Nat}
    (h : makeRoom opts o probe t priority need protectedNeed = .made left) :
    exists first st, stats o.now (o.free probe) t = some first ∧
      stats o.now (o.free (probe +
        (victims opts o probe t priority need protectedNeed).length)) left = some st ∧
      hasRoom opts need protectedNeed (pressureOf opts need first) st = true := by
  unfold makeRoom at h
  unfold victims
  cases hstats : stats o.now (o.free probe) t with
  | none =>
    rw [hstats] at h
    cases h
  | some st =>
    rw [hstats] at h
    simp only at h ⊢
    split at h
    · rename_i hroom
      cases h
      exact ⟨st, st, rfl, by simpa [hroom] using hstats, hroom⟩
    · rename_i hroom
      rcases evictUntil_made h with ⟨st', hstats', hroom'⟩
      exact ⟨st, st', rfl, by simpa [hroom] using hstats', hroom'⟩

/-!
## What reservations and publications delete
-/

/-- What an attempt that ends without an error did: it tidied up, found a free
reservation and tried to make room. -/
theorem reserve_cases {result : ReserveResult}
    (h : reserve opts o t priority raw = result) (hdone : result ≠ .error) :
    exists pruned room, Fewer t pruned ∧ pruned.reservationCount < opts.maxReservations ∧
      makeRoom opts o 1 pruned priority reservationBytes
        (if priority = .protectedTier then reservationBytes else 0) = room ∧
      ((exists left, room = .short left ∧ result = .capacity left) ∨
        (exists left id, room = .made left ∧ raw = some id ∧ result = .reserved
            (left.setReservation id (freshReservation priority o.now)) id)) := by
  subst h
  cases hclean : cleanExpired o t with
  | none =>
    simp [reserve, hclean] at hdone
  | some cleaned =>
    cases hstats : stats o.now (o.free 0) (pruneExpiredBatch o cleaned) with
    | none =>
      simp [reserve, hclean, hstats] at hdone
    | some st =>
      have hreservations : st.reservations =
          (pruneExpiredBatch o cleaned).reservationCount := by
        rcases Option.map_eq_some_iff.mp hstats with ⟨_, _, rfl⟩
        rfl
      by_cases hcount : st.reservations ≥ opts.maxReservations
      · simp [reserve, hclean, hstats, hcount] at hdone
      refine ⟨pruneExpiredBatch o cleaned, _,
        (cleanExpired_fewer hclean).trans (deleteVariants_fewer cleaned _),
        by omega, rfl, ?_⟩
      simp only [reserve, hclean, hstats, if_neg hcount] at hdone ⊢
      split at hdone
      · exact absurd rfl hdone
      · rename_i left hroom
        exact Or.inl ⟨left, hroom, rfl⟩
      rename_i left hroom
      right
      split at hdone
      · exact absurd rfl hdone
      rename_i id
      split at hdone
      · exact absurd rfl hdone
      rename_i hfree
      exact ⟨left, id, hroom, rfl, if_neg hfree⟩

theorem reserve_reserved {reserved : Tables}
    (h : reserve opts o t priority raw = .reserved reserved id) :
    exists left free st p, Fewer t left ∧ left.reservationCount < opts.maxReservations ∧
      stats o.now free left = some st ∧ hasRoom opts reservationBytes
        (if priority = .protectedTier then reservationBytes else 0) p st = true ∧ raw = some id ∧
      reserved = left.setReservation id (freshReservation priority o.now) := by
  rcases reserve_cases h (by simp) with ⟨pruned, room, hpruned, hcount, hroom, hshort | hmade⟩
  · rcases hshort with ⟨left, _, hcapacity⟩
    cases hcapacity
  rcases hmade with ⟨left, fresh, hleft, hraw, hreserved⟩
  rcases ReserveResult.reserved.inj hreserved with ⟨hrows, hid⟩
  have hfewer := makeRoom_fewer opts o 1 pruned priority reservationBytes
    (if priority = .protectedTier then reservationBytes else 0)
  rw [hroom, hleft] at hfewer
  rcases makeRoom_made (hroom.trans hleft) with ⟨first, st, _, hstats, htest⟩
  exact ⟨left, _, st, _, hpruned.trans hfewer,
    lt_of_le_of_lt hfewer.reservationCount_le hcount, hstats, htest, hid ▸ hraw, hid ▸ hrows⟩

theorem reserve_capacity (h : reserve opts o t priority raw = .capacity left) : Fewer t left := by
  rcases reserve_cases h (by simp) with ⟨pruned, room, hpruned, _, hroom, hshort | hmade⟩
  · rcases hshort with ⟨kept, hkept, hcapacity⟩
    cases hcapacity
    have hfewer := makeRoom_fewer opts o 1 pruned priority reservationBytes
      (if priority = .protectedTier then reservationBytes else 0)
    rw [hroom, hkept] at hfewer
    exact hpruned.trans hfewer
  rcases hmade with ⟨kept, fresh, _, _, hreserved⟩
  cases hreserved

theorem stageCandidate_row {digest : GoString} (h : stageCandidate o t id digest = some left) :
    exists row, t.reservations.lookup id = some row ∧
      left = t.setReservation id { row with candidateDigest := some digest } := by
  unfold stageCandidate at h
  split at h
  · cases h
  rename_i row hrow
  rw [hrow]
  split at h
  · exact ⟨row, rfl, (Option.some.inj h).symm⟩
  · cases h

theorem publishImage_rows {key : GoString} {image : Image}
    (h : publishImage opts o t id key priority image = some left) :
    (exists row, t.reservations.lookup id = some row) ∧
      Fewer (publishRows t o.now id key priority image) left := by
  unfold publishImage at h
  cases hrow : t.reservations.lookup id with
  | none =>
    rw [hrow] at h
    cases h
  | some row =>
    refine ⟨⟨row, rfl⟩, ?_⟩
    rw [hrow] at h
    simp only at h
    split at h
    · split at h
      · cases h
      split at h
      · cases h
      split at h
      · cases h
      split at h
      · cases h
        exact Fewer.refl _
      split at h
      · exact removeBlob_fewer h
      cases h
      exact Fewer.refl _
    · cases h

/-!
## Maintenance
-/

theorem sweep_fewer (h : sweep opts o t = some left) : Fewer t left := by
  unfold sweep at h
  split at h
  · cases h
  rename_i cleaned hclean
  cases htidy : removeUnreferenced o (pruneExpiredBatch o cleaned) with
  | none =>
    rw [htidy] at h
    cases h
  | some tidy =>
    rw [htidy] at h
    have hleft : Fewer t tidy :=
      ((cleanExpired_fewer hclean).trans (deleteVariants_fewer cleaned _)).trans
        (removeBlobs_fewer htidy)
    simp only at h
    split at h
    · cases h
    split at h
    · cases h
    cases h
    split
    · exact hleft.trans (makeRoom_fewer opts o 1 tidy _ 0 0)
    · exact hleft

theorem evictLowPriority_fewer (h : evictLowPriority o t = some left) : Fewer t left := by
  unfold evictLowPriority at h
  split at h
  · cases h
  split at h
  · cases h
  rename_i evicted hremove
  split at h
  · cases h
  cases h
  exact removeBlobs_fewer hremove

theorem recoverRows_fewer (h : recoverRows o t = some left) :
    Fewer t left := by
  unfold recoverRows at h
  split at h
  · cases h
  rename_i cleaned hclean
  split at h
  · cases h
  rename_i tidy htidy
  cases h
  exact (((cleanExpired_fewer hclean).trans
    (deleteVariants_fewer cleaned _)).trans (removeBlobs_fewer htidy)).trans
      (deleteBlobs_fewer _ tidy)

theorem settle_cases (o : Outside) (t : Tables) (new : Option Tables) :
    settle o t new = t ∨ exists left, new = some left ∧ settle o t new = left := by
  unfold settle
  cases new with
  | none => exact Or.inl rfl
  | some left =>
    simp only
    split
    · exact Or.inr ⟨left, rfl, rfl⟩
    · exact Or.inl rfl

theorem settle_fewer {new : Option Tables}
    (h : forall left, new = some left -> Fewer t left) : Fewer t (settle o t new) := by
  rcases settle_cases o t new with hold | ⟨left, hnew, hleft⟩
  · rw [hold]
    exact Fewer.refl t
  rw [hleft]
  exact h left hnew

end ReplxEdge.Artwork
