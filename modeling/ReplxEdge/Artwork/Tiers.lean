import ReplxEdge.Artwork.Deletions
import ReplxEdge.Foundation.Ranking

/-!
# Eviction by tiers

A body that many variants share stands in the highest tier of those that have not expired.
Room is made from the lowest tier upwards and never above the tier of the incoming image.
-/

namespace ReplxEdge.Artwork

open Foundation

variable {t : Tables} {o : Outside} {now : Instant} {digest : GoString}

variable {v : Variant}

theorem rank_le_livePriority (h : v ∈ t.liveReferences now digest) :
    v.priority.rank ≤ livePriority t now digest := by
  have hmax : forall (l : List Nat) (n x : Nat), x ≤ n ∨ x ∈ l -> x ≤ l.foldl max n := by
    intro l
    induction l with
    | nil =>
      intro n x hx
      exact hx.resolve_right List.not_mem_nil
    | cons y rest ih =>
      intro n x hx
      apply ih
      rw [List.mem_cons] at hx
      rcases hx with hn | rfl | hrest
      · exact Or.inl (hn.trans (Nat.le_max_left n y))
      · exact Or.inl (Nat.le_max_right n x)
      · exact Or.inr hrest
  exact hmax _ 0 _ (Or.inr (List.mem_map.mpr ⟨v, h, rfl⟩))

theorem tier_of_evictionCandidates {priority : Priority}
    (h : digest ∈ evictionCandidates o t priority) :
    livePriority t o.now digest ≤ priority.rank := by
  rcases List.mem_map.mp h with ⟨entry, hentry, rfl⟩
  have hsorted := (List.mem_insertionSort _).mp (List.mem_of_mem_take hentry)
  exact of_decide_eq_true (List.mem_filter.mp hsorted).right

theorem evictionCandidates_ordered (o : Outside) (t : Tables) (priority : Priority) :
    (evictionCandidates o t priority).Pairwise fun a b =>
      livePriority t o.now a ≤ livePriority t o.now b := by
  refine List.pairwise_map.mpr (List.Pairwise.sublist (List.take_sublist _ _)
    (pairwise_insertionSort_rank ?_ ?_ _))
  · intro a b hab
    simp only [evictedFirst, Bool.or_eq_true, Bool.and_eq_true, decide_eq_true_eq,
      beq_iff_eq] at hab
    rcases hab with hlt | ⟨heq, _⟩
    · exact hlt.le
    · exact heq.le
  intro a b hab
  by_contra hless
  exact hab (by simp [evictedFirst, Nat.lt_of_not_le hless])

theorem low_of_lowPriorityDigests (h : digest ∈ lowPriorityDigests o t)
    (hv : v ∈ t.liveReferences o.now digest) : v.priority = .low := by
  rcases List.mem_map.mp h with ⟨entry, hentry, rfl⟩
  have hsorted := (List.mem_insertionSort _).mp (List.mem_of_mem_take hentry)
  have hrank := rank_le_livePriority hv
  rw [beq_iff_eq.mp (List.mem_filter.mp hsorted).right] at hrank
  cases hpriority : v.priority with
  | low => rfl
  | normal | high | protectedTier =>
    rw [hpriority] at hrank
    exact absurd hrank (by decide)

theorem removeBlobs_eq {digests : List GoString} {left : Tables}
    (h : digests.foldlM (removeBlob o) t = some left) :
    left = digests.foldl Tables.deleteBlob t := by
  induction digests generalizing t with
  | nil =>
    cases h
    rfl
  | cons digest rest ih =>
    rw [List.foldlM_cons] at h
    rcases Option.bind_eq_some_iff.mp h with ⟨next, hremove, hrest⟩
    rw [ih hrest, removeBlob_eq hremove, List.foldl_cons]

/-- What `makeRoom` removes comes in the order of the tiers and has no live variant above the
tier of the incoming image, and where it ends without an error its test has passed on what is
left. `EvictLowPriority` removes bodies whose live variants are all low. -/
theorem eviction_by_tiers (opts : SharedOptions) (o : Outside) (probe : Nat) (t : Tables)
    (priority : Priority) (need protectedNeed : Nat) :
    (makeRoom opts o probe t priority need protectedNeed).tables =
        (victims opts o probe t priority need protectedNeed).foldl Tables.deleteBlob t ∧
      ((victims opts o probe t priority need protectedNeed).Pairwise fun a b =>
        livePriority t o.now a ≤ livePriority t o.now b) ∧
      (forall digest, digest ∈ victims opts o probe t priority need protectedNeed ->
        forall v, v ∈ t.liveReferences o.now digest -> v.priority.rank ≤ priority.rank) ∧
      (forall left, makeRoom opts o probe t priority need protectedNeed = .made left ->
        exists first st, stats o.now (o.free probe) t = some first ∧
          stats o.now (o.free (probe +
            (victims opts o probe t priority need protectedNeed).length)) left = some st ∧
          hasRoom opts need protectedNeed (pressureOf opts need first) st = true) ∧
      forall left, evictLowPriority o t = some left ->
        left = (lowPriorityDigests o t).foldl Tables.deleteBlob t ∧
          forall digest, digest ∈ lowPriorityDigests o t ->
            forall v, v ∈ t.liveReferences o.now digest -> v.priority = .low := by
  have hvictims : (makeRoom opts o probe t priority need protectedNeed).tables =
      (victims opts o probe t priority need protectedNeed).foldl Tables.deleteBlob t ∧
      (victims opts o probe t priority need protectedNeed).Sublist
        (evictionCandidates o t priority) := by
    unfold makeRoom victims
    cases stats o.now (o.free probe) t with
    | none => exact ⟨rfl, List.nil_sublist _⟩
    | some st =>
      by_cases hroom : hasRoom opts need protectedNeed (pressureOf opts need st) st = true
      · simp [hroom, Room.tables]
      · simpa [hroom] using evicted_spec o _ _ _ t
  refine ⟨hvictims.left, (evictionCandidates_ordered o t priority).sublist hvictims.right, ?_,
    fun left hmade => makeRoom_made hmade, ?_⟩
  · intro digest hdigest v hv
    exact (rank_le_livePriority hv).trans
      (tier_of_evictionCandidates (hvictims.right.subset hdigest))
  intro left hleft
  unfold evictLowPriority at hleft
  split at hleft
  · cases hleft
  split at hleft
  · cases hleft
  rename_i hremoved
  split at hleft
  · cases hleft
  cases hleft
  exact ⟨removeBlobs_eq hremoved, fun _ hdigest _ hv => low_of_lowPriorityDigests hdigest hv⟩

end ReplxEdge.Artwork
