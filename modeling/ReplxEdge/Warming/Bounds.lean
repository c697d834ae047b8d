import ReplxEdge.Warming.Confinement

/-!
# The bounds of the queue

There are never more jobs than the configuration allows, also right after it has changed,
and never more than 32 credential contexts. A job that gives way to another is one of the
least tier, of these one that was seen longest ago, and not of a higher tier than the other.
-/

namespace ReplxEdge.Warming

open Foundation
open Serving

variable {y y' : Scheduler}

def Weaker (a b : Job) : Prop :=
  a.priority.rank < b.priority.rank ∨
    (a.priority.rank = b.priority.rank ∧ a.observed ≤ b.observed)

theorem Weaker.trans {a b c : Job} (h : Weaker a b) (hnext : Weaker b c) : Weaker a c := by
  rcases h with hlt | ⟨heq, hle⟩
  · rcases hnext with hnext | ⟨hnext, _⟩
    · exact Or.inl (hlt.trans hnext)
    · exact Or.inl (hnext ▸ hlt)
  rcases hnext with hnext | ⟨hnext, hnextle⟩
  · exact Or.inl (heq ▸ hnext)
  · exact Or.inr ⟨heq.trans hnext, Int.le_trans hle hnextle⟩

theorem rank_injective {a b : Priority} (h : a.rank = b.rank) : a = b := by
  cases a with
  | low | normal | high | protectedWork =>
    cases b with
    | low | normal | high | protectedWork =>
      first
      | rfl
      | cases h

structure Bounded (y : Scheduler) : Prop where
  limit : 1 ≤ y.config.maxTracked
  tracked : (y.tracked.entries.length : Int) ≤ y.config.maxTracked
  contexts : y.contexts.entries.length ≤ maxContexts

theorem bounded_start (now : Instant) : Bounded (Scheduler.start now) where
  limit := by simp [Scheduler.start, Warmer.start, WarmerConfig.default]
  tracked := by simp [Scheduler.start, Warmer.start, WarmerConfig.default, Table.empty]
  contexts := Nat.zero_le _

theorem Scheduler.Fewer.bounded (h : Scheduler.Fewer y y') (hy : Bounded y) : Bounded y' := by
  have htracked := Table.length_mono h.tracked
  have hcontexts := Table.length_mono fun scope => Table.ne_none_mono (h.contexts scope)
  refine ⟨h.config ▸ hy.limit, ?_, hcontexts.trans hy.contexts⟩
  rw [h.config]
  exact (Int.ofNat_le.mpr htracked).trans hy.tracked

namespace Scheduler

/-!
## Giving a job up
-/

theorem evictJob_spec (order : Order (GoString × Job)) (incoming : Option Priority)
    (hne : y.tracked.entries ≠ []) :
    exists id old evicted, y.tracked.lookup id = some old ∧
      (forall other job, y.tracked.lookup other = some job -> Weaker old job) ∧
      evicted.config = y.config ∧ evicted.contexts = y.contexts ∧
      evicted.tracked = y.tracked.delete id ∧ y.evictJob order incoming =
        if incoming.any fun p => p.rank < old.priority.rank then none else some evicted := by
  have hsome : forall old entry : GoString × Job, exists found,
      Warmer.weaker (some old) entry = some found ∧ (found = old ∨ found = id entry) ∧
        Weaker found.2 old.2 ∧ Weaker found.2 (id entry).2 := by
    intro old entry
    by_cases hweaker : entry.2.priority.rank < old.2.priority.rank ∨
        (entry.2.priority = old.2.priority ∧ entry.2.observed < old.2.observed)
    · refine ⟨entry, if_pos hweaker, Or.inr rfl, ?_, Or.inr ⟨rfl, Int.le_refl _⟩⟩
      rcases hweaker with hlt | ⟨heq, hlt⟩
      · exact Or.inl hlt
      · exact Or.inr ⟨congrArg Priority.rank heq, Int.le_of_lt hlt⟩
    refine ⟨old, if_neg hweaker, Or.inl rfl, Or.inr ⟨rfl, Int.le_refl _⟩, ?_⟩
    rcases not_or.mp hweaker with ⟨hrank, hage⟩
    rcases Nat.lt_or_eq_of_le (Nat.le_of_not_lt hrank) with hlt | heq
    · exact Or.inl hlt
    refine Or.inr ⟨heq, Int.not_lt.mp ?_⟩
    intro hlt
    exact hage ⟨(rank_injective heq).symm, hlt⟩
  rcases foldl_pick id (fun a b => Weaker a.2 b.2) (fun _ => Or.inr ⟨rfl, Int.le_refl _⟩)
    (fun _ _ _ => Weaker.trans) (fun _ => rfl) hsome (order.visit_ne_nil hne) with
    ⟨entry, hentry, hfold, hall⟩
  refine ⟨entry.1, entry.2, { y with tracked := y.tracked.delete entry.1 }, ?_, ?_, rfl, rfl, rfl,
    ?_⟩
  · exact Table.lookup_of_mem ((order.perm _).mem_iff.mp hentry)
  · intro other job hjob
    exact hall (other, job) ((order.perm _).mem_iff.mpr (Table.mem_of_lookup hjob))
  unfold evictJob Warmer.evictJob
  rw [hfold]
  exact apply_ite (Option.map _) _ _ _

theorem ne_nil_of_lt {n : Int} (h : n ≤ y.tracked.entries.length) (hn : 1 ≤ n) :
    y.tracked.entries ≠ [] := by
  intro hnil
  rw [hnil, List.length_nil] at h
  omega

theorem trim_succ (order : Order (GoString × Job)) (n : Nat) :
    y.trim order (n + 1) = if y.config.maxTracked < y.tracked.entries.length then
      ((y.evictJob order none).getD y).trim order n else y := by
  unfold trim evictJob
  rw [Warmer.trim]
  split
  · cases y.toWarmer.evictJob order none with
    | none | some => rfl
  · rfl

theorem trim_length (order : Order (GoString × Job)) (n : Nat) (hlimit : 1 ≤ y.config.maxTracked)
    (h : (y.tracked.entries.length : Int) ≤ y.config.maxTracked + n) :
    ((y.trim order n).tracked.entries.length : Int) ≤ y.config.maxTracked := by
  induction n generalizing y with
  | zero => simpa [trim, Warmer.trim] using h
  | succ n ih =>
    rw [trim_succ]
    split
    · rename_i hover
      rcases evictJob_spec order none (ne_nil_of_lt hover.le hlimit) with
        ⟨id, old, evicted, hfound, _, hconfig, _, htracked, hevict⟩
      have hless := Table.length_delete_lt hfound
      rw [← hconfig] at hlimit h ⊢
      rw [← htracked] at hless
      have hnext : (y.evictJob order none).getD y = evicted := by
        rw [hevict]
        rfl
      rw [hnext]
      exact ih hlimit (by omega)
    rename_i hmet
    exact Int.not_lt.mp hmet

theorem bounded_trim (order : Order (GoString × Job)) (hlimit : 1 ≤ y.config.maxTracked)
    (h : (y.trim order y.tracked.entries.length).contexts.entries.length ≤ maxContexts) :
    Bounded (y.trim order y.tracked.entries.length) := by
  have htrim := trim_length order y.tracked.entries.length hlimit (by omega)
  have hconfig : (y.trim order y.tracked.entries.length).config = y.config :=
    Warmer.trim_rule (P := fun w => w.config = y.config) (fun _ _ hw => hw) _ rfl
  rw [← hconfig] at hlimit htrim
  exact ⟨hlimit, htrim, h⟩

theorem bounded_configure (h : Bounded y) (order : Order (GoString × Job)) (c : WarmerConfig) :
    Bounded (y.configure order c) := by
  have hcontexts : (y.configure order c).contexts.entries.length ≤ maxContexts :=
    (Table.length_mono fun scope =>
      Table.ne_none_mono (shrinks_configure order c scope)).trans h.contexts
  unfold configure at hcontexts ⊢
  split
  · rename_i hvalid
    rw [if_pos hvalid] at hcontexts
    have hlimit : 1 ≤ c.maxTracked := by
      simp only [WarmerConfig.valid, Bool.and_eq_true, decide_eq_true_eq] at hvalid
      exact hvalid.left.left.left.left.left
    exact bounded_trim (y := { (if c.enabled then y else y.disable) with config := c }) order
      hlimit hcontexts
  · exact h

/-!
## Tracking
-/

theorem observe_contexts (h : Bounded y) (orders : Orders) (scope : GoString)
    (credential : Option GoString) :
    (y.observe orders scope credential).contexts.entries.length ≤ maxContexts := by
  have hkept : y.expireContexts.contexts.entries.length ≤ maxContexts :=
    (List.length_filter_le _ _).trans h.contexts
  cases credential with
  | none => exact hkept
  | some token =>
    simp only [observe, setContext, Warmer.setContext, Warmer.contextRoom]
    split
    · rename_i hfull
      have hne : y.expireContexts.contexts.entries ≠ [] := by
        intro hnil
        rw [hnil, List.length_nil] at hfull
        exact absurd hfull.right (by decide)
      rcases Table.oldest_of_ne_nil orders.contexts CredentialContext.expires hne with
        ⟨k, v, holdest, hfound⟩
      rw [holdest]
      exact (Table.length_set_le _ _ _).trans
        ((Table.length_delete_lt hfound).trans_le hkept)
    rename_i hroom
    rcases not_and_or.mp hroom with hknown | hless
    · rw [Option.isNone_iff_eq_none] at hknown
      exact (Table.length_set_of_lookup hknown _).trans hkept
    · exact (Table.length_set_le _ _ _).trans (Nat.lt_of_not_le hless)

def worth (n : Snapshot) (priority : Priority) : Priority :=
  if priority = .low then routePriority n.path else priority

/-- The ways of tracking: nothing but a context, a job in the room there is, or a job in the
place of another. -/
inductive Tracks (y : Scheduler) (n : Snapshot) (priority : Priority) (seen : Scheduler) :
    Prop where
  | context (htracked : seen.tracked = y.tracked)
  | job (id : GoString) (job : Job) (htracked : seen.tracked = y.tracked.set id job)
      (hroom : y.tracked.lookup id ≠ none ∨ (y.tracked.entries.length : Int) < y.config.maxTracked)
  | instead (id : GoString) (job : Job) (victim : GoString) (old : Job)
      (htracked : seen.tracked = (y.tracked.delete victim).set id job)
      (hfull : y.config.maxTracked ≤ y.tracked.entries.length)
      (hvictim : y.tracked.lookup victim = some old)
      (hleast : forall other found, y.tracked.lookup other = some found -> Weaker old found)
      (hworth : old.priority.rank ≤ (worth n priority).rank)

theorem track_tracks (h : Bounded y) (strip : GoString -> GoString) (orders : Orders)
    (key : GoString) (n : Snapshot) (ttl : Duration) (priority : Priority)
    (credential : Option GoString) :
    (y.track strip orders key n ttl priority credential).config = y.config ∧
      (y.track strip orders key n ttl priority credential).contexts.entries.length ≤ maxContexts ∧
      Tracks y n priority (y.track strip orders key n ttl priority credential) := by
  have hseen : (y.observe orders n.scope credential).config = y.config ∧
      (y.observe orders n.scope credential).tracked = y.tracked := by
    cases credential with
    | none | some => exact ⟨rfl, rfl⟩
  have hcontexts := observe_contexts h orders n.scope credential
  unfold track
  split
  · simp only
    rw [hseen.right]
    split
    · rename_i hfull
      have hne : (y.observe orders n.scope credential).tracked.entries ≠ [] := by
        rw [hseen.right]
        exact ne_nil_of_lt hfull.right h.limit
      rcases evictJob_spec orders.jobs (some (worth n priority)) hne with
        ⟨victim, old, evicted, hvictim, hleast, hconfig, hkept, htracked, hevict⟩
      rw [hseen.right] at hvictim hleast htracked
      unfold worth at hevict
      rw [hevict]
      by_cases hless : (worth n priority).rank < old.priority.rank
      · rw [if_pos (by simpa [worth] using hless)]
        exact ⟨hseen.left, hcontexts, .context hseen.right⟩
      rw [if_neg (by simpa [worth] using hless)]
      refine ⟨hconfig.trans hseen.left, ?_, .instead _ _ victim old (by rw [← htracked]; rfl)
        hfull.right hvictim hleast (Nat.le_of_not_lt hless)⟩
      rw [← hkept] at hcontexts
      exact hcontexts
    rename_i hroom
    refine ⟨hseen.left, hcontexts, .job _ _ (by rw [← hseen.right]; rfl) ?_⟩
    rcases not_and_or.mp hroom with hknown | hless
    · rw [Option.isNone_iff_eq_none] at hknown
      exact Or.inl hknown
    · exact Or.inr (Int.not_le.mp hless)
  · exact ⟨rfl, h.contexts, .context rfl⟩

theorem Tracks.length_le {n : Snapshot} {priority : Priority} (h : Tracks y n priority y')
    (hy : Bounded y) : (y'.tracked.entries.length : Int) ≤ y.config.maxTracked := by
  have hbound := hy.tracked
  cases h with
  | context htracked => exact htracked ▸ hbound
  | job id job htracked hroom =>
    rw [htracked]
    rcases hroom with hknown | hless
    · exact (Int.ofNat_le.mpr (Table.length_set_of_lookup hknown job)).trans hbound
    have hlength := y.tracked.length_set_le id job
    omega
  | instead id job victim old htracked _ hvictim _ _ =>
    rw [htracked]
    have hlength := (y.tracked.delete victim).length_set_le id job
    have hless := Table.length_delete_lt hvictim
    omega

/-!
## Steps
-/

theorem bounded_step {strip : GoString -> GoString} {a : Action} (h : Bounded y)
    (hstep : y.step strip a = some y') : Bounded y' := by
  cases htrack : a.isTrack with
  | false =>
    rcases step_fewer hstep htrack with hfewer | ⟨order, c, rfl⟩
    · exact hfewer.bounded h
    · exact bounded_configure h order c
  | true =>
    cases a with
    | track orders key n ttl priority credential =>
      cases hstep
      rcases track_tracks h strip orders key n ttl priority credential with
        ⟨hconfig, hcontexts, htracks⟩
      exact ⟨hconfig ▸ h.limit, hconfig ▸ htracks.length_le h, hcontexts⟩
    | tick | forgetScope | configure | setPaused | foreground | background | stats | beginPass
    | resolve | choose | stop | matchKey | activate | captureKey | fetch | confirmKey | permit
    | publish | settle => cases htrack

end Scheduler

/-- In every state of every run there are at most as many jobs as the configuration allows and
at most 32 contexts. A job that a request takes the place of was in a full queue, is of no
higher tier than the request, goes before every other job, and is the only one that goes. -/
theorem queue_bounded (strip : GoString -> GoString) (now : Instant) (actions : List Action)
    (y : Scheduler) (hrun : run (Scheduler.step strip) (Scheduler.start now) actions = some y) :
    (y.tracked.entries.length : Int) ≤ y.config.maxTracked ∧
      y.contexts.entries.length ≤ maxContexts ∧ forall orders key n ttl priority credential id job,
        y.tracked.lookup id = some job ->
        (y.track strip orders key n ttl priority credential).tracked.lookup id = none ->
        y.config.maxTracked ≤ y.tracked.entries.length ∧
          job.priority.rank ≤ (Scheduler.worth n priority).rank ∧
          (forall other found, y.tracked.lookup other = some found -> Weaker job found) ∧
          forall other, other ≠ id -> y.tracked.lookup other ≠ none ->
            (y.track strip orders key n ttl priority credential).tracked.lookup other ≠ none := by
  have hbounded : Bounded y :=
    run_keeps (fun _ _ _ h hstep => Scheduler.bounded_step h hstep)
      (bounded_start now) hrun
  refine ⟨hbounded.tracked, hbounded.contexts, ?_⟩
  intro orders key n ttl priority credential id job hjob hgone
  have htracks := Scheduler.track_tracks hbounded strip orders key n ttl priority credential
  cases htracks.right.right with
  | context htracked =>
    rw [htracked, hjob] at hgone
    cases hgone
  | job new _ htracked _ =>
    rw [htracked, Table.lookup_set, hjob] at hgone
    split at hgone
    all_goals cases hgone
  | instead new fresh victim old htracked hfull hvictim hleast hworth =>
    rw [htracked] at hgone ⊢
    have hsame : id = victim := by
      by_contra hother
      rw [Table.lookup_set, Table.lookup_delete_ne _ hother, hjob] at hgone
      split at hgone
      all_goals cases hgone
    rw [hsame, hvictim] at hjob
    cases hjob
    refine ⟨hfull, hworth, hleast, ?_⟩
    intro other hother hfound
    rw [Table.lookup_set]
    split
    · exact Option.some_ne_none fresh
    rw [Table.lookup_delete_ne _ (hsame ▸ hother)]
    exact hfound

def titleSnapshot : Snapshot :=
  { sectionsSnapshot with path := str "/library/metadata/1" }

/-- The operator allows one job, and a title takes the place. -/
def crowded : List Action :=
  [.configure (Order.stored _) { WarmerConfig.default with maxTracked := 1 },
    .track storedOrders (str "key") titleSnapshot minute .low none]

theorem queue_bounded_crowded :
    exists y job, run (Scheduler.step id) (Scheduler.start 0) crowded = some y ∧
      y.tracked.lookup (snapshotID titleSnapshot) = some job ∧
      (y.track id storedOrders (str "key") sectionsSnapshot minute .low none).tracked.lookup
        (snapshotID titleSnapshot) = none ∧
      job.priority.rank ≤ (Scheduler.worth sectionsSnapshot .low).rank := by
  have hcheck : ((run (Scheduler.step id) (Scheduler.start 0) crowded).any fun y =>
      (y.tracked.lookup (snapshotID titleSnapshot)).isSome &&
        ((y.track id storedOrders (str "key") sectionsSnapshot minute .low none).tracked.lookup
          (snapshotID titleSnapshot)).isNone) = true := by
    decide +kernel
  rcases exists_of_any hcheck with ⟨y, hrun, hboth⟩
  rcases (Bool.and_eq_true _ _).mp hboth with ⟨hfound, hgone⟩
  rcases Option.isSome_iff_exists.mp hfound with ⟨job, hjob⟩
  have hnone := Option.isNone_iff_eq_none.mp hgone
  exact ⟨y, job, hrun, hjob, hnone, ((queue_bounded id 0 crowded y hrun).right.right
    _ _ _ _ _ _ _ job hjob hnone).right.left⟩

end ReplxEdge.Warming
