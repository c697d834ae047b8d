import ReplxEdge.Serving.Invalidation
import ReplxEdge.Serving.TracedRequests

/-!
# Flights

A request that acquires the flight of its key gives it back when it ends, and
nobody else does. A flight is held by one running request as long as it stands.
-/

namespace ReplxEdge.Serving

open Foundation
open Cache

variable {cfg : Config} {s s' : State} {i : Nat} {t u : Thread} {a : Answer} {key : GoString}

def Phase.proxies : Phase -> Bool
  | .proxying | .sent _ | .retiring _ _ | .retireFailed _ _ | .relaying _ _ | .copying _ _
  | .copied _ _ _ | .publishing _ _ _ | .storing _ _ _ | .granting _ _ => true
  | _ => false

/-- The key of the flight that a request has acquired and not given back. -/
def Thread.held (t : Thread) : Option GoString :=
  if t.flight && !ends t.phase then t.keyed.map Keyed.key else none

def Holds (s : State) (i : Nat) (key : GoString) : Prop :=
  (s.threads.lookup i).bind Thread.held = some key

/-- What a step of one request does to the flights, by what the request holds before and
after it. -/
inductive Turn (before after : List GoString) : Option GoString -> Option GoString -> Prop where
  | keep (held : Option GoString) : after = before -> Turn before after held held
  | acquire (key : GoString) : key ∉ before -> after = key :: before ->
      Turn before after none (some key)
  | release (key : GoString) : after = before.filter (· != key) ->
      Turn before after (some key) none

def Placed (t : Thread) : Prop :=
  t.flight = true -> ends t.phase = true ∨ t.phase.proxies = true

/-- A request that held so much has made a step. -/
def Moved (s s' : State) (i : Nat) (held : Option GoString) : Prop :=
  exists u, s'.threads = s.threads.set i u ∧ Placed u ∧
    Turn s.shared.flights s'.shared.flights held u.held

/-!
## Steps of a request
-/

theorem ends_of_proxies {p : Phase} (h : p.proxies = true) : ends p = false := by
  cases p
  all_goals first
    | rfl
    | cases h

theorem moved_without (h : t.flight = false) (hthreads : s'.threads = s.threads.set i u)
    (hflights : s'.shared.flights = s.shared.flights) (hu : u.flight = t.flight) :
    Moved s s' i t.held := by
  have hnone : t.held = none ∧ u.held = none := by simp [Thread.held, h, hu]
  refine ⟨u, hthreads, fun hflight => ?_, ?_⟩
  · rw [hu, h] at hflight
    cases hflight
  rw [hnone.left, hnone.right]
  exact .keep none hflights

theorem moved_on (h : t.phase.proxies = true) (hthreads : s'.threads = s.threads.set i u)
    (hflights : s'.shared.flights = s.shared.flights) (hu : u.flight = t.flight)
    (hnext : u.phase.proxies = true) (hkeyed : u.keyed = t.keyed) : Moved s s' i t.held := by
  have hheld : u.held = t.held := by
    unfold Thread.held
    rw [hu, ends_of_proxies h, ends_of_proxies hnext, hkeyed]
  refine ⟨u, hthreads, fun _ => Or.inr hnext, ?_⟩
  rw [hheld]
  exact .keep t.held hflights

theorem moved_finish (hphase : ends t.phase = false) (hthreads : s'.threads = s.threads)
    (hflights : s'.shared.flights = s.shared.flights) : Moved s (finish s' i t) i t.held := by
  refine ⟨{ t with phase := .done }, ?_, fun _ => Or.inl rfl, ?_⟩
  · rw [← hthreads]
    unfold finish
    split
    · split
      all_goals rfl
    · rfl
  have hdone : Thread.held { t with phase := .done } = none := by simp [Thread.held, ends]
  rw [hdone]
  unfold finish Thread.held
  rw [hphase, ← hflights]
  cases t.keyed with
  | none =>
    rw [Option.map_none, ite_self]
    exact .keep none rfl
  | some k =>
    cases t.flight with
    | false => exact .keep none rfl
    | true => exact .release k.key rfl

theorem moved_advance (hplaced : Placed t)
    (hkeyed : forall k, t.phase = .acquiring k -> t.keyed = some k) (hdone : t.phase ≠ .done) :
    Moved s (advance cfg s i t a) i t.held := by
  have hruns : ends t.phase = false := by
    cases hp : t.phase
    all_goals first
      | rfl
      | exact absurd hp hdone
  have hwithout : t.phase.proxies = false -> t.flight = false := by
    intro hphase
    rw [Bool.eq_false_iff]
    intro hflight
    rcases hplaced hflight with hends | hproxies
    · exact absurd (hruns.symm.trans hends) (by decide)
    · exact absurd (hphase.symm.trans hproxies) (by decide)
  unfold advance
  cases hp : t.phase
  case done => exact absurd hp hdone
  case acquiring k =>
    have hflight := hwithout (by rw [hp]; rfl)
    simp only [acquire]
    split
    · exact moved_without hflight rfl rfl rfl
    rename_i hfree
    refine ⟨_, rfl, fun _ => Or.inr rfl, ?_⟩
    have hnone : t.held = none := by simp [Thread.held, hflight]
    have hheld : Thread.held { t with flight := true, phase := .proxying } = some k.key := by
      simp [Thread.held, ends, hkeyed k hp]
    rw [hnone]
    exact hheld ▸ .acquire k.key (by simpa using hfree) rfl
  all_goals simp only [observeToken, observeGeneration, observeFlag, route, directMedia,
    handleDecision, relayDecision, artworkLease, artworkServe, artworkSend, artworkReceive,
    artworkStore, artworkGrant, artworkRelay, artworkDeclined, lookupStart, lookupLease,
    lookupGet, lookupFlag, lookupGeneration, wait, send, receive, bumpStateGeneration,
    recordRetireFailure, relayAnswer, copyBody, publishFlag, publishGeneration, storeEntry,
    grantEntry, revokeRejectedAuthorization, State.bumpUnreported]
  all_goals repeat' split
  all_goals first
    | exact moved_on (by rw [hp]; rfl) rfl rfl rfl rfl rfl
    | exact moved_finish hruns rfl rfl
    | exact moved_without (hwithout (by rw [hp]; rfl)) rfl rfl rfl
    | exact moved_without (hwithout (by rw [hp]; rfl)) rfl rfl (by unfold identified; split <;> rfl)

/-!
## Runs
-/

structure Flown (s : State) : Prop where
  placed : forall i t, s.threads.lookup i = some t -> Placed t
  mem : forall key, key ∈ s.shared.flights <-> exists i, Holds s i key
  one : forall i j key, Holds s i key -> Holds s j key -> i = j

theorem Flown.moved (h : Flown s)
    (hmoved : Moved s s' i ((s.threads.lookup i).bind Thread.held)) : Flown s' := by
  rcases hmoved with ⟨u, hthreads, hplaced, hturn⟩
  have hholds : forall j key, Holds s' j key <->
      if j = i then u.held = some key else Holds s j key := by
    intro j key
    unfold Holds
    rw [hthreads, Table.lookup_set]
    split
    · rfl
    · rfl
  have hheld : forall key, Holds s i key <->
      (s.threads.lookup i).bind Thread.held = some key := fun _ => Iff.rfl
  have hmem := h.mem
  have hone := h.one
  refine ⟨fun j v hv => ?_, ?_, ?_⟩
  · rcases Table.lookup_set_cases (hthreads ▸ hv) with rfl | hold
    · exact hplaced
    · exact h.placed j v hold
  all_goals generalize (s.threads.lookup i).bind Thread.held = held at hturn hheld
  all_goals generalize u.held = next at hturn hholds
  all_goals cases hturn with
  | keep => grind
  | acquire key =>
    have hself : Holds s' i key := (hholds i key).mpr (by simp)
    grind
  | release key =>
    have hself : Holds s i key := (hheld key).mpr rfl
    grind

theorem step_moved (h : Flown s) (hsound : Sound noAssumptions s) {action : Action}
    (hstep : step cfg s action = some s') :
    s'.threads = s.threads ∧ s'.shared.flights = s.shared.flights ∨
      exists i, Moved s s' i ((s.threads.lookup i).bind Thread.held) ∧
        (s'.shared.flights = s.shared.flights ∨ exists a, action = .advance i a) := by
  cases action
  case arrive i r =>
    simp only [step] at hstep
    split at hstep
    · cases hstep
    rename_i hnew
    cases hstep
    refine Or.inr ⟨i, ?_, Or.inl rfl⟩
    rw [hnew]
    exact moved_without (t := arrival s r) rfl rfl rfl rfl
  case advance i a =>
    rcases Option.map_eq_some_iff.mp hstep with ⟨t, ht, rfl⟩
    by_cases hdone : t.phase = .done
    · simp [advance, hdone]
    refine Or.inr ⟨i, ?_, Or.inr ⟨a, rfl⟩⟩
    rw [ht, Option.bind_some]
    exact moved_advance (h.placed i t ht)
      (fun _ hp => (hsound.parties.threads i t ht).known hp) hdone
  all_goals
    left
    simp only [step, executeCall, recordCall, warmStart, warmAdvance, State.bumpUnreported,
      Option.map_eq_some_iff] at hstep
    grind [State.stamp, State.setCall, State.setJob, State.dropJob, State.bumpGeneration,
      State.raiseFlag, State.clearFlag, State.readGeneration, State.publish]

/-- At every point of every run a flight is held by exactly one running request, and only
that request removes it. -/
theorem flights_exclusive {generations : GenerationTable} {now : Instant} {actions : List Action}
    (hrun : run (step cfg) (State.start generations now) actions = some s) :
    (forall key i j, Holds s i key -> Holds s j key -> i = j) ∧
    (forall key, key ∈ s.shared.flights <-> exists i, Holds s i key) ∧
    forall action s' key, step cfg s action = some s' -> key ∈ s.shared.flights ->
      key ∉ s'.shared.flights -> exists i a, action = .advance i a ∧ Holds s i key := by
  have hrespects : forall s a, Respects noAssumptions cfg s a :=
    fun _ _ => ⟨False.elim, False.elim, False.elim, False.elim, False.elim⟩
  have hstart : Flown (State.start generations now) := by
    constructor
    all_goals simp [Holds, State.start]
  have hkeep : forall s action s', Flown s ∧ Sound noAssumptions s ->
      step cfg s action = some s' -> Flown s' ∧ Sound noAssumptions s' := by
    intro s action s' h hstep
    refine ⟨?_, sound_step h.right (hrespects s action) hstep⟩
    rcases step_moved h.left h.right hstep with ⟨hthreads, hflights⟩ | ⟨i, hmoved, _⟩
    · constructor
      · exact hthreads ▸ h.left.placed
      · unfold Holds
        rw [hthreads, hflights]
        exact h.left.mem
      unfold Holds
      rw [hthreads]
      exact h.left.one
    · exact h.left.moved hmoved
  have hinv := run_keeps hkeep ⟨hstart, sound_start _ generations now⟩ hrun
  refine ⟨fun key i j => hinv.left.one i j key, hinv.left.mem, ?_⟩
  intro action s' key hstep hmem hnot
  rcases step_moved hinv.left hinv.right hstep with ⟨_, hflights⟩ | ⟨i, hmoved, hwho⟩
  · exact absurd (hflights ▸ hmem) hnot
  rcases hwho with hflights | ⟨a, rfl⟩
  · exact absurd (hflights ▸ hmem) hnot
  refine ⟨i, a, rfl, ?_⟩
  rcases hmoved with ⟨u, _, _, hturn⟩
  unfold Holds
  generalize (s.threads.lookup i).bind Thread.held = held at hturn ⊢
  generalize u.held = next at hturn
  cases hturn with
  | keep | acquire | release => grind

/-- A request that was sent to the origin holds its flight. -/
theorem flights_exclusive_sent :
    exists s, run (step edge) (State.start Table.empty 0)
        (.arrive 0 sections :: passes 0 9 answered) = some s ∧ s.shared.flights.length = 1 ∧
      forall key, key ∈ s.shared.flights <-> exists i, Holds s i key := by
  have hcheck : ((run (step edge) (State.start Table.empty 0)
      (.arrive 0 sections :: passes 0 9 answered)).any fun s =>
        decide (s.shared.flights.length = 1)) = true := by
    decide +kernel
  rcases run_of_any hcheck with ⟨s, hrun, hheld⟩
  exact ⟨s, hrun, hheld, (flights_exclusive hrun).right.left⟩

end ReplxEdge.Serving
