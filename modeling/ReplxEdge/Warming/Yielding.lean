import ReplxEdge.Warming.Confinement

/-!
# Foreground work goes first

Calls of `refreshPass` stand side by side, and the flag `running` lets one of them through. A
refresh has a context of its own, which `activeCancel` cancels until the refresh is settled.
-/

namespace ReplxEdge.Warming

open Foundation
open Serving

/-- A refresh is in flight from the section that starts it to the one that settles it. -/
def Phase.inFlight : Phase -> Bool
  | .active _ _ | .fetching _ _ _ | .fetched _ _ _ _ | .confirmed _ _ _ _ => true
  | .permitted _ _ _ _ | .ending _ _ _ _ => true
  | _ => false

/-- The sections of `refreshPass` behind its entry. -/
def Action.ofPass : Action -> Bool
  | .resolve _ _ | .choose _ | .stop | .matchKey _ | .activate _ | .captureKey _ => true
  | .fetch _ | .confirmKey _ | .permit | .publish _ _ | .settle => true
  | _ => false

/-- Calls are numbered, and `running` has the one that has set the flag. `cancelled` tells of
the context of a call's refresh, and `released` is the `sync.Once` of every acquisition. -/
structure Passes where
  scheduler : Scheduler
  running : Option Nat
  calls : Table Nat Phase
  activeCancel : Option Nat
  cancelled : Nat -> Bool
  released : List Bool

inductive PassAction where
  | refreshPass (i : Nat)
  | pass (i : Nat) (a : Action)
  | leave (i : Nat)
  | tick (elapsed : Nat)
  | foreground
  | release (k : Nat)
  | setPaused (paused : Bool)
  | configure (order : Order (GoString × Job)) (c : WarmerConfig)

def PassAction.acquires : PassAction -> Bool
  | .foreground => true
  | _ => false

/-- Whether the function that the acquisition with this number returned is called. -/
def PassAction.releases (k : Nat) : PassAction -> Bool
  | .release j => j == k
  | _ => false

/-- The acquisitions among some actions that none of them releases. -/
def outstanding (actions : List PassAction) : Nat :=
  (List.range (actions.countP PassAction.acquires)).countP fun k =>
    !actions.any (PassAction.releases k)

namespace Passes

variable (p : Passes)

def start (y : Scheduler) : Passes :=
  ⟨y, none, Table.empty, none, fun _ => false, []⟩

def flying (i : Nat) : Bool :=
  (p.calls.lookup i).any Phase.inFlight

def cancelActive : Passes :=
  { p with cancelled := fun i => p.cancelled i || p.activeCancel == some i }

def move (i : Nat) (old : Phase) (y : Scheduler) : Passes :=
  let moved := { p with scheduler := y, calls := p.calls.set i y.phase }
  match old.inFlight, y.phase.inFlight with
  | false, true =>
    { moved with activeCancel := some i, cancelled := fun j => p.cancelled j && j != i }
  | true, false =>
    { moved with activeCancel := none, cancelled := fun j => p.cancelled j || j == i }
  | _, _ => moved

/-- One section; a second release does nothing. -/
def step (strip : GoString -> GoString) (p : Passes) : PassAction -> Option Passes
  | .refreshPass i =>
    if (p.calls.lookup i).isSome then none
    else if p.running.isSome || p.scheduler.held then some p
    else some { p with running := some i, calls := p.calls.set i .resolving }
  | .pass i a =>
    if !a.ofPass then none
    else (p.calls.lookup i).bind fun old =>
      ((p.scheduler.goTo old).step strip a).map fun y => p.move i old y
  | .leave i =>
    match p.calls.lookup i with
    | some .idle =>
      some { p with calls := p.calls.delete i, running := none, activeCancel := none }
    | _ => none
  | .tick elapsed =>
    some { p with scheduler := { p.scheduler with now := p.scheduler.now + elapsed } }
  | .foreground =>
    some { p.cancelActive with
      scheduler := { p.scheduler with foreground := p.scheduler.foreground + 1 }
      released := p.released ++ [false] }
  | .release k =>
    (p.released[k]?).map fun done =>
      if done then p
      else
        { p with
          scheduler := { p.scheduler with foreground := p.scheduler.foreground - 1 }
          released := p.released.set k true }
  | .setPaused paused =>
    some { (if paused then p.cancelActive else p) with
      scheduler := { p.scheduler with paused := paused } }
  | .configure order c =>
    some { (if c.valid && !c.enabled then p.cancelActive else p) with
      scheduler := p.scheduler.configure order c }

/-- A call behind the entry has set the flag; its refresh is the active one, and cancelled while
something holds the warmer. -/
structure Ordered : Prop where
  counter : p.scheduler.foreground = p.released.count false
  calls : forall i phase, p.calls.lookup i = some phase -> p.running = some i ∧
    (phase.inFlight = true -> p.activeCancel = some i ∧
      (p.scheduler.held = true -> p.cancelled i = true))

variable {p} {y y' : Scheduler} {strip : GoString -> GoString}

theorem held_iff : y.held = true <->
    0 < y.foreground ∨ y.paused = true ∨ y.config.enabled = false := by
  simp [Scheduler.held, or_assoc]

variable {a : Action}

theorem updateJob_frame (y : Scheduler) (c : Candidate) (f : Job -> Job) :
    ((y.updateJob c f).foreground, (y.updateJob c f).paused, (y.updateJob c f).config) =
      (y.foreground, y.paused, y.config) := by
  unfold Scheduler.updateJob
  rcases Warmer.updateJob_cases y.toWarmer c.id c.job.sequence f with hsame | ⟨job, _, hset⟩
  · rw [hsame]
  · rw [hset]

/-- A section of a pass changes nothing that holds the warmer, and starts a refresh only when
nothing does. -/
theorem pass_frame (hpass : a.ofPass = true) (hstep : y.step strip a = some y') :
    (y'.foreground, y'.paused, y'.config) = (y.foreground, y.paused, y.config) ∧
    (y'.phase.inFlight = true -> y.phase.inFlight = true ∨ y.held = false) := by
  cases a with
  | tick | track | forgetScope | configure | setPaused | foreground | background | stats
  | beginPass => cases hpass
  | settle =>
    simp only [Scheduler.step, Scheduler.settle] at hstep
    split at hstep
    · rename_i p c n result hphase
      cases hstep
      refine ⟨?_, fun _ => Or.inl (by rw [hphase]; rfl)⟩
      cases result with
      | succeeded => exact updateJob_frame y c _
      | failed status =>
        refine (updateJob_frame (if rejectedStatus status then y.reject c.scope else y) c
          (Warmer.backOff y.now)).trans ?_
        split
        all_goals rfl
    · cases hstep
  | resolve | choose | stop | matchKey | activate | captureKey | fetch | confirmKey | permit
  | publish =>
    simp only [Scheduler.step, Scheduler.resolve, Scheduler.choose, Scheduler.stop,
      Scheduler.matchKey, Scheduler.activate, Scheduler.captureKey, Scheduler.fetch,
      Scheduler.confirmKey, Scheduler.permit, Scheduler.publish] at hstep
    repeat' split at hstep
    all_goals cases hstep
    all_goals
      refine ⟨rfl, ?_⟩
      simp_all [Phase.inFlight, Scheduler.goTo, Scheduler.expireContexts]

theorem Ordered.keep {released : List Bool} (h : p.Ordered)
    (hcounter : y.foreground = released.count false)
    (hheld : y.held = true -> p.scheduler.held = true) :
    Ordered { p with scheduler := y, released := released } := by
  refine ⟨hcounter, fun i phase hi => ⟨(h.calls i phase hi).left, fun hflight => ?_⟩⟩
  rcases (h.calls i phase hi).right hflight with ⟨hactive, hcancelled⟩
  exact ⟨hactive, fun hy => hcancelled (hheld hy)⟩

theorem Ordered.hold {released : List Bool} (h : p.Ordered)
    (hcounter : y.foreground = released.count false) :
    Ordered { p.cancelActive with scheduler := y, released := released } := by
  refine ⟨hcounter, fun i phase hi => ⟨(h.calls i phase hi).left, fun hflight => ?_⟩⟩
  have hactive := ((h.calls i phase hi).right hflight).left
  exact ⟨hactive, fun _ => by simp [cancelActive, hactive]⟩

theorem Ordered.move {i : Nat} {old : Phase} (h : p.Ordered) (hpass : a.ofPass = true)
    (hold : p.calls.lookup i = some old) (hstep : (p.scheduler.goTo old).step strip a = some y) :
    (p.move i old y).Ordered := by
  rcases pass_frame hpass hstep with ⟨hframe, hstart⟩
  simp only [Prod.mk.injEq] at hframe
  have hheld : y.held = p.scheduler.held := by
    simp only [Scheduler.held, hframe]
    rfl
  rcases h.calls i old hold with ⟨hrunning, hactive⟩
  -- the call is the only one, so what is known of the calls is known of it
  have hmoved : forall active cancelled, (y.phase.inFlight = true -> active = some i ∧
      (p.scheduler.held = true -> cancelled i = true)) -> Ordered { p with
        scheduler := y, calls := p.calls.set i y.phase, activeCancel := active,
        cancelled := cancelled } := by
    intro active cancelled hnew
    refine ⟨hframe.left.trans h.counter, fun j phase hj => ?_⟩
    rw [Table.lookup_set] at hj
    simp only [hheld]
    split at hj
    · rename_i hji
      cases hj
      rw [hji]
      exact ⟨hrunning, hnew⟩
    rename_i hji
    exact absurd (Option.some.inj ((h.calls j phase hj).left.symm.trans hrunning)) hji
  unfold Passes.move
  cases hflight : y.phase.inFlight with
  | false =>
    cases old.inFlight with
    | false | true => exact hmoved _ _ (by simp [hflight])
  | true =>
    cases hwas : old.inFlight with
    | true => exact hmoved _ _ fun _ => hactive hwas
    | false =>
      refine hmoved _ _ fun _ => ⟨rfl, fun hy => ?_⟩
      rcases hstart hflight with hin | hfree
      · exact absurd (hwas.symm.trans hin) (by decide)
      · exact absurd (hfree.symm.trans hy) (by decide)

theorem trim_kept (order : Order (GoString × Job)) (n : Nat) (y : Scheduler) :
    exists tracked, y.trim order n = { y with tracked := tracked } := by
  have hkept : exists tracked, Warmer.trim order n y.toWarmer =
      { y.toWarmer with tracked := tracked } :=
    Warmer.trim_rule (P := fun w => exists tracked, w = { y.toWarmer with tracked := tracked })
      (fun w id ⟨_, hw⟩ => ⟨w.tracked.delete id, by rw [hw]⟩) n ⟨y.tracked, rfl⟩
  rcases hkept with ⟨tracked, htracked⟩
  exact ⟨tracked, by rw [Scheduler.trim, htracked]⟩

theorem Ordered.configure (h : p.Ordered) (order : Order (GoString × Job)) (c : WarmerConfig) :
    Ordered { (if c.valid && !c.enabled then p.cancelActive else p) with
      scheduler := p.scheduler.configure order c } := by
  unfold Scheduler.configure
  cases c.valid with
  | false => exact h.keep h.counter id
  | true =>
    rcases trim_kept order _ { (if c.enabled then p.scheduler else p.scheduler.disable)
      with config := c } with ⟨_, htrim⟩
    simp only [Bool.true_and, if_true]
    rw [htrim]
    cases henabled : c.enabled with
    | false => exact h.hold h.counter
    | true =>
      refine h.keep h.counter ?_
      simp only [held_iff, henabled, if_true, Bool.true_eq_false, or_false]
      exact Or.imp_right Or.inl

theorem ordered_step {a : PassAction} {p' : Passes} (h : p.Ordered)
    (hstep : p.step strip a = some p') : p'.Ordered := by
  cases a with
  | refreshPass i =>
    simp only [step] at hstep
    split at hstep
    · cases hstep
    split at hstep
    · cases hstep
      exact h
    rename_i hfree
    cases hstep
    refine ⟨h.counter, fun j phase hj => ?_⟩
    rw [Table.lookup_set] at hj
    split at hj
    · rename_i hji
      cases hj
      exact ⟨by rw [hji], fun hflight => nomatch hflight⟩
    · exact absurd (by simp [(h.calls j phase hj).left]) hfree
  | pass i a =>
    simp only [step] at hstep
    split at hstep
    · cases hstep
    rename_i hpass
    rcases Option.bind_eq_some_iff.mp hstep with ⟨old, hold, hmap⟩
    rcases Option.map_eq_some_iff.mp hmap with ⟨y, hy, rfl⟩
    exact h.move (by simpa using hpass) hold hy
  | leave i =>
    simp only [step] at hstep
    split at hstep
    · rename_i hidle
      cases hstep
      refine ⟨h.counter, fun j phase hj => ?_⟩
      have hrunning := (h.calls j phase (Table.lookup_of_delete hj)).left
      cases hrunning.symm.trans (h.calls i _ hidle).left
      rw [Table.lookup_delete_self] at hj
      cases hj
    · cases hstep
  | tick elapsed =>
    cases hstep
    exact h.keep h.counter id
  | foreground =>
    cases hstep
    exact h.hold (by simp [h.counter])
  | release k =>
    rcases Option.map_eq_some_iff.mp hstep with ⟨done, hdone, rfl⟩
    split
    · exact h
    rename_i hopen
    rcases List.getElem?_eq_some_iff.mp hdone with ⟨hk, hget⟩
    refine h.keep ?_ ?_
    · rw [List.count_set hk, hget]
      simp [hopen, h.counter]
    simp only [held_iff]
    exact Or.imp_left fun hless => by omega
  | setPaused paused =>
    cases hstep
    cases paused with
    | true => exact h.hold h.counter
    | false =>
      refine h.keep h.counter ?_
      simp only [held_iff, Bool.false_eq_true, false_or]
      exact Or.imp_right Or.inr
  | configure order c =>
    cases hstep
    exact h.configure order c

/-- The flags are those of the acquisitions so far, and only of these. -/
structure Recorded (past : List PassAction) (p : Passes) : Prop where
  flags : p.released = (List.range (past.countP PassAction.acquires)).map fun k =>
    past.any (PassAction.releases k)
  numbers : forall k, past.any (PassAction.releases k) = true ->
    k < past.countP PassAction.acquires

theorem Recorded.count {past : List PassAction} (h : Recorded past p) :
    p.released.count false = outstanding past := by
  rw [h.flags, List.count_eq_countP, List.countP_map]
  exact List.countP_congr fun k _ => by simp

theorem Recorded.silent {past : List PassAction} {a : PassAction} {p' : Passes}
    (h : Recorded past p) (hreleased : p'.released = p.released) (hacquires : a.acquires = false)
    (hreleases : forall k, a.releases k = false) : Recorded (past ++ [a]) p' := by
  constructor
  · simp [hreleased, h.flags, hacquires, hreleases]
  · intro k hk
    simp only [List.any_append, List.any_cons, List.any_nil, hreleases, Bool.or_false] at hk
    simpa [hacquires] using h.numbers k hk

theorem recorded_step {past : List PassAction} {a : PassAction} {p' : Passes}
    (h : Recorded past p) (hstep : p.step strip a = some p') : Recorded (past ++ [a]) p' := by
  cases a with
  | refreshPass i =>
    simp only [step] at hstep
    repeat' split at hstep
    all_goals cases hstep
    all_goals exact h.silent rfl rfl fun _ => rfl
  | pass i a =>
    simp only [step] at hstep
    split at hstep
    · cases hstep
    rcases Option.bind_eq_some_iff.mp hstep with ⟨old, _, hmap⟩
    rcases Option.map_eq_some_iff.mp hmap with ⟨y, _, rfl⟩
    refine h.silent ?_ rfl fun _ => rfl
    unfold Passes.move
    split
    all_goals rfl
  | leave i =>
    simp only [step] at hstep
    split at hstep
    all_goals cases hstep
    exact h.silent rfl rfl fun _ => rfl
  | tick elapsed =>
    cases hstep
    exact h.silent rfl rfl fun _ => rfl
  | setPaused paused =>
    cases hstep
    exact h.silent (by cases paused <;> rfl) rfl fun _ => rfl
  | configure order c =>
    cases hstep
    exact h.silent (by cases c.valid && !c.enabled <;> rfl) rfl fun _ => rfl
  | foreground =>
    cases hstep
    have hnew : past.any (PassAction.releases (past.countP PassAction.acquires)) = false :=
      Bool.eq_false_iff.mpr fun hk => Nat.lt_irrefl _ (h.numbers _ hk)
    constructor
    · simp [h.flags, PassAction.acquires, PassAction.releases, List.range_succ, hnew]
    · intro k hk
      simp only [List.any_append, List.any_cons, List.any_nil, PassAction.releases,
        Bool.or_false] at hk
      have hless := h.numbers k hk
      simp only [List.countP_append, List.countP_singleton, PassAction.acquires, if_true]
      omega
  | release k =>
    rcases Option.map_eq_some_iff.mp hstep with ⟨done, hdone, rfl⟩
    rcases List.getElem?_eq_some_iff.mp hdone with ⟨hk, hget⟩
    have hless : k < past.countP PassAction.acquires := by simpa [h.flags] using hk
    have hset : (if done then p else { p with
        scheduler := { p.scheduler with foreground := p.scheduler.foreground - 1 }
        released := p.released.set k true }).released = p.released.set k true := by
      cases done with
      | false => rfl
      | true => rw [if_pos rfl, ← hget, List.set_getElem_self]
    constructor
    · rw [hset, h.flags]
      refine List.ext_getElem (by simp [PassAction.acquires]) fun j _ _ => ?_
      by_cases hj : k = j
      all_goals simp [hj, PassAction.releases]
    · intro j hj
      simp only [List.any_append, List.any_cons, List.any_nil, PassAction.releases,
        Bool.or_false, Bool.or_eq_true, beq_iff_eq] at hj
      simp only [List.countP_append, List.countP_singleton, PassAction.acquires,
        Bool.false_eq_true, if_false, Nat.add_zero]
      rcases hj with hj | hj
      · exact h.numbers j hj
      · exact hj ▸ hless

end Passes

/-- At every point of every run at most one refresh is in flight, the counter is the number of
acquisitions that were not released, and while something holds the warmer every refresh in
flight is cancelled and no check permits a publication. -/
theorem foreground_first (strip : GoString -> GoString) (y : Scheduler) (hfree : y.foreground = 0)
    (actions : List PassAction) (p : Passes)
    (hrun : run (Passes.step strip) (Passes.start y) actions = some p) :
    (forall i j, p.flying i = true -> p.flying j = true -> i = j) ∧
      p.scheduler.foreground = outstanding actions ∧
      (p.scheduler.held = true -> (forall i, p.flying i = true -> p.cancelled i = true) ∧
        forall c, p.scheduler.permitted c = false) := by
  have hordered : p.Ordered :=
    run_keeps (fun _ _ _ h hstep => Passes.ordered_step h hstep)
      ⟨hfree, fun _ _ hi => by cases hi⟩ hrun
  have hrecorded : Passes.Recorded ([] ++ actions) p :=
    run_history (fun _ _ _ _ h hstep => Passes.recorded_step h hstep)
      ⟨rfl, fun _ hk => by cases hk⟩ hrun
  refine ⟨fun i j hi hj => ?_, hordered.counter.trans hrecorded.count,
    fun hheld => ⟨fun i hi => ?_, fun c => ?_⟩⟩
  · rcases exists_of_any hi with ⟨_, hi, _⟩
    rcases exists_of_any hj with ⟨_, hj, _⟩
    exact Option.some.inj ((hordered.calls i _ hi).left.symm.trans (hordered.calls j _ hj).left)
  · rcases exists_of_any hi with ⟨phase, hphase, hflight⟩
    exact ((hordered.calls i phase hphase).right hflight).right hheld
  · simp [Scheduler.permitted, hheld]

/-- The refresh of a tracked request is being fetched when two requests come, and one of them
ends and releases twice. -/
def interrupted : List PassAction :=
  [.refreshPass 0, .tick 30000000000, .pass 0 (.resolve none none),
    .pass 0 (.choose storedOrders), .pass 0 (.matchKey (str "key")), .pass 0 (.activate true),
    .pass 0 (.captureKey (str "key")), .foreground, .foreground, .release 0, .release 0]

def oneTracked : Scheduler :=
  (Scheduler.start 0).track id storedOrders (str "key") sectionsSnapshot minute .low
    (some (str "token"))

theorem foreground_first_interrupted :
    exists p, run (Passes.step id) (Passes.start oneTracked) interrupted = some p ∧
      p.flying 0 = true ∧ p.scheduler.foreground = 1 ∧ p.cancelled 0 = true := by
  have hcheck : ((run (Passes.step id) (Passes.start oneTracked) interrupted).any fun p =>
      p.flying 0 && p.scheduler.held) = true := by
    decide +kernel
  rcases exists_of_any hcheck with ⟨p, hrun, hboth⟩
  rcases (Bool.and_eq_true _ _).mp hboth with ⟨hflying, hheld⟩
  have hfirst := foreground_first id oneTracked (by decide +kernel) interrupted p hrun
  exact ⟨p, hrun, hflying, hfirst.right.left, (hfirst.right.right hheld).left 0 hflying⟩

end ReplxEdge.Warming
