import ReplxEdge.Foundation.Journal
import ReplxEdge.Foundation.Runes
import ReplxEdge.Foundation.Runs
import Mathlib.Logic.Function.Basic

/-!
# Dirty marks

Events of the origin mark a section for the next pass, for its items or for its
collections. A pass visits the sections one after the other and takes the mark of a
section away once the section was fetched. Events arrive while a pass runs: a step is
taken by one or the other. Only one pass runs at a time.
-/

namespace ReplxEdge.Sync

open Foundation

/-!
## Events of the origin
-/

inductive MarkKind where
  | items
  | collections
deriving DecidableEq

/-- A call of `MarkDirty` or of `MarkCollectionsDirty`. -/
structure Mark where
  kind : MarkKind
  sectionID : GoString
deriving DecidableEq

structure Activity where
  subtype : GoString
  progress : Option Int
  contextKey : Option GoString

structure Notification where
  type : GoString
  activity : Option Activity

def sectionPath : GoString :=
  str "/library/sections/"

/-- The digits behind the first section path that has some. -/
def sectionKey : GoString -> Option GoString
  | [] => none
  | b :: rest =>
    let digits := ((b :: rest).drop sectionPath.length).takeWhile fun c => 48 ≤ c && c ≤ 57
    if hasPrefix (b :: rest) sectionPath && digits != [] then some digits
    else sectionKey rest

/-- The calls that one payload of the event stream leads to; `none` is a payload that is
not JSON of the expected form. -/
def handleEventData : Option Notification -> List Mark
  | none => []
  | some n =>
    match n.activity with
    | none => []
    | some a =>
      let subtype := toLower a.subtype
      let itemRefresh := contains subtype (str "library.refresh.items")
      let collectionRefresh := contains subtype (str "library.refresh.collections")
      if n.type ≠ str "activity" ∨ (itemRefresh || collectionRefresh) = false ∨
          (a.progress.any fun p => 100 ≤ p) = false then []
      else
        match sectionKey (a.contextKey.getD []) with
        | none => []
        | some id =>
          (if itemRefresh then [⟨.items, id⟩] else []) ++
            (if collectionRefresh then [⟨.collections, id⟩] else [])

/-!
## A pass
-/

/-- `SyncOnce` makes light and full passes, `SyncCollectionsOnce` only visits the
collections. -/
inductive PassKind where
  | light
  | full
  | collectionsOnly
deriving DecidableEq

structure SectionInfo where
  sectionID : GoString
  mediaType : GoString
  neverSynced : Bool

inductive PassPhase where
  | listing
  | items (rest sections : List SectionInfo)
  | fetchingItems (s : SectionInfo) (rest sections : List SectionInfo)
  | collections (rest : List SectionInfo)
  | fetchingCollections (s : SectionInfo) (rest : List SectionInfo)
  | ended

inductive Happening where
  | started (m : Mark)
  | marked (m : Mark)
  | cleared (m : Mark)
deriving DecidableEq

structure Worker where
  kind : PassKind
  phase : PassPhase
  dirty : GoString -> Bool
  collectionsDirty : GoString -> Bool
  log : List Happening

/-- What a step of the pass or of the event stream decides from outside: the sections
that the origin lists, whether the context ended, whether the collections of a section
were never read, and whether a fetch succeeded. -/
inductive WorkerEvent where
  | mark (m : Mark)
  | list (sections : Option (List SectionInfo))
  | visit (cancelled neverSynced : Bool)
  | fetched (ok : Bool)

namespace Worker

def start (kind : PassKind) (dirty collectionsDirty : GoString -> Bool) : Worker where
  kind := kind
  phase := .listing
  dirty := dirty
  collectionsDirty := collectionsDirty
  log := []

def isMarked (w : Worker) (m : Mark) : Bool :=
  match m.kind with
  | .items => w.dirty m.sectionID
  | .collections => w.collectionsDirty m.sectionID

def put (w : Worker) (m : Mark) (value : Bool) : Worker :=
  match m.kind with
  | .items => { w with dirty := Function.update w.dirty m.sectionID value }
  | .collections =>
    { w with collectionsDirty := Function.update w.collectionsDirty m.sectionID value }

def mark (w : Worker) (m : Mark) : Worker :=
  if m.sectionID = [] then w
  else { w.put m true with log := .marked m :: w.log }

def clear (w : Worker) (m : Mark) : Worker :=
  { w.put m false with log := .cleared m :: w.log }

def fetch (w : Worker) (m : Mark) (phase : PassPhase) : Worker :=
  { w with phase := phase, log := .started m :: w.log }

def goTo (w : Worker) (phase : PassPhase) : Worker :=
  { w with phase := phase }

def visitItems (w : Worker) (cancelled : Bool) (s : SectionInfo)
    (rest sections : List SectionInfo) : Worker :=
  if cancelled then w.goTo .ended
  else if w.kind = .full ∨ w.dirty s.sectionID = true ∨ s.neverSynced = true then
    w.fetch ⟨.items, s.sectionID⟩ (.fetchingItems s rest sections)
  else w.goTo (.items rest sections)

def visitCollections (w : Worker) (cancelled neverSynced : Bool) (s : SectionInfo)
    (rest : List SectionInfo) : Worker :=
  if cancelled then w.goTo .ended
  else if s.mediaType ≠ str "movie" ∧ s.mediaType ≠ str "show" then
    w.goTo (.collections rest)
  else if w.kind = .light ∧ w.collectionsDirty s.sectionID = false ∧
      neverSynced = false then
    w.goTo (.collections rest)
  else
    w.fetch ⟨.collections, s.sectionID⟩ (.fetchingCollections s rest)

def listed (w : Worker) (found : Option (List SectionInfo)) : Option Worker :=
  match w.phase with
  | .listing =>
    match found with
    | none => some (w.goTo .ended)
    | some sections =>
      if w.kind = .collectionsOnly then
        some (w.goTo (.collections sections))
      else some (w.goTo (.items sections sections))
  | _ => none

def visit (w : Worker) (cancelled neverSynced : Bool) : Option Worker :=
  match w.phase with
  | .items [] sections => some (w.goTo (.collections sections))
  | .items (s :: rest) sections => some (w.visitItems cancelled s rest sections)
  | .collections [] => some (w.goTo .ended)
  | .collections (s :: rest) =>
    some (w.visitCollections cancelled neverSynced s rest)
  | _ => none

/-- A fetch ended. A section whose collections could not be read is marked again. -/
def fetched (w : Worker) (ok : Bool) : Option Worker :=
  match w.phase with
  | .fetchingItems s rest sections =>
    let settled := if ok then w.clear ⟨.items, s.sectionID⟩ else w
    some (settled.goTo (.items rest sections))
  | .fetchingCollections s rest =>
    let m : Mark := ⟨.collections, s.sectionID⟩
    let settled := if ok then w.clear m else w.mark m
    some (settled.goTo (.collections rest))
  | _ => none

/-- One step; `none` when the pass does not stand there. -/
def step (w : Worker) : WorkerEvent -> Option Worker
  | .mark m => some (w.mark m)
  | .list found => w.listed found
  | .visit cancelled neverSynced => w.visit cancelled neverSynced
  | .fetched ok => w.fetched ok

end Worker

/-!
## What happens to a mark
-/

def MarkedWhileFetched (m : Mark) (log : List Happening) : Prop :=
  Once (fun past r => r = .marked m ∧ Once (fun _ r => r = .started m) past) log

instance (m : Mark) (log : List Happening) : Decidable (MarkedWhileFetched m log) :=
  Once.decidable _ log

def MarksKept (w : Worker) : Prop :=
  forall m, MarkedWhileFetched m w.log -> w.isMarked m = true

/-- What the pass is fetching. -/
def PassPhase.fetching : PassPhase -> Option Mark
  | .fetchingItems s _ _ => some ⟨.items, s.sectionID⟩
  | .fetchingCollections s _ => some ⟨.collections, s.sectionID⟩
  | _ => none

/-- No fetch succeeds whose section was marked between the start of a fetch and now. -/
def Undisturbed (w : Worker) : WorkerEvent -> Prop
  | .fetched ok => ok = true -> forall m, w.phase.fetching = some m ->
      ¬ MarkedWhileFetched m w.log
  | _ => True

instance (w : Worker) (e : WorkerEvent) : Decidable (Undisturbed w e) := by
  have := decidableForallSome (fun m => ¬ MarkedWhileFetched m w.log) w.phase.fetching
  cases e <;> unfold Undisturbed <;> infer_instance

theorem markedWhileFetched_cons {m : Mark} {r : Happening} {past : List Happening}
    (hr : r ≠ .marked m) : MarkedWhileFetched m (r :: past) <-> MarkedWhileFetched m past := by
  constructor
  · intro h
    rcases h with hhere | ⟨_, hpast⟩
    · exact absurd hhere.left hr
    · exact hpast
  intro h
  exact Since.later (fun hfalse => hfalse) h

theorem Worker.isMarked_put (w : Worker) (n m : Mark) (value : Bool) :
    (w.put n value).isMarked m = if n = m then value else w.isMarked m := by
  cases n with
  | mk nkind nsection =>
    cases m with
    | mk mkind msection =>
      cases nkind with
      | items =>
        cases mkind with
        | items =>
          simp [Worker.put, Worker.isMarked, Function.update_apply, eq_comm]
        | collections =>
          simp [Worker.put, Worker.isMarked]
      | collections =>
        cases mkind with
        | items =>
          simp [Worker.put, Worker.isMarked]
        | collections =>
          simp [Worker.put, Worker.isMarked, Function.update_apply, eq_comm]

variable {w w' : Worker}

theorem MarksKept.fetch (h : MarksKept w) (n : Mark) (phase : PassPhase) :
    MarksKept (w.fetch n phase) :=
  fun m hm => h m ((markedWhileFetched_cons (by simp)).mp hm)

theorem MarksKept.mark (h : MarksKept w) (n : Mark) : MarksKept (w.mark n) := by
  unfold Worker.mark
  split
  · exact h
  intro m hm
  refine (Worker.isMarked_put w n m true).trans ?_
  split
  · rfl
  · rename_i hn
    exact h m ((markedWhileFetched_cons (by simpa using hn)).mp hm)

/-- Only the end of a successful fetch takes a mark away. -/
theorem MarksKept.clear {n : Mark} (h : MarksKept w) (hn : ¬ MarkedWhileFetched n w.log) :
    MarksKept (w.clear n) := by
  intro m hm
  have hpast : MarkedWhileFetched m w.log := (markedWhileFetched_cons (by simp)).mp hm
  refine (Worker.isMarked_put w n m false).trans ?_
  split
  · rename_i hsame
    exact absurd (hsame ▸ hpast) hn
  · exact h m hpast

theorem MarksKept.visit {cancelled neverSynced : Bool} (h : MarksKept w)
    (hvisit : w.visit cancelled neverSynced = some w') : MarksKept w' := by
  unfold Worker.visit Worker.visitItems Worker.visitCollections at hvisit
  repeat' split at hvisit
  all_goals cases hvisit
  all_goals first | exact h | exact h.fetch _ _

theorem MarksKept.fetched {ok : Bool} (h : MarksKept w) (hquiet : Undisturbed w (.fetched ok))
    (hfetched : w.fetched ok = some w') : MarksKept w' := by
  unfold Worker.fetched at hfetched
  split at hfetched
  · rename_i hphase
    cases hfetched
    cases ok with
    | false => exact h
    | true => exact h.clear (hquiet rfl _ (by rw [hphase]; rfl))
  · rename_i hphase
    cases hfetched
    cases ok with
    | false => exact h.mark _
    | true => exact h.clear (hquiet rfl _ (by rw [hphase]; rfl))
  · cases hfetched

theorem marksKept_step {e : WorkerEvent} (h : MarksKept w) (hquiet : Undisturbed w e)
    (hstep : w.step e = some w') : MarksKept w' := by
  cases e with
  | mark m =>
    cases hstep
    exact h.mark m
  | list found =>
    simp only [Worker.step, Worker.listed] at hstep
    repeat' split at hstep
    all_goals cases hstep
    all_goals exact h
  | visit cancelled neverSynced => exact h.visit hstep
  | fetched ok => exact h.fetched hquiet hstep

/-- In every pass, with events at any time: a section that was marked since a fetch of it began
stays marked, if no fetch of a section that was marked meanwhile succeeds. -/
theorem marks_kept (kind : PassKind) (dirty collectionsDirty : GoString -> Bool)
    (events : List WorkerEvent) (w : Worker)
    (hquiet : Along Worker.step Undisturbed (Worker.start kind dirty collectionsDirty) events)
    (hrun : run Worker.step (Worker.start kind dirty collectionsDirty) events = some w) :
    MarksKept w := by
  refine run_invariant (fun _ _ _ h hcond hstep => marksKept_step h hcond hstep) ?_
    hquiet hrun
  exact fun _ hm => hm.elim

/-- A refresh of a section that the origin finished, of the kinds that its subtype
names. -/
def refreshed (subtype : GoString) : Notification where
  type := str "activity"
  activity := some ⟨subtype, some 100, some (str "/library/sections/1/refresh")⟩

def movies : SectionInfo where
  sectionID := str "1"
  mediaType := str "movie"
  neverSynced := true

/-- A pass over one section that gets a mark while it fetches the items and one while it
fetches the collections. -/
def markedPass (ok : Bool) : List WorkerEvent :=
  [.list (some [movies]), .visit false true,
    .mark ⟨.items, str "1"⟩,
    .fetched ok, .visit false true, .visit false true,
    .mark ⟨.collections, str "1"⟩,
    .fetched ok, .visit false true]

theorem marks_kept_failed_fetches :
    exists w, run Worker.step
        (Worker.start .light (fun _ => false) fun _ => false) (markedPass false) =
          some w ∧ w.phase = .ended ∧
      MarkedWhileFetched ⟨.items, str "1"⟩ w.log ∧ MarksKept w := by
  exact ⟨_, rfl, rfl, by decide,
    marks_kept .light (fun _ => false) (fun _ => false) (markedPass false) _ (by decide) rfl⟩

/-- Both kinds of marks are lost when the fetches succeed. -/
theorem marks_lost :
    handleEventData (some (refreshed (str "library.refresh.items"))) =
        [⟨.items, str "1"⟩] ∧
      handleEventData (some (refreshed (str "library.refresh.collections"))) =
        [⟨.collections, str "1"⟩] ∧
      exists w, run Worker.step
          (Worker.start .light (fun _ => false) fun _ => false) (markedPass true) =
            some w ∧ w.phase = .ended ∧
        (MarkedWhileFetched ⟨.items, str "1"⟩ w.log ∧
          w.isMarked ⟨.items, str "1"⟩ = false) ∧
        (MarkedWhileFetched ⟨.collections, str "1"⟩ w.log ∧
          w.isMarked ⟨.collections, str "1"⟩ = false) ∧
        ¬ MarksKept w := by
  refine ⟨by decide, by decide, _, rfl, rfl, ⟨by decide, rfl⟩, ⟨by decide, rfl⟩, ?_⟩
  intro hkept
  have hmark := hkept ⟨.items, str "1"⟩ (by decide)
  cases hmark

end ReplxEdge.Sync
