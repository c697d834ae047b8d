import ReplxEdge.Foundation.Loops
import ReplxEdge.Sync.Sweep
import Mathlib.Data.List.Range

/-!
# The requests of a section

The loop of `syncSection` over everything the origin may answer. It goes on behind every
full page that does not reach an advertised total, and nothing counts the pages: an origin
that repeats full pages without a total keeps it running.
-/

namespace ReplxEdge.Sync

open Foundation

/-!
## The loop
-/

/-- The position of the next request, as an `int` holds it, and the index. -/
structure SectionState where
  start : Int
  index : Index

variable {i : Index} {s : SectionSync} {answers : Nat -> Fetched} {state : SectionState}

def advance (start : Int) (count : Nat) : Int :=
  (start + count).bmod (2 ^ 64)

namespace SectionSync

def endsBehind (s : SectionSync) (start : Int) (p : Page) : Bool :=
  decide ((p.items.length : Int) < s.page) || (decide (0 ≤ p.total) && decide (p.total ≤ start))

/-- The items of a page are written before its length is looked at. -/
def afterPage (s : SectionSync) (state : SectionState) :
    Fetched -> SectionState ⊕ (Outcome × Index)
  | .failed => Sum.inr (.failed, state.index)
  | .page p =>
    match s.upsertItems p.items state.index with
    | (Except.error _, next) => Sum.inr (.failed, next)
    | (Except.ok _, next) =>
      if s.endsBehind (advance state.start p.items.length) p then
        Sum.inr (.finished, next)
      else Sum.inl ⟨advance state.start p.items.length, next⟩

def loop (s : SectionSync) : Loop SectionState Fetched (Outcome × Index) where
  leave := fun _ => none
  step := s.afterPage

end SectionSync

def Returns (s : SectionSync) (cursor : Cursor) (answers : Nat -> Fetched) (i : Index) :
    Prop :=
  s.loop.Ends answers ⟨s.start cursor, i⟩

/-!
## Answers
-/

def Fetched.items : Fetched -> List ItemJSON
  | .failed => []
  | .page p => p.items

def served (answers : Nat -> Fetched) (n : Nat) : List ItemJSON :=
  (List.range n).flatMap fun k => (answers k).items

theorem served_succ (answers : Nat -> Fetched) (n : Nat) :
    served answers (n + 1) = served answers n ++ (answers n).items := by
  unfold served
  rw [List.range_succ, List.flatMap_append, List.flatMap_singleton]

def WritesSucceed (s : SectionSync) (answers : Nat -> Fetched) (i : Index) : Prop :=
  forall n statement, (s.upsertItems (served answers n) i).1 ≠
    Except.error (.failed statement)

/-- An answer behind which the loop cannot go on: a failure, an item without a rating key,
a short page, or one with a total that has been reached. -/
def StopsAt (s : SectionSync) (start : Int) (answers : Nat -> Fetched) (n : Nat) : Prop :=
  answers n = .failed ∨
    exists p, answers n = .page p ∧
      ((exists it, it ∈ p.items ∧ it.ratingKey = []) ∨
        s.endsBehind (advance start (served answers (n + 1)).length) p = true)

/-!
## Items
-/

variable {items : List ItemJSON}

section Items

variable {s : SectionSync}

variable {failure : SyncError}

theorem execute_error {accepts : Accepts} {statements : List Statement}
    (h : (execute accepts i statements).1 = Except.error failure) :
    exists statement, failure = .failed statement := by
  induction statements generalizing i with
  | nil => cases h
  | cons statement rest ih =>
    rw [execute] at h
    cases hexec : exec accepts i statement with
    | none =>
      rw [hexec] at h
      cases h
      exact ⟨statement, rfl⟩
    | some next =>
      rw [hexec] at h
      exact ih h

theorem upsertItems_error (h : (s.upsertItems items i).1 = Except.error failure) :
    (exists it, it ∈ items ∧ it.ratingKey = []) ∨
      exists statement, failure = .failed statement := by
  induction items generalizing i with
  | nil => cases h
  | cons it rest ih =>
    by_cases hkey : it.ratingKey = []
    · exact Or.inl ⟨it, List.mem_cons_self, hkey⟩
    rw [SectionSync.upsertItems] at h
    cases hone : upsertItem s.accepts s.server s.libraryID it s.genOrNil i with
    | mk answer next =>
      rw [hone] at h
      cases answer with
      | error other =>
        cases h
        rw [upsertItem, if_neg hkey] at hone
        exact Or.inr (execute_error (by rw [hone]))
      | ok _ =>
        rcases ih h with ⟨other, hother, hempty⟩ | hfailed
        · exact Or.inl ⟨other, List.mem_cons_of_mem it hother, hempty⟩
        · exact Or.inr hfailed

theorem ratingKey_of_upsertItems
    (h : (s.upsertItems items i).1 = Except.ok ()) {it : ItemJSON} (hit : it ∈ items) :
    it.ratingKey ≠ [] := by
  induction items generalizing i with
  | nil => cases hit
  | cons first rest ih =>
    rw [SectionSync.upsertItems] at h
    cases hone : upsertItem s.accepts s.server s.libraryID first s.genOrNil i with
    | mk answer next =>
      rw [hone] at h
      cases answer with
      | error failure => cases h
      | ok _ =>
        rcases List.mem_cons.mp hit with rfl | hrest
        · exact (upsertItem_ok.mp hone).left
        · exact ih h hrest

end Items

/-!
## One answer
-/

section OneAnswer

variable {s : SectionSync} {state next : SectionState}

theorem afterPage_inl {answer : Fetched} :
    s.afterPage state answer = Sum.inl next <-> exists p, answer = .page p ∧
        s.upsertItems p.items state.index = (Except.ok (), next.index) ∧
        s.endsBehind (advance state.start p.items.length) p = false ∧
        next.start = advance state.start p.items.length := by
  cases answer with
  | failed =>
    simp [SectionSync.afterPage]
  | page p =>
    rw [SectionSync.afterPage]
    cases hitems : s.upsertItems p.items state.index with
    | mk answer index =>
      cases answer with
      | error failure =>
        constructor
        · intro h
          cases h
        intro h
        rcases h with ⟨q, hq, hwritten, _⟩
        cases hq
        rw [hitems] at hwritten
        cases hwritten
      | ok _ =>
        simp only
        constructor
        · intro h
          split at h
          · cases h
          rename_i hmore
          cases h
          exact ⟨p, rfl, hitems, Bool.eq_false_of_not_eq_true hmore, rfl⟩
        intro h
        rcases h with ⟨q, hq, hwritten, hmore, hstart⟩
        cases hq
        rw [hitems] at hwritten
        rw [hmore, if_neg (by decide)]
        cases next
        cases hwritten
        simp only at hstart
        rw [hstart]

theorem advance_advance (start : Int) (a b : Nat) :
    advance (advance start a) b = advance start (a + b) := by
  unfold advance
  rw [Int.bmod_add_bmod, Int.natCast_add, Int.add_assoc]

end OneAnswer

/-!
## Every answer
-/

/-- What the loop has done when it waits for an answer: the items so far are written, and
the position counts them. -/
structure Sent (s : SectionSync) (start : Int) (answers : Nat -> Fetched) (i : Index)
    (n : Nat) (state : SectionState) : Prop where
  written : s.upsertItems (served answers n) i = (Except.ok (), state.index)
  position : forall count, advance state.start count =
    advance start ((served answers n).length + count)

variable {n : Nat}

theorem upsertItems_served {next : Index}
    (h : s.upsertItems (served answers n) i = (Except.ok (), next)) :
    s.upsertItems (served answers (n + 1)) i = s.upsertItems (answers n).items next := by
  rw [served_succ, upsertItems_append, h]

theorem sent_zero (s : SectionSync) (start : Int) (answers : Nat -> Fetched) (i : Index) :
    Sent s start answers i 0 ⟨start, i⟩ := by
  constructor
  · rfl
  intro count
  rw [served, List.range_zero, List.flatMap_nil, List.length_nil, Nat.zero_add]

theorem sent_succ {start : Int} {next : SectionState} (h : Sent s start answers i n state)
    (hnext : s.afterPage state (answers n) = Sum.inl next) :
    Sent s start answers i (n + 1) next := by
  rcases afterPage_inl.mp hnext with ⟨p, hp, hwritten, _, hstart⟩
  have hitems : (answers n).items = p.items := by
    rw [hp]
    rfl
  constructor
  · rw [upsertItems_served h.written, hitems]
    exact hwritten
  intro count
  rw [hstart, advance_advance, h.position, served_succ, List.length_append, hitems, Nat.add_assoc]

theorem goes_on {start : Int} (hwrites : WritesSucceed s answers i)
    (h : Sent s start answers i n state) (hstop : ¬ StopsAt s start answers n) :
    exists next, s.afterPage state (answers n) = Sum.inl next := by
  cases hanswer : answers n with
  | failed => exact absurd (Or.inl hanswer) hstop
  | page p =>
    have hkeys : ¬ exists it, it ∈ p.items ∧ it.ratingKey = [] := by
      intro hmissing
      exact hstop (Or.inr ⟨p, hanswer, Or.inl hmissing⟩)
    have hitems : (answers n).items = p.items := by
      rw [hanswer]
      rfl
    have hposition : advance state.start p.items.length =
        advance start (served answers (n + 1)).length := by
      rw [h.position, served_succ, List.length_append, hitems]
    have hserved := upsertItems_served h.written
    rw [hitems] at hserved
    cases hwritten : s.upsertItems p.items state.index with
    | mk answer index =>
      rw [hwritten] at hserved
      cases answer with
      | error failure =>
        rcases upsertItems_error (by rw [hwritten]) with hmissing | ⟨statement, rfl⟩
        · exact absurd hmissing hkeys
        · exact absurd (by rw [hserved]) (hwrites (n + 1) statement)
      | ok _ =>
        refine ⟨⟨advance state.start p.items.length, index⟩, ?_⟩
        apply afterPage_inl.mpr
        refine ⟨p, rfl, hwritten, ?_, rfl⟩
        rw [← Bool.not_eq_true, hposition]
        intro hends
        exact hstop (Or.inr ⟨p, hanswer, Or.inr hends⟩)

theorem not_inl_of_stopsAt {start : Int} {next : SectionState} (h : Sent s start answers i n state)
    (hstop : StopsAt s start answers n) :
    s.afterPage state (answers n) ≠ Sum.inl next := by
  intro hnext
  rcases afterPage_inl.mp hnext with ⟨p, hp, hwritten, hmore, _⟩
  rcases hstop with hfailed | ⟨q, hq, hmissing | hends⟩
  · rw [hp] at hfailed
    cases hfailed
  · rw [hp] at hq
    cases hq
    rcases hmissing with ⟨it, hit, hempty⟩
    exact ratingKey_of_upsertItems (by rw [hwritten]) hit hempty
  rw [hp] at hq
  cases hq
  have hitems : (answers n).items = p.items := by
    rw [hp]
    rfl
  rw [served_succ, List.length_append, hitems, ← h.position, hmore] at hends
  cases hends

/-!
## Whether the call returns
-/

/-- With every write succeeding, the call returns exactly when some answer fails, has an
item without a rating key, is short or has a total that has been reached. -/
theorem section_returns_iff (s : SectionSync) (cursor : Cursor) (answers : Nat -> Fetched)
    (i : Index) (hwrites : WritesSucceed s answers i) :
    Returns s cursor answers i <-> exists n, StopsAt s (s.start cursor) answers n := by
  constructor
  · intro hreturns
    by_contra hnever
    push Not at hnever
    have hgoes : forall n state, Sent s (s.start cursor) answers i n state ->
        exists next, s.loop.step state (answers n) = Sum.inl next ∧
          s.loop.leave next = none ∧ Sent s (s.start cursor) answers i (n + 1) next := by
      intro n state h
      rcases goes_on hwrites h (hnever n) with ⟨next, hnext⟩
      exact ⟨next, hnext, rfl, sent_succ h hnext⟩
    exact Loop.not_ends_of_waits hgoes rfl (sent_zero s (s.start cursor) answers i) hreturns
  intro hstops
  rcases hstops with ⟨n, hstop⟩
  cases hafter : s.loop.after answers ⟨s.start cursor, i⟩ (n + 1) with
  | inl next =>
    rcases Loop.after_succ_inl hafter with ⟨state, hstate, hnext, _⟩
    have hsent : Sent s (s.start cursor) answers i n state :=
      Loop.after_invariant (fun _ => sent_zero s (s.start cursor) answers i)
        (fun k t u _ ht hu _ => sent_succ ht hu) hstate
    exact absurd hnext (not_inl_of_stopsAt hsent hstop)
  | inr result => exact ⟨n + 1, result, hafter⟩

theorem upsertItems_bare
    (h : forall it, it ∈ items -> it.ratingKey ≠ [] ∧ it.guids = [] ∧ it.media = [])
    (i : Index) : (fullSweep.upsertItems items i).1 = Except.ok () := by
  induction items generalizing i with
  | nil => rfl
  | cons it rest ih =>
    rcases h it List.mem_cons_self with ⟨hkey, hguids, hmedia⟩
    have hrest := ih fun other hother => h other (List.mem_cons_of_mem it hother)
    rw [SectionSync.upsertItems, upsertItem, if_neg hkey, itemStatements, hguids, hmedia]
    exact hrest _

theorem writesSucceed_bare (h : forall n it, it ∈ (answers n).items ->
      it.ratingKey ≠ [] ∧ it.guids = [] ∧ it.media = []) :
    WritesSucceed fullSweep answers Index.empty := by
  intro n statement hfailed
  have hbare : (fullSweep.upsertItems (served answers n) Index.empty).1 = Except.ok () := by
    apply upsertItems_bare
    intro it hit
    rcases List.mem_flatMap.mp hit with ⟨k, _, hk⟩
    exact h k it hk
  rw [hbare] at hfailed
  cases hfailed

/-- A full page and a short one. -/
def twoPages : Nat -> Fetched
  | 0 => .page ⟨[bareItem (str "1"), bareItem (str "2")], none⟩
  | _ + 1 => .page ⟨[bareItem (str "3")], none⟩

theorem section_returns_two_pages :
    WritesSucceed fullSweep twoPages Index.empty ∧
      Returns fullSweep ⟨0, 0⟩ twoPages Index.empty := by
  have hwrites : WritesSucceed fullSweep twoPages Index.empty := by
    apply writesSucceed_bare
    intro n
    cases n with
    | zero => decide
    | succ n =>
      change forall it, it ∈ [bareItem (str "3")] -> _
      decide
  exact ⟨hwrites, (section_returns_iff fullSweep ⟨0, 0⟩ twoPages Index.empty hwrites).mpr
    ⟨1, Or.inr ⟨_, rfl, Or.inr (by decide)⟩⟩⟩

/-- An origin that ignores the position and leaves out the total. -/
def samePage : Nat -> Fetched :=
  fun _ => .page ⟨[bareItem (str "1"), bareItem (str "2")], none⟩

/-- Full pages without a total keep the loop running. -/
theorem same_page_never_returns :
    WritesSucceed fullSweep samePage Index.empty ∧
      ¬ Returns fullSweep ⟨0, 0⟩ samePage Index.empty := by
  refine ⟨writesSucceed_bare fun _ => ?_, ?_⟩
  · change forall it, it ∈ [bareItem (str "1"), bareItem (str "2")] -> _
    decide
  have hgoes : forall (n : Nat) (state : SectionState), True ->
      exists next, fullSweep.loop.step state (samePage n) = Sum.inl next ∧
        fullSweep.loop.leave next = none ∧ True := by
    intro n state _
    exact ⟨⟨advance state.start 2, _⟩, rfl, rfl, trivial⟩
  exact Loop.not_ends_of_waits hgoes rfl trivial

end ReplxEdge.Sync
