import ReplxEdge.Sync.Index

/-!
# Sweeping a section

A full pass reads a section page by page, stamps what it sees with its
generation, and deletes the items of the library that carry another stamp. The
pages end with a short one, or with one that reaches the total the origin
advertises; whether they hold as many items as were advertised is not checked.
-/

namespace ReplxEdge.Sync

open Foundation

/-!
## Pages
-/

structure Page where
  items : List ItemJSON
  totalSize : Option Int

/-- The total of a page, -1 when it is missing. The number of items in the page itself
is no substitute. -/
def Page.total (p : Page) : Int :=
  p.totalSize.getD (-1)

/-- The answer to the request for a page. A pass that was cancelled, a failed request,
another status than 200, a body over the limit and one that does not decode all fail. -/
inductive Fetched where
  | failed
  | page (p : Page)

structure Cursor where
  start : Nat
  generation : Int

structure SectionSync where
  server : GoString
  libraryID : GoString
  pageSize : Int
  full : Bool
  gen : Int
  accepts : Accepts
  deletes : Bool

namespace SectionSync

def page (s : SectionSync) : Int :=
  if s.pageSize ≤ 0 then 100 else s.pageSize

/-- A full sweep resumes a cursor of its own generation only. -/
def start (s : SectionSync) (cursor : Cursor) : Nat :=
  if s.full then
    if cursor.generation ≠ s.gen then 0 else cursor.start
  else 0

def genOrNil (s : SectionSync) : Option Int :=
  if s.full then some s.gen else none

def upsertItems (s : SectionSync) : List ItemJSON -> Index -> Except SyncError Unit × Index
  | [], i => (Except.ok (), i)
  | it :: rest, i =>
    match upsertItem s.accepts s.server s.libraryID it s.genOrNil i with
    | (Except.error failure, next) => (Except.error failure, next)
    | (Except.ok _, next) => upsertItems s rest next

/-- Whether the loop ends behind a page; `start` counts its items already. -/
def endsAt (s : SectionSync) (start : Nat) (p : Page) : Bool :=
  decide ((p.items.length : Int) < s.page) || (decide (0 ≤ p.total) && decide (p.total ≤ start))

end SectionSync

inductive Outcome where
  | running
  | failed
  | finished
deriving DecidableEq

/-- The pages that were processed, the position behind them, and how the loop stands. -/
structure Sweep where
  pages : List Page
  start : Nat
  index : Index
  outcome : Outcome

def sweepPages (s : SectionSync) : List Fetched -> List Page -> Nat -> Index -> Sweep
  | [], done, start, i => ⟨done, start, i, .running⟩
  | .failed :: _, done, start, i => ⟨done, start, i, .failed⟩
  | .page p :: rest, done, start, i =>
    match s.upsertItems p.items i with
    | (Except.error _, next) => ⟨done, start, next, .failed⟩
    | (Except.ok _, next) =>
      let reached := start + p.items.length
      if s.endsAt reached p then ⟨done ++ [p], reached, next, .finished⟩
      else sweepPages s rest (done ++ [p]) reached next

/-- Whether the end-of-section delete removes an item. -/
def Index.outside (i : Index) (libraryID : GoString) (gen : Int) (item : ItemKey) : Bool :=
  match i.items.lookup item with
  | none => false
  | some row => row.libraryID == libraryID && row.sweepGen != some gen

/-- The end-of-section delete, which takes variants and parts along. -/
def Index.deleteOutside (i : Index) (libraryID : GoString) (gen : Int) : Index where
  items := i.items.keep fun k _ => !i.outside libraryID gen k
  variants := i.variants.keep fun k _ => !i.outside libraryID gen k.1
  parts := i.parts.keep fun k _ => !i.outside libraryID gen k.1.1

/-- What a call leaves behind; `issued` tells that it sent the delete. -/
structure SweepResult where
  pages : List Page
  index : Index
  issued : Bool
  outcome : Outcome

def syncSection (s : SectionSync) (cursor : Cursor) (answers : List Fetched) (i : Index) :
    SweepResult :=
  let swept := sweepPages s answers [] (s.start cursor) i
  if swept.outcome = .finished ∧ s.full = true then
    if s.deletes then
      ⟨swept.pages, swept.index.deleteOutside s.libraryID s.gen, true, .finished⟩
    else ⟨swept.pages, swept.index, true, .failed⟩
  else ⟨swept.pages, swept.index, false, swept.outcome⟩

/-!
## Complete sweeps
-/

def itemCount (pages : List Page) : Nat :=
  (pages.map fun p => p.items.length).sum

/-- The pages behind a position hold as many items as every total size they advertise,
and an empty section says so. -/
structure Complete (start : Nat) (pages : List Page) : Prop where
  totals : forall p total, p ∈ pages -> p.totalSize = some total ->
    total ≤ start + itemCount pages
  first : forall p, start = 0 -> pages.head? = some p -> p.items = [] ->
    p.totalSize = some 0

/-- The delete is sent behind complete pages only, and without them no item is deleted. -/
structure SweepSafe (start : Nat) (before : Index) (result : SweepResult) : Prop where
  issued : result.issued = true -> Complete start result.pages
  kept : ¬ Complete start result.pages -> forall item,
    (before.items.lookup item).isSome = true -> (result.index.items.lookup item).isSome = true

def EndsWith (s : SectionSync) : Nat -> List Page -> Prop
  | _, [] => False
  | start, [p] => s.endsAt (start + p.items.length) p = true
  | start, p :: rest =>
    s.endsAt (start + p.items.length) p = false ∧ EndsWith s (start + p.items.length) rest

variable {s : SectionSync} {pages : List Page}

theorem endsWith_cons {start : Nat} {p : Page} {rest : List Page} :
    EndsWith s start (p :: rest) <-> (rest = [] ∧ s.endsAt (start + p.items.length) p = true) ∨
        (rest ≠ [] ∧ s.endsAt (start + p.items.length) p = false ∧
          EndsWith s (start + p.items.length) rest) := by
  cases rest with
  | nil | cons =>
    simp [EndsWith]

/-!
## The loop
-/

variable {i : Index} {answers : List Fetched}

theorem upsertItems_append (first second : List ItemJSON) (i : Index) :
    s.upsertItems (first ++ second) i =
      match s.upsertItems first i with
      | (Except.error failure, next) => (Except.error failure, next)
      | (Except.ok _, next) => s.upsertItems second next := by
  induction first generalizing i with
  | nil => rfl
  | cons it rest ih =>
    rw [List.cons_append, SectionSync.upsertItems, SectionSync.upsertItems]
    cases upsertItem s.accepts s.server s.libraryID it s.genOrNil i with
    | mk answer next =>
      cases answer with
      | error failure => rfl
      | ok _ => exact ih next

theorem sweepPages_finished {start : Nat} (hends : EndsWith s start pages)
    (hstored : (s.upsertItems (pages.flatMap Page.items) i).1 = Except.ok ())
    (rest : List Fetched) (done : List Page) :
    (sweepPages s (pages.map .page ++ rest) done start i).pages = done ++ pages ∧
    (sweepPages s (pages.map .page ++ rest) done start i).outcome = .finished := by
  induction pages generalizing start i done with
  | nil => exact hends.elim
  | cons p later ih =>
    rw [List.flatMap_cons, upsertItems_append] at hstored
    rw [List.map_cons, List.cons_append, sweepPages]
    cases hitems : s.upsertItems p.items i with
    | mk answer next =>
      rw [hitems] at hstored
      cases answer with
      | error failure => cases hstored
      | ok _ =>
        simp only at hstored ⊢
        rcases endsWith_cons.mp hends with ⟨rfl, hlast⟩ | ⟨_, hmore, hlater⟩
        · rw [if_pos hlast]
          exact ⟨rfl, rfl⟩
        rw [hmore, if_neg (by decide)]
        rcases ih hlater hstored (done ++ [p]) with ⟨hpages, houtcome⟩
        refine ⟨?_, houtcome⟩
        rw [hpages, List.append_assoc]
        rfl

theorem pages_of_finished {done : List Page} {start : Nat}
    (h : (sweepPages s answers done start i).outcome = .finished) :
    exists pages rest, answers = pages.map .page ++ rest ∧ EndsWith s start pages ∧
    (s.upsertItems (pages.flatMap Page.items) i).1 = Except.ok () := by
  induction answers generalizing done start i with
  | nil => cases h
  | cons answer answers ih =>
    cases answer with
    | failed => cases h
    | page p =>
      rw [sweepPages] at h
      cases hitems : s.upsertItems p.items i with
      | mk answer next =>
        rw [hitems] at h
        cases answer with
        | error failure => cases h
        | ok _ =>
          simp only at h
          cases hlast : s.endsAt (start + p.items.length) p with
          | true =>
            refine ⟨[p], answers, rfl, hlast, ?_⟩
            rw [List.flatMap_singleton, hitems]
          | false =>
            rw [hlast, if_neg (by decide)] at h
            rcases ih h with ⟨pages, rest, hanswers, hends, hstored⟩
            refine ⟨p :: pages, rest, ?_, ?_, ?_⟩
            · rw [hanswers]
              rfl
            · rw [endsWith_cons]
              right
              refine ⟨?_, hlast, hends⟩
              intro hnil
              rw [hnil] at hends
              exact hends
            rw [List.flatMap_cons, upsertItems_append, hitems]
            exact hstored

/-!
## Items stay until the delete
-/

def KeepsItems (before after : Index) : Prop :=
  forall item, (before.items.lookup item).isSome = true ->
    (after.items.lookup item).isSome = true

theorem keepsItems_apply {j : Index} {statement : Statement}
    (h : i.apply statement = some j) : KeepsItems i j := by
  intro item hitem
  cases statement with
  | upsertItem key libraryID gen =>
    cases h
    unfold Index.putItem
    rw [Table.lookup_set]
    split
    · rfl
    · exact hitem
  | upsertPart variant partIndex row =>
    rcases Option.map_eq_some_iff.mp h with ⟨parts, _, rfl⟩
    exact hitem
  | insertGuid | pruneGuids | upsertVariant | clearStreams | insertStream | pruneParts
  | pruneVariants =>
    cases h
    exact hitem

theorem keepsItems_execute {accepts : Accepts} (statements : List Statement) (i : Index) :
    KeepsItems i (execute accepts i statements).2 := by
  induction statements generalizing i with
  | nil =>
    intro item hitem
    exact hitem
  | cons statement rest ih =>
    rw [execute]
    cases hexec : exec accepts i statement with
    | none =>
      intro item hitem
      exact hitem
    | some next =>
      intro item hitem
      apply ih next
      apply keepsItems_apply _ item hitem
      · exact statement
      unfold exec at hexec
      split at hexec
      · exact hexec
      · cases hexec

theorem keepsItems_upsertItems (items : List ItemJSON) (i : Index) :
    KeepsItems i (s.upsertItems items i).2 := by
  induction items generalizing i with
  | nil =>
    intro item hitem
    exact hitem
  | cons it rest ih =>
    have hone : KeepsItems i
        (upsertItem s.accepts s.server s.libraryID it s.genOrNil i).2 := by
      unfold upsertItem
      split
      · intro item hitem
        exact hitem
      · exact keepsItems_execute _ i
    rw [SectionSync.upsertItems]
    cases hwritten : upsertItem s.accepts s.server s.libraryID it s.genOrNil i with
    | mk answer next =>
      rw [hwritten] at hone
      cases answer with
      | error failure => exact hone
      | ok _ =>
        intro item hitem
        exact ih next item (hone item hitem)

theorem keepsItems_sweepPages (answers : List Fetched) (done : List Page)
    (start : Nat) (i : Index) : KeepsItems i (sweepPages s answers done start i).index := by
  induction answers generalizing done start i with
  | nil =>
    intro item hitem
    exact hitem
  | cons answer answers ih =>
    cases answer with
    | failed =>
      intro item hitem
      exact hitem
    | page p =>
      have hpage := keepsItems_upsertItems (s := s) p.items i
      rw [sweepPages]
      cases hitems : s.upsertItems p.items i with
      | mk answer next =>
        rw [hitems] at hpage
        cases answer with
        | error failure => exact hpage
        | ok _ =>
          simp only
          split
          · exact hpage
          intro item hitem
          exact ih _ _ next item (hpage item hitem)

/-!
## An origin that serves one list
-/

def SectionSync.slice (s : SectionSync) (library : List ItemJSON) (start : Nat) : Page :=
  ⟨(library.drop start).take s.page.toNat, some (library.length : Int)⟩

def ServesSlices (s : SectionSync) (library : List ItemJSON) : Nat -> List Fetched -> Prop
  | _, [] => True
  | _, .failed :: _ => True
  | start, .page p :: rest =>
    p = s.slice library start ∧ ServesSlices s library (start + p.items.length) rest

theorem page_pos (s : SectionSync) : 0 < s.page := by
  unfold SectionSync.page
  split
  · decide
  · omega

theorem slice_length (s : SectionSync) (library : List ItemJSON) (start : Nat) :
    ((s.slice library start).items.length : Int) = min s.page (library.length - start : Nat) := by
  have hpage := page_pos s
  unfold SectionSync.slice
  rw [List.length_take, List.length_drop]
  omega

variable {library : List ItemJSON}

theorem slices_reach_end {rest : List Fetched} {start : Nat} (hstart : start ≤ library.length)
    (hends : EndsWith s start pages)
    (hslices : ServesSlices s library start (pages.map .page ++ rest)) :
    start + itemCount pages = library.length ∧
      forall p, p ∈ pages -> p.totalSize = some (library.length : Int) := by
  induction pages generalizing start with
  | nil => exact hends.elim
  | cons p later ih =>
    rcases hslices with ⟨hp, hlater⟩
    have hlength := slice_length s library start
    rw [← hp] at hlength
    have htotal : p.totalSize = some (library.length : Int) := by
      rw [hp]
      rfl
    have hcount : itemCount (p :: later) = p.items.length + itemCount later := by
      unfold itemCount
      rw [List.map_cons, List.sum_cons]
    rcases endsWith_cons.mp hends with ⟨rfl, hlast⟩ | ⟨_, _, hmore⟩
    · constructor
      · rw [SectionSync.endsAt, Page.total, htotal, Bool.or_eq_true, Bool.and_eq_true,
          decide_eq_true_iff, decide_eq_true_iff, decide_eq_true_iff] at hlast
        rw [hcount]
        unfold itemCount
        simp only [List.map_nil, List.sum_nil, Option.getD_some] at hlast ⊢
        omega
      intro q hq
      rw [List.mem_singleton.mp hq]
      exact htotal
    rcases ih (by omega) hmore hlater with ⟨hreached, htotals⟩
    constructor
    · rw [hcount]
      omega
    intro q hq
    rcases List.mem_cons.mp hq with rfl | hq
    · exact htotal
    · exact htotals q hq

theorem complete_of_slices {rest : List Fetched} {start : Nat} (hstart : start ≤ library.length)
    (hends : EndsWith s start pages)
    (hslices : ServesSlices s library start (pages.map .page ++ rest)) :
    Complete start pages := by
  rcases slices_reach_end hstart hends hslices with ⟨hreached, htotals⟩
  constructor
  · intro p total hp htotal
    rw [htotals p hp] at htotal
    cases htotal
    omega
  intro p hzero hhead hempty
  cases pages with
  | nil => cases hhead
  | cons first later =>
    cases hhead
    have hlength := slice_length s library start
    rw [← hslices.left, hempty, List.length_nil] at hlength
    have hpage := page_pos s
    rw [htotals p List.mem_cons_self]
    congr 1
    omega

/-!
## Safety
-/

theorem issued_iff (hfull : s.full = true) (cursor : Cursor) (answers : List Fetched) (i : Index) :
    (syncSection s cursor answers i).issued = true <->
      (sweepPages s answers [] (s.start cursor) i).outcome = .finished := by
  unfold syncSection
  simp only [hfull, and_true]
  split
  · rename_i hfinished
    split
    all_goals simp [hfinished]
  rename_i hfinished
  simp [hfinished]

theorem syncSection_pages (s : SectionSync) (cursor : Cursor) (answers : List Fetched) (i : Index) :
    (syncSection s cursor answers i).pages =
      (sweepPages s answers [] (s.start cursor) i).pages := by
  unfold syncSection
  simp only
  split
  · split
    · rfl
    · rfl
  · rfl

theorem keepsItems_of_not_issued {cursor : Cursor}
    (h : ¬ (syncSection s cursor answers i).issued = true) :
    KeepsItems i (syncSection s cursor answers i).index := by
  have hpages := keepsItems_sweepPages (s := s) answers [] (s.start cursor) i
  unfold syncSection at h ⊢
  simp only at h ⊢
  split
  · rename_i hfinished
    rw [if_pos hfinished] at h
    split at h
    all_goals exact absurd rfl h
  · exact hpages

/-- A full sweep is safe exactly when the pages that its loop ends with, once they are
written, are complete. -/
theorem sweep_safe_iff (s : SectionSync) (cursor : Cursor) (answers : List Fetched)
    (i : Index) (hfull : s.full = true) :
    SweepSafe (s.start cursor) i (syncSection s cursor answers i) <->
      forall pages rest, answers = pages.map .page ++ rest -> EndsWith s (s.start cursor) pages ->
        (s.upsertItems (pages.flatMap Page.items) i).1 = Except.ok () ->
          Complete (s.start cursor) pages := by
  constructor
  · intro h pages rest hanswers hends hstored
    rcases sweepPages_finished hends hstored rest [] with ⟨hpages, hfinished⟩
    rw [← hanswers] at hpages hfinished
    have hcomplete := h.issued ((issued_iff hfull cursor answers i).mpr hfinished)
    rw [syncSection_pages, hpages] at hcomplete
    exact hcomplete
  intro h
  have hissued : (syncSection s cursor answers i).issued = true ->
      Complete (s.start cursor) (syncSection s cursor answers i).pages := by
    intro hissued
    rcases pages_of_finished ((issued_iff hfull cursor answers i).mp hissued) with
      ⟨pages, rest, hanswers, hends, hstored⟩
    rcases sweepPages_finished hends hstored rest [] with ⟨hpages, _⟩
    rw [syncSection_pages, hanswers, hpages]
    exact h pages rest hanswers hends hstored
  refine ⟨hissued, ?_⟩
  intro hincomplete
  exact keepsItems_of_not_issued fun hsent => hincomplete (hissued hsent)

def bareItem (ratingKey : GoString) : ItemJSON :=
  ⟨ratingKey, [], []⟩

def fullSweep : SectionSync where
  server := str "s"
  libraryID := str "lib"
  pageSize := 2
  full := true
  gen := 7
  accepts := fun _ => true
  deletes := true

def threeItems : List ItemJSON :=
  [bareItem (str "1"), bareItem (str "2"), bareItem (str "3")]

def sweptIndex : Index :=
  ({ fullSweep with gen := 6 }.upsertItems threeItems Index.empty).2

theorem sweep_safe_slices :
    ServesSlices fullSweep threeItems 0 [.page (fullSweep.slice threeItems 0),
        .page (fullSweep.slice threeItems 2)] ∧ SweepSafe 0 sweptIndex (syncSection fullSweep ⟨0, 0⟩
      [.page (fullSweep.slice threeItems 0), .page (fullSweep.slice threeItems 2)] sweptIndex) := by
  have hslices : ServesSlices fullSweep threeItems 0
      [.page (fullSweep.slice threeItems 0),
        .page (fullSweep.slice threeItems 2)] :=
    ⟨rfl, rfl, trivial⟩
  refine ⟨hslices, (sweep_safe_iff fullSweep ⟨0, 0⟩ _ sweptIndex rfl).mpr ?_⟩
  intro pages rest hanswers hends _
  rw [hanswers] at hslices
  exact complete_of_slices (Nat.zero_le _) hends hslices

def truncatedPage : Page :=
  ⟨[bareItem (str "1")], some 3⟩

def emptyPage : Page :=
  ⟨[], none⟩

/-- Items that were not seen are deleted behind a short page, and all of them behind an
empty one. -/
theorem unseen_items_deleted :
    (exists r, syncSection fullSweep ⟨0, 0⟩ [.page truncatedPage] sweptIndex = r ∧
      r.issued = true ∧ sweptIndex.items.lookup (str "s", str "2") ≠ none ∧
      r.index.items.lookup (str "s", str "2") = none ∧ ¬ SweepSafe 0 sweptIndex r) ∧
    exists r, syncSection fullSweep ⟨0, 0⟩ [.page emptyPage] sweptIndex = r ∧
      r.issued = true ∧ r.index.items.entries = [] ∧ ¬ SweepSafe 0 sweptIndex r := by
  constructor
  · refine ⟨_, rfl, rfl, by decide +kernel, by decide +kernel, ?_⟩
    intro h
    have htotal := (h.issued rfl).totals truncatedPage 3 List.mem_cons_self rfl
    exact absurd htotal (by decide)
  refine ⟨_, rfl, rfl, by decide +kernel, ?_⟩
  intro h
  have hfirst := (h.issued rfl).first emptyPage rfl rfl rfl
  cases hfirst

end ReplxEdge.Sync
