import ReplxEdge.Sync.Publication

/-!
# No invalidation is lost

A publication that changes what is displayed sets the pending flag of its library in the
same transaction. The flag is cleared only after the invalidator has been called
successfully, so a change that no successful call has followed leaves it set, however the
passes end.
-/

namespace ReplxEdge.Collections

open Foundation

variable {w : World} {call : Call} {library : GoString}

/-- What is published of a library has changed since the last invalidation. -/
def Stale (library : GoString) : List CollectionDeed -> Prop
  | [] => False
  | .invalidated :: _ => False
  | .committed before after :: older =>
    (exists ratingKey, before.view library ratingKey ≠ after.view library ratingKey) ∨
      Stale library older

/-- Every change of an existing library is announced or still pending. Ids of libraries
that are yet to come have no past. -/
structure Announced (w : World) : Prop where
  libraries : forall library, library ∈ w.db.libraries -> library ∈ w.known
  foreign : forall library, library ∉ w.known -> ¬ Stale library w.journal
  pending : forall library, library ∈ w.db.libraries -> Stale library w.journal ->
    w.db.pending library = true

theorem pending_clearPending (db : Database) (library other : GoString) :
    (db.clearPending library).pending other =
      if other = library then false else db.pending other := by
  unfold Database.pending
  rw [lookup_clearPending]
  cases db.syncs.lookup other with
  | none | some =>
    split
    all_goals rfl

section Statements

variable {w v : World} {library : GoString}

theorem Announced.of_quiet (h : Announced w) (hquiet : Quiet w v) : Announced v := by
  constructor
  · intro other hother
    rw [hquiet.libraries] at hother
    rw [hquiet.known]
    exact h.libraries other hother
  · intro other hother
    rw [hquiet.known] at hother
    rw [hquiet.journal]
    exact h.foreign other hother
  intro other hother hstale
  rw [hquiet.libraries] at hother
  rw [hquiet.journal] at hstale
  rw [hquiet.pending]
  exact h.pending other hother hstale

theorem Announced.invalidate {succeeds : Bool} (h : Announced w)
    (hinvalidate : w.invalidate library succeeds = some v) :
    Announced v ∧ (library ∈ v.db.libraries -> ¬ Stale library v.journal) := by
  rcases invalidate_cases hinvalidate with ⟨rfl, hnone⟩ | rfl
  · refine ⟨h, ?_⟩
    intro hlibrary hstale
    rw [h.pending library hlibrary hstale] at hnone
    cases hnone
  exact ⟨⟨h.libraries, fun _ _ hstale => hstale, fun _ _ hstale => hstale.elim⟩,
    fun _ hstale => hstale⟩

theorem Announced.clear (h : Announced w)
    (hsettled : library ∈ w.db.libraries -> ¬ Stale library w.journal) :
    Announced (w.store (w.db.clearPending library)) := by
  refine ⟨h.libraries, h.foreign, ?_⟩
  intro other hother hstale
  have hne : other ≠ library := by
    intro hsame
    rw [hsame] at hother hstale
    exact hsettled hother hstale
  show (w.db.clearPending library).pending other = true
  rw [pending_clearPending, if_neg hne]
  exact h.pending other hother hstale

end Statements

/-!
## Behind a publication
-/

def Call.invalidator : Call -> Option Bool
  | .library _ _ _ invalidator _ => invalidator
  | .collection _ _ _ _ invalidator => invalidator

def Call.pruning : Call -> List Statement
  | .library _ _ _ _ old => [.pruneSnapshots old]
  | .collection _ _ _ _ _ => []

theorem Call.rest_eq (call : Call) :
    call.rest = (match call.invalidator with
      | none => []
      | some succeeds => [.invalidate call.home succeeds,
          .clearPending call.home]) ++ call.pruning := by
  cases call with
  | library server name origin invalidator old =>
    cases invalidator with
    | none | some => rfl
  | collection server name ratingKey children invalidator =>
    cases invalidator with
    | none | some => rfl

theorem Call.pruning_prunes (call : Call) :
    forall st, st ∈ call.pruning -> exists old, st = .pruneSnapshots old := by
  intro st hst
  cases call with
  | library server name origin invalidator old => exact ⟨old, List.mem_singleton.mp hst⟩
  | collection => cases hst

theorem run_prunes {v : World} {statements : List Statement}
    (hprunes : forall st, st ∈ statements -> exists old, st = .pruneSnapshots old)
    (hrun : run World.apply w statements = some v) : Quiet w v := by
  induction statements generalizing w with
  | nil =>
    cases hrun
    exact Quiet.refl v
  | cons st rest ih =>
    rcases run_cons hrun with ⟨next, happly, hrest⟩
    rcases hprunes st List.mem_cons_self with ⟨old, rfl⟩
    cases happly
    have hquiet : Quiet w (w.store (w.db.pruneSnapshots old)) :=
      ⟨rfl, rfl, rfl, fun _ => rfl, fun _ hsynced => hsynced, (pruneSnapshots_kept w old).view⟩
    exact hquiet.trans
      (ih (fun other hother => hprunes other (List.mem_cons_of_mem _ hother)) hrest)

variable {m : Nat}

theorem rest_cases {v : World} (hrun : run World.apply w (call.rest.take m) = some v) :
    (Quiet w v ∧ (call.invalidator = none ∨ m < call.rest.length)) ∨
    exists succeeds called, w.invalidate call.home succeeds = some called ∧
    ((v = called ∧ m < call.rest.length) ∨
        Quiet (called.store (called.db.clearPending call.home)) v) := by
  have hquiet : forall {start : World} {count : Nat},
      run World.apply start (call.pruning.take count) = some v -> Quiet start v :=
    fun h => run_prunes (fun st hst => call.pruning_prunes st (List.mem_of_mem_take hst)) h
  have hrest := call.rest_eq
  cases hinvalidator : call.invalidator with
  | none =>
    rw [hinvalidator] at hrest
    rw [hrest] at hrun
    exact Or.inl ⟨hquiet hrun, Or.inl rfl⟩
  | some succeeds =>
    rw [hinvalidator] at hrest
    have hlength : 2 ≤ call.rest.length := by
      rw [hrest]
      exact Nat.le_add_left 2 _
    rw [hrest] at hrun
    match m, hrun with
    | 0, hrun =>
      cases hrun
      exact Or.inl ⟨Quiet.refl _, Or.inr (by omega)⟩
    | 1, hrun =>
      rcases run_cons hrun with ⟨called, hcall, hnil⟩
      cases hnil
      exact Or.inr ⟨succeeds, _, hcall, Or.inl ⟨rfl, hlength⟩⟩
    | m + 2, hrun =>
      rcases run_cons hrun with ⟨called, hcall, hafter⟩
      rcases run_cons hafter with ⟨cleared, hclear, hprune⟩
      cases hclear
      exact Or.inr ⟨succeeds, called, hcall, Or.inr (hquiet hprune)⟩

theorem Announced.rest {v : World} (h : Announced w)
    (hrun : run World.apply w (call.rest.take m) = some v) : Announced v := by
  rcases rest_cases hrun with ⟨hquiet, _⟩ | ⟨succeeds, called, hcall, hafter⟩
  · exact h.of_quiet hquiet
  rcases h.invalidate hcall with ⟨hcalled, hsettled⟩
  rcases hafter with ⟨rfl, _⟩ | hquiet
  · exact hcalled
  · exact (hcalled.clear hsettled).of_quiet hquiet

theorem rest_flush {v : World} (hpending : w.db.pending library = true)
    (hrun : run World.apply w (call.rest.take m) = some v) :
    (v.db.pending library = false -> library = call.home ∧ v.journal = .invalidated :: w.journal) ∧
    (library = call.home -> call.invalidator ≠ none -> call.rest.length ≤ m ->
      v.db.pending library = false) := by
  rcases rest_cases hrun with ⟨hquiet, hcut⟩ | ⟨succeeds, called, hcall, hafter⟩
  · constructor
    · intro hcleared
      rw [hquiet.pending, hpending] at hcleared
      cases hcleared
    intro _ hwired hlength
    rcases hcut with hnone | hshort
    · exact absurd hnone hwired
    · exact absurd hlength (Nat.not_le.mpr hshort)
  have hflag : called.db.pending library = true := by
    rcases invalidate_cases hcall with ⟨rfl, _⟩ | rfl
    · exact hpending
    · exact hpending
  rcases hafter with ⟨rfl, hshort⟩ | hquiet
  · constructor
    · intro hcleared
      rw [hflag] at hcleared
      cases hcleared
    intro _ _ hlength
    exact absurd hlength (Nat.not_le.mpr hshort)
  have hcleared := hquiet.pending library
  rw [show (called.store (called.db.clearPending call.home)).db.pending library = _ from
    pending_clearPending called.db call.home library] at hcleared
  by_cases hhome : library = call.home
  · rw [if_pos hhome] at hcleared
    refine ⟨fun _ => ⟨hhome, ?_⟩, fun _ _ _ => hcleared⟩
    rcases invalidate_cases hcall with ⟨rfl, hnone⟩ | rfl
    · rw [← hhome, hpending] at hnone
      cases hnone
    · exact hquiet.journal
  rw [if_neg hhome, hflag] at hcleared
  refine ⟨fun hfalse => ?_, fun hsame => absurd hsame hhome⟩
  rw [hcleared] at hfalse
  cases hfalse

/-!
## Passes
-/

variable {db : Database}

theorem Sound.view_foreign (h : Sound db) (hforeign : library ∉ db.libraries) (ratingKey : Text) :
    db.view library ratingKey = none := by
  unfold Database.view
  cases hrow : db.collections.lookup (library, ratingKey) with
  | none => rfl
  | some row => exact absurd (h.homes (library, ratingKey) row hrow) hforeign

theorem pending_markPending {after : Database} {changed : Bool}
    (hsyncs : after.syncs = db.markPending library changed) (other : GoString)
    (hpending : db.pending other = true) : after.pending other = true := by
  unfold Database.pending at hpending ⊢
  rw [hsyncs, lookup_markPending]
  cases hfound : db.syncs.lookup other with
  | none =>
    rw [hfound] at hpending
    exact hpending
  | some flag =>
    rw [hfound] at hpending
    have hflag : flag = true := hpending
    rw [Option.map_some, Option.getD_some, hflag]
    split
    all_goals rfl

theorem pending_changed {after : Database} (hsyncs : after.syncs = db.markPending library true)
    (hsynced : (db.syncs.lookup library).isSome = true) : after.pending library = true := by
  unfold Database.pending
  rw [hsyncs, lookup_markPending]
  rcases Option.isSome_iff_exists.mp hsynced with ⟨flag, hflag⟩
  rw [hflag, Option.map_some, if_pos rfl, Bool.or_true]
  rfl

variable {u next : World}

section Passes

variable {pageSize count : Nat} {w v : World} {call : Call}

theorem Announced.publish {scanned : List Scanned} (h : Announced u)
    (hsound : Sound u.db) (hpublishes : Publishes call scanned u next)
    (hsynced : (u.db.syncs.lookup call.home).isSome = true) : Announced next := by
  have hforeign : forall library, library ∉ u.known -> library ∉ u.db.libraries :=
    fun library hunknown hmem => hunknown (h.libraries library hmem)
  rcases hpublishes.announced with ⟨changed, hsyncs, hunchanged⟩
  refine ⟨?_, ?_, ?_⟩
  · intro library hlibrary
    rw [hpublishes.libraries] at hlibrary
    rw [hpublishes.known]
    exact h.libraries library hlibrary
  · intro library hunknown hstale
    rw [hpublishes.known] at hunknown
    rw [hpublishes.journal] at hstale
    rcases hstale with ⟨ratingKey, hchange⟩ | hold
    · rw [hsound.view_foreign (hforeign library hunknown),
        hpublishes.sound.view_foreign (by
          rw [hpublishes.libraries]
          exact hforeign library hunknown)] at hchange
      exact hchange rfl
    · exact h.foreign library hunknown hold
  intro library hlibrary hstale
  rw [hpublishes.libraries] at hlibrary
  rw [hpublishes.journal] at hstale
  rcases hstale with ⟨ratingKey, hchange⟩ | hold
  · by_cases hhome : library = call.home
    · rw [hhome] at hchange ⊢
      cases changed with
      | true => exact pending_changed hsyncs hsynced
      | false => exact absurd (hunchanged rfl ratingKey).symm hchange
    · exact absurd (hpublishes.others library ratingKey hhome).symm hchange
  · exact pending_markPending hsyncs library (h.pending library hlibrary hold)

theorem Announced.execute (h : Announced w) (hsound : Sound w.db)
    (hseparated : Separated pageSize w call) (hexecute : w.execute pageSize call count = some v) :
    Announced v := by
  cases execute_pass hsound hexecute with
  | quiet hquiet _ _ => exact h.of_quiet hquiet
  | published m hresult _ hbase hcollections hready hscans hpublish hrest _ =>
    rcases published_views hbase hcollections hready hscans (hseparated _ hresult) hpublish
      hrest with ⟨hpublishes, hquiet, _⟩
    have hstaged := hready.staged.sound hready.unused (le_of_eq hready.sequence.symm)
      hready.sound
    have hsynced := (hready.staged.quiet hready.unused).synced call.home hready.synced
    exact ((h.of_quiet hquiet).publish hstaged hpublishes hsynced).rest hrest

end Passes

theorem Announced.step {pageSize : Nat} {v : World} {e : SyncEvent} (h : Announced w)
    (hsound : Sound w.db) (hseparating : Separating pageSize w e)
    (hstep : w.step pageSize e = some v) : Announced v := by
  cases e with
  | pass call count => exact h.execute hsound hseparating hstep
  | createLibrary library =>
    simp only [World.step] at hstep
    split at hstep
    · cases hstep
    rename_i hnew
    cases hstep
    refine ⟨?_, ?_, ?_⟩
    · intro other hother
      rcases List.mem_cons.mp hother with hsame | hold
      · rw [hsame]
        exact List.mem_cons_self
      · exact List.mem_cons_of_mem library (h.libraries other hold)
    · intro other hother
      exact h.foreign other fun hknown => hother (List.mem_cons_of_mem library hknown)
    intro other hother hstale
    rcases List.mem_cons.mp hother with hsame | hold
    · rw [hsame] at hstale
      exact absurd hstale (h.foreign library hnew)
    · exact h.pending other hold hstale
  | deleteLibrary library =>
    cases hstep
    have hkept : forall other, other ∈ (w.db.deleteLibrary library).libraries ->
        other ∈ w.db.libraries ∧ other ≠ library := by
      intro other hother
      rcases List.mem_filter.mp hother with ⟨hmem, hne⟩
      exact ⟨hmem, by simpa using hne⟩
    refine ⟨fun other hother => h.libraries other (hkept other hother).left, h.foreign, ?_⟩
    intro other hother hstale
    rcases hkept other hother with ⟨hmem, hne⟩
    show ((w.db.syncs.delete library).lookup other).getD false = true
    rw [Table.lookup_delete_ne _ hne]
    exact h.pending other hmem hstale

theorem run_announced {pageSize : Nat} {events : List SyncEvent}
    (hseparating : Along (World.step pageSize) (Separating pageSize) World.initial events)
    (hrun : run (World.step pageSize) World.initial events = some w) :
    Sound w.db ∧ Announced w := by
  have hinitial : Sound World.initial.db ∧ Announced World.initial := by
    refine ⟨initial_sound, ?_, fun _ _ hstale => hstale, fun _ _ hstale => hstale.elim⟩
    intro library hlibrary
    cases hlibrary
  refine @run_invariant _ _ _ _ (fun world => Sound world.db ∧ Announced world) ?_ _ _ _
    hinitial hseparating hrun
  intro world e next hworld hseparates hstep
  exact ⟨step_sound hworld.left hseparates hstep,
    hworld.right.step hworld.left hseparates hstep⟩

theorem publication_marks {gen : Nat} (hpublish : u.apply (call.publication gen) = some next) :
    next.journal = .committed u.db next.db :: u.journal ∧
      exists changed, next.db.syncs = u.db.markPending call.home changed := by
  cases call with
  | library server library origin invalidator old =>
    cases hpublish
    exact ⟨rfl, _, rfl⟩
  | collection server library target children invalidator =>
    rcases Option.map_eq_some_iff.mp hpublish with ⟨db, hdb, rfl⟩
    refine ⟨rfl, ?_⟩
    unfold Database.publishOneCollection at hdb
    split at hdb
    · cases hdb
    split at hdb
    · cases hdb
    split at hdb
    · cases hdb
    cases hdb
    exact ⟨_, rfl⟩

/-- A change of an existing library that no successful call of the invalidator has followed
leaves its flag set, and a pass clears the flag only behind a call that follows its own
transaction; one that comes to its end makes that call. -/
theorem invalidation_not_lost {pageSize : Nat} {w : World} {events : List SyncEvent}
    (hseparating : Along (World.step pageSize) (Separating pageSize) World.initial events)
    (hrun : run (World.step pageSize) World.initial events = some w) :
    (forall library, library ∈ w.db.libraries -> Stale library w.journal ->
      w.db.pending library = true) ∧
    forall call count v library, w.execute pageSize call count = some v ->
      w.db.pending library = true ->
      (v.db.pending library = false -> library = call.home ∧ exists before after, v.journal =
        .invalidated :: .committed before after :: w.journal) ∧
      (library = call.home -> call.invalidator ≠ none ->
        (call.script pageSize w.db).result ≠ none ->
        (call.script pageSize w.db).statements.length ≤ count -> v.db.pending library = false) := by
  rcases run_announced hseparating hrun with ⟨hsound, hannounced⟩
  refine ⟨hannounced.pending, ?_⟩
  intro call count v library hexecute hpending
  cases execute_pass hsound hexecute with
  | quiet hquiet _ hcut =>
    constructor
    · intro hcleared
      rw [hquiet.pending, hpending] at hcleared
      cases hcleared
    intro _ _ hresult hlength
    rcases hcut with hnone | hshort
    · exact absurd hnone hresult
    · exact absurd hlength (Nat.not_le.mpr hshort)
  | published m hresult hmem hbase hcollections hready hscans hpublish hrest hall =>
    rename_i gen scanned base u next
    have hquiet : Quiet w u := hbase.trans (hready.staged.quiet hready.unused)
    rcases publication_marks hpublish with ⟨hjournal, changed, hsyncs⟩
    have hmarked : next.db.pending library = true :=
      pending_markPending hsyncs library ((hquiet.pending library).trans hpending)
    rcases rest_flush hmarked hrest with ⟨hbehind, hflushed⟩
    constructor
    · intro hcleared
      rcases hbehind hcleared with ⟨hhome, hcalled⟩
      rw [hjournal, hquiet.journal] at hcalled
      exact ⟨hhome, u.db, next.db, hcalled⟩
    intro hhome hwired _ hlength
    exact hflushed hhome hwired (hall hlength)

/-!
### An invalidator that fails once
-/

/-- The first pass ends with the failing call, behind its transaction. -/
def filmsUnannounced : List SyncEvent :=
  [.createLibrary films,
    .pass (.library (str "server") films filmOrigin (some false) fun _ _ => true) 12]

theorem stale_of_published {before after : Database}
    {older : List CollectionDeed} (ratingKey : Text)
    (hbefore : before.view library ratingKey = none)
    (hafter : (after.view library ratingKey).isSome = true) :
    Stale library (.committed before after :: older) := by
  refine Or.inl ⟨ratingKey, ?_⟩
  intro hsame
  rw [← hsame, hbefore] at hafter
  cases hafter

theorem invalidation_not_lost_retry :
    exists w v, run (World.step 100) World.initial filmsUnannounced = some w ∧
      Stale films w.journal ∧ w.db.pending films = true ∧
      w.execute 100 filmPass 100 = some v ∧ v.db.pending films = false ∧
      exists before after, v.journal = .invalidated :: .committed before after :: w.journal := by
  have hseparating : Along (World.step 100) (Separating 100) World.initial
      filmsUnannounced := by
    decide +kernel
  have hcheck : ((run (World.step 100) World.initial filmsUnannounced).any fun w =>
      decide (films ∈ w.db.libraries) &&
        (w.journal.head?.any fun deed =>
          match deed with
          | .committed before after =>
            (before.view films (Text.ofString "11")).isNone &&
              (after.view films (Text.ofString "11")).isSome
          | .invalidated => false) &&
        (filmPass.script 100 w.db).result.isSome &&
        decide ((filmPass.script 100 w.db).statements.length ≤ 100) &&
        (w.execute 100 filmPass 100).isSome) = true := by
    decide +kernel
  rcases exists_of_any hcheck with ⟨w, hrun, hw⟩
  simp only [Bool.and_eq_true, decide_eq_true_eq] at hw
  rcases hw with ⟨⟨⟨⟨hmem, hhead⟩, hresult⟩, hlength⟩, hexecuted⟩
  rcases Option.isSome_iff_exists.mp hexecuted with ⟨v, hexecute⟩
  rcases invalidation_not_lost hseparating hrun with ⟨hpending, hpasses⟩
  have hstale : Stale films w.journal := by
    cases hjournal : w.journal with
    | nil =>
      rw [hjournal] at hhead
      cases hhead
    | cons deed older =>
      rw [hjournal] at hhead
      cases deed with
      | committed before after =>
        have hviews : ((before.view films (Text.ofString "11")).isNone &&
            (after.view films (Text.ofString "11")).isSome) = true := hhead
        rw [Bool.and_eq_true, Option.isNone_iff_eq_none] at hviews
        exact stale_of_published (Text.ofString "11") hviews.left hviews.right
      | invalidated => cases hhead
  have hflag := hpending films hmem hstale
  rcases hpasses filmPass 100 v films hexecute hflag with ⟨hbehind, hflushed⟩
  have hcleared := hflushed rfl (by decide) (Option.isSome_iff_ne_none.mp hresult) hlength
  exact ⟨w, v, hrun, hstale, hflag, hexecute, hcleared, (hbehind hcleared).right⟩

end ReplxEdge.Collections
