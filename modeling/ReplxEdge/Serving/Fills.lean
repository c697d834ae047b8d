import ReplxEdge.Proxy.CopyBody

/-!
# Fills in the serving system

The system takes the pass over a body as one point of a request that answers
whether the body is complete. Run without interruption, its points behind the copy
publish exactly what the pass over the body sets.
-/

namespace ReplxEdge.Serving

open Foundation
open Net
open Cache
open Proxy (Observed Response Aftermath FillCall CompleteFill copyBody_calls)

variable {cfg : Config} {s : State} {i : Nat} {t : Thread}

def advances (i : Nat) (answers : List Answer) : List Action :=
  answers.map (.advance i)

theorem run_advances_cons {a : Answer} {answers : List Answer} (h : s.threads.lookup i = some t) :
    run (step cfg) s (advances i (a :: answers)) =
      run (step cfg) (advance cfg s i t a) (advances i answers) := by
  have hstep : step cfg s (.advance i a) = some (advance cfg s i t a) := by
    change (s.threads.lookup i).map _ = _
    rw [h]
    rfl
  change run (step cfg) s (.advance i a :: advances i answers) = _
  rw [run, hstep]

theorem run_advances_done (h : s.threads.lookup i = some t) (hdone : t.phase = .done)
    (answers : List Answer) : run (step cfg) s (advances i answers) = some s := by
  induction answers with
  | nil => rfl
  | cons a answers ih =>
    have hstays : advance cfg s i t a = s := by
      unfold advance
      rw [hdone]
    rw [run_advances_cons h, hstays, ih]

theorem lookup_move (s : State) (i : Nat) (t : Thread) (p : Phase) :
    (move s i t p).threads.lookup i = some { t with phase := p } := by
  unfold move State.setThread
  rw [Table.lookup_set, if_pos rfl]

theorem run_finish (answers : List Answer) :
    exists s', run (step cfg) (finish s i t) (advances i answers) = some s' ∧
      s'.shared.entries = s.shared.entries := by
  unfold finish
  split
  · split
    · exact ⟨_, run_advances_done (lookup_move _ i t .done) rfl answers, rfl⟩
    · exact ⟨_, run_advances_done (lookup_move _ i t .done) rfl answers, rfl⟩
  · exact ⟨_, run_advances_done (lookup_move _ i t .done) rfl answers, rfl⟩

/-!
## The points behind a copy
-/

/-- What the system is told at the points behind a copy: whether the body is complete,
nothing at the flag, whether the generations can be read, and whether the store takes
the entry. -/
def fillAnswers (base : Answer) (complete : Bool) (after : Aftermath) (body : GoString) :
    List Answer :=
  [{ base with ok := complete, body := body }, base,
    { base with ok := after.generations.isSome }, { base with ok := after.setOK }]

structure Finds (s : State) (t : Thread) (k : Keyed) (o : Observed) (after : Aftermath) :
    Prop where
  key : o.cacheKey = k.key
  generations : (o.scopeGen, o.globalGen) = k.read.value
  broken : after.broken = s.shared.broken
  read : forall value, after.generations = some value -> value = (recheck s t).value

/-- The body is complete: a clean end, taken by the client, within the bound. -/
def complete (resp : Response) (client : Sink UInt8) : Bool :=
  resp.body.ending == .clean && client.takes resp.body.items &&
    decide (resp.body.items.length ≤ maxEntryBytes)

def storedBy (read : GenRead) (sentAt : Moment) : FillCall -> Option Entry
  | .set key entry _ true => some ⟨key, entry.body, read, sentAt⟩
  | _ => none

theorem complete_iff {resp : Response} {client : Sink UInt8} :
    complete resp client = true <->
      resp.body.ending = .clean ∧ client.takes resp.body.items = true ∧
        resp.body.items.length ≤ maxEntryBytes := by
  unfold complete
  simp only [Bool.and_eq_true, beq_iff_eq, decide_eq_true_eq, and_assoc]

section Fill

variable {sentAt : Moment} {k : Keyed} {o : Observed} {r : Net.Request} {resp : Response}
variable {after : Aftermath} {client : Sink UInt8} {base : Answer}

theorem storedBy_fillCalls (body : GoString) :
    (Proxy.fillCalls o r resp after body).filterMap (storedBy k.read sentAt) =
      if after.setOK then [⟨o.cacheKey, body, k.read, sentAt⟩] else [] := by
  unfold Proxy.fillCalls
  cases after.setOK with
  | false => rfl
  | true =>
    cases after.warming && headerVariation r.header == [] with
    | false | true => rfl

variable {body : GoString}

theorem run_storing (cfg : Config) (base : Answer) (after : Aftermath)
    (hlookup : s.threads.lookup i = some t) (hphase : t.phase = .storing sentAt k body) :
    exists s', run (step cfg) s (advances i [{ base with ok := after.setOK }]) = some s' ∧
      s'.shared.entries =
        (if after.setOK then [⟨k.key, body, k.read, sentAt⟩] else []) ++ s.shared.entries := by
  have hadvance : advance cfg s i t { base with ok := after.setOK } =
      storeEntry s i t { base with ok := after.setOK } sentAt k body := by
    unfold advance
    rw [hphase]
  rw [run_advances_cons hlookup, hadvance]
  unfold storeEntry
  cases hset : after.setOK with
  | true => exact ⟨_, rfl, rfl⟩
  | false => exact run_finish []

theorem run_publishing (hlookup : s.threads.lookup i = some t)
    (hphase : t.phase = .publishing sentAt k body)
    (hread : forall value, after.generations = some value -> value = (recheck s t).value) :
    exists s', run (step cfg) s (advances i
    [{ base with ok := after.generations.isSome }, { base with ok := after.setOK }]) =
          some s' ∧
      s'.shared.entries =
        (if after.generations = some k.read.value ∧ after.setOK = true then
          [⟨k.key, body, k.read, sentAt⟩] else []) ++ s.shared.entries := by
  have hadvance : advance cfg s i t { base with ok := after.generations.isSome } =
      publishGeneration s i t { base with ok := after.generations.isSome } sentAt k body := by
    unfold advance
    rw [hphase]
  rw [run_advances_cons hlookup, hadvance]
  unfold publishGeneration
  cases hgenerations : after.generations with
  | none =>
    rw [if_neg (by simp)]
    exact run_finish _
  | some value =>
    have hvalue := hread value hgenerations
    simp only [Option.isSome_some, if_true]
    split
    · rename_i hsame
      rcases run_storing cfg base after (lookup_move (afterRecheck s t) i (rechecked s t)
        (.storing sentAt k body)) rfl with ⟨s', hrun, hentries⟩
      refine ⟨s', hrun, ?_⟩
      rw [hentries, hvalue, hsame]
      simp only [true_and]
      rfl
    rename_i hother
    rw [if_neg]
    · exact run_finish _
    intro h
    rw [hvalue] at h
    exact hother (Option.some.inj h.left)

/-- From a copied body on, the request stores when the flag is down, the generations
are those of the key and the store takes the entry. -/
theorem run_copied (hlookup : s.threads.lookup i = some t)
    (hphase : t.phase = .copied sentAt k body) (hfinds : Finds s t k o after) :
    exists s', run (step cfg) s (advances i
    [base, { base with ok := after.generations.isSome },
          { base with ok := after.setOK }]) = some s' ∧
      s'.shared.entries =
        (if after.broken = false ∧ after.generations = some (o.scopeGen, o.globalGen) ∧
            after.setOK = true then [⟨k.key, body, k.read, sentAt⟩] else []) ++
          s.shared.entries := by
  have hadvance : advance cfg s i t base = publishFlag s i t sentAt k body := by
    unfold advance
    rw [hphase]
  rw [run_advances_cons hlookup, hadvance, hfinds.broken, hfinds.generations]
  unfold publishFlag
  cases hbroken : s.shared.broken with
  | true =>
    rw [if_pos rfl, if_neg (by simp)]
    exact run_finish _
  | false =>
    rw [if_neg (by simp)]
    simp only [true_and]
    exact run_publishing (lookup_move s i t _) rfl hfinds.read

/-- Run without interruption behind the copy, the system publishes the entries that the
pass over the body stores. -/
theorem fill_publishes (hlookup : s.threads.lookup i = some t)
    (hphase : t.phase = .copying sentAt k) (hfinds : Finds s t k o after)
    (hfills : Proxy.fills o resp = true) :
    exists s', run (step cfg) s (advances i (fillAnswers base (complete resp client) after
        resp.body.items)) = some s' ∧ s'.shared.entries =
        (Proxy.copyBody o r resp after client).calls.filterMap (storedBy k.read sentAt) ++
          s.shared.entries := by
  have hadvance : advance cfg s i t
      { base with ok := complete resp client, body := resp.body.items } =
      copyBody s i t { base with ok := complete resp client, body := resp.body.items }
        sentAt k := by
    unfold advance
    rw [hphase]
  rw [fillAnswers, run_advances_cons hlookup, hadvance]
  unfold copyBody
  cases hcomplete : complete resp client with
  | true =>
    rcases complete_iff.mp hcomplete with ⟨hended, htaken, hfits⟩
    have hfinds' : Finds (move s i t (.copied sentAt k resp.body.items))
        { t with phase := .copied sentAt k resp.body.items } k o after :=
      ⟨hfinds.key, hfinds.generations, hfinds.broken, hfinds.read⟩
    rcases run_copied (lookup_move s i t _) rfl hfinds' with ⟨s', hrun, hentries⟩
    refine ⟨s', hrun, ?_⟩
    rw [hentries]
    rcases @copyBody_calls o r resp after client with
      ⟨_, hfill, hcalls⟩ | ⟨hnot, hcalls⟩
    · rw [hcalls, storedBy_fillCalls, hfinds.key]
      simp only [hfill.unbroken, hfill.current, true_and]
      rfl
    rw [hcalls, if_neg]
    · rfl
    intro h
    exact hnot ⟨hfills, hended, htaken, hfits, h.left, h.right.left⟩
  | false =>
    rcases @copyBody_calls o r resp after client with
      ⟨_, hfill, _⟩ | ⟨_, hcalls⟩
    · have hcase := complete_iff.mpr ⟨hfill.ended, hfill.taken, hfill.fits⟩
      rw [hcomplete] at hcase
      cases hcase
    rw [hcalls]
    exact run_finish _

def partThread : Thread :=
  let r := Net.Request.bareGet (str "/library/parts/301/17/file.mkv") [] Net.Header.empty
  ⟨r, r, 0, [], [], true, false, none, [], false, .routing⟩

def deniedPart : Answer :=
  ⟨true, ⟨[], [], [], 0, false, false, false, false⟩, .deny, .refuse, none, 200, [], true, false,
    Order.stored _⟩

def taggedKey : Keyed :=
  ⟨str "k", 0, [], .browse, 0, 0⟩

def copyingState : State :=
  { State.start Table.empty 0 with
    threads := Table.empty.set 0 { partThread with phase := .copying 0 taggedKey } }

theorem fill_publishes_tagged :
    exists s', run (step ⟨[], .direct, true⟩) copyingState (advances 0 (fillAnswers deniedPart
        (complete Proxy.taggedResponse ⟨[], none, false⟩) ⟨false, some (0, 0), true, false⟩
        Proxy.taggedResponse.body.items)) = some s' ∧
      s'.shared.entries = (Proxy.copyBody ⟨[], [], str "k", 60, true, 0, 0⟩ partThread.request
        Proxy.taggedResponse ⟨false, some (0, 0), true, false⟩ ⟨[], none, false⟩).calls.filterMap
          (storedBy taggedKey.read 0) ++ [] := by
  refine fill_publishes rfl rfl ⟨rfl, rfl, rfl, ?_⟩ (by decide)
  intro value hvalue
  cases hvalue
  decide

end Fill

end ReplxEdge.Serving
