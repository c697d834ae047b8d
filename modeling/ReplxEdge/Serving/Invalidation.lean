import ReplxEdge.Serving.Preservation
import ReplxEdge.Playback.UserLevel

/-!
# Invalidation under concurrency

What a request that is answered from the response store can rely on: that bumps
before its own read of the generations are honoured, that a failed invalidation
closes the store, and that a client reads its own watch writes. Each result is
about every run; where the code falls short, the condition on the steps of a run
is stated and a run that breaks it is given.
-/

namespace ReplxEdge.Serving

open Foundation
open Net
open Cache
open Identity
open Gateway
open Trace
open Proxy

variable {A : Assumptions} {cfg : Config} {s : State}
variable {generations : GenerationTable} {now : Instant} {actions : List Action}

/-!
## Bumps before a read
-/

/-- A body that is served to a request was fetched after a read of the generations
that comes after every bump which the request itself read behind. Artwork has no
generations, and a request for it reads none. -/
def InvalidationSafe (s : State) : Prop :=
  (forall x, x ∈ s.history.hits -> forall b, b ∈ s.history.bumps ->
    forall q, q ∈ x.reads -> b.space.covers x.scope q.cls = true -> b.time < q.time ->
      exists r, r ∈ s.history.reads ∧ r.scope = x.scope ∧ r.cls = q.cls ∧
        b.time < r.time ∧ r.time < x.entry.sentAt) ∧
    forall x, x ∈ s.history.artworkHits -> x.reads = []

variable {x : CacheHit}

theorem HitOK.entry_read (h : HitOK A s x) {k : Keyed}
    (hmem : k.read ∈ x.reads) (hkeyOf : KeyOf k.key k.read) (hkey : x.entry.key = k.key) :
    x.entry.read.scope = x.scope ∧ x.entry.read.cls = k.read.cls ∧
      x.entry.read.value = k.read.value := by
  rw [← hkey] at hkeyOf
  rcases h.entry.keyOf.same hkeyOf with ⟨hscope, hcls, hvalue⟩
  exact ⟨hscope.trans (h.reads k.read hmem).right.right, hcls, hvalue⟩

variable {b : Bump}

theorem HitOK.entry_after_bump (hs : MemoryOK A s) (hA : A.unsaturated)
    (h : HitOK A s x) (hb : b ∈ s.history.bumps) {q : GenRead}
    (hq : q ∈ x.reads) (hcls : q.cls = classOf x.request.path)
    (hcovers : b.space.covers x.scope q.cls = true) (hafter : b.time < q.time) :
    x.entry.read.scope = x.scope ∧ x.entry.read.cls = q.cls ∧ b.time < x.entry.read.time := by
  rcases h.keyed with ⟨k, last, hk, hkeyOf, hkcls, hkey, hlast⟩
  rcases h.entry_read hk hkeyOf hkey with ⟨hscope, hentrycls, hvalue⟩
  have hqcls : x.entry.read.cls = q.cls := hentrycls.trans (hkcls.trans hcls.symm)
  have hqscope : q.scope = x.scope := (h.reads q hq).right.right
  have hordered := hs.generations hA
  have hle : q.value ≤ x.entry.read.value := by
    rw [hvalue]
    rcases hlast.classes q hq with rfl | hsame
    · exact le_refl _
    rw [← hlast.value]
    have hregister : generationRegister.key q = generationRegister.key last :=
      Prod.ext (hqscope.trans (h.reads last hlast.mem).right.right.symm) hsame
    exact hordered.monotone q (h.reads q hq).left last (h.reads last hlast.mem).left
      hregister (hlast.latest q hq)
  refine ⟨hscope, hqcls, ?_⟩
  refine hordered.read_after h.entry.known (h.reads q hq).left hb ?_ ?_ hle hafter
  · exact Prod.ext (hscope.trans hqscope.symm) hqcls
  change b.space.covers x.entry.read.scope x.entry.read.cls = true
  rw [hscope, hqcls]
  exact hcovers

/-- Every run whose counters stay below saturation and in which generations are read again
under the class of the path that the client sent. -/
theorem invalidation_safe
    (hcond : Along (step cfg) (fun s a => Unsaturated s.shared.generations ∧ ClassSound s a)
      (State.start generations now) actions)
    (hrun : run (step cfg) (State.start generations now) actions = some s) :
    InvalidationSafe s := by
  have hsound : Sound ⟨True, False, False, False, True⟩ s := by
    refine sound_run (hcond.imp ?_) hrun
    exact fun _ _ h => ⟨fun _ => h.left, False.elim, False.elim, False.elim, fun _ => h.right⟩
  constructor
  · intro x hx b hb q hq hcovers hafter
    have hhit := hsound.parties.hits x hx
    have hcls := hhit.classes trivial q hq
    rcases hhit.entry_after_bump hsound.memory trivial hb hq hcls hcovers hafter with
      ⟨hscope, hread, htime⟩
    exact ⟨x.entry.read, hhit.entry.known, hscope, hread, htime, hhit.entry.before⟩
  · exact fun x hx => (hsound.parties.artworkHits x hx).reads

/-!
### Concrete runs
-/

def jodie : Resolved where
  scope := str "acct:7"
  identityID := str "jodie"
  clientID := []
  accountID := 7
  known := true
  fresh := true
  invalid := false
  degraded := false

def answered : Answer where
  ok := true
  resolved := jodie
  part := .allow
  decision := .transparent
  found := none
  status := 200
  body := str "body"
  commit := true
  applied := false
  order := Order.stored _

def passes (i count : Nat) (a : Answer) : List Action :=
  List.replicate count (.advance i a)

/-- A request that is stored: nine points up to the origin, seven behind it. -/
def fill (i : Nat) (r : Net.Request) (res : Resolved) : List Action :=
  .arrive i r :: passes i 16 { answered with resolved := res }

def lookUp (i : Nat) (r : Net.Request) (res : Resolved) : List Action :=
  .arrive i r :: passes i 9 { answered with resolved := res, found := some 0 }

def tokenHeader : Header :=
  Header.empty.set (str "X-Plex-Token") (str "t") Header.plexToken_isToken
    Header.plexToken_canonical

def sections : Net.Request :=
  Request.bareGet (str "/library/sections") [] tokenHeader

def edge : Config where
  secret := str "s"
  mode := .direct
  identity := true

theorem run_of_any {p : State -> Prop} [DecidablePred p]
    (h : ((run (step cfg) (State.start Table.empty 0) actions).any fun s => decide (p s)) = true) :
    exists s, run (step cfg) (State.start Table.empty 0) actions = some s ∧ p s := by
  rcases exists_of_any h with ⟨s, hrun, hs⟩
  exact ⟨s, hrun, of_decide_eq_true hs⟩

def scrobble : Net.Request :=
  Request.bareGet (str "/:/scrobble") (str "key=9") tokenHeader

/-- A watch write that the origin accepts: eight points. -/
def write (i : Nat) (res : Resolved) : List Action :=
  .arrive i scrobble :: passes i 8 { answered with resolved := res }

def serverIdentity : Net.Request :=
  Request.bareGet (str "/identity") [] tokenHeader

def rejected (i : Nat) : List Action :=
  .arrive i serverIdentity :: passes i 11 { answered with status := 401 }

/-- A bump fails and everything is bumped, a write retires its scope, the origin rejects
the credential, and then the store is filled and used. -/
def recoveredRun : List Action :=
  [.invalidate 0 [] (str "sections"), .execute 0 false false, .record 0,
    .invalidate 1 (str "all") [], .execute 1 true false, .record 1] ++
    write 0 jodie ++ rejected 1 ++ fill 2 sections jodie ++ lookUp 3 sections jodie

def Recovered (s : State) : Prop :=
  s.history.hits.length = 1 ∧ s.history.bumps.length = 2 ∧ s.history.failures.length = 1 ∧
    s.history.revocations.length = 1

instance (s : State) : Decidable (Recovered s) :=
  inferInstanceAs (Decidable (_ ∧ _))

/-- The run respects every condition that a result of this development makes. -/
theorem recoveredRun_respects :
    Along (step edge)
      (fun s a => Unsaturated s.shared.generations ∧ ClearSound s a ∧ WriteSound edge s a ∧
        GrantSound s a ∧ ClassSound s a) (State.start Table.empty 0) recoveredRun ∧
    exists s, run (step edge) (State.start Table.empty 0) recoveredRun = some s ∧ Recovered s := by
  have hcheck : Along (step edge)
      (fun s a => (forall entry, entry ∈ s.shared.generations.entries -> entry.2 < 2 ^ 62) ∧
        ClearSound s a ∧ WriteSound edge s a ∧ GrantSound s a ∧ ClassSound s a)
      (State.start Table.empty 0) recoveredRun ∧
      ((run (step edge) (State.start Table.empty 0) recoveredRun).any fun s =>
        decide (Recovered s)) = true := by
    decide +kernel
  refine ⟨hcheck.left.imp ?_, run_of_any hcheck.right⟩
  exact fun _ _ h => ⟨unsaturated_of_entries h.left, h.right⟩

theorem invalidation_safe_recovered :
    exists s, run (step edge) (State.start Table.empty 0) recoveredRun = some s ∧
      Recovered s ∧ InvalidationSafe s := by
  rcases recoveredRun_respects with ⟨hcond, s, hrun, hserved⟩
  refine ⟨s, hrun, hserved, invalidation_safe ?_ hrun⟩
  exact hcond.imp fun _ _ h => ⟨h.left, h.right.right.right.right⟩

/-!
### A substituted part

The path of a part may stand behind another path, so that the request is cacheable under
the class of its beginning. Once its part is substituted, it reads the generations of
another class again.
-/

def titlePart : Net.Request :=
  Request.bareGet (str "/library/metadata/9/library/parts/301/file.mkv") [] tokenHeader

/-- A served body was fetched before a bump that the request read behind. -/
def ServedStale (s : State) : Prop :=
  exists x, x ∈ s.history.hits ∧ exists b, b ∈ s.history.bumps ∧ exists q, q ∈ x.reads ∧
    b.space.covers x.scope q.cls = true ∧ b.time < q.time ∧ x.entry.sentAt < b.time ∧
      forall r, r ∈ s.history.reads -> b.time < r.time -> ¬ r.time < x.entry.sentAt

instance (s : State) : Decidable (ServedStale s) :=
  inferInstanceAs (Decidable (exists x, x ∈ s.history.hits ∧ _))

/-- The class of titles is bumped and the part is stored. A second request begins to fetch it
again and fails while a third one waits for it, whose part is substituted. The third one finds
the stored body, a watch write bumps the scope, and then it reads the generations again. -/
def substitutedRun : List Action :=
  let substituted :=
    { answered with part := .substitute (str "/library/parts/302/file.mkv"), found := some 0 }
  [.invalidate 0 [] (str "metadata"), .execute 0 true false, .record 0] ++
    fill 0 titlePart jodie ++ .arrive 1 titlePart :: passes 1 6 answered ++
    .arrive 2 titlePart :: passes 2 5 substituted ++
    passes 1 1 { answered with ok := false } ++ passes 2 4 substituted ++
    write 3 jodie ++ passes 2 1 answered

theorem ServedStale.not_invalidationSafe (h : ServedStale s) : ¬ InvalidationSafe s := by
  intro hsafe
  rcases h with ⟨x, hx, b, hb, q, hq, hcovers, hafter, _, hnone⟩
  rcases hsafe.left x hx b hb q hq hcovers hafter with ⟨r, hr, _, _, hlater, hbefore⟩
  exact hnone r hr hlater hbefore

theorem substituted_part_serves_stale :
    exists s, run (step edge) (State.start Table.empty 0) substitutedRun = some s ∧
      ServedStale s ∧ ¬ InvalidationSafe s := by
  have hcheck : ((run (step edge) (State.start Table.empty 0) substitutedRun).any fun s =>
      decide (ServedStale s)) = true := by
    decide +kernel
  rcases run_of_any hcheck with ⟨s, hrun, hstale⟩
  exact ⟨s, hrun, hstale, hstale.not_invalidationSafe⟩

/-!
## Failed invalidations
-/

/-- After a recorded failure, a request that arrives later is served nothing that was
fetched before it, unless a bump of everything that started after it succeeded. -/
def FailClosed (s : State) : Prop :=
  forall x, x ∈ s.history.hits -> forall n, n ∈ s.history.failures ->
    n < x.arrivedAt -> x.entry.sentAt < n ->
    exists b, b ∈ s.history.bumps ∧ b.space = .all ∧ n < b.startedAt ∧
      b.time < x.time

instance (s : State) : Decidable (FailClosed s) :=
  inferInstanceAs (Decidable (forall x, x ∈ s.history.hits ->
    forall n, n ∈ s.history.failures -> _))

/-- The store stays closed in every run in which the flag is only cleared by calls that
started after the failures. -/
theorem fail_closed (hclear : Along (step cfg) ClearSound (State.start generations now) actions)
    (hrun : run (step cfg) (State.start generations now) actions = some s) :
    FailClosed s := by
  have hsound : Sound ⟨False, True, False, False, False⟩ s := by
    refine sound_run (hclear.imp ?_) hrun
    exact fun _ _ h => ⟨False.elim, fun _ => h, False.elim, False.elim, False.elim⟩
  intro x hx n hn harrived _
  have hhit := hsound.parties.hits x hx
  have hbefore : n < x.flagAt := Nat.lt_trans harrived hhit.flag.after
  rcases hhit.flag.recovered trivial n hn hbefore with ⟨b, hb, hall, hstart, htime⟩
  exact ⟨b, hb, hall, hstart, Nat.lt_trans htime hhit.flagBefore⟩

theorem fail_closed_recovered :
    exists s, run (step edge) (State.start Table.empty 0) recoveredRun = some s ∧
      Recovered s ∧ FailClosed s := by
  rcases recoveredRun_respects with ⟨hcond, s, hrun, hserved⟩
  exact ⟨s, hrun, hserved, fail_closed (hcond.imp fun _ _ h => h.right.left) hrun⟩

/-- A bump of everything commits, a request is stored under the new generation, another
bump fails and raises the flag, and then the first call gets to clear it. -/
def overtakenRun : List Action :=
  [.invalidate 0 (str "all") [], .execute 0 true false] ++ fill 0 sections jodie ++
    [.invalidate 1 [] (str "sections"), .execute 1 false false,
      .record 1, .record 0] ++ lookUp 1 sections jodie

theorem overtaken_clear_serves_stale :
    exists s, run (step edge) (State.start Table.empty 0) overtakenRun = some s ∧
      ¬ FailClosed s := by
  have hcheck : ((run (step edge) (State.start Table.empty 0) overtakenRun).any fun s =>
      decide (¬ FailClosed s)) = true := by
    decide +kernel
  exact run_of_any hcheck

/-!
## Own watch writes
-/

/-- After a watch write was answered, a later request with its token is not served a
body that was fetched before the write was sent. -/
def ReadsOwnWrites (s : State) : Prop :=
  forall x, x ∈ s.history.hits -> forall answer, answer ∈ s.history.relayed ->
    IsWrite answer -> extractToken answer.request = extractToken x.request ->
    answer.time < x.arrivedAt -> ¬ x.entry.sentAt < answer.sentAt

instance (s : State) : Decidable (ReadsOwnWrites s) :=
  inferInstanceAs (Decidable (forall x, x ∈ s.history.hits ->
    forall answer, answer ∈ s.history.relayed -> _))

theorem HitOK.fetched_after_scope (hs : MemoryOK A s) (hA : A.unsaturated)
    (h : HitOK A s x) (hb : b ∈ s.history.bumps)
    (hspace : b.space = .scope x.scope) (hbefore : b.time < x.arrivedAt) :
    b.time < x.entry.sentAt := by
  rcases h.keyed with ⟨k, last, hk, _, hkcls, _, _⟩
  have hcovers : b.space.covers x.scope k.read.cls = true := by
    rw [hspace]
    exact beq_self_eq_true x.scope
  have hafter : b.time < k.read.time := Nat.lt_trans hbefore (h.reads k.read hk).right.left
  rcases h.entry_after_bump hs hA hb hk hkcls hcovers hafter with ⟨_, _, htime⟩
  exact Nat.lt_trans htime h.entry.before

theorem HitOK.fetched_after_failure (hs : MemoryOK A s) (hA : A.clears)
    (h : HitOK A s x) {n : Moment} (hn : n ∈ s.history.failures) (hbefore : n < x.arrivedAt) :
    n < x.entry.sentAt := by
  rcases h.keyed with ⟨k, last, hk, hkeyOf, _, hkey, hlast⟩
  rcases h.entry_read hk hkeyOf hkey with ⟨_, _, hvalue⟩
  rcases h.flag.recovered hA n hn (Nat.lt_trans hbefore h.flag.after) with
    ⟨b, hb, hall, hstart, htime⟩
  have hle : last.value.2 ≤ x.entry.read.value.2 := by rw [hlast.value, hvalue]
  have hread : b.time < x.entry.read.time :=
    hs.global.read_after h.entry.known (h.reads last hlast.mem).left hb rfl hall hle
      (Nat.lt_trans htime hlast.flag)
  calc
    n < b.startedAt := hstart
    _ ≤ b.time := hs.started b hb
    _ < x.entry.read.time := hread
    _ < x.entry.sentAt := h.entry.before

/-- A client reads its own watch writes in every run in which the writes are plain and
resolve to the scope of the later requests with their token, the flag is cleared by
calls that started after the failures, and the counters stay below saturation. -/
theorem reads_own_writes (hcond : Along (step cfg)
      (fun s a => Unsaturated s.shared.generations ∧ ClearSound s a ∧ WriteSound cfg s a)
      (State.start generations now) actions)
    (hrun : run (step cfg) (State.start generations now) actions = some s) :
    ReadsOwnWrites s := by
  have hsound : Sound ⟨True, True, False, True, False⟩ s := by
    refine sound_run (hcond.imp ?_) hrun
    exact fun _ _ h =>
      ⟨fun _ => h.left, fun _ => h.right.left, False.elim, fun _ => h.right.right, False.elim⟩
  intro x hx answer hanswer hwrite htoken hbefore
  have hhit := hsound.parties.hits x hx
  have hrelayed := hsound.parties.relayed answer hanswer
  have hscope : x.scope = answer.scope :=
    hhit.written trivial answer ⟨hanswer, hwrite, htoken, hbefore⟩
  have hattributed : answer.scope ≠ [] :=
    hrelayed.attributed (htoken ▸ hhit.token)
  have hplain : Plain answer.request := hrelayed.plain trivial hwrite.left
  refine Nat.not_lt.mpr (Nat.le_of_lt ?_)
  rcases hrelayed.retired hwrite hplain hattributed with
    ⟨b, hb, hspace, hsent, htime⟩ | ⟨n, hn, hsent, htime⟩
  · rw [← hscope] at hspace
    exact Nat.lt_trans hsent
      (hhit.fetched_after_scope hsound.memory trivial hb hspace (Nat.lt_trans htime hbefore))
  exact Nat.lt_trans hsent
    (hhit.fetched_after_failure hsound.memory trivial hn (Nat.lt_trans htime hbefore))

theorem reads_own_writes_recovered :
    exists s, run (step edge) (State.start Table.empty 0) recoveredRun = some s ∧
      Recovered s ∧ ReadsOwnWrites s := by
  rcases recoveredRun_respects with ⟨hcond, s, hrun, hserved⟩
  refine ⟨s, hrun, hserved, reads_own_writes ?_ hrun⟩
  exact hcond.imp fun _ _ h => ⟨h.left, h.right.left, h.right.right.left⟩

/-!
### A write during an outage

The resolver remembers an account for five minutes. A write that arrives after
that, while the link query and plex.tv fail, is resolved to its token alone; the
next request finds the account again.
-/

/-- The link query works; plex.tv is not needed. -/
def healthy : Conditions :=
  { Playback.outage with linkFails := false }

/-- What the resolver says next about the token. -/
def resolveAgain (before : Resolution) (c : Conditions) (now : Instant) : Resolution :=
  resolve before.resolver ⟨Order.stored _, Order.stored _⟩ before.database c now
    (fingerprint (str "s") (str "t")) (str "t") []

def atFirst : Resolution :=
  resolveAgain ⟨jodie, Playback.freshResolver, Playback.linkedDatabase (str "s") (str "t")⟩
    healthy 0

def inMemory : Resolution :=
  resolveAgain atFirst healthy (290 * second)

def duringOutage : Resolution :=
  resolveAgain inMemory Playback.outage (300 * second)

def afterOutage : Resolution :=
  resolveAgain duringOutage healthy (300 * second)

/-- The first request only has its token resolved; the second one is stored, the third
one writes and the last one is served. -/
def outageRun : List Action :=
  [.arrive 0 sections, .advance 0 { answered with resolved := atFirst.resolved },
    .tick (290 * second).toNat] ++ fill 1 sections inMemory.resolved ++
    [.tick (10 * second).toNat] ++ write 2 duringOutage.resolved ++
    lookUp 3 sections afterOutage.resolved

theorem outage_hides_own_write :
    exists s, run (step edge) (State.start Table.empty 0) outageRun = some s ∧
      ¬ ReadsOwnWrites s := by
  have hcheck : ((run (step edge) (State.start Table.empty 0) outageRun).any fun s =>
      decide (¬ ReadsOwnWrites s)) = true := by
    decide +kernel
  exact run_of_any hcheck

end ReplxEdge.Serving
