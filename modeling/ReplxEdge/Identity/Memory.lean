import ReplxEdge.Identity.Calls

/-!
# The size of the memory

Calls of the resolver run next to each other. A call takes the lock to look into the memory
and again to write to it; what the database and plex.tv answer in between is left open, since
other calls work with them at the same time. The slow path gives the oldest entry up before
it writes to a full table. The device of a remembered account is written without that.
-/

namespace ReplxEdge.Identity

open Foundation

/-!
## Calls side by side
-/

inductive Pending where
  | device (call : ResolveCall)
  | cold (call : ResolveCall)

structure Memory where
  resolver : Resolver
  pending : List Pending

/-- `client` is the instance that was recorded, and `outcome` what the slow path came to. -/
inductive Section where
  | look (call : ResolveCall)
  | device (i : Nat) (client : GoString)
  | cold (i : Nat) (outcome : Cold)

namespace Memory

def start (db tv : Bool) : Memory where
  resolver := Resolver.new db tv
  pending := []

/-- The first section; a call that finds everything returns at once. -/
def look (m : Memory) (call : ResolveCall) : Memory :=
  if call.fingerprint = [] then m
  else
    match remembered m.resolver call.clock.start call.fingerprint with
    | none => { m with pending := .cold call :: m.pending }
    | some _ =>
      if call.identifier = [] ∨ (rememberedClient call.clock call.fingerprint call.identifier
          m.resolver).isSome then m
      else { m with pending := .device call :: m.pending }

/-- A step is one section of one call; `none` when no call stands there. -/
def step (m : Memory) : Section -> Option Memory
  | .look call => some (m.look call)
  | .device i client =>
    match m.pending[i]? with
    | some (.device call) =>
      some ⟨keepClient call.clock call.fingerprint call.identifier m.resolver client,
        m.pending.eraseIdx i⟩
    | _ => none
  | .cold i outcome =>
    match m.pending[i]? with
    | some (.cold call) =>
      some ⟨remember m.resolver call.order call.clock.start call.fingerprint call.identifier
        outcome, m.pending.eraseIdx i⟩
    | _ => none

/-- A device that is written next to a remembered account has an entry, or finds room. -/
def hasRoom (m : Memory) : Section -> Bool
  | .device i client =>
    match m.pending[i]? with
    | some (.device call) =>
      client == [] ||
        (m.resolver.cli.lookup (clientKey call.fingerprint call.identifier)).isSome ||
        decide (m.resolver.cli.entries.length < memMax)
    | _ => true
  | _ => true

/-!
## The bound
-/

structure Bounded (m : Memory) : Prop where
  acct : m.resolver.acct.entries.length ≤ memMax
  cli : m.resolver.cli.entries.length ≤ memMax

variable {m m' : Memory}

theorem evictOldest_length {value : Type} (order : Order (GoString × value))
    (stamp : value -> Instant) {t : Table GoString value} (h : t.entries.length ≤ memMax) :
    (evictOldest order stamp t).entries.length < memMax := by
  unfold evictOldest
  split
  · rename_i hfull
    have hne : t.entries ≠ [] := by
      intro hnil
      rw [hnil, List.length_nil] at hfull
      exact absurd hfull (by decide)
    rcases Table.oldest_of_ne_nil order stamp hne with ⟨k, v, holdest, hfound⟩
    rw [holdest]
    exact Nat.lt_of_lt_of_le (Table.length_delete_lt hfound) h
  rename_i hroom
  exact Nat.lt_of_not_le hroom

theorem Bounded.look (h : Bounded m) (call : ResolveCall) : Bounded (m.look call) := by
  unfold Memory.look
  split
  · exact h
  split
  · exact ⟨h.acct, h.cli⟩
  split
  · exact h
  · exact ⟨h.acct, h.cli⟩

theorem Bounded.remember (h : Bounded m) (order : MemoryOrder) (now : Instant)
    (fingerprint identifier : GoString) (outcome : Cold) (pending : List Pending) :
    Bounded ⟨Identity.remember m.resolver order now fingerprint identifier outcome, pending⟩ := by
  have hacct := evictOldest_length order.acct AcctEntry.savedAt h.acct
  have hcli := evictOldest_length order.cli CliEntry.savedAt h.cli
  constructor
  · simp only [Identity.remember]
    split
    · exact (Table.length_set_le _ _ _).trans hacct
    · exact h.acct
  simp only [Identity.remember]
  split
  · exact h.cli
  split
  · exact hcli.le
  · exact (Table.length_set_le _ _ _).trans hcli

theorem Bounded.keepClient (h : Bounded m) (call : ResolveCall) {client : GoString}
    (hroom : client = [] ∨
      m.resolver.cli.lookup (clientKey call.fingerprint call.identifier) ≠ none ∨
      m.resolver.cli.entries.length < memMax) (pending : List Pending) :
    Bounded ⟨Identity.keepClient call.clock call.fingerprint call.identifier m.resolver client,
      pending⟩ := by
  unfold Identity.keepClient
  split
  · exact ⟨h.acct, h.cli⟩
  rename_i hclient
  refine ⟨h.acct, ?_⟩
  rcases hroom with hempty | hknown | hroom
  · exact absurd hempty hclient
  · exact (Table.length_set_of_lookup hknown _).trans h.cli
  · exact (Table.length_set_le _ _ _).trans hroom

theorem bounded_step {a : Section} (h : Bounded m) (hroom : m.hasRoom a = true)
    (hstep : m.step a = some m') : Bounded m' := by
  cases a with
  | look call =>
    cases hstep
    exact h.look call
  | device i client =>
    simp only [step] at hstep
    simp only [hasRoom] at hroom
    split at hstep
    · rename_i call hcall
      cases hstep
      rw [hcall] at hroom
      simp only [Bool.or_eq_true, beq_iff_eq, Option.isSome_iff_ne_none, decide_eq_true_eq,
        or_assoc] at hroom
      exact h.keepClient call hroom _
    · cases hstep
  | cold i outcome =>
    simp only [step] at hstep
    split at hstep
    · rename_i call hcall
      cases hstep
      exact h.remember _ _ _ _ _ _
    · cases hstep

end Memory

/-- Neither table outgrows the limit in any run whose devices, written next to a remembered
account, have an entry or find room. -/
theorem memory_bounded (db tv : Bool) (sections : List Section) (m : Memory)
    (hroom : Along Memory.step (fun m a => m.hasRoom a = true) (Memory.start db tv) sections)
    (hrun : run Memory.step (Memory.start db tv) sections = some m) : m.Bounded :=
  run_invariant (fun _ _ _ h hroom hstep => Memory.bounded_step h hroom hstep)
    ⟨Nat.zero_le _, Nat.zero_le _⟩ hroom hrun

/-!
## One account with many devices
-/

def phone (n : Nat) : ResolveCall :=
  callAt 0 (str "f") (List.replicate n 97)

def firstPhone : List Section :=
  [.look (phone 1), .cold 0 ⟨⟨str "acct:7", str "i", str "d", 7, true, true, false, false⟩, true,
    oneServer⟩]

def nextPhone (n : Nat) : List Section :=
  [.look (phone n), .device 0 (str "d")]

structure Memory.Phones (n : Nat) (m : Memory) : Prop where
  account : (remembered m.resolver 0 (str "f")).isSome = true
  pending : m.pending = []
  devices : forall k v, m.resolver.cli.lookup k = some v -> k.length ≤ n + 2
  count : m.resolver.cli.entries.length = n

theorem firstPhone_run : exists m, run Memory.step (Memory.start true true) firstPhone = some m ∧
    m.Phones 1 := by
  refine ⟨_, rfl, by decide +kernel, rfl, ?_, rfl⟩
  intro k v hfound
  have hmem := Table.mem_of_lookup hfound
  cases hmem with
  | head =>
    decide
  | tail _ hrest => cases hrest

theorem memory_bounded_two_phones :
    exists m, run Memory.step (Memory.start true true) (firstPhone ++ nextPhone 2) = some m ∧
      m.resolver.cli.entries.length = 2 ∧ m.Bounded := by
  have hroom : Along Memory.step (fun m a => m.hasRoom a = true) (Memory.start true true)
      (firstPhone ++ nextPhone 2) := by
    decide +kernel
  exact ⟨_, rfl, rfl, memory_bounded true true (firstPhone ++ nextPhone 2) _ hroom rfl⟩

theorem nextPhone_run {n : Nat} {m : Memory} (h : m.Phones n) :
    exists m', run Memory.step m (nextPhone (n + 1)) = some m' ∧ m'.Phones (n + 1) := by
  have hnew : m.resolver.cli.lookup (clientKey (str "f") (List.replicate (n + 1) 97)) = none := by
    cases hfound : m.resolver.cli.lookup (clientKey (str "f") (List.replicate (n + 1) 97)) with
    | none => rfl
    | some v =>
      have hlength := h.devices _ v hfound
      simp [clientKey, str] at hlength
  have hlook : m.look (phone (n + 1)) = ⟨m.resolver, [.device (phone (n + 1))]⟩ := by
    rcases Option.isSome_iff_exists.mp h.account with ⟨entry, hentry⟩
    have hcall : remembered m.resolver (phone (n + 1)).clock.start
        (phone (n + 1)).fingerprint = some entry := hentry
    unfold Memory.look
    rw [if_neg (by simp [phone, callAt, str]), hcall]
    simp only
    rw [if_neg, h.pending]
    simp [phone, callAt, rememberedClient, hnew]
  refine ⟨⟨keepClient (phone (n + 1)).clock (str "f") (List.replicate (n + 1) 97) m.resolver
    (str "d"), []⟩, ?_, ?_, rfl, ?_, ?_⟩
  · simp only [nextPhone, run, Memory.step, hlook]
    rfl
  · exact h.account
  · intro k v hfound
    simp only [keepClient, if_neg (show ¬ str "d" = [] by decide)] at hfound
    rw [Table.lookup_set] at hfound
    split at hfound
    · rename_i hkey
      rw [hkey]
      simp [clientKey, str]
    · exact (h.devices k v hfound).trans (by omega)
  simp only [keepClient, if_neg (show ¬ str "d" = [] by decide), Table.set,
    Table.delete_of_lookup_none hnew]
  rw [List.length_cons, h.count]

theorem phones_run (n : Nat) : exists sections m,
    run Memory.step (Memory.start true true) sections = some m ∧ m.Phones (n + 1) := by
  induction n with
  | zero =>
    rcases firstPhone_run with ⟨m, hrun, hphones⟩
    exact ⟨firstPhone, m, hrun, hphones⟩
  | succ n ih =>
    rcases ih with ⟨sections, m, hrun, hphones⟩
    rcases nextPhone_run hphones with ⟨m', hnext, hphones'⟩
    refine ⟨sections ++ nextPhone (n + 2), m', ?_, hphones'⟩
    rw [run_append, hrun]
    exact hnext

/-- With one more device than the limit the table of clients is too large. -/
theorem clients_unbounded : ¬ forall (db tv : Bool) (sections : List Section) (m : Memory),
    run Memory.step (Memory.start db tv) sections = some m -> m.Bounded := by
  intro h
  rcases phones_run memMax with ⟨sections, m, hrun, hphones⟩
  have hbound := (h true true sections m hrun).cli
  rw [hphones.count] at hbound
  exact absurd hbound (by decide)

end ReplxEdge.Identity
