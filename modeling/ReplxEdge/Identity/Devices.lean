import ReplxEdge.Identity.Calls

/-!
# Devices

A client entry of the memory is kept under the fingerprint and the identifier with a zero
byte between them. Fingerprints are hexadecimal, so the two can be told apart again and a
device never gets the instance of another one.
-/

namespace ReplxEdge.Identity

open Foundation

variable {before after : Database} {clientID identifier : GoString} {r : Resolver}

/-!
## Rows
-/

def HasInstance (db : Database) (clientID identifier : GoString) : Prop :=
  exists row, row ∈ db.clients ∧ row.id = clientID ∧ row.identifier = identifier

def KeepsClients (before after : Database) : Prop :=
  forall row, row ∈ before.clients -> row ∈ after.clients

theorem HasInstance.kept (h : HasInstance before clientID identifier)
    (hkept : KeepsClients before after) :
    HasInstance after clientID identifier := by
  rcases h with ⟨row, hrow, hid, hidentifier⟩
  exact ⟨row, hkept row hrow, hid, hidentifier⟩

structure OwnInstance (before after : Database) (clientID identifier : GoString) : Prop where
  kept : KeepsClients before after
  own : clientID ≠ [] -> HasInstance after clientID identifier
  anonymous : identifier = [] -> clientID = []

theorem ownInstance_nil (h : after.clients = before.clients)
    (identifier : GoString) : OwnInstance before after [] identifier := by
  refine ⟨?_, ?_, fun _ => rfl⟩
  · intro row hrow
    rw [h]
    exact hrow
  intro hne
  exact absurd rfl hne

theorem recordClient_own (db : Database) (c : Conditions) (server identifier : GoString) :
    OwnInstance db (recordClient db c server identifier).2
      (recordClient db c server identifier).1 identifier := by
  unfold recordClient
  split
  · exact ownInstance_nil rfl identifier
  rename_i hknown
  have hidentifier : identifier ≠ [] := fun h => hknown (Or.inl h)
  split
  · rename_i row hfind
    refine ⟨fun _ hrow => hrow, ?_, fun h => absurd h hidentifier⟩
    intro _
    have hmatch := List.find?_some hfind
    rw [Bool.and_eq_true, beq_iff_eq, beq_iff_eq] at hmatch
    exact ⟨row, List.mem_of_find?_eq_some hfind, rfl, hmatch.right⟩
  refine ⟨?_, ?_, fun h => absurd h hidentifier⟩
  · intro row hrow
    exact List.mem_append_left _ hrow
  intro _
  exact ⟨_, List.mem_append_right _ List.mem_cons_self, rfl, rfl⟩

theorem OwnInstance.of_same {middle : Database} (h : OwnInstance middle after clientID identifier)
    (hsame : middle.clients = before.clients) :
    OwnInstance before after clientID identifier := by
  refine ⟨?_, h.own, h.anonymous⟩
  intro row hrow
  apply h.kept
  rw [hsame]
  exact hrow

/-!
## Calls
-/

theorem upsertIdentity_clients (db : Database) (c : Conditions) (server : GoString)
    (account : Int) : (upsertIdentity db c server account).2.clients = db.clients := by
  unfold upsertIdentity
  simp only
  split
  · rfl
  split
  · split
    · rfl
    · rfl
  split
  · rfl
  · rfl

theorem upsertLink_clients (db : Database) (c : Conditions) (now : Instant)
    (server fingerprint identityID : GoString) :
    (upsertLink db c now server fingerprint identityID).clients = db.clients := by
  unfold upsertLink
  split
  all_goals rfl

theorem markInvalid_clients (db : Database) (c : Conditions) (now : Instant)
    (server fingerprint : GoString) :
    (markInvalid db c now server fingerprint).clients = db.clients := by
  unfold markInvalid
  split
  all_goals rfl

section Cold

variable {c : Conditions} {t : Clock} {server fingerprint identifier : GoString}
  {db : Database}

theorem bindAccount_own (now : Instant) (account : Int) :
    OwnInstance db (bindAccount c now server fingerprint identifier db account).database
      (bindAccount c now server fingerprint identifier db account).resolved.clientID
      identifier := by
  have hclients : (upsertLink (upsertIdentity db c server account).2 c now server fingerprint
      (upsertIdentity db c server account).1).clients = db.clients := by
    rw [upsertLink_clients, upsertIdentity_clients]
  unfold bindAccount
  simp only
  split
  · exact ownInstance_nil hclients identifier
  · exact (recordClient_own _ c server identifier).of_same hclients

theorem rowOutcome_own {outcome : Answered}
    (h : RowOutcome c t server fingerprint identifier db outcome) :
    OwnInstance db outcome.cold.database outcome.cold.resolved.clientID identifier := by
  cases h with
  | plain | recorded | degraded | nobody => exact ownInstance_nil rfl identifier
  | kept | unproven => exact recordClient_own db c server identifier
  | bound account haccount hne => exact bindAccount_own t.written account
  | rejected haccount =>
    exact ownInstance_nil (markInvalid_clients db c t.written server fingerprint) identifier

theorem resolveClientAt_own (r : Resolver) :
    OwnInstance db (resolveClientAt c t identifier r db).2.2
      (resolveClientAt c t identifier r db).1 identifier := by
  unfold resolveClientAt
  simp only
  split
  · exact ownInstance_nil rfl identifier
  split
  · exact ownInstance_nil rfl identifier
  · exact recordClient_own db c _ identifier

end Cold

/-!
## The memory of clients
-/

/-- Every client entry belongs to the device whose identifier stands in its key. -/
def ClientsOwned (r : Resolver) (db : Database) : Prop :=
  forall key entry, r.cli.lookup key = some entry ->
    exists fingerprint identifier, 0 ∉ fingerprint ∧ key = clientKey fingerprint identifier ∧
      HasInstance db entry.clientID identifier

theorem clientKey_inj {f g other : GoString} (hf : 0 ∉ f) (hg : 0 ∉ g)
    (h : clientKey f identifier = clientKey g other) : f = g ∧ identifier = other :=
  append_separator_inj hf hg h

variable {entry : CliEntry}

theorem clientsOwned_set {fingerprint : GoString}
    (h : ClientsOwned r before) (hown : OwnInstance before after clientID identifier)
    (hfree : 0 ∉ fingerprint) {key : GoString} (hkey : r.cli.lookup key = some entry ∨
    (key = clientKey fingerprint identifier ∧ clientID ≠ [] ∧ entry.clientID = clientID)) :
    exists fingerprint identifier, 0 ∉ fingerprint ∧ key = clientKey fingerprint identifier ∧
      HasInstance after entry.clientID identifier := by
  rcases hkey with hold | ⟨hsame, hne, hclient⟩
  · rcases h key entry hold with ⟨f, other, hf, hkey, hinstance⟩
    exact ⟨f, other, hf, hkey, hinstance.kept hown.kept⟩
  refine ⟨fingerprint, identifier, hfree, hsame, ?_⟩
  rw [hclient]
  exact hown.own hne

theorem resolveClientAt_cli (c : Conditions) (t : Clock) (identifier : GoString)
    (r : Resolver) (db : Database) : (resolveClientAt c t identifier r db).2.1.cli = r.cli := by
  unfold resolveClientAt
  simp only
  split
  · rfl
  split
  · exact (enabledServerAt_memory c t r db).right
  · exact (enabledServerAt_memory c t r db).right

theorem lookup_keepClient {t : Clock} {fingerprint key : GoString}
    (h : (keepClient t fingerprint identifier r clientID).cli.lookup key = some entry) :
    r.cli.lookup key = some entry ∨
    (key = clientKey fingerprint identifier ∧ clientID ≠ [] ∧ entry.clientID = clientID) := by
  unfold keepClient at h
  split at h
  · exact Or.inl h
  rename_i hne
  rw [Table.lookup_set] at h
  split at h
  · rename_i hkey
    cases h
    exact Or.inr ⟨hkey, hne, rfl⟩
  · exact Or.inl h

structure CallOwned (r : Resolver) (db : Database) (identifier : GoString)
    (back : Resolution) : Prop where
  own : OwnInstance db back.database back.resolved.clientID identifier
  owned : ClientsOwned back.resolver back.database

section Call

variable {r : Resolver} {db : Database} (h : ClientsOwned r db) {fingerprint : GoString}
  (hfree : 0 ∉ fingerprint)

include h hfree

theorem remembered_owned (c : Conditions) (t : Clock) (identifier : GoString) (entry : AcctEntry) :
    CallOwned r db identifier (resolveRememberedAt c t fingerprint identifier r db entry) := by
  unfold resolveRememberedAt
  split
  · exact ⟨ownInstance_nil rfl identifier, h⟩
  rename_i hidentifier
  cases hcli : rememberedClient t fingerprint identifier r with
  | some cli =>
    refine ⟨⟨fun _ hrow => hrow, ?_, fun hnil => absurd hnil hidentifier⟩, h⟩
    intro _
    have hlookup := (Option.filter_eq_some_iff.mp hcli).left
    rcases h _ cli hlookup with ⟨f, other, hf, hkey, hinstance⟩
    rw [(clientKey_inj hfree hf hkey).right]
    exact hinstance
  | none =>
    have hown : OwnInstance db (resolveClientAt c t identifier r db).2.2
      (resolveClientAt c t identifier r db).1 identifier := resolveClientAt_own r
    refine ⟨hown, ?_⟩
    intro key found hfound
    apply clientsOwned_set h hown hfree
    have hcases := lookup_keepClient hfound
    rw [resolveClientAt_cli] at hcases
    exact hcases

theorem cold_owned {known : Resolver} (hknown : known.cli = r.cli) (order : MemoryOrder)
    (now : Instant) {cold : Cold}
    (hown : OwnInstance db cold.database cold.resolved.clientID identifier) :
    CallOwned r db identifier ⟨cold.resolved, remember known order now fingerprint identifier
      cold, cold.database⟩ := by
  refine ⟨hown, ?_⟩
  intro key found hfound
  apply clientsOwned_set h hown hfree
  have hcases := lookup_remember_cli hfound
  rw [hknown] at hcases
  exact hcases

end Call

theorem call_owned {db : Database} (h : ClientsOwned r db) {call : ResolveCall}
    (hfree : 0 ∉ call.fingerprint) :
    CallOwned r db call.identifier (resolveAt r db call).resolution := by
  have hcases := resolveAt_cases r db call
  generalize resolveAt r db call = back at hcases ⊢
  cases hcases with
  | nameless hnil => exact ⟨ownInstance_nil rfl call.identifier, h⟩
  | remembered entry hentry =>
    exact remembered_owned h hfree call.conditions call.clock call.identifier entry
  | cold known outcome hacct hcli houtcome =>
    apply cold_owned h hfree hcli
    rcases houtcome with rfl | ⟨server, _, hrow⟩
    · exact ownInstance_nil rfl call.identifier
    · exact rowOutcome_own hrow

/-!
## Every sequence of calls
-/

def DeviceIsolated (s : Service) (call : ResolveCall) : Prop :=
  ((s.returned call).resolution.resolved.clientID ≠ [] ->
    HasInstance (s.returned call).resolution.database
      (s.returned call).resolution.resolved.clientID call.identifier) ∧
  (call.identifier = [] -> (s.returned call).resolution.resolved.clientID = [])

def ZeroFree (event : Event) : Prop :=
  forall call, event = .call call -> 0 ∉ call.fingerprint

variable {s : Service}

theorem clientsOwned_step (h : ClientsOwned s.resolver s.db) {event : Event}
    (hfree : ZeroFree event) :
    ClientsOwned (s.step event).resolver (s.step event).db := by
  cases event with
  | call call => exact (call_owned h (hfree call rfl)).owned
  | restart =>
    intro key entry hfound
    cases hfound
  | enable server => exact h

theorem clientsOwned_after (h : ClientsOwned s.resolver s.db)
    {events : List Event} (hfree : forall event, event ∈ events -> ZeroFree event) :
    ClientsOwned (s.after events).resolver (s.after events).db := by
  induction events generalizing s with
  | nil => exact h
  | cons event events ih =>
    apply ih (clientsOwned_step h (hfree event List.mem_cons_self))
    intro other hother
    exact hfree other (List.mem_cons_of_mem event hother)

/-- With fingerprints without a zero byte, a device only ever gets its own instance. -/
theorem devices_isolated (db tv : Bool) (database : Database) (past : List Event)
    (call : ResolveCall) (hpast : forall event, event ∈ past -> ZeroFree event)
    (hcall : 0 ∉ call.fingerprint) :
    DeviceIsolated ((Service.start db tv database).after past) call := by
  have hstart : ClientsOwned (Service.start db tv database).resolver
      (Service.start db tv database).db := by
    intro key entry hfound
    cases hfound
  have hown := (call_owned (clientsOwned_after hstart hpast) hcall).own
  exact ⟨hown.own, hown.anonymous⟩

/-- The device is remembered from the first call. -/
theorem devices_isolated_again :
    (((Service.start true true oneServer).after
      [.call (callAt 0 (str "ab") (str "tv"))]).returned
        (callAt 1 (str "ab") (str "tv"))).resolution.resolved.clientID = str "d" ∧
    DeviceIsolated ((Service.start true true oneServer).after
      [.call (callAt 0 (str "ab") (str "tv"))]) (callAt 1 (str "ab") (str "tv")) := by
  refine ⟨by decide +kernel, devices_isolated true true oneServer _ _ ?_ (by decide)⟩
  intro event hevent call hcall
  rw [List.mem_singleton.mp hevent] at hcall
  cases hcall
  decide

/-- A fingerprint with a zero byte, for which the database refuses the link statements. -/
def splitCall : ResolveCall :=
  { callAt 1 (str "a" ++ 0 :: str "b") (str "c") with
    conditions := { welcoming with linkFails := true, linkWriteFails := true } }

/-- The key of one device is the key of another one of another fingerprint. -/
theorem shared_key_leaks :
    exists s, s = (Service.start true true oneServer).after
        [.call (callAt 0 (str "a") []), .call splitCall] ∧
      (s.returned (callAt 2 (str "a") (str "b" ++ 0 :: str "c"))).resolution.resolved.clientID =
        str "d" ∧
      ¬ DeviceIsolated s (callAt 2 (str "a") (str "b" ++ 0 :: str "c")) := by
  refine ⟨_, rfl, by decide +kernel, ?_⟩
  intro h
  have hinstance := h.left (by decide +kernel)
  have hnone : ((((Service.start true true oneServer).after
      [.call (callAt 0 (str "a") []), .call splitCall]).returned
        (callAt 2 (str "a") (str "b" ++ 0 :: str "c"))).resolution.database.clients.all
          fun row => row.identifier != str "b" ++ 0 :: str "c") = true := by
    decide +kernel
  rcases hinstance with ⟨row, hrow, _, hidentifier⟩
  have hother := List.all_eq_true.mp hnone row hrow
  rw [bne_iff_ne] at hother
  exact hother hidentifier

end ReplxEdge.Identity
