import ReplxEdge.Onboarding.Flow

/-!
# What a verified server was checked for

The panel reports a server as verified from a setting, and the status of its credential
says the same from a column. Both ought to go back to a `Verify` call for the enabled row
that no later sign-in or selection has overtaken.
-/

namespace ReplxEdge.Onboarding

open Foundation

/-!
## The property
-/

/-- The administrator is told, in one place or the other, that the server is verified. -/
def Reported (d : Store) : Prop :=
  d.status.stage = .verified ∨
    d.enabledCredential.map Credential.status = some .verified

instance (d : Store) : Decidable (Reported d) :=
  inferInstanceAs (Decidable (_ ∨ _))

def Deed.voids : Deed -> Bool
  | .committed _ => true
  | _ => false

/-- A `Verify` call started, and nothing that voids a verification committed since. -/
def Unvoided (n : Nat) (log : List Deed) : Prop :=
  Since (fun _ r => r = .started n) (fun r => r.voids = true) log

instance (n : Nat) (log : List Deed) : Decidable (Unvoided n log) :=
  inferInstanceAs (Decidable (Since _ _ _))

/-- A `Verify` call read the row that is enabled, passed its checks and is not voided. -/
def Justified (d : Store) (log : List Deed) : Prop :=
  exists n server, d.enabledServer.map Server.id = some server ∧
    .read n server ∈ log ∧ .passed n ∈ log ∧ Unvoided n log

section Unvoided

variable {n m : Nat} {log : List Deed} {d : Deed}

theorem not_unvoided (h : d.voids = true) : ¬ Unvoided n (d :: log) := by
  intro hun
  rcases hun with hhere | ⟨hnot, _⟩
  · rw [hhere] at h
    cases h
  · exact hnot h

theorem Unvoided.note (h : Unvoided n log) (hd : d.voids = false) : Unvoided n (d :: log) :=
  Since.later (by simp [hd]) h

theorem Unvoided.of_cons (h : Unvoided n (d :: log)) (hd : d ≠ .started n) :
    Unvoided n log := by
  rcases h with hhere | ⟨_, hpast⟩
  · exact absurd hhere hd
  · exact hpast

variable {s : Store}

theorem Justified.note (h : Justified s log) (hd : d.voids = false) :
    Justified s (d :: log) := by
  rcases h with ⟨n, server, henabled, hread, hpassed, hun⟩
  exact ⟨n, server, henabled, List.mem_cons_of_mem d hread, List.mem_cons_of_mem d hpassed,
    hun.note hd⟩

theorem Justified.of_enabled {t : Store} (h : Justified s log)
    (hsame : t.enabledServer = s.enabledServer) : Justified t log := by
  rcases h with ⟨n, server, henabled, hrest⟩
  exact ⟨n, server, hsame ▸ henabled, hrest⟩

end Unvoided

/-!
## What a statement changes
-/

def Effect.reports : Effect -> Bool
  | .set (.verified _) => true
  | .status _ .verified => true
  | .bind _ => true
  | _ => false

def Operation.makes (op : Operation) : Effect -> Bool
  | .set (.verified _) => op == .verify
  | .status _ .verified =>
    op == .verify || op == .refreshOwnerJWT
  | _ => true

namespace Store

variable {d : Store} {e : Effect}

theorem stage_verified_iff : d.status.stage = .verified <->
    exists s, d.enabledServer = some s ∧ d.settings.verified = some s.machineIdentifier ∧
      s.machineIdentifier ≠ [] := by
  unfold status
  cases hserver : d.enabledServer with
  | none =>
    have hne : d.signInStage ≠ .verified := by
      unfold signInStage
      split
      · simp
      split
      · simp
      · simp
    simpa using hne
  | some s =>
    by_cases hverified : d.settings.verified = some s.machineIdentifier ∧
        s.machineIdentifier ≠ []
    · simp [hverified]
    simp only [if_neg hverified]
    constructor
    · intro h
      cases h
    intro h
    rcases h with ⟨found, hfound, hboth⟩
    cases hfound
    exact absurd hboth hverified

theorem setStatus_enabledServer (server : Nat) (value : CredentialStatus) :
    (d.setStatus server value).enabledServer = d.enabledServer := by
  unfold setStatus
  split
  all_goals rfl

theorem setStatus_settings (server : Nat) (value : CredentialStatus) :
    (d.setStatus server value).settings = d.settings := by
  unfold setStatus
  split
  all_goals rfl

variable {server : Nat} {value : CredentialStatus}

theorem lookup_setStatus {other : Nat} (hvalue : value = .verified -> other ≠ server)
    (h : ((d.setStatus server value).credentials.lookup other).map Credential.status =
      some .verified) :
    (d.credentials.lookup other).map Credential.status = some .verified := by
  unfold setStatus at h
  split at h
  · exact h
  rw [Table.lookup_set] at h
  split at h
  · rename_i hsame
    exact absurd hsame (hvalue (Option.some.inj h))
  · exact h

theorem reported_setStatus (hvalue : value = .verified ->
      d.enabledServer.map Server.id ≠ some server)
    (h : Reported (d.setStatus server value)) : Reported d := by
  rcases h with hstage | hstatus
  · rw [stage_verified_iff, setStatus_enabledServer, setStatus_settings] at hstage
    exact Or.inl (stage_verified_iff.mpr hstage)
  unfold enabledCredential at hstatus
  rw [setStatus_enabledServer] at hstatus
  refine Or.inr ?_
  unfold enabledCredential
  cases hserver : d.enabledServer with
  | none =>
    rw [hserver] at hstatus
    cases hstatus
  | some s =>
    rw [hserver] at hstatus
    refine lookup_setStatus ?_ hstatus
    intro hverified hsame
    refine hvalue hverified ?_
    rw [hserver, ← hsame]
    rfl

theorem reported_settings {t : Settings} (ht : forall m, t.verified = some m ->
      d.settings.verified = some m) (h : Reported { d with settings := t }) : Reported d := by
  rcases h with hstage | hstatus
  · rcases stage_verified_iff.mp hstage with ⟨s, hserver, hverified, hne⟩
    exact Or.inl (stage_verified_iff.mpr ⟨s, hserver, ht _ hverified, hne⟩)
  · exact Or.inr hstatus

theorem apply_enabledServer (hbind : forall m, e ≠ .bind m) :
    (d.apply e).enabledServer = d.enabledServer := by
  cases e with
  | set | del => rfl
  | bind m => exact absurd rfl (hbind m)
  | status server value => exact setStatus_enabledServer server value

theorem reported_apply (he : e.reports = false) (h : Reported (d.apply e)) : Reported d := by
  cases e with
  | set x =>
    refine reported_settings ?_ h
    intro m hm
    cases x with
    | verified machineID => cases he
    | _ => exact hm
  | del k =>
    refine reported_settings ?_ h
    intro m hm
    cases k with
    | verified => cases hm
    | _ => exact hm
  | bind m => cases he
  | status server value =>
    refine reported_setStatus ?_ h
    intro hvalue
    rw [hvalue] at he
    cases he

theorem reported_bind {m : GoString} (h : Reported (d.bind m)) :
    d.settings.verified = some m := by
  rcases h with hstage | hstatus
  · rcases stage_verified_iff.mp hstage with ⟨s, hserver, hverified, _⟩
    cases hserver
    exact hverified
  have hfound : (d.bind m).enabledCredential = some ⟨m, .selected⟩ := by
    show (d.credentials.set _ _).lookup _ = _
    rw [Table.lookup_set, if_pos rfl]
  rw [hfound] at hstatus
  cases hstatus

theorem reported_markInvalid (h : Reported d.markInvalid) : Reported d := by
  unfold markInvalid at h
  split at h
  · exact h
  refine reported_setStatus ?_ h
  intro hvalue
  cases hvalue

theorem markInvalid_enabledServer : d.markInvalid.enabledServer = d.enabledServer := by
  unfold markInvalid
  split
  · rfl
  · exact setStatus_enabledServer _ _

end Store

/-!
## The invariant
-/

/-- What a call has done so far is on record, and it makes no statement of another
operation. -/
def Call.Explained (n : Nat) (log : List Deed) : Call -> Prop
  | .verifyServer s => .read n s.id ∈ log
  | .verifyCredential s _ => .read n s.id ∈ log
  | .writing op rest => (forall w, w ∈ rest -> op.makes w.effect = true) ∧
      (op = .verify -> exists server, .read n server ∈ log ∧ .passed n ∈ log)
  | _ => True

theorem Call.Explained.note {n : Nat} {log : List Deed} {c : Call} (h : c.Explained n log)
    (d : Deed) : c.Explained n (d :: log) := by
  cases c with
  | verifyServer | verifyCredential => exact List.mem_cons_of_mem d h
  | writing op rest =>
    refine ⟨h.left, ?_⟩
    intro hop
    rcases h.right hop with ⟨server, hread, hpassed⟩
    exact ⟨server, List.mem_cons_of_mem d hread, List.mem_cons_of_mem d hpassed⟩
  | _ => trivial

theorem makes_issuePIN (mode : AuthMode) (id : Int) (code : GoString) :
    forall w, w ∈ issuePINWrites mode id code -> Operation.issuePIN.makes w.effect = true := by
  simp [issuePINWrites, Operation.makes]

theorem makes_tokenWrites (parseExpiry : GoString -> Option Int) (op : Operation)
    (token : GoString) :
    forall w, w ∈ tokenWrites parseExpiry token -> op.makes w.effect = true := by
  have hexpiry : op.makes (expiryWrite parseExpiry token).effect = true := by
    unfold expiryWrite
    split
    all_goals rfl
  rw [tokenWrites, List.forall_mem_cons]
  exact ⟨hexpiry, by simp [Operation.makes]⟩

theorem makes_pollClaim (parseExpiry : GoString -> Option Int) (mode : Option AuthMode)
    (rejected : Bool) (token : GoString) :
    forall w, w ∈ pollClaimWrites parseExpiry mode rejected token ->
      Operation.pollClaim.makes w.effect = true := by
  unfold pollClaimWrites
  split
  · intro w hw
    rcases List.mem_cons.mp hw with heq | hrest
    · rw [heq]
      rfl
    · exact makes_tokenWrites parseExpiry _ token w hrest
  · exact makes_tokenWrites parseExpiry _ token

theorem makes_submitToken (parseExpiry : GoString -> Option Int) (token : GoString) :
    forall w, w ∈ submitTokenWrites parseExpiry token ->
      Operation.submitToken.makes w.effect = true := by
  intro w hw
  rcases List.mem_append.mp hw with hcommon | hlast
  · exact makes_tokenWrites parseExpiry _ token w hcommon
  rw [List.mem_singleton.mp hlast]
  rfl

theorem makes_selectResource (clientIdentifier : GoString) :
    forall w, w ∈ selectResourceWrites clientIdentifier ->
      Operation.selectResource.makes w.effect = true := by
  simp [selectResourceWrites, Operation.makes]

theorem makes_verify (server : Nat) (originID : GoString) :
    forall w, w ∈ verifyWrites server originID -> Operation.verify.makes w.effect = true := by
  simp [verifyWrites, Operation.makes]

theorem makes_refresh (parseExpiry : GoString -> Option Int) (server : Nat)
    (fresh : Option GoString) :
    forall w, w ∈ refreshWrites parseExpiry server fresh ->
      Operation.refreshOwnerJWT.makes w.effect = true := by
  cases fresh with
  | none =>
    simp [refreshWrites, Operation.makes]
  | some token =>
    cases hexpiry : parseExpiry token with
    | none | some =>
      simp [refreshWrites, hexpiry, Operation.makes]

structure Sound (y : Service) : Prop where
  justified : Reported y.store -> Justified y.store y.log
  current : forall n server, .read n server ∈ y.log -> Unvoided n y.log ->
    y.store.enabledServer.map Server.id = some server
  known : forall n server, .read n server ∈ y.log -> n < y.next
  calls : forall n c, y.calls.lookup n = some c -> n < y.next ∧ c.Explained n y.log

theorem sound_start (now : Instant) : Sound (Service.start now) where
  justified := by
    intro h
    rcases h with hstage | hstatus
    · cases hstage
    · cases hstatus
  current := fun _ _ hread => (nomatch hread)
  known := fun _ _ hread => (nomatch hread)
  calls := fun _ _ hc => (nomatch hc)

variable {op : Operation}

namespace Sound

variable {parseExpiry : GoString -> Option Int} {y y' : Service} {n : Nat} {c : Call}

theorem arrive (h : Sound y) (hc : c.Explained y.next y.log) : Sound (y.arrive c) where
  justified := h.justified
  current := h.current
  known := fun n server hread => Nat.lt_succ_of_lt (h.known n server hread)
  calls := by
    intro n found hfound
    simp only [Service.arrive, Table.lookup_set] at hfound
    split at hfound
    · rename_i hn
      cases hfound
      rw [hn]
      exact ⟨Nat.lt_succ_self y.next, hc⟩
    have hold := h.calls n found hfound
    exact ⟨Nat.lt_succ_of_lt hold.left, hold.right⟩

theorem goTo (h : Sound y) {old : Call} (hold : y.calls.lookup n = some old)
    (hc : c.Explained n y.log) : Sound (y.goTo n c) :=
  { h with
    calls := by
      intro m found hfound
      simp only [Service.goTo, Table.lookup_set] at hfound
      split at hfound
      · rename_i hm
        cases hfound
        rw [hm]
        exact ⟨(h.calls n old hold).left, hc⟩
      · exact h.calls m found hfound }

theorem leave (h : Sound y) : Sound (y.leave n) :=
  { h with
    calls := fun m found hfound => h.calls m found (Table.lookup_of_delete hfound) }

theorem note {d : Deed} (h : Sound y) (hvoid : d.voids = false) (hstart : forall m, d ≠ .started m)
    (hread : forall m server, .read m server = d ->
      m < y.next ∧ y.store.enabledServer.map Server.id = some server) : Sound (y.note d) where
  justified := fun hrep => (h.justified hrep).note hvoid
  current := by
    intro m server hmem hun
    rcases List.mem_cons.mp hmem with heq | hold
    · exact (hread m server heq).right
    · exact h.current m server hold (hun.of_cons (hstart m))
  known := by
    intro m server hmem
    rcases List.mem_cons.mp hmem with heq | hold
    · exact (hread m server heq).left
    · exact h.known m server hold
  calls := by
    intro m found hfound
    have hold := h.calls m found hfound
    exact ⟨hold.left, hold.right.note d⟩

theorem store {d : Store} (h : Sound y) (hsame : d.enabledServer = y.store.enabledServer)
    (hjust : Reported d -> Justified y.store y.log) : Sound { y with store := d } :=
  { h with
    justified := fun hrep => (hjust hrep).of_enabled hsame
    current := fun n server hread hun => hsame ▸ h.current n server hread hun }

theorem void {d : Store} (h : Sound y) (hrep : ¬ Reported d) :
    Sound ({ y with store := d }.note (.committed op)) where
  justified := fun hreported => absurd hreported hrep
  current := fun n server _ hun => absurd hun (not_unvoided rfl)
  known := by
    intro n server hread
    rcases List.mem_cons.mp hread with heq | hold
    · cases heq
    · exact h.known n server hold
  calls := fun n found hfound =>
    ⟨(h.calls n found hfound).left, (h.calls n found hfound).right.note _⟩

theorem verify (h : Sound y) : Sound y.verify where
  justified := fun hrep => (h.justified hrep).note rfl
  current := by
    intro n server hread hun
    rcases List.mem_cons.mp hread with heq | hold
    · cases heq
    -- an earlier call has a smaller number
    have hlt := h.known n server hold
    refine h.current n server hold (hun.of_cons ?_)
    intro heq
    exact absurd (Deed.started.inj heq) (Nat.ne_of_gt hlt)
  known := by
    intro n server hread
    rcases List.mem_cons.mp hread with heq | hold
    · cases heq
    · exact Nat.lt_succ_of_lt (h.known n server hold)
  calls := by
    have harrive : Sound (y.arrive .verifying) := h.arrive trivial
    intro n found hfound
    have hold := harrive.calls n found hfound
    exact ⟨hold.left, hold.right.note _⟩

theorem readServer (h : Sound y) (hstep : y.readServer n = some y') : Sound y' := by
  unfold Service.readServer at hstep
  split at hstep
  · rename_i hverifying
    split at hstep
    · cases hstep
      exact h.leave
    rename_i s hs
    cases hstep
    have hnoted : Sound (y.note (.read n s.id)) := by
      refine h.note rfl (fun _ heq => by cases heq) ?_
      intro m server heq
      cases heq
      refine ⟨(h.calls n _ hverifying).left, ?_⟩
      rw [hs]
      rfl
    exact hnoted.goTo hverifying List.mem_cons_self
  · cases hstep

theorem readCredential (h : Sound y) (hstep : y.readCredential n = some y') : Sound y' := by
  unfold Service.readCredential at hstep
  split at hstep
  · rename_i s hs
    split at hstep
    · cases hstep
      exact h.leave
    cases hstep
    exact h.goTo hs (h.calls n _ hs).right
  · cases hstep

theorem check {origin proxied : GoString} {customURLPresent : Bool} (h : Sound y)
    (hstep : y.check n origin proxied customURLPresent = some y') : Sound y' := by
  unfold Service.check at hstep
  split at hstep
  · rename_i s resourceID hs
    have hread : .read n s.id ∈ y.log := (h.calls n _ hs).right
    split at hstep
    · cases hstep
      have hnoted : Sound (y.note (.passed n)) :=
        h.note rfl (fun _ heq => by cases heq) (fun _ _ heq => by cases heq)
      refine hnoted.goTo hs ⟨makes_verify s.id origin, fun _ => ?_⟩
      exact ⟨s.id, List.mem_cons_of_mem _ hread, List.mem_cons_self⟩
    cases hstep
    exact h.leave
  · cases hstep

theorem pollClaim (h : Sound y) (hstep : y.pollClaim = some y') : Sound y' := by
  unfold Service.pollClaim at hstep
  split at hstep
  · cases hstep
    exact h.arrive trivial
  · cases hstep

theorem claimed {rejected : Bool} {token : GoString} (h : Sound y)
    (hstep : y.claimed parseExpiry n rejected token = some y') : Sound y' := by
  unfold Service.claimed at hstep
  split at hstep
  · rename_i hpolling
    split at hstep
    · cases hstep
    cases hstep
    exact h.goTo hpolling ⟨makes_pollClaim _ _ _ _, fun hop => (nomatch hop)⟩
  · cases hstep

theorem submitToken {rawToken : GoString} (h : Sound y)
    (hstep : y.submitToken parseExpiry rawToken = some y') : Sound y' := by
  simp only [Service.submitToken] at hstep
  split at hstep
  · cases hstep
  cases hstep
  exact h.arrive ⟨makes_submitToken _ _, fun hop => (nomatch hop)⟩

theorem selectResource {clientIdentifier : GoString} (h : Sound y)
    (hstep : y.selectResource clientIdentifier = some y') : Sound y' := by
  unfold Service.selectResource at hstep
  split at hstep
  · cases hstep
    exact h.arrive trivial
  · cases hstep

theorem matched (h : Sound y) (hstep : y.matched n = some y') : Sound y' := by
  unfold Service.matched at hstep
  split at hstep
  · rename_i hselecting
    cases hstep
    exact h.goTo hselecting ⟨makes_selectResource _, fun hop => (nomatch hop)⟩
  · cases hstep

theorem refreshOwnerJWT (h : Sound y) (hstep : y.refreshOwnerJWT = some y') : Sound y' := by
  unfold Service.refreshOwnerJWT at hstep
  split at hstep
  · cases hstep
  cases hstep
  exact h.arrive trivial

theorem readExpiry (h : Sound y) (hstep : y.readExpiry n = some y') : Sound y' := by
  unfold Service.readExpiry at hstep
  split at hstep
  · rename_i hrefreshing
    split at hstep
    · cases hstep
      exact h.leave
    split at hstep
    · cases hstep
      exact h.leave
    cases hstep
    exact h.goTo hrefreshing trivial
  · cases hstep

theorem readOwner (h : Sound y) (hstep : y.readOwner n = some y') : Sound y' := by
  unfold Service.readOwner at hstep
  split at hstep
  · rename_i hdue
    split at hstep
    · cases hstep
      exact h.leave
    split at hstep
    · cases hstep
      exact h.goTo hdue trivial
    cases hstep
    exact h.leave
  · cases hstep

theorem refreshed {fresh : Option GoString} (h : Sound y)
    (hstep : y.refreshed parseExpiry n fresh = some y') : Sound y' := by
  unfold Service.refreshed at hstep
  split at hstep
  · rename_i howner
    cases hstep
    exact h.goTo howner ⟨makes_refresh _ _ _, fun hop => (nomatch hop)⟩
  · cases hstep

end Sound

/-!
## Operations in order
-/

namespace Service

/-- What a statement that works must find. `Verify` was not overtaken; a refresh of the
enabled server finds it reported already; a selection finds no verification of the same
machine. -/
def Orderly (y : Service) (n : Nat) (op : Operation) : Effect -> Prop
  | .set (.verified _) => Unvoided n y.log
  | .status server .verified =>
    if op = .verify then Unvoided n y.log
    else y.store.enabledServer.map Server.id = some server -> Reported y.store
  | .bind clientIdentifier => y.store.settings.verified ≠ some clientIdentifier
  | _ => True

instance (y : Service) (n : Nat) (op : Operation) : (e : Effect) -> Decidable (y.Orderly n op e)
  | .set x =>
    match x with
    | .verified _ => inferInstanceAs (Decidable (Unvoided n y.log))
    | .pinID _ | .pinCode _ | .ownerToken _ | .authMode _
    | .ownerExp _ => isTrue trivial
  | .del _ => isTrue trivial
  | .bind clientIdentifier =>
    inferInstanceAs (Decidable (y.store.settings.verified ≠ some clientIdentifier))
  | .status server value =>
    match value with
    | .verified =>
      inferInstanceAs (Decidable (if op = .verify then Unvoided n y.log
        else y.store.enabledServer.map Server.id = some server -> Reported y.store))
    | .selected | .authDegraded
    | .invalid => isTrue trivial

/-- A step in order: its statement is, and a sign-in that returns finds nothing reported. -/
def InOrder (y : Service) : Action -> Prop
  | .write n true _ =>
    match y.calls.lookup n with
    | some (.writing op (w :: _)) => y.Orderly n op w.effect
    | _ => True
  | .finish n =>
    match y.calls.lookup n with
    | some (.writing op []) =>
      op ∈ [.issuePIN, .pollClaim, .submitToken] ->
        ¬ Reported y.store
    | _ => True
  | _ => True

instance (y : Service) (a : Action) : Decidable (y.InOrder a) := by
  unfold InOrder
  split
  · split
    · infer_instance
    · exact isTrue trivial
  · split
    · infer_instance
    · exact isTrue trivial
  · exact isTrue trivial

end Service

namespace Sound

variable {y y' : Service} {n : Nat}

/-- A `Verify` call that passed and was not overtaken. -/
theorem justified_of_unvoided (h : Sound y) {rest : List Write}
    (hcall : y.calls.lookup n = some (.writing .verify rest))
    (hun : Unvoided n y.log) : Justified y.store y.log := by
  rcases (h.calls n _ hcall).right.right rfl with ⟨server, hread, hpassed⟩
  exact ⟨n, server, h.current n server hread hun, hread, hpassed, hun⟩

theorem statement {e : Effect} (h : Sound y) (hbind : forall m, e ≠ .bind m)
    (hjust : Reported (y.store.apply e) -> Justified y.store y.log) :
    Sound (y.execute e) := by
  cases e with
  | bind m => exact absurd rfl (hbind m)
  | _ => exact h.store (Store.apply_enabledServer hbind) hjust

theorem execute {w : Write} {rest : List Write} (h : Sound y)
    (hcall : y.calls.lookup n = some (.writing op (w :: rest)))
    (horder : y.Orderly n op w.effect) : Sound (y.execute w.effect) := by
  have hmakes := (h.calls n _ hcall).right.left w List.mem_cons_self
  have hquiet : w.effect.reports = false -> Sound (y.execute w.effect) := by
    intro hreports
    refine h.statement ?_ fun hrep => h.justified (Store.reported_apply hreports hrep)
    intro m heq
    rw [heq] at hreports
    cases hreports
  generalize w.effect = e at hmakes horder hquiet ⊢
  cases e with
  | set x =>
    cases x with
    | verified machineID =>
      have hop : op = .verify := by simpa [Operation.makes] using hmakes
      rw [hop] at hcall
      exact h.statement (by simp) fun _ => h.justified_of_unvoided hcall horder
    | _ => exact hquiet rfl
  | del k => exact hquiet rfl
  | bind clientIdentifier => exact h.void fun hrep => horder (Store.reported_bind hrep)
  | status server value =>
    cases value with
    | verified =>
      refine h.statement (by simp) fun hrep => ?_
      by_cases hop : op = .verify
      · rw [Service.Orderly, if_pos hop] at horder
        rw [hop] at hcall
        exact h.justified_of_unvoided hcall horder
      rw [Service.Orderly, if_neg hop] at horder
      by_cases henabled : y.store.enabledServer.map Server.id = some server
      · exact h.justified (horder henabled)
      · exact h.justified (Store.reported_setStatus (fun _ => henabled) hrep)
    | _ => exact hquiet rfl

theorem execute_calls (y : Service) (e : Effect) : (y.execute e).calls = y.calls := by
  cases e with
  | _ => rfl

theorem write {applied acknowledged : Bool} (h : Sound y)
    (horder : y.InOrder (.write n applied acknowledged))
    (hstep : y.write n applied acknowledged = some y') : Sound y' := by
  unfold Service.write at hstep
  split at hstep
  · rename_i op w rest hcall
    have hafter : Sound (if applied then y.execute w.effect else y) ∧
        (if applied then y.execute w.effect else y).calls = y.calls := by
      cases applied with
      | false => exact ⟨h, rfl⟩
      | true =>
        simp only [Service.InOrder, hcall] at horder
        exact ⟨h.execute hcall horder, execute_calls y w.effect⟩
    generalize (if applied then y.execute w.effect else y) = after at hstep hafter
    cases hstep
    split
    · have hthere : after.calls.lookup n = some (.writing op (w :: rest)) := by
        rw [hafter.right, hcall]
      have hexplained := (hafter.left.calls n _ hthere).right
      refine hafter.left.goTo hthere ⟨?_, hexplained.right⟩
      intro v hv
      exact hexplained.left v (List.mem_cons_of_mem w hv)
    · exact hafter.left.leave
  · cases hstep

theorem finish (h : Sound y) (horder : y.InOrder (.finish n))
    (hstep : y.finish n = some y') : Sound y' := by
  unfold Service.finish at hstep
  split at hstep
  · rename_i op hcall
    simp only [Service.InOrder, hcall] at horder
    split at hstep
    · cases hstep
      exact h.leave.void (horder (by simp))
    · cases hstep
      exact h.leave.void (horder (by simp))
    · cases hstep
      exact h.leave.void (horder (by simp))
    cases hstep
    exact h.leave
  · cases hstep

end Sound

theorem sound_step {parseExpiry : GoString -> Option Int} {y y' : Service} {a : Action}
    (h : Sound y) (horder : y.InOrder a) (hstep : y.step parseExpiry a = some y') :
    Sound y' := by
  cases a with
  | tick elapsed =>
    cases hstep
    exact ⟨h.justified, h.current, h.known, h.calls⟩
  | issuePIN mode id code =>
    cases hstep
    exact h.arrive ⟨makes_issuePIN mode id code, fun hop => (nomatch hop)⟩
  | pollClaim => exact h.pollClaim hstep
  | claimed n rejected token => exact h.claimed hstep
  | submitToken rawToken => exact h.submitToken hstep
  | selectResource clientIdentifier => exact h.selectResource hstep
  | matched n => exact h.matched hstep
  | verify =>
    cases hstep
    exact h.verify
  | readServer n => exact h.readServer hstep
  | readCredential n => exact h.readCredential hstep
  | check n origin proxied customURLPresent => exact h.check hstep
  | refreshOwnerJWT => exact h.refreshOwnerJWT hstep
  | readExpiry n => exact h.readExpiry hstep
  | readOwner n => exact h.readOwner hstep
  | refreshed n fresh => exact h.refreshed hstep
  | write n applied acknowledged => exact h.write horder hstep
  | finish n => exact h.finish horder hstep
  | abandon n =>
    cases hstep
    exact h.leave
  | markInvalid =>
    cases hstep
    exact h.store Store.markInvalid_enabledServer fun hrep =>
      h.justified (Store.reported_markInvalid hrep)

/-- In every run whose statements come in order, whatever calls run side by side and
whichever statements fail, a server is reported verified only after a `Verify` call that
read its row, passed and was not overtaken. -/
theorem reported_justified (parseExpiry : GoString -> Option Int) (now : Instant)
    (actions : List Action) (y : Service)
    (horder : Along (Service.step parseExpiry) Service.InOrder (Service.start now) actions)
    (hrun : run (Service.step parseExpiry) (Service.start now) actions = some y)
    (hreported : Reported y.store) : Justified y.store y.log :=
  (run_invariant (fun _ _ _ => sound_step) (sound_start now) horder hrun).justified hreported

def completing (n statements : Nat) : List Action :=
  List.replicate statements (.write n true true) ++ [.finish n]

def selecting : List Action :=
  .issuePIN .jwt 7 (str "code") :: completing 0 4 ++
    .pollClaim :: .claimed 1 false (str "owner") :: completing 1 5 ++
      .selectResource (str "pms") :: .matched 2 :: completing 2 3

/-- A `Verify` call up to its first statement. -/
def checking (n : Nat) : List Action :=
  [.verify, .readServer n, .readCredential n,
    .check n (str "pms") (str "pms") true]

theorem reported_justified_selecting :
    Along (Service.step fun _ => some 0) Service.InOrder (Service.start 0)
        (selecting ++ checking 3 ++ completing 3 2) ∧
      exists y, run (Service.step fun _ => some 0) (Service.start 0)
          (selecting ++ checking 3 ++ completing 3 2) = some y ∧
        Reported y.store ∧ Justified y.store y.log := by
  have horder : Along (Service.step fun _ => some 0) Service.InOrder (Service.start 0)
      (selecting ++ checking 3 ++ completing 3 2) := by
    decide +kernel
  refine ⟨horder, _, rfl, ?_, ?_⟩
  · decide +kernel
  · exact reported_justified _ _ _ _ horder rfl (by decide +kernel)

theorem not_justified_committed {d : Store} {log : List Deed} :
    ¬ Justified d (.committed op :: log) := by
  intro h
  rcases h with ⟨n, server, _, _, _, hun⟩
  exact not_unvoided rfl hun

/-- A refresh sets the status without any `Verify` call; a new PIN leaves the status of the
credential as it is; a `Verify` call that a new PIN overtakes writes its verdict all the
same; and a new selection of the same machine is reported before the setting is deleted. -/
theorem reported_unverified :
    (exists y, run (Service.step fun _ => some 0) (Service.start 0)
        (selecting ++ [.refreshOwnerJWT, .readExpiry 3, .readOwner 3,
          .refreshed 3 (some (str "fresh")), .write 3 true true]) = some y ∧
      y.store.enabledCredential.map Credential.status = some .verified ∧
      ¬ Justified y.store y.log) ∧
    (exists y, run (Service.step fun _ => some 0) (Service.start 0)
        (selecting ++ checking 3 ++ completing 3 2 ++
          .issuePIN .jwt 8 (str "code") :: completing 4 4) = some y ∧
      y.store.enabledCredential.map Credential.status = some .verified ∧
      ¬ Justified y.store y.log) ∧
    (exists y, run (Service.step fun _ => some 0) (Service.start 0)
        (selecting ++ checking 3 ++
          .issuePIN .jwt 8 (str "code") :: completing 4 4 ++
          completing 3 2) = some y ∧ y.store.status.stage = .verified ∧ ¬ Justified y.store y.log) ∧
    exists y, run (Service.step fun _ => some 0) (Service.start 0)
        (selecting ++ checking 3 ++ completing 3 2 ++
          [.selectResource (str "pms"), .matched 4, .write 4 true true]) =
        some y ∧ y.store.status.stage = .verified ∧ ¬ Justified y.store y.log := by
  refine ⟨⟨_, rfl, ?_, not_justified_committed⟩, ⟨_, rfl, ?_, not_justified_committed⟩,
    ⟨_, rfl, ?_, not_justified_committed⟩, ⟨_, rfl, ?_, not_justified_committed⟩⟩
  · decide +kernel
  · decide +kernel
  · decide +kernel
  · decide +kernel

end ReplxEdge.Onboarding
