import ReplxEdge.Serving.Preservation
import ReplxEdge.Serving.System

/-!
# What the journal explains

Everything that the edge holds goes back to the journal: a lease to a grant that was
not revoked since, a stored body to the fetch that delivered it, a running request to
what it noted on its way. Digests are compared as the edge compares them; that they
tell resources apart is not needed here.
-/

namespace ReplxEdge.Serving

open Foundation
open Net
open Cache
open Identity
open Gateway
open Trace

/-!
## Notes in a journal
-/

section Noted

variable {now : Instant} {ns : List Note} {n : Note} {log : List Record}

def Noted (log : List Record) (n : Note) : Prop :=
  n ∈ log.map Record.note

theorem noted_journal : Noted (journal now ns log) n <-> n ∈ ns ∨ Noted log n := by
  have hnotes : (ns.map (Record.mk now)).map Record.note = ns := by
    rw [List.map_map]
    exact List.map_id ns
  unfold Noted journal
  rw [List.map_append, hnotes, List.mem_append]

theorem Noted.journal (h : Noted log n) (now : Instant) (ns : List Note) :
    Noted (journal now ns log) n :=
  noted_journal.mpr (Or.inr h)

theorem note_of_mem_journal {r : Record} (h : r ∈ ns.map (Record.mk now)) :
    r.time = now ∧ r.note ∈ ns := by
  rcases List.mem_map.mp h with ⟨n, hn, rfl⟩
  exact ⟨rfl, hn⟩

end Noted

/-!
## Explanations
-/

/-- The edge tells resources apart by the digest of their keys. -/
def SameDigest (x y : Resource) : Prop :=
  sha256 x.key = sha256 y.key

def TokenOf (log : List Record) (token scope : GoString) : Prop :=
  exists j, Noted log (.resolved j token scope false)

/-- A fetch for a request with the credential was answered with 200, read to its end and
stored under the resource. -/
structure Fetched (cfg : Config) (log : List Record) (i : Nat) (f : GoString)
    (x : Resource) : Prop where
  identified : exists token scope, Noted log (.resolved i token scope false) ∧
    fingerprint cfg.secret token = f ∧ x.HasScope scope
  answered : Noted log (.answered (.request i) 200)
  kept : exists token body, Noted log (.read (.request i) token body) ∧
    Noted log (.stored (.request i) x body token)

/-- A grant at an instant, with no revocation of its credential since. -/
def GrantedSince (log : List Record) (f : GoString) (x : Resource) (g : Instant) : Prop :=
  Since (fun _ r => r.time = g ∧ exists j, r.note = .granted j f x)
    (fun r => r.note = .revoked f) log

def Note.checksBy (i : Nat) : Note -> Bool
  | .checked j _ _ _ => j == i
  | _ => false

/-- The latest lease check of a request passed, on a grant that was in force. -/
def CheckedSince (log : List Record) (i : Nat) (f : GoString) (x : Resource) : Prop :=
  Since (fun past r => r.note = .checked i f x true ∧
      exists y g, SameDigest y x ∧ GrantedSince past f y g ∧ g ≤ r.time ∧
        r.time < g + resourceAuthorizationTTL)
    (fun r => r.note.checksBy i = true) log

/-- The credential of a request was resolved, and not as invalid. -/
structure NotRejected (cfg : Config) (log : List Record) (i : Nat) (f : GoString) : Prop where
  resolved : exists token scope, Noted log (.resolved i token scope false) ∧
    fingerprint cfg.secret token = f
  never : forall token scope, ¬ Noted log (.resolved i token scope true)

def Published (log : List Record) (x : Resource) (body : GoString) : Prop :=
  exists source token, Noted log (.stored source x body token)

def Justified (cfg : Config) (past : List Record) (r : Record) : Prop :=
  match r.note with
  | .stored source x body token =>
    Noted past (.read source token body) ∧
      exists scope, x.HasScope scope ∧ TokenOf past token scope
  | .granted i f x => Fetched cfg past i f x
  | .served i f x body =>
    NotRejected cfg past i f ∧ CheckedSince past i f x ∧
      exists y, SameDigest y x ∧ Published past y body
  | _ => True

/-!
## Requests
-/

section Requests

variable (cfg : Config) (log : List Record) (i : Nat) (t : Thread)

/-- What the journal says about the credential of a request. -/
structure Known : Prop where
  resolved : t.fingerprint ≠ [] ->
    Noted log (.resolved i (extractToken t.original) t.scope t.invalid) ∧
      fingerprint cfg.secret (extractToken t.original) = t.fingerprint
  only : forall token scope invalid,
    Noted log (.resolved i token scope invalid) -> invalid = t.invalid
  keyed : t.keyed ≠ none -> t.invalid = false

def Unknown : Prop :=
  forall token scope invalid, ¬ Noted log (.resolved i token scope invalid)

structure Pictured : Prop where
  request : t.request = t.original
  valid : t.invalid = false
  fingerprint : t.fingerprint ≠ []

def ReadWhole (body : GoString) : Prop :=
  Noted log (.answered (.request i) 200) ∧
    Noted log (.read (.request i) (extractToken t.request) body)

def PhaseTraced : Phase -> Prop
  | .arrived => Unknown log i
  | .artwork => Pictured t
  | .artworkGet _ => Pictured t ∧ CheckedSince log i t.fingerprint (pictured t)
  | .artworkFetch => Pictured t
  | .artworkSent _ => Pictured t
  | .artworkReceived _ status =>
    Pictured t ∧ Noted log (.answered (.request i) status)
  | .artworkGranting _ => Fetched cfg log i t.fingerprint (pictured t)
  | .lookupGet _ k _ => CheckedSince log i t.fingerprint (.response k.key)
  | .lookupFlag _ k _ entry =>
    CheckedSince log i t.fingerprint (.response k.key) ∧
      Published log (.response k.key) entry.body
  | .lookupGeneration _ k _ entry _ =>
    CheckedSince log i t.fingerprint (.response k.key) ∧
      Published log (.response k.key) entry.body
  | .retiring _ status => Noted log (.answered (.request i) status)
  | .retireFailed _ status => Noted log (.answered (.request i) status)
  | .relaying _ status => Noted log (.answered (.request i) status)
  | .copying _ _ => Noted log (.answered (.request i) 200)
  | .copied _ _ body => ReadWhole log i t body
  | .publishing _ _ body => ReadWhole log i t body
  | .storing _ _ body => ReadWhole log i t body
  | .granting _ k =>
    Fetched cfg log i t.fingerprint (.response k.key) ∧
      extractToken t.request = extractToken t.original
  | _ => True

structure Traced : Prop where
  known : Known cfg log i t
  phase : PhaseTraced cfg log i t t.phase

end Requests

/-!
## A longer journal
-/

section Growth

variable {cfg : Config} {log : List Record} {now : Instant} {ns : List Note}
variable {i : Nat} {t : Thread} {f : GoString} {x : Resource}

def Note.concerns (i : Nat) : Note -> Bool
  | .resolved j _ _ _ => j == i
  | .checked j _ _ _ => j == i
  | _ => false

theorem Note.concerns_of_checksBy {n : Note} (h : n.checksBy i = true) :
    n.concerns i = true := by
  cases n with
  | checked j f x passed => exact h
  | _ => cases h

theorem TokenOf.journal {token scope : GoString} (h : TokenOf log token scope)
    (now : Instant) (ns : List Note) : TokenOf (journal now ns log) token scope := by
  rcases h with ⟨j, hj⟩
  exact ⟨j, hj.journal now ns⟩

theorem Published.journal {body : GoString} (h : Published log x body) (now : Instant)
    (ns : List Note) : Published (journal now ns log) x body := by
  rcases h with ⟨source, token, hstored⟩
  exact ⟨source, token, hstored.journal now ns⟩

theorem Fetched.journal (h : Fetched cfg log i f x) (now : Instant) (ns : List Note) :
    Fetched cfg (journal now ns log) i f x where
  identified := by
    rcases h.identified with ⟨token, scope, hresolved, hrest⟩
    exact ⟨token, scope, hresolved.journal now ns, hrest⟩
  answered := h.answered.journal now ns
  kept := by
    rcases h.kept with ⟨token, body, hread, hstored⟩
    exact ⟨token, body, hread.journal now ns, hstored.journal now ns⟩

theorem ReadWhole.journal {body : GoString} (h : ReadWhole log i t body) (now : Instant)
    (ns : List Note) : ReadWhole (journal now ns log) i t body :=
  ⟨h.left.journal now ns, h.right.journal now ns⟩

theorem GrantedSince.journal {g : Instant} (h : GrantedSince log f x g)
    (hns : .revoked f ∉ ns) : GrantedSince (journal now ns log) f x g := by
  refine Since.append ?_ h
  intro r hr hrevoked
  apply hns
  rw [← hrevoked]
  exact (note_of_mem_journal hr).right

theorem CheckedSince.journal (h : CheckedSince log i f x)
    (hns : forall n, n ∈ ns -> n.checksBy i = false) :
    CheckedSince (journal now ns log) i f x := by
  refine Since.append ?_ h
  intro r hr hchecks
  rw [hns r.note (note_of_mem_journal hr).right] at hchecks
  cases hchecks

theorem Unknown.journal (h : Unknown log i) (hns : forall n, n ∈ ns -> n.concerns i = false) :
    Unknown (journal now ns log) i := by
  intro token scope invalid hnoted
  rcases noted_journal.mp hnoted with hnew | hold
  · have hnot := hns _ hnew
    simp [Note.concerns] at hnot
  · exact h token scope invalid hold

theorem Known.journal (h : Known cfg log i t) (hns : forall n, n ∈ ns -> forall token scope invalid,
      n ≠ .resolved i token scope invalid) :
    Known cfg (journal now ns log) i t where
  resolved := fun hne => ⟨(h.resolved hne).left.journal now ns, (h.resolved hne).right⟩
  only := by
    intro token scope invalid hnoted
    rcases noted_journal.mp hnoted with hnew | hold
    · exact absurd rfl (hns _ hnew token scope invalid)
    · exact h.only token scope invalid hold
  keyed := h.keyed

theorem PhaseTraced.journal {p : Phase} (h : PhaseTraced cfg log i t p)
    (hns : forall n, n ∈ ns -> n.concerns i = false) :
    PhaseTraced cfg (journal now ns log) i t p := by
  have hchecks : forall n, n ∈ ns -> n.checksBy i = false := by
    intro n hn
    cases hby : n.checksBy i with
    | false => rfl
    | true =>
      rw [← hns n hn, Note.concerns_of_checksBy hby]
  cases p with
  | arrived => exact Unknown.journal h hns
  | artworkGet leasedAt => exact ⟨h.left, h.right.journal hchecks⟩
  | artworkReceived sentAt status => exact ⟨h.left, h.right.journal now ns⟩
  | artworkGranting sentAt => exact Fetched.journal h now ns
  | lookupGet attempt k leasedAt => exact CheckedSince.journal h hchecks
  | lookupFlag | lookupGeneration => exact ⟨h.left.journal hchecks, h.right.journal now ns⟩
  | retiring sentAt status | retireFailed sentAt status | relaying sentAt status
  | copying sentAt k => exact Noted.journal h now ns
  | copied sentAt k body | publishing sentAt k body | storing sentAt k body =>
    exact ReadWhole.journal h now ns
  | granting sentAt k => exact ⟨h.left.journal now ns, h.right⟩
  | _ => exact h

theorem Traced.journal (h : Traced cfg log i t) (hns : forall n, n ∈ ns -> n.concerns i = false) :
    Traced cfg (journal now ns log) i t where
  known := by
    apply h.known.journal
    intro n hn token scope invalid heq
    have hnot := hns n hn
    rw [heq] at hnot
    simp [Note.concerns] at hnot
  phase := h.phase.journal hns

end Growth

/-!
## Shared memory
-/

/-- Leases and stored bodies go back to the journal. -/
structure MemoryTraced (log : List Record) (s : State) : Prop where
  leases : forall lease, lease ∈ s.shared.grants.grants ->
    exists x g, lease = ⟨grantKey lease.key.fingerprint x.key, g + resourceAuthorizationTTL⟩ ∧
      g ≤ s.shared.now ∧ GrantedSince log lease.key.fingerprint x g
  entries : forall e, e ∈ s.shared.entries ->
    Published log (.response e.key) e.body
  artwork : forall e, e ∈ s.shared.artwork ->
    exists text, e.key = (Resource.artwork text).key ∧
      Published log (.artwork text) e.body

/-- An operation on the shared memory does what is noted about it, and nothing else. -/
structure Aside (s : State) (ns : List Note) (s' : State) : Prop where
  threads : s'.threads = s.threads
  jobs : s'.jobs = s.jobs
  now : s'.shared.now = s.shared.now
  leases : forall lease, lease ∈ s'.shared.grants.grants ->
    (lease ∈ s.shared.grants.grants ∧ .revoked lease.key.fingerprint ∉ ns) ∨
      exists i f x, ns = [.granted i f x] ∧
        lease = ⟨grantKey f x.key, s.shared.now + resourceAuthorizationTTL⟩
  entries : forall e, e ∈ s'.shared.entries -> e ∈ s.shared.entries ∨
    exists source token, .stored source (.response e.key) e.body token ∈ ns
  artwork : forall e, e ∈ s'.shared.artwork -> e ∈ s.shared.artwork ∨
    exists text source token, e.key = (Resource.artwork text).key ∧
      .stored source (.artwork text) e.body token ∈ ns

section Memory

variable {s s' s'' : State} {log : List Record} {ns : List Note}

structure SameStores (s s' : State) : Prop where
  threads : s'.threads = s.threads
  jobs : s'.jobs = s.jobs
  now : s'.shared.now = s.shared.now
  grants : s'.shared.grants = s.shared.grants
  entries : s'.shared.entries = s.shared.entries
  artwork : s'.shared.artwork = s.shared.artwork

theorem SameStores.refl (s : State) : SameStores s s :=
  ⟨rfl, rfl, rfl, rfl, rfl, rfl⟩

theorem SameStores.aside (h : SameStores s s') (hns : forall f, .revoked f ∉ ns) :
    Aside s ns s' :=
  { h with
    leases := fun _ hlease => Or.inl ⟨h.grants ▸ hlease, hns _⟩
    entries := fun _ he => Or.inl (h.entries ▸ he)
    artwork := fun _ he => Or.inl (h.artwork ▸ he) }

theorem Aside.then (h : Aside s ns s') (hsame : SameStores s' s'') : Aside s ns s'' where
  threads := hsame.threads.trans h.threads
  jobs := hsame.jobs.trans h.jobs
  now := hsame.now.trans h.now
  leases := fun lease hlease => h.leases lease (hsame.grants ▸ hlease)
  entries := fun e he => h.entries e (hsame.entries ▸ he)
  artwork := fun e he => h.artwork e (hsame.artwork ▸ he)

theorem aside_revoke (s : State) (f : GoString) (rejected : Bool)
    (hns : forall other, .revoked other ∈ ns -> other = f) :
    Aside s ns (s.revoke f rejected) where
  threads := rfl
  jobs := rfl
  now := rfl
  leases := by
    intro lease hlease
    rcases ResourceGrants.mem_revoke hlease with ⟨hmem, hother⟩
    exact Or.inl ⟨hmem, fun hrevoked => hother (hns _ hrevoked)⟩
  entries := fun _ he => Or.inl he
  artwork := fun _ he => Or.inl he

theorem aside_checkLease (s : State) (f key : GoString)
    (hns : forall f, .revoked f ∉ ns) : Aside s ns (s.checkLease f key) where
  threads := rfl
  jobs := rfl
  now := rfl
  leases := fun _ hlease => Or.inl ⟨ResourceGrants.mem_authorized hlease, hns _⟩
  entries := fun _ he => Or.inl he
  artwork := fun _ he => Or.inl he

theorem aside_grant (s : State) (order : Order Lease) (i : Nat) (f : GoString)
    (x : Resource) (sentAt : Moment) :
    Aside s [.granted i f x] (s.grant order f x.key sentAt) where
  threads := rfl
  jobs := rfl
  now := rfl
  leases := by
    intro lease hlease
    rcases ResourceGrants.mem_grant hlease with hold | hnew
    · exact Or.inl ⟨hold, by simp⟩
    · exact Or.inr ⟨i, f, x, rfl, hnew⟩
  entries := fun _ he => Or.inl he
  artwork := fun _ he => Or.inl he

theorem aside_publish (s : State) (entry : Entry) (source : Source) (token : GoString) :
    Aside s [.stored source (.response entry.key) entry.body token] (s.publish entry) where
  threads := rfl
  jobs := rfl
  now := rfl
  leases := fun _ hlease => Or.inl ⟨hlease, by simp⟩
  entries := by
    intro e he
    rcases List.mem_cons.mp he with rfl | hold
    · exact Or.inr ⟨source, token, List.mem_singleton_self _⟩
    · exact Or.inl hold
  artwork := fun _ he => Or.inl he

theorem aside_publishArtwork (s : State) (text body : GoString) {source : Source}
    {token : GoString} (hstored : .stored source (.artwork text) body token ∈ ns)
    (hns : forall f, .revoked f ∉ ns) :
    Aside s ns (s.publishArtwork ⟨(Resource.artwork text).key, body⟩) where
  threads := rfl
  jobs := rfl
  now := rfl
  leases := fun _ hlease => Or.inl ⟨hlease, hns _⟩
  entries := fun _ he => Or.inl he
  artwork := by
    intro e he
    rcases List.mem_cons.mp he with rfl | hold
    · exact Or.inr ⟨text, source, token, rfl, hstored⟩
    · exact Or.inl hold

theorem MemoryTraced.aside (h : MemoryTraced log s) (ha : Aside s ns s') :
    MemoryTraced (journal s.shared.now ns log) s' where
  leases := by
    intro lease hlease
    rcases ha.leases lease hlease with ⟨hold, hkept⟩ | ⟨i, f, x, rfl, rfl⟩
    · rcases h.leases lease hold with ⟨x, g, hkey, hpast, hgranted⟩
      exact ⟨x, g, hkey, ha.now ▸ hpast, hgranted.journal hkept⟩
    · exact ⟨x, s.shared.now, rfl, le_of_eq ha.now.symm, Since.here ⟨rfl, i, rfl⟩⟩
  entries := by
    intro e he
    rcases ha.entries e he with hold | ⟨source, token, hstored⟩
    · exact (h.entries e hold).journal _ _
    · exact ⟨source, token, noted_journal.mpr (Or.inl hstored)⟩
  artwork := by
    intro e he
    rcases ha.artwork e he with hold | ⟨text, source, token, hkey, hstored⟩
    · rcases h.artwork e hold with ⟨text, hkey, hpublished⟩
      exact ⟨text, hkey, hpublished.journal _ _⟩
    · exact ⟨text, hkey, source, token, noted_journal.mpr (Or.inl hstored)⟩

theorem MemoryTraced.leased (h : MemoryTraced log s) {f : GoString} {x : Resource}
    (hyes : s.leased f x.key = true) :
    exists y g, SameDigest y x ∧ GrantedSince log f y g ∧ g ≤ s.shared.now ∧
      s.shared.now < g + resourceAuthorizationTTL := by
  rcases ResourceGrants.authorized_true hyes with ⟨lease, hmem, hkey, hlive⟩
  rcases h.leases lease hmem with ⟨y, g, hlease, hpast, hgranted⟩
  have hfingerprint : lease.key.fingerprint = f := congrArg GrantKey.fingerprint hkey
  have hdigest : sha256 y.key = sha256 x.key := by
    have hgrant : lease.key = grantKey lease.key.fingerprint y.key :=
      congrArg Lease.key hlease
    exact congrArg GrantKey.resource (hgrant.symm.trans hkey)
  have hexpires : lease.expires = g + resourceAuthorizationTTL :=
    congrArg Lease.expires hlease
  exact ⟨y, g, hdigest, hfingerprint ▸ hgranted, hpast, hexpires ▸ hlive⟩

end Memory

end ReplxEdge.Serving
