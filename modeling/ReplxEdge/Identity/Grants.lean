import ReplxEdge.Foundation.Runs
import ReplxEdge.Foundation.Digest
import Mathlib.Data.List.Nodup

/-!
# Resource leases

A lease says that a credential recently received a resource from the origin.
Leases live in one bounded table shared by all callers. The table is a list
without two leases for one credential and resource, never longer than the limit.
-/

namespace ReplxEdge.Identity

open Foundation

def resourceAuthorizationTTL : Duration :=
  30 * second

def resourceGrantMax : Nat :=
  4096

/-- The table's key: the credential and the digest of the resource key. -/
structure GrantKey where
  fingerprint : GoString
  resource : GoString
deriving DecidableEq

def grantKey (fingerprint resourceKey : GoString) : GrantKey :=
  ⟨fingerprint, sha256 resourceKey⟩

structure Lease where
  key : GrantKey
  expires : Instant
deriving DecidableEq

structure ResourceGrants where
  grants : List Lease
  distinct : (grants.map Lease.key).Nodup
  bounded : grants.length ≤ resourceGrantMax
  named : forall lease, lease ∈ grants -> lease.key.fingerprint ≠ []

variable {order : Order Lease} {g : ResourceGrants} {lease : Lease} {now : Instant} {f : GoString}

namespace ResourceGrants

def empty : ResourceGrants where
  grants := []
  distinct := by simp
  bounded := by simp
  named := by simp

def lookup (g : ResourceGrants) (key : GrantKey) : Option Lease :=
  g.grants.find? fun lease => lease.key == key

def keep (g : ResourceGrants) (p : Lease -> Bool) : ResourceGrants where
  grants := g.grants.filter p
  distinct := g.distinct.sublist (List.filter_sublist.map Lease.key)
  bounded := Nat.le_trans (List.length_filter_le p g.grants) g.bounded
  named := fun lease hlease => g.named lease (List.mem_of_mem_filter hlease)

def delete (g : ResourceGrants) (key : GrantKey) : ResourceGrants :=
  g.keep fun lease => lease.key != key

def sooner (oldest : Option Lease) (lease : Lease) : Option Lease :=
  match oldest with
  | none => some lease
  | some found => if lease.expires < found.expires then some lease else some found

def oldest (order : Order Lease) (g : ResourceGrants) : Option Lease :=
  (order.visit g.grants).foldl sooner none

def dropExpired (g : ResourceGrants) (now : Instant) : ResourceGrants :=
  g.keep fun lease => decide (now < lease.expires)

/-- Drop the expired leases, then the soonest-expiring live one if the table is
still full. -/
def evict (order : Order Lease) (g : ResourceGrants) (now : Instant) : ResourceGrants :=
  let live := g.dropExpired now
  if resourceGrantMax ≤ live.grants.length then
    match oldest order live with
    | some lease => live.delete lease.key
    | none => live
  else live

theorem oldest_of_ne_nil (order : Order Lease) (h : g.grants ≠ []) :
    exists lease, lease ∈ g.grants ∧ oldest order g = some lease := by
  have hsome : forall old lease : Lease, exists found, sooner (some old) lease = some found ∧
      (found = old ∨ found = id lease) ∧ True ∧ True := by
    intro old lease
    simp only [sooner]
    split
    · exact ⟨lease, rfl, Or.inr rfl, trivial, trivial⟩
    · exact ⟨old, rfl, Or.inl rfl, trivial, trivial⟩
  rcases foldl_pick id (fun _ _ => True) (fun _ => trivial) (fun _ _ _ _ _ => trivial)
    (fun _ => rfl) hsome (order.visit_ne_nil h) with ⟨lease, hlease, hfold, _⟩
  exact ⟨lease, (order.perm g.grants).mem_iff.mp hlease, hfold⟩

theorem delete_length_lt (h : lease ∈ g.grants) :
    (g.delete lease.key).grants.length < g.grants.length := by
  unfold delete keep
  exact List.length_filter_lt_length_iff_exists.mpr ⟨lease, h, by simp⟩

theorem evict_length (order : Order Lease) (g : ResourceGrants) (now : Instant) :
    (evict order g now).grants.length < resourceGrantMax := by
  unfold evict
  have hbound := (g.dropExpired now).bounded
  by_cases hfull : resourceGrantMax ≤ (g.dropExpired now).grants.length
  · have hne : (g.dropExpired now).grants ≠ [] := by
      intro hnil
      rw [hnil] at hfull
      exact absurd hfull (by decide)
    rcases oldest_of_ne_nil order hne with ⟨lease, hmem, hlease⟩
    simp only [if_pos hfull, hlease]
    exact Nat.lt_of_lt_of_le (delete_length_lt hmem) hbound
  simp only [if_neg hfull]
  exact Nat.lt_of_not_le hfull

theorem mem_evict (h : lease ∈ (evict order g now).grants) : lease ∈ g.grants := by
  unfold evict at h
  simp only at h
  split at h
  · split at h
    · exact List.mem_of_mem_filter (List.mem_of_mem_filter h)
    · exact List.mem_of_mem_filter h
  · exact List.mem_of_mem_filter h

/-!
## Operations
-/

def room (order : Order Lease) (g : ResourceGrants) (now : Instant) (key : GrantKey) :
    ResourceGrants :=
  if (g.lookup key).isNone ∧ resourceGrantMax ≤ g.grants.length then evict order g now
  else g

theorem lookup_mem {key : GrantKey} (h : g.lookup key = some lease)
    : lease ∈ g.grants ∧ lease.key = key := by
  unfold lookup at h
  exact ⟨List.mem_of_find?_eq_some h, by simpa using List.find?_some h⟩

theorem room_delete_length (order : Order Lease) (g : ResourceGrants) (now : Instant)
    (key : GrantKey) :
    ((g.room order now key).delete key).grants.length < resourceGrantMax := by
  unfold room
  by_cases hfull : (g.lookup key).isNone ∧ resourceGrantMax ≤ g.grants.length
  · rw [if_pos hfull]
    exact Nat.lt_of_le_of_lt (List.length_filter_le _ _) (evict_length order g now)
  rw [if_neg hfull]
  cases hlookup : g.lookup key with
  | none =>
    have hspace : ¬ resourceGrantMax ≤ g.grants.length := by
      intro hle
      exact hfull ⟨by rw [hlookup]; rfl, hle⟩
    exact Nat.lt_of_le_of_lt (List.length_filter_le _ _) (Nat.lt_of_not_le hspace)
  | some lease =>
    rcases lookup_mem hlookup with ⟨hmem, hkey⟩
    rw [← hkey]
    exact Nat.lt_of_lt_of_le (delete_length_lt hmem) g.bounded

def put (g : ResourceGrants) (lease : Lease) (hnamed : lease.key.fingerprint ≠ [])
    (hroom : (g.delete lease.key).grants.length < resourceGrantMax) :
    ResourceGrants where
  grants := lease :: (g.delete lease.key).grants
  distinct := by
    rw [List.map_cons, List.nodup_cons]
    refine ⟨?_, (g.delete lease.key).distinct⟩
    intro hmem
    rcases List.mem_map.mp hmem with ⟨other, hother, hkey⟩
    have hne := (List.mem_filter.mp hother).right
    simp only [bne_iff_ne, ne_eq] at hne
    exact hne hkey
  bounded := hroom
  named := by
    intro other hother
    rcases List.mem_cons.mp hother with rfl | hother
    · exact hnamed
    · exact (g.delete lease.key).named other hother

def grant (g : ResourceGrants) (order : Order Lease) (now : Instant)
    (fingerprint resourceKey : GoString) : ResourceGrants :=
  if h : fingerprint = [] ∨ resourceKey = [] then g
  else
    let key := grantKey fingerprint resourceKey
    (g.room order now key).put ⟨key, now + resourceAuthorizationTTL⟩
      (fun hempty => h (Or.inl hempty)) (room_delete_length order g now key)

def authorized (g : ResourceGrants) (now : Instant)
    (fingerprint resourceKey : GoString) : Bool × ResourceGrants :=
  if fingerprint = [] ∨ resourceKey = [] then (false, g)
  else
    match g.lookup (grantKey fingerprint resourceKey) with
    | none => (false, g)
    | some lease =>
      if now < lease.expires then (true, g)
      else (false, g.delete (grantKey fingerprint resourceKey))

def revoke (g : ResourceGrants) (fingerprint : GoString) : ResourceGrants :=
  if fingerprint = [] then g
  else g.keep fun lease => lease.key.fingerprint != fingerprint

variable {k : GoString}

theorem mem_grant (h : lease ∈ (g.grant order now f k).grants) :
    lease ∈ g.grants ∨ lease = ⟨grantKey f k, now + resourceAuthorizationTTL⟩ := by
  unfold grant at h
  split at h
  · exact Or.inl h
  rcases List.mem_cons.mp h with hnew | hold
  · exact Or.inr hnew
  left
  have hroom := List.mem_of_mem_filter hold
  unfold room at hroom
  split at hroom
  · exact mem_evict hroom
  · exact hroom

theorem mem_authorized (h : lease ∈ (g.authorized now f k).2.grants) :
    lease ∈ g.grants := by
  unfold authorized at h
  split at h
  · exact h
  split at h
  · exact h
  split at h
  · exact h
  · exact List.mem_of_mem_filter h

theorem mem_revoke (h : lease ∈ (g.revoke f).grants) :
    lease ∈ g.grants ∧ lease.key.fingerprint ≠ f := by
  unfold revoke at h
  split at h
  · rename_i hempty
    rw [hempty]
    exact ⟨h, g.named lease h⟩
  rcases List.mem_filter.mp h with ⟨hmem, hkeep⟩
  exact ⟨hmem, by simpa using hkeep⟩

theorem authorized_true (h : (g.authorized now f k).1 = true) :
    exists lease, lease ∈ g.grants ∧ lease.key = grantKey f k ∧ now < lease.expires := by
  unfold authorized at h
  split at h
  · cases h
  split at h
  · cases h
  rename_i lease hlookup
  split at h
  · rename_i hlive
    rcases lookup_mem hlookup with ⟨hmem, hkey⟩
    exact ⟨lease, hmem, hkey, hlive⟩
  · cases h

theorem lookup_revoke (key : GrantKey)
    (hother : key.fingerprint ≠ f) : (g.revoke f).lookup key = g.lookup key := by
  unfold revoke
  split
  · rfl
  unfold lookup keep
  simp only [List.find?_filter]
  congr 1
  funext lease
  by_cases hkey : lease.key = key
  · subst hkey
    simp [hother]
  · simp [hkey]

theorem authorized_revoke {other : GoString} (hother : other ≠ f) :
    ((g.revoke f).authorized now other k).1 = (g.authorized now other k).1 := by
  unfold authorized
  rw [lookup_revoke (grantKey other k) hother]
  split
  · rfl
  split
  · rfl
  split
  · rfl
  · rfl

end ResourceGrants

/-!
## Histories
-/

inductive Call where
  | grant (order : Order Lease) (fingerprint resourceKey : GoString)
  | authorized (fingerprint resourceKey : GoString)
  | revoke (fingerprint : GoString)

def ResourceGrants.apply (g : ResourceGrants) (event : Instant × Call) : ResourceGrants :=
  match event.2 with
  | .grant order f k => g.grant order event.1 f k
  | .authorized f k => (g.authorized event.1 f k).2
  | .revoke f => g.revoke f

def afterCalls (history : List (Instant × Call)) : ResourceGrants :=
  history.foldl ResourceGrants.apply ResourceGrants.empty

/-- A lease goes back to a grant with no revocation of its credential since. -/
def Proven (history : List (Instant × Call)) (lease : Lease) : Prop :=
  exists past later granted order f k,
    history = past ++ (granted, .grant order f k) :: later ∧
    lease = ⟨grantKey f k, granted + resourceAuthorizationTTL⟩ ∧
    forall event, event ∈ later -> event.2 ≠ .revoke f

variable {history : List (Instant × Call)}

theorem Proven.later (h : Proven history lease) {event : Instant × Call}
    (hevent : event.2 ≠ .revoke lease.key.fingerprint) :
    Proven (history ++ [event]) lease := by
  rcases h with ⟨past, later, granted, order, f, k, rfl, rfl, hkept⟩
  refine ⟨past, later ++ [event], granted, order, f, k, by simp, rfl, ?_⟩
  intro other hother
  rcases List.mem_append.mp hother with hlater | hlast
  · exact hkept other hlater
  rw [List.mem_singleton.mp hlast]
  exact hevent

theorem apply_proven (h : forall lease, lease ∈ g.grants -> Proven history lease)
    (event : Instant × Call) :
    forall lease, lease ∈ (g.apply event).grants -> Proven (history ++ [event]) lease := by
  intro lease hlease
  rcases event with ⟨now, call⟩
  cases call with
  | grant order f k =>
    rcases ResourceGrants.mem_grant hlease with hold | hnew
    · exact (h lease hold).later (fun heq => by cases heq)
    · exact ⟨history, [], now, order, f, k, rfl, hnew, by simp⟩
  | authorized f k =>
    exact (h lease (ResourceGrants.mem_authorized hlease)).later
      (fun heq => by cases heq)
  | revoke f =>
    rcases ResourceGrants.mem_revoke hlease with ⟨hmem, hother⟩
    apply (h lease hmem).later
    intro heq
    cases heq
    exact hother rfl

theorem afterCalls_proven (history : List (Instant × Call)) :
    forall lease, lease ∈ (afterCalls history).grants -> Proven history lease :=
  foldl_invariant ResourceGrants.apply
    (fun g past => forall lease, lease ∈ g.grants -> Proven past lease)
    (by simp [ResourceGrants.empty]) (fun _ _ event h => apply_proven h event) history

/-- The resource keys granted to a credential meet a key's digest only at the key. -/
def DigestSeparates (history : List (Instant × Call)) (f k : GoString) : Prop :=
  forall event order other, event ∈ history -> event.2 = .grant order f other ->
    sha256 other = sha256 k -> other = k

/-- A positive answer needs a grant of that very resource to that very credential
within the last thirty seconds and no revocation since; checks never extend a
lease, a revocation touches no other credential, and the table stays bounded. -/
theorem lease_sound (history : List (Instant × Call)) (now : Instant)
    (hclock : (history.map Prod.fst ++ [now]).Pairwise (fun s t => s ≤ t))
    (f k : GoString) (hseparate : DigestSeparates history f k) :
    (((afterCalls history).authorized now f k).1 = true -> exists past later granted order,
        history = past ++ (granted, .grant order f k) :: later ∧
        granted ≤ now ∧ now < granted + resourceAuthorizationTTL ∧
        forall event, event ∈ later -> event.2 ≠ .revoke f) ∧
    (forall lease, lease ∈ ((afterCalls history).authorized now f k).2.grants ->
      lease ∈ (afterCalls history).grants) ∧ (forall other key t, other ≠ f ->
      (((afterCalls history).revoke f).authorized t other key).1 =
        ((afterCalls history).authorized t other key).1) ∧
    (afterCalls history).grants.length ≤ 4096 := by
  refine ⟨?_, fun lease => ResourceGrants.mem_authorized,
    fun other key t => ResourceGrants.authorized_revoke, (afterCalls history).bounded⟩
  intro hyes
  rcases ResourceGrants.authorized_true hyes with ⟨lease, hmem, hkey, hlive⟩
  rcases afterCalls_proven history lease hmem with
    ⟨past, later, granted, order, f', k', hhistory, rfl, hkept⟩
  have hfingerprint : f' = f := congrArg GrantKey.fingerprint hkey
  have hdigest : sha256 k' = sha256 k := congrArg GrantKey.resource hkey
  subst hfingerprint
  have hk : k' = k := hseparate (granted, .grant order f' k') order k'
    (by simp [hhistory]) rfl hdigest
  subst hk
  have hbefore : granted ≤ now := by
    refine (List.pairwise_append.mp hclock).right.right granted ?_ now (by simp)
    simp [hhistory]
  exact ⟨past, later, granted, order, hhistory, hbefore, hlive, hkept⟩

theorem lease_sound_after_grant :
    ((afterCalls [(0, .grant (Order.stored Lease) (str "f") (str "k"))]).authorized
      (5 * second) (str "f") (str "k")).1 = true ∧
    exists past later granted order,
      [((0 : Instant), .grant (Order.stored Lease) (str "f") (str "k"))] =
        past ++ (granted, .grant order (str "f") (str "k")) :: later ∧
      granted ≤ 5 * second ∧ 5 * second < granted + resourceAuthorizationTTL ∧
      forall event, event ∈ later -> event.2 ≠ Call.revoke (str "f") := by
  have hyes : ((afterCalls [(0, .grant (Order.stored Lease) (str "f")
      (str "k"))]).authorized (5 * second) (str "f") (str "k")).1 = true := by
    decide +kernel
  refine ⟨hyes, (lease_sound _ (5 * second) ?_ (str "f") (str "k") ?_).left hyes⟩
  · simp [second]
  intro event order other hevent hcall _hdigest
  rw [List.mem_singleton.mp hevent] at hcall
  cases hcall
  rfl

end ReplxEdge.Identity
