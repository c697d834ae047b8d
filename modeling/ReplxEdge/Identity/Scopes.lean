import ReplxEdge.Identity.Calls

/-!
# The scope of a caller

Whatever fails, a call places its caller in the scope of an account or of the
token alone, and a rejected credential never in that of an account.
-/

namespace ReplxEdge.Identity

open Foundation

structure Confined (fingerprint : GoString) (res : Resolved) : Prop where
  rejected : res.invalid = true -> res.known = false
  unknown : res.known = false ->
    res.scope = str "tok:" ++ fingerprint ∧ res.identityID = [] ∧ res.fresh = false
  known : res.known = true -> res.scope = accountScope res.accountID

def MemoryConfined (r : Resolver) : Prop :=
  forall f entry, r.acct.lookup f = some entry -> Confined f (fromEntry entry [])

variable {c : Conditions} {t : Clock} {server fingerprint identifier : GoString}
variable {db : Database} {r : Resolver}

theorem memoryConfined_new (db tv : Bool) : MemoryConfined (Resolver.new db tv) := by
  intro f entry hentry
  cases hentry

theorem confined_fallback (fingerprint : GoString) : Confined fingerprint (fallback fingerprint) :=
  ⟨nofun, fun _ => ⟨rfl, rfl, rfl⟩, nofun⟩

theorem confined_rejected (fingerprint : GoString) :
    Confined fingerprint (rejectedCredential fingerprint) :=
  ⟨fun _ => rfl, fun _ => ⟨rfl, rfl, rfl⟩, nofun⟩

theorem confined_keepLink (id : GoString) (account : Int) (fresh degraded store : Bool) :
    Confined fingerprint
      (keepLink c server identifier db id account fresh degraded store).resolved :=
  ⟨nofun, nofun, fun _ => rfl⟩

theorem confined_bindAccount (now : Instant) (account : Int) :
    Confined fingerprint (bindAccount c now server fingerprint identifier db account).resolved := by
  unfold bindAccount
  simp only
  split
  · exact confined_fallback fingerprint
  · exact ⟨nofun, nofun, fun _ => rfl⟩

theorem confined_of_rowOutcome {outcome : Answered}
    (h : RowOutcome c t server fingerprint identifier db outcome) :
    Confined fingerprint outcome.cold.resolved := by
  cases h with
  | plain | nobody => exact confined_fallback fingerprint
  | recorded | rejected => exact confined_rejected fingerprint
  | kept | unproven => exact confined_keepLink _ _ _ _ _
  | bound => exact confined_bindAccount _ _
  | degraded => exact ⟨nofun, fun _ => ⟨rfl, rfl, rfl⟩, nofun⟩

theorem memoryConfined_remember (h : MemoryConfined r) (order : MemoryOrder) (now : Instant)
    {cold : Cold} (hcold : Confined fingerprint cold.resolved) :
    MemoryConfined (remember r order now fingerprint identifier cold) := by
  intro f entry hentry
  unfold remember at hentry
  simp only at hentry
  split at hentry
  · rw [Table.lookup_set] at hentry
    split at hentry
    · rename_i hf
      cases hentry
      rw [hf]
      exact ⟨hcold.rejected, hcold.unknown, hcold.known⟩
    · exact h f entry (lookup_of_evictOldest hentry)
  · exact h f entry hentry

theorem resolveRememberedAt_acct (entry : AcctEntry) :
    (resolveRememberedAt c t fingerprint identifier r db entry).resolver.acct = r.acct := by
  have hclient : (resolveClientAt c t identifier r db).2.1.acct = r.acct := by
    unfold resolveClientAt
    split
    · rfl
    simp only
    split
    · exact (enabledServerAt_memory c t r db).left
    · exact (enabledServerAt_memory c t r db).left
  unfold resolveRememberedAt
  split
  · rfl
  split
  · rfl
  simp only [keepClient]
  split
  · exact hclient
  · exact hclient

theorem confined_call (h : MemoryConfined r) (db : Database) (call : ResolveCall) :
    Confined call.fingerprint (resolveAt r db call).resolution.resolved ∧
      MemoryConfined (resolveAt r db call).resolution.resolver := by
  have hcases := resolveAt_cases r db call
  generalize resolveAt r db call = back at hcases ⊢
  cases hcases with
  | nameless => exact ⟨confined_fallback _, h⟩
  | remembered entry hentry =>
    have hconfined := h _ entry (Option.filter_eq_some_iff.mp hentry).left
    refine ⟨?_, fun f other hother => h f other (resolveRememberedAt_acct entry ▸ hother)⟩
    unfold resolveRememberedAt
    split
    · exact hconfined
    split
    · exact ⟨hconfined.rejected, hconfined.unknown, hconfined.known⟩
    · exact ⟨hconfined.rejected, hconfined.unknown, hconfined.known⟩
  | cold known outcome hacct _ houtcome =>
    have hcold : Confined call.fingerprint outcome.cold.resolved := by
      rcases houtcome with rfl | ⟨server, _, hrow⟩
      · exact confined_fallback _
      · exact confined_of_rowOutcome hrow
    have hknown : MemoryConfined known := fun f entry hentry => h f entry (hacct ▸ hentry)
    exact ⟨hcold, memoryConfined_remember hknown _ _ hcold⟩

/-- After any calls, restarts and changes of the server. -/
theorem callers_confined (db tv : Bool) (database : Database) (past : List Event)
    (call : ResolveCall) :
    Confined call.fingerprint
      (((Service.start db tv database).after past).returned call).resolution.resolved := by
  refine (confined_call ?_ _ call).left
  refine foldl_invariant Service.step (fun s _ => MemoryConfined s.resolver)
    (memoryConfined_new db tv) ?_ past
  intro s _ event h
  cases event with
  | call call => exact (confined_call h s.db call).right
  | restart => exact memoryConfined_new _ _
  | enable server => exact h

end ReplxEdge.Identity
