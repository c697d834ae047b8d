import ReplxEdge.Admin.Policies
import ReplxEdge.Playback.Sessions

/-!
# The current policy at the part boundary

Administrators edit policies, negotiations record sessions under the policy that
is stored at the time, and part requests are checked later. A part without a
session is evaluated under the stored policy; a session's own selection is not
evaluated again.
-/

namespace ReplxEdge.Playback

open Foundation
open Net
open Trace
open MediaPolicy
open Admin (PolicyConfig PolicyTable PolicyRequest Scope unmarshalPolicy)
open Proxy (IngressMode)

variable {pol : Policy} {scope : Level} {dec : Decision} {sources : List VariantSource}
variable {selected : VariantSource} {rows : List SessionRow} {session : Session}

/-!
## Stored policies
-/

/-- The effective value of a text; an empty or unknown one inherits. -/
def normalize (t : GoString) : TriState :=
  if toLower t = str "allow" then .allow
  else if toLower t = str "deny" then .deny
  else .inherit

def levelPolicy (c : PolicyConfig) : Policy where
  maxSourceWidth := c.maxSourceWidth
  maxSourceHeight := c.maxSourceHeight
  maxSourceBitrateKbps := c.maxSourceBitrateKbps
  maxStreamingBitrateKbps := c.maxStreamingBitrateKbps
  allow4K := normalize c.allow4K
  allowHDR := normalize c.allowHDR
  allowDolbyVision := normalize c.allowDolbyVision
  allowTranscode := normalize c.allowTranscode
  preferDirectPlay := normalize c.preferDirectPlay
  maxAudioChannels := c.maxAudioChannels
  unknownDRBehavior := normalize c.unknownDRBehavior
  routingMode := c.routingMode
  provenance := fun _ => none

/-- The answers of the database during one load: the newest enabled server, and the
levels whose query fails. -/
structure PolicyQueries where
  server : Option GoString
  fails : Scope -> Bool

def PolicyQueries.answered (q : PolicyQueries) : PolicyQueries :=
  { q with fails := fun _ => false }

/-- The enabled row of a scope. A configuration that does not decode fails the query. -/
def levelAnswer (rows : PolicyTable) (q : PolicyQueries) (scope : Scope) : LevelAnswer :=
  if q.fails scope then .unavailable
  else
    match q.server.bind fun server => rows.lookup (server, scope) with
    | none => .absent
    | some row =>
      if row.enabled then
        match unmarshalPolicy row.config with
        | none => .unavailable
        | some config => .found (levelPolicy config)
      else .absent

def storedSource (rows : PolicyTable) (q : PolicyQueries) : Source where
  server := q.server
  global := levelAnswer rows q .global
  user := fun id => levelAnswer rows q (.user id)
  device := fun id => levelAnswer rows q (.device id)

theorem levelAnswer_answered {rows : PolicyTable} {q : PolicyQueries} {scope : Scope}
    (h : levelAnswer rows q scope ≠ .unavailable) :
    levelAnswer rows q.answered scope = levelAnswer rows q scope := by
  cases hfails : q.fails scope with
  | true =>
    unfold levelAnswer at h
    rw [hfails] at h
    exact absurd rfl h
  | false =>
    unfold levelAnswer
    rw [hfails]
    rfl

theorem loadEffective_answered {rows : PolicyTable} {q : PolicyQueries}
    {identityID clientUUID : GoString} {loaded : Policy × Level}
    (h : loadEffective (storedSource rows q) identityID clientUUID = some loaded) :
    loadEffective (storedSource rows q.answered) identityID clientUUID = some loaded := by
  refine loadEffective_of_answers h rfl ?_ ?_ ?_
  · exact levelAnswer_answered
  · exact fun _ => levelAnswer_answered
  · exact fun _ => levelAnswer_answered

/-!
## Histories
-/

def Visit.under (v : Visit) (rows : PolicyTable) (q : PolicyQueries) : Visit :=
  { v with engine := { v.engine with policies := storedSource rows q } }

structure Recorded where
  visit : Visit
  session : Session
  recorded : recordedSession visit = some session

def Recorded.candidates (d : Recorded) : List VariantSource :=
  variants d.visit.engine d.visit.request (extractToken d.visit.request)

structure World where
  policies : PolicyTable
  sessions : List SessionRow
  decisions : List Recorded

def World.start (policies : PolicyTable) : World :=
  ⟨policies, [], []⟩

/-- A request for a part, the ids that its token resolves to, and what the database
answers to it. A part id is unique in the index. -/
structure PartRequest where
  request : Request
  partID : GoString
  sessionID : GoString
  identityID : GoString
  clientUUID : GoString
  engine : Engine
  queries : PolicyQueries
  index : Option PartIndex
  findFails : Bool
  unique : forall i, index = some i -> (i.rows.map fun row => row.variant.partPlexID).Nodup

inductive Event where
  | edit (r : PolicyRequest)
  | negotiation (v : Visit) (q : PolicyQueries)
  | part (q : PartRequest)

def remember (v : Visit) (decisions : List Recorded) : List Recorded :=
  match h : recordedSession v with
  | none => decisions
  | some session => ⟨v, session, h⟩ :: decisions

section Histories

variable (order : Order SessionRow) (mode : IngressMode)

def World.step (w : World) : Event -> Option World
  | .edit r => some { w with policies := (Admin.serve w.policies r).2 }
  | .negotiation v q =>
    let read := v.under w.policies q
    some
      { w with
        sessions := visit (pgStore order) mode w.sessions read
        decisions :=
          if reachesPlayback mode read.request then remember read w.decisions
          else w.decisions }
  | .part _ => some w

namespace PartRequest

def boundary (q : PartRequest) (w : World) : Boundary :=
  boundaryOver (pgStore order) { q.engine with policies := storedSource w.policies q.queries }
    q.index q.findFails w.sessions

def verdict (q : PartRequest) (w : World) : Spike.Verdict :=
  enforcePart (q.boundary order w) q.request q.partID q.sessionID q.identityID q.clientUUID

def active (q : PartRequest) (w : World) : Option Session :=
  (q.boundary order w).active q.sessionID

def effective (q : PartRequest) (w : World) : Option (Policy × Level) :=
  loadEffective (storedSource w.policies q.queries.answered) q.identityID q.clientUUID

def servedID (q : PartRequest) (w : World) : GoString :=
  match q.active order w with
  | none => q.partID
  | some session =>
    if (q.verdict order w).substitute ≠ [] then session.selectedPartPlexID else q.partID

end PartRequest

def IndexedPart.toPolicy (row : IndexedPart) : Variant :=
  VariantSource.toPolicy { row.variant with partAvailable := row.variant.partKey != [] }

def PartRequest.Indexed (q : PartRequest) (w : World) (row : IndexedPart) : Prop :=
  exists index, q.index = some index ∧ row ∈ index.rows ∧
    row.serves (q.servedID order w) = true

/-- The variant of the part that will be served: the indexed one, or else the candidate
that the session selected. -/
inductive ServedVariant (w : World) (q : PartRequest) : Variant -> Prop where
  | indexed (row : IndexedPart) (found : q.Indexed order w row) :
      ServedVariant w q row.toPolicy
  | selected (session : Session) (d : Recorded) (source : VariantSource)
      (active : q.active order w = some session)
      (served : q.servedID order w = session.selectedPartPlexID)
      (unindexed : forall row, ¬ q.Indexed order w row)
      (decided : d ∈ w.decisions) (same : d.session = session)
      (candidate : source ∈ d.candidates)
      (index : source.mediaIndex = session.selectedMediaIndex) :
      ServedVariant w q source.toPolicy

/-- The current policy applies: a part is let through, or another one instead of it, only
if the variant that will be served is eligible under the stored policy of the caller. -/
def AppliesCurrent (w : World) : Event -> Prop
  | .part q =>
    q.partID ≠ [] -> (q.verdict order w).deny = false ->
      exists pol scope, q.effective w = some (pol, scope) ∧
        forall v, ServedVariant order w q v -> violation pol v = none
  | _ => True

def Relaxes (old new : Policy) : Prop :=
  forall v, violation old v = none -> violation new v = none

/-- The policy of a session still stands for the caller, and the variant that will be
served is the one that was negotiated. -/
structure Steady (w : World) (q : PartRequest) (session : Session) : Prop where
  policy : exists pol scope, q.effective w = some (pol, scope) ∧
    Relaxes session.effectivePolicy pol
  distinct : forall d, d ∈ w.decisions -> d.session = session ->
    (d.candidates.map VariantSource.mediaIndex).Nodup
  variant : forall d source, d ∈ w.decisions -> d.session = session ->
    source ∈ d.candidates -> source.mediaIndex = session.selectedMediaIndex ->
      forall v, ServedVariant order w q v -> v = source.toPolicy

/-- Every session that lets a part through is steady. Nothing is asked of a part without
a session. -/
def SteadySessions (w : World) : Event -> Prop
  | .part q =>
    q.partID ≠ [] -> (q.verdict order w).deny = false ->
      forall session, q.active order w = some session -> Steady order w q session
  | _ => True

end Histories

/-!
## Recorded selections
-/

theorem violation_of_unrejected {vs : List Variant} {v : Variant} (hv : v ∈ vs)
    (h : forall rejection, rejection ∈ rejections pol scope vs ->
      rejection.mediaIndex ≠ v.mediaIndex) : violation pol v = none := by
  cases hviolation : violation pol v with
  | none => rfl
  | some found =>
    refine absurd rfl (h ⟨v.mediaIndex, rejectionScope pol scope found.2, found.1⟩ ?_)
    refine List.mem_filterMap.mpr ⟨v, hv, ?_⟩
    rw [hviolation]
    rfl

theorem acceptedResponse_unrejected {answer : Forwarded}
    {response : DecisionResponse} (h : acceptedResponse pol dec answer = some response) :
    rejectedByPolicy dec.rejected dec.selected.mediaIndex response.mediaIndex = false := by
  unfold acceptedResponse at h
  split at h
  · cases h
  rename_i found hresponse
  split at h
  · cases h
  rename_i hchecks
  cases h
  simp only [not_or] at hchecks
  exact Bool.eq_false_iff.mpr hchecks.right.right.left

theorem selected_accepted (hdistinct : (sources.map VariantSource.mediaIndex).Nodup)
    (hevaluate : evaluate pol scope (sources.map VariantSource.toPolicy) = Except.ok dec)
    (hselected : indexOf sources dec.selected.mediaIndex = some selected) :
    violation pol selected.toPolicy = none := by
  rcases List.mem_filter.mp (evaluate_ok hevaluate).left with ⟨hmem, hnone⟩
  rcases List.mem_map.mp hmem with ⟨source, hsource, hpolicy⟩
  rcases indexOf_some hselected with ⟨hcandidate, hindex⟩
  have hsame : source = selected := by
    apply List.inj_on_of_nodup_map hdistinct hsource hcandidate
    rw [hindex, ← hpolicy]
    rfl
  rw [← hsame, hpolicy]
  exact Option.isNone_iff_eq_none.mp hnone

theorem tracked_accepted {reported : Option Int}
    (hdistinct : (sources.map VariantSource.mediaIndex).Nodup)
    (hevaluate : evaluate pol scope (sources.map VariantSource.toPolicy) = Except.ok dec)
    (hselected : indexOf sources dec.selected.mediaIndex = some selected)
    (hunrejected : rejectedByPolicy dec.rejected dec.selected.mediaIndex reported = false) :
    violation pol (trackedSelection sources selected dec.selected.mediaIndex
      reported).1.toPolicy = none := by
  have hplain := selected_accepted hdistinct hevaluate hselected
  cases reported with
  | none => exact hplain
  | some index =>
    unfold trackedSelection
    simp only
    split
    · exact hplain
    rename_i hother
    cases hfound : indexOf sources index with
    | none => exact hplain
    | some source =>
      -- PMS chose another candidate, which was compared with the rejections
      rcases indexOf_some hfound with ⟨hmem, hindex⟩
      apply violation_of_unrejected (List.mem_map_of_mem hmem)
      rw [← (evaluate_ok hevaluate).right]
      intro rejection hrejection hsame
      have hany : rejectedByPolicy dec.rejected dec.selected.mediaIndex (some index) =
          true := by
        unfold rejectedByPolicy
        rw [Bool.and_eq_true, List.any_eq_true]
        refine ⟨bne_iff_ne.mpr hother, rejection, hrejection, ?_⟩
        rw [beq_iff_eq, hsame]
        exact hindex
      rw [hany] at hunrejected
      cases hunrejected

theorem Recorded.accepted (d : Recorded)
    (hdistinct : (d.candidates.map VariantSource.mediaIndex).Nodup) :
    exists source, source ∈ d.candidates ∧ source.mediaIndex = d.session.selectedMediaIndex ∧
      violation d.session.effectivePolicy source.toPolicy = none := by
  have hrecorded := d.recorded
  unfold recordedSession at hrecorded
  split at hrecorded
  · rcases handleDecision_created.mp hrecorded with
      ⟨pol, scope, dec, selected, answer, response, hnegotiated, hsession, _⟩
    rcases trackedSelection_mem hnegotiated.candidate response.mediaIndex with ⟨hmem, hindex⟩
    rw [hsession]
    exact ⟨_, hmem, hindex, tracked_accepted hdistinct hnegotiated.evaluated
      hnegotiated.candidate (acceptedResponse_unrejected hnegotiated.accepted)⟩
  · cases hrecorded

/-!
## Sessions come from negotiations
-/

/-- Every stored session was recorded by a negotiation of the history. -/
def Backed (w : World) : Prop :=
  forall row, row ∈ w.sessions -> exists d, d ∈ w.decisions ∧ d.session = row.session

theorem newest_mem {row : SessionRow} (h : newest rows = some row) : row ∈ rows := by
  -- The best row found so far is one of the rows visited.
  refine foldl_invariant _
    (fun found visited => forall row, found = some row -> row ∈ visited) ?_ ?_ rows row h
  · intro row hrow
    cases hrow
  intro found visited next hfound row hrow
  cases found with
  | none =>
    cases hrow
    exact List.mem_append_right _ (List.mem_singleton_self _)
  | some best =>
    simp only at hrow
    split at hrow
    · cases hrow
      exact List.mem_append_right _ (List.mem_singleton_self _)
    · exact List.mem_append_left _ (hfound row hrow)

section Proofs

variable {order : Order SessionRow} {mode : IngressMode} {w : World} {q : PartRequest}

theorem mem_sessions_of_active (h : q.active order w = some session) :
    exists row, row ∈ w.sessions ∧ row.session = session := by
  unfold PartRequest.active Boundary.active at h
  split at h
  · cases h
  rename_i hid
  unfold PartRequest.boundary boundaryOver at h
  simp only at h
  split at h
  · rename_i found hfound
    cases h
    split at hfound
    · cases hfound
    split at hfound
    · cases hfound
    rename_i stored hactive
    cases hfound
    change (if q.sessionID = [] then none else _) = _ at hactive
    rw [if_neg hid, Option.map_eq_some_iff] at hactive
    rcases hactive with ⟨row, hnewest, hsession⟩
    have hmem := (order.perm _).mem_iff.mp (newest_mem hnewest)
    exact ⟨row, (List.mem_filter.mp hmem).left, hsession⟩
  · cases h

variable {v : Visit}

theorem mem_stop {row : SessionRow} (h : row ∈ stop (pgStore order) rows v) :
    exists before, before ∈ rows ∧ before.session = row.session := by
  unfold stop at h
  cases hended : endedID v with
  | none =>
    rw [hended] at h
    exact ⟨row, h, rfl⟩
  | some id =>
    rw [hended] at h
    change row ∈ (if id = [] then rows else rows.map (closeRow id)) at h
    split at h
    · exact ⟨row, h, rfl⟩
    rcases List.mem_map.mp h with ⟨before, hbefore, rfl⟩
    refine ⟨before, hbefore, ?_⟩
    unfold closeRow
    split
    all_goals rfl

theorem mem_remember {decisions : List Recorded} {d : Recorded}
    (h : d ∈ decisions) : d ∈ remember v decisions := by
  unfold remember
  split
  · exact h
  · exact List.mem_cons_of_mem _ h

theorem remember_recorded (h : recordedSession v = some session) (decisions : List Recorded) :
    exists d, d ∈ remember v decisions ∧ d.session = session := by
  unfold remember
  split
  · rename_i hnone
    rw [h] at hnone
    cases hnone
  rename_i found hfound
  refine ⟨_, List.mem_cons_self, ?_⟩
  exact Option.some.inj (hfound.symm.trans h)

theorem backed_step {event : Event} {next : World} (h : Backed w)
    (hstep : w.step order mode event = some next) : Backed next := by
  cases event with
  | edit | part =>
    cases hstep
    exact h
  | negotiation v queries =>
    cases hstep
    intro row hrow
    simp only at hrow ⊢
    unfold visit at hrow
    split at hrow
    · rename_i hreaches
      rw [if_pos hreaches]
      unfold record at hrow
      cases hrecorded : recordedSession (v.under w.policies queries) with
      | none =>
        rw [hrecorded] at hrow
        rcases mem_stop hrow with ⟨before, hbefore, hsession⟩
        rcases h before hbefore with ⟨d, hd, hsame⟩
        exact ⟨d, mem_remember hd, hsame.trans hsession⟩
      | some session =>
        rw [hrecorded] at hrow
        rcases List.mem_append.mp hrow with hold | hnew
        · rcases mem_stop hold with ⟨before, hbefore, hsession⟩
          rcases h before hbefore with ⟨d, hd, hsame⟩
          exact ⟨d, mem_remember hd, hsame.trans hsession⟩
        rw [List.mem_singleton.mp hnew]
        exact remember_recorded hrecorded w.decisions
    rename_i hreaches
    rw [if_neg hreaches]
    exact h row hrow

/-!
## Both kinds of verdict
-/

theorem stateless_current (hpart : q.partID ≠ []) (hactive : q.active order w = none)
    (hallowed : (q.verdict order w).deny = false) :
    exists pol scope, q.effective w = some (pol, scope) ∧
      forall v, ServedVariant order w q v -> violation pol v = none := by
  unfold PartRequest.verdict at hallowed
  rw [enforcePart_eq hpart, show (q.boundary order w).active q.sessionID = none from hactive]
    at hallowed
  rcases (enforceStateless_sound hallowed).left with
    ⟨_, index, row, pol, scope, dec, hindex, hrow, hserves, hload, hevaluate⟩
  refine ⟨pol, scope, loadEffective_answered hload, ?_⟩
  have hnone : violation pol row.toPolicy = none := by
    rcases List.mem_filter.mp (evaluate_ok hevaluate).left with ⟨hmem, hviolation⟩
    rw [List.mem_singleton.mp hmem] at hviolation
    exact Option.isNone_iff_eq_none.mp hviolation
  intro v hv
  cases hv with
  | indexed other found =>
    rcases found with ⟨otherIndex, hotherIndex, hother, hotherServes⟩
    have hsame : otherIndex = index := Option.some.inj (hotherIndex.symm.trans hindex)
    subst hsame
    have hserved : q.servedID order w = q.partID := by
      unfold PartRequest.servedID
      rw [hactive]
    rw [hserved] at hotherServes
    unfold IndexedPart.serves at hserves hotherServes
    rw [Bool.and_eq_true, beq_iff_eq] at hserves hotherServes
    have heq : other = row :=
      List.inj_on_of_nodup_map (q.unique otherIndex hotherIndex) hother hrow
        (hotherServes.right.trans hserves.right.symm)
    rw [heq]
    exact hnone
  | selected session d source hsession =>
    rw [hactive] at hsession
    cases hsession

theorem session_current (hbacked : Backed w) (hactive : q.active order w = some session)
    (hsteady : Steady order w q session) :
    exists pol scope, q.effective w = some (pol, scope) ∧
      forall v, ServedVariant order w q v -> violation pol v = none := by
  rcases hsteady.policy with ⟨pol, scope, heffective, hrelaxes⟩
  refine ⟨pol, scope, heffective, ?_⟩
  intro v hv
  rcases mem_sessions_of_active hactive with ⟨row, hrow, hsession⟩
  rcases hbacked row hrow with ⟨d, hd, hsame⟩
  have hd' : d.session = session := hsame.trans hsession
  rcases d.accepted (hsteady.distinct d hd hd') with ⟨source, hsource, hindex, hnone⟩
  rw [hd'] at hindex hnone
  rw [hsteady.variant d source hd hd' hsource hindex v hv]
  exact hrelaxes _ hnone

end Proofs

/-- In every history whose sessions are steady where they let a part through, the part
boundary applies the current policy. -/
theorem current_policy_applied (order : Order SessionRow) (mode : IngressMode)
    (policies : PolicyTable) (events : List Event)
    (hsteady : Along (World.step order mode) (SteadySessions order) (World.start policies) events) :
    Along (World.step order mode) (AppliesCurrent order) (World.start policies) events := by
  have hkept : forall w event next, Backed w ->
      World.step order mode w event = some next -> Backed next :=
    fun _ _ _ h hstep => backed_step h hstep
  refine Along.of_invariant hkept ?_ ?_ hsteady
  · intro w event hbacked hcond
    cases event with
    | edit | negotiation => trivial
    | part q =>
      intro hpart hallowed
      cases hactive : q.active order w with
      | none => exact stateless_current hpart hactive hallowed
      | some session => exact session_current hbacked hactive (hcond hpart hallowed session hactive)
  intro row hrow
  cases hrow

def film4K : VariantSource :=
  { candidateAt 0 with width := some 3840, height := some 2160 }

def film4KIndex : PartIndex where
  rows := [⟨true, str "9", film4K⟩]
  order := Order.stored _
  lookupFails := false
  variantFails := false

def film4KEngine : Engine :=
  { indexedEngine playAnswer with indexVariants := fun _ => [film4K] }

def healthyQueries : PolicyQueries :=
  ⟨some (str "s"), fun _ => false⟩

def visit4K : Visit where
  request := (negotiationUnder (str "x")).request
  engine := film4KEngine
  identityID := str "robin"
  clientUUID := []
  now := 1
  creation := .acknowledged []
  endFails := false

def negotiated4K : Event :=
  .negotiation visit4K healthyQueries

def film4KPart : PartRequest where
  request := filmPart.request
  partID := str "301"
  sessionID := str "x"
  identityID := str "robin"
  clientUUID := []
  engine := film4KEngine
  queries := healthyQueries
  index := some film4KIndex
  findFails := false
  unique := fun _ h => by
    rw [← Option.some.inj h]
    decide

def deny4K : PolicyRequest :=
  Admin.putPolicy .policies (str "global") Admin.denies4K

def rows4KDenied : PolicyTable :=
  Admin.afterRequests Table.empty [deny4K]

abbrev film4KStep : World -> Event -> Option World :=
  World.step (Order.stored _) .direct

def denyTranscode : PolicyRequest :=
  Admin.putPolicy .policies (str "global")
    (.object [(str "allowTranscode", .string (str "deny"))])

/-- An edit of what no variant is measured by leaves the sessions steady. -/
theorem current_policy_edited :
    Along film4KStep (AppliesCurrent (Order.stored _)) (World.start Table.empty)
      [negotiated4K, .edit denyTranscode, .part film4KPart] := by
  apply current_policy_applied
  refine ⟨trivial, trivial, ?_, trivial⟩
  intro _ _ session hactive
  cases hactive
  have hedited : ((loadEffective (storedSource (Admin.afterRequests Table.empty [denyTranscode])
      healthyQueries) (str "robin") []).any fun loaded =>
        loaded.1.allowTranscode = .deny ∧ (loaded.1.maxSourceWidth, loaded.1.maxSourceHeight,
          loaded.1.maxSourceBitrateKbps, loaded.1.allow4K, loaded.1.allowHDR,
          loaded.1.allowDolbyVision, loaded.1.unknownDRBehavior) =
        (defaults.maxSourceWidth, defaults.maxSourceHeight, defaults.maxSourceBitrateKbps,
          defaults.allow4K, defaults.allowHDR, defaults.allowDolbyVision,
          defaults.unknownDRBehavior)) = true := by
    decide +kernel
  rcases exists_of_any hedited with ⟨⟨pol, scope⟩, hload, hfields⟩
  have hsame : Relaxes defaults pol := by
    intro v hv
    simp only [decide_eq_true_eq, Prod.mk.injEq] at hfields
    rcases hfields with ⟨_, hwidth, hheight, hbitrate, h4K, hHDR, hvision, hrange⟩
    unfold violation overResolution resolutionField deniesDR at hv ⊢
    rw [hwidth, hheight, hbitrate, h4K, hHDR, hvision, hrange]
    exact hv
  refine ⟨⟨pol, scope, hload, hsame⟩, ?_, ?_⟩
  · intro d hd _
    cases List.mem_singleton.mp hd
    decide
  intro d source hd _ hsource _ v hv
  cases List.mem_singleton.mp hd
  cases List.mem_singleton.mp hsource
  cases hv with
  | indexed row found =>
    rcases found with ⟨index, hindex, hrow, _⟩
    cases hindex
    cases List.mem_singleton.mp hrow
    rfl
  | selected session d source _ _ _ hd _ hsource =>
    cases List.mem_singleton.mp hd
    cases List.mem_singleton.mp hsource
    rfl

/-- An edit between negotiation and request does not reach the session. -/
theorem edited_policy_bypassed :
    exists w, run film4KStep (World.start Table.empty) [negotiated4K, .edit deny4K] = some w ∧
      film4KPart.verdict (Order.stored _) w = permitted ∧
      ¬ AppliesCurrent (Order.stored _) w (.part film4KPart) := by
  refine ⟨_, rfl, by decide +kernel, ?_⟩
  intro h
  rcases h (by decide) (by decide +kernel) with ⟨pol, scope, heffective, hserved⟩
  have hnone := hserved _ (.indexed ⟨true, str "9", film4K⟩
    ⟨film4KIndex, rfl, List.mem_singleton_self _, by decide +kernel⟩)
  have hstored : loadEffective (storedSource rows4KDenied healthyQueries) (str "robin") [] =
      some (pol, scope) := heffective
  have hdenied : (loadEffective (storedSource rows4KDenied healthyQueries) (str "robin")
      []).map (fun loaded => (violation loaded.1 film4K.toPolicy).isNone) = some false := by
    decide +kernel
  rw [hstored, Option.map_some] at hdenied
  rw [show violation pol film4K.toPolicy = none from hnone] at hdenied
  cases hdenied

end ReplxEdge.Playback
