import ReplxEdge.Playback.Negotiation

/-!
# The part boundary

A request for a part, or for a manifest, is checked against the session that its
negotiation recorded. Without a session the part is evaluated on its own, under
the policy of the caller, and a manifest is refused.
-/

namespace ReplxEdge.Playback

open Foundation
open Net
open Trace
open MediaPolicy
open Spike (Verdict)

/-!
## The outside
-/

inductive Lookup where
  | found (session : Session)
  | absent
  | failed

structure IndexedPart where
  serverEnabled : Bool
  ratingKey : GoString
  variant : VariantSource

/-- The owner index. A query returns the first matching row in an order that the
database chooses, and each of the two queries may fail. -/
structure PartIndex where
  rows : List IndexedPart
  order : Order IndexedPart
  lookupFails : Bool
  variantFails : Bool

def IndexedPart.serves (row : IndexedPart) (partID : GoString) : Bool :=
  row.serverEnabled && row.variant.partPlexID == partID

def PartIndex.lookup (index : PartIndex) (partID : GoString) : Option IndexedPart :=
  if index.lookupFails then none
  else (index.order.visit index.rows).find? fun row => row.serves partID

def PartIndex.variantID (index : PartIndex) (partID ratingKey : GoString) :
    Option GoString :=
  if index.variantFails then none
  else
    ((index.order.visit index.rows).find? fun row =>
      row.serves partID && row.ratingKey == ratingKey).map
        fun row => row.variant.variantUUID

/-- The engine with its session store and, when there is a database, its index. -/
structure Boundary where
  engine : Engine
  index : Option PartIndex
  findActive : GoString -> Lookup

def Boundary.lookupRow (b : Boundary) (partID : GoString) : Option IndexedPart :=
  match b.index with
  | none => none
  | some index => index.lookup partID

def Boundary.wired (b : Boundary) : Engine :=
  { b.engine with partRow := fun partID => (b.lookupRow partID).map IndexedPart.variant }

/-!
## The checks
-/

def sessionIdentityMismatch : GoString :=
  str "POLICY_SESSION_IDENTITY_MISMATCH"

def originMismatch : GoString :=
  str "POLICY_ORIGIN_MISMATCH"

def bindingMismatch (storedIdentity storedClient curIdentity curClient : GoString) : Bool :=
  if storedIdentity = [] ∧ storedClient = [] then false
  else if storedIdentity ≠ [] ∧ storedIdentity ≠ curIdentity then true
  else if storedClient ≠ [] ∧ storedClient ≠ curClient then true
  else false

/-- The reason to refuse the requester of a session, whose token resolves to the two
ids. -/
def checkSessionBinding (r : Request) (session : Session)
    (identityID clientUUID : GoString) : Option GoString :=
  if session.identityID = [] ∧ session.clientUUID = [] then none
  else if extractToken r = [] then some sessionIdentityMismatch
  else if bindingMismatch session.identityID session.clientUUID identityID clientUUID then
    some sessionIdentityMismatch
  else none

def sameVariant (b : Boundary) (session : Session) (partID : GoString) : Bool :=
  match b.index with
  | none => false
  | some index =>
    if partID = [] then false
    else if session.selectedVariantID ≠ [] then
      index.variantID partID session.ratingKey == some session.selectedVariantID
    else if session.selectedMediaIndex < 0 ∨ session.ratingKey = [] then false
    else
      match index.lookup partID with
      | none => false
      | some row =>
        row.ratingKey == session.ratingKey &&
          row.variant.mediaIndex == session.selectedMediaIndex

def permitted : Verdict :=
  ⟨[], false, []⟩

def refused (reason : GoString) : Verdict :=
  ⟨[], true, reason⟩

def manifestIndex (value : GoString) : Option Int :=
  if value = [] then some 0
  else
    match atoi value with
    | none => none
    | some n => if n < 0 then none else some n

def checkManifest (r : Request) (session : Session) : Verdict :=
  if extractRatingKey r ≠ [] ∧ extractRatingKey r ≠ session.ratingKey then
    refused originMismatch
  else if (r.query.get (str "directPlay") = str "0" ∧
      r.query.get (str "directStream") = str "0") ∧
      session.effectivePolicy.allowTranscode = .deny then
    refused (str "POLICY_TRANSCODE_FORBIDDEN")
  else if session.selectedMediaIndex < 0 then refused decisionRequired
  else if manifestIndex (r.query.get (str "mediaIndex")) =
      some session.selectedMediaIndex then permitted
  else refused originMismatch

def enforceManifest (b : Boundary) (r : Request)
    (sessionID identityID clientUUID : GoString) : Verdict :=
  match b.findActive sessionID with
  | .found session =>
    match checkSessionBinding r session identityID clientUUID with
    | some reason => refused reason
    | none => checkManifest r session
  | _ => refused decisionRequired

def checkPart (b : Boundary) (session : Session) (partID : GoString) : Verdict :=
  if session.selectedPartPlexID ≠ [] ∧ partID = session.selectedPartPlexID then permitted
  else if session.selectedPartPlexID ≠ [] ∧ sameVariant b session partID = true then
    permitted
  else if session.selectedPartKey ≠ [] then
    ⟨session.selectedPartKey, false, str "substituted"⟩
  else refused decisionRequired

def enforcePart (b : Boundary) (r : Request)
    (partID sessionID identityID clientUUID : GoString) : Verdict :=
  if partID = [] then enforceManifest b r sessionID identityID clientUUID
  else if sessionID = [] then
    (enforceStateless b.wired r partID identityID clientUUID).verdict
  else
    match b.findActive sessionID with
    | .found session =>
      match checkSessionBinding r session identityID clientUUID with
      | some reason => refused reason
      | none => checkPart b session partID
    | _ => (enforceStateless b.wired r partID identityID clientUUID).verdict

/-!
## What each check proves
-/

structure BindingProven (r : Request) (session : Session)
    (identityID clientUUID : GoString) : Prop where
  token : session.identityID ≠ [] ∨ session.clientUUID ≠ [] -> extractToken r ≠ []
  identity : session.identityID ≠ [] -> session.identityID = identityID
  client : session.clientUUID ≠ [] -> session.clientUUID = clientUUID

variable {r : Request} {session : Session} {identityID clientUUID partID : GoString}
variable {b : Boundary}

theorem bindingMismatch_eq_false {storedIdentity storedClient curIdentity curClient :
    GoString} :
    bindingMismatch storedIdentity storedClient curIdentity curClient = false <->
      (storedIdentity ≠ [] -> storedIdentity = curIdentity) ∧
      (storedClient ≠ [] -> storedClient = curClient) := by
  unfold bindingMismatch
  split
  · rename_i hempty
    simp [hempty]
  split
  · rename_i hidentity
    simp [hidentity]
  rename_i hidentity
  split
  · rename_i hclient
    simp [hclient]
  rename_i hclient
  simp only [true_iff]
  exact ⟨fun hne => by_contra fun h => hidentity ⟨hne, h⟩,
    fun hne => by_contra fun h => hclient ⟨hne, h⟩⟩

theorem checkSessionBinding_eq_none :
    checkSessionBinding r session identityID clientUUID = none <->
      BindingProven r session identityID clientUUID := by
  unfold checkSessionBinding
  split
  · rename_i hempty
    simp only [true_iff]
    exact ⟨fun h => absurd hempty (by
        intro hboth
        rcases h with h | h
        · exact h hboth.left
        · exact h hboth.right),
      fun h => absurd hempty.left h, fun h => absurd hempty.right h⟩
  rename_i hbound
  have hnamed : session.identityID ≠ [] ∨ session.clientUUID ≠ [] := by
    rwa [not_and_or] at hbound
  split
  · rename_i htoken
    constructor
    · intro h
      cases h
    intro h
    exact absurd htoken (h.token hnamed)
  rename_i htoken
  cases hmismatch : bindingMismatch session.identityID session.clientUUID identityID
      clientUUID with
  | true =>
    rw [if_pos rfl]
    constructor
    · intro h
      cases h
    intro h
    rw [bindingMismatch_eq_false.mpr ⟨h.identity, h.client⟩] at hmismatch
    cases hmismatch
  | false =>
    rcases bindingMismatch_eq_false.mp hmismatch with ⟨hidentity, hclient⟩
    rw [if_neg (by decide)]
    exact ⟨fun _ => ⟨fun _ => htoken, hidentity, hclient⟩, fun _ => rfl⟩

variable {index : PartIndex}

theorem PartIndex.lookup_some {row : IndexedPart} (h : index.lookup partID = some row) :
    index.lookupFails = false ∧ row ∈ index.rows ∧ row.serves partID = true := by
  unfold PartIndex.lookup at h
  cases hfails : index.lookupFails with
  | true =>
    rw [hfails] at h
    cases h
  | false =>
    rw [hfails, if_neg (by decide)] at h
    have hserves := List.find?_some h
    refine ⟨rfl, ?_, hserves⟩
    exact (index.order.perm index.rows).mem_iff.mp (List.mem_of_find?_eq_some h)

theorem PartIndex.variantID_some {ratingKey id : GoString}
    (h : index.variantID partID ratingKey = some id) :
    index.variantFails = false ∧ exists row, row ∈ index.rows ∧
      row.serves partID = true ∧ row.ratingKey = ratingKey ∧ row.variant.variantUUID = id := by
  unfold PartIndex.variantID at h
  cases hfails : index.variantFails with
  | true =>
    rw [hfails] at h
    cases h
  | false =>
    rw [hfails, if_neg (by decide), Option.map_eq_some_iff] at h
    rcases h with ⟨row, hfind, hid⟩
    have hmatch := List.find?_some hfind
    rw [Bool.and_eq_true, beq_iff_eq] at hmatch
    refine ⟨rfl, row, ?_, hmatch.left, hmatch.right, hid⟩
    exact (index.order.perm index.rows).mem_iff.mp (List.mem_of_find?_eq_some hfind)

/-- A part of the selected variant: by its id when the session has one, and by its
media index otherwise. -/
def BelongsTo (b : Boundary) (session : Session) (partID : GoString) : Prop :=
  exists index row, b.index = some index ∧ row ∈ index.rows ∧ row.serves partID = true ∧
    row.ratingKey = session.ratingKey ∧
    if session.selectedVariantID ≠ [] then
      row.variant.variantUUID = session.selectedVariantID
    else row.variant.mediaIndex = session.selectedMediaIndex

/-- The query that compares a part with the selected variant cannot be answered. -/
def variantQueryFails (b : Boundary) (session : Session) : Prop :=
  forall index, b.index = some index ->
    if session.selectedVariantID ≠ [] then index.variantFails = true
    else index.lookupFails = true

theorem sameVariant_sound (h : sameVariant b session partID = true) :
    BelongsTo b session partID ∧ ¬ variantQueryFails b session := by
  unfold sameVariant at h
  split at h
  · cases h
  rename_i index hindex
  split at h
  · cases h
  split at h
  · rename_i hvariant
    rw [beq_iff_eq] at h
    rcases PartIndex.variantID_some h with ⟨hfails, row, hmem, hserves, hrating, hid⟩
    constructor
    · refine ⟨index, row, hindex, hmem, hserves, hrating, ?_⟩
      rw [if_pos hvariant]
      exact hid
    intro hquery
    have htrue := hquery index hindex
    rw [if_pos hvariant, hfails] at htrue
    cases htrue
  rename_i hvariant
  split at h
  · cases h
  split at h
  · cases h
  rename_i row hlookup
  simp only [Bool.and_eq_true, beq_iff_eq] at h
  rcases PartIndex.lookup_some hlookup with ⟨hfails, hmem, hserves⟩
  constructor
  · refine ⟨index, row, hindex, hmem, hserves, h.left, ?_⟩
    rw [if_neg hvariant]
    exact h.right
  intro hquery
  have htrue := hquery index hindex
  rw [if_neg hvariant, hfails] at htrue
  cases htrue

def AcceptedAlone (b : Boundary) (r : Request) (partID identityID clientUUID : GoString) :
    Prop :=
  extractToken r ≠ [] ∧
  exists index row pol scope dec, b.index = some index ∧ row ∈ index.rows ∧
    row.serves partID = true ∧
    loadEffective b.engine.policies identityID clientUUID = some (pol, scope) ∧
    evaluate pol scope
      [VariantSource.toPolicy
        { row.variant with partAvailable := row.variant.partKey != [] }] = Except.ok dec

def statelessQueryFails (b : Boundary) (identityID clientUUID : GoString) : Prop :=
  (forall index, b.index = some index -> index.lookupFails = true) ∨
    loadEffective b.engine.policies identityID clientUUID = none

theorem lookupPart_wired {variant : VariantSource} (h : lookupPart b.wired partID = some variant) :
    exists index row, b.index = some index ∧ index.lookup partID = some row ∧
      variant = { row.variant with partAvailable := row.variant.partKey != [] } := by
  unfold lookupPart at h
  split at h
  · cases h
  rw [Option.map_eq_some_iff] at h
  rcases h with ⟨indexed, hrow, hvariant⟩
  change (b.lookupRow partID).map IndexedPart.variant = some indexed at hrow
  rw [Option.map_eq_some_iff] at hrow
  rcases hrow with ⟨row, hrow, rfl⟩
  unfold Boundary.lookupRow at hrow
  split at hrow
  · cases hrow
  rename_i index hindex
  rw [hindex]
  exact ⟨index, row, rfl, hrow, hvariant.symm⟩

theorem enforceStateless_sound (h : (enforceStateless b.wired r partID identityID
    clientUUID).verdict.deny = false) :
    AcceptedAlone b r partID identityID clientUUID ∧
      ¬ statelessQueryFails b identityID clientUUID := by
  unfold enforceStateless at h
  split at h
  · cases h
  rename_i htoken
  split at h
  · cases h
  rename_i variant hpart
  rcases lookupPart_wired hpart with ⟨index, row, hindex, hrow, hvariant⟩
  rcases PartIndex.lookup_some hrow with ⟨hfails, hmem, hserves⟩
  have hpolicies : b.wired.policies = b.engine.policies := rfl
  rw [hpolicies] at h
  cases hload : loadEffective b.engine.policies identityID clientUUID with
  | none =>
    rw [hload] at h
    cases h
  | some loaded =>
    rw [hload] at h
    simp only at h
    cases hevaluate : evaluate loaded.1 loaded.2 [variant.toPolicy] with
    | error failure =>
      rw [hevaluate] at h
      cases h
    | ok dec =>
      rw [hvariant] at hevaluate
      constructor
      · exact ⟨htoken, index, row, loaded.1, loaded.2, dec, hindex, hmem, hserves,
          hload, hevaluate⟩
      intro hquery
      rcases hquery with hlookup | hnone
      · rw [hlookup index hindex] at hfails
        cases hfails
      rw [hnone] at hload
      cases hload

/-!
## Parts
-/

def Boundary.active (b : Boundary) (sessionID : GoString) : Option Session :=
  if sessionID = [] then none
  else
    match b.findActive sessionID with
    | .found session => some session
    | _ => none

theorem enforcePart_eq (hpart : partID ≠ []) (b : Boundary)
    (r : Request) (sessionID identityID clientUUID : GoString) :
    enforcePart b r partID sessionID identityID clientUUID =
      match b.active sessionID with
      | some session =>
        match checkSessionBinding r session identityID clientUUID with
        | some reason => refused reason
        | none => checkPart b session partID
      | none => (enforceStateless b.wired r partID identityID clientUUID).verdict := by
  unfold enforcePart Boundary.active
  rw [if_neg hpart]
  split
  · rfl
  cases b.findActive sessionID with
  | found | absent | failed => rfl

structure PartSound (b : Boundary) (r : Request)
    (partID sessionID identityID clientUUID : GoString) (v : Verdict) : Prop where
  allowed : v.deny = false -> v.substitute = [] ->
    (exists session, b.active sessionID = some session ∧
      BindingProven r session identityID clientUUID ∧
      (partID = session.selectedPartPlexID ∨ BelongsTo b session partID)) ∨
    (b.active sessionID = none ∧ AcceptedAlone b r partID identityID clientUUID)
  substituted : v.substitute ≠ [] -> exists session,
    b.active sessionID = some session ∧ v.substitute = session.selectedPartKey
  failures : v.deny = false -> v.substitute = [] ->
    (match b.active sessionID with
      | some session => variantQueryFails b session
      | none => statelessQueryFails b identityID clientUUID) ->
    exists session, b.active sessionID = some session ∧
      partID = session.selectedPartPlexID

theorem enforceStateless_substitute (e : Engine) (r : Request)
    (partID identityID clientUUID : GoString) :
    (enforceStateless e r partID identityID clientUUID).verdict.substitute = [] := by
  unfold enforceStateless
  split
  · rfl
  split
  · rfl
  split
  · rfl
  split
  · rfl
  · rfl

theorem checkPart_sound (b : Boundary) (session : Session) (partID : GoString) :
    ((checkPart b session partID).deny = false -> (checkPart b session partID).substitute = [] ->
        partID = session.selectedPartPlexID ∨ sameVariant b session partID = true) ∧
    ((checkPart b session partID).substitute ≠ [] ->
      (checkPart b session partID).substitute = session.selectedPartKey) := by
  unfold checkPart
  split
  · rename_i hselected
    exact ⟨fun _ _ => Or.inl hselected.right, fun h => absurd rfl h⟩
  split
  · rename_i hsame
    exact ⟨fun _ _ => Or.inr hsame.right, fun h => absurd rfl h⟩
  split
  · rename_i hkey
    exact ⟨fun _ hnone => absurd hnone hkey, fun _ => rfl⟩
  · exact ⟨fun h => absurd h (by decide), fun h => absurd rfl h⟩

/-- The part boundary is sound, whatever the store, the index and the policies answer. -/
theorem part_boundary_sound (b : Boundary) (r : Request)
    (partID sessionID identityID clientUUID : GoString) (hpart : partID ≠ []) :
    PartSound b r partID sessionID identityID clientUUID
      (enforcePart b r partID sessionID identityID clientUUID) := by
  rw [enforcePart_eq hpart]
  cases hactive : b.active sessionID with
  | none =>
    simp only
    constructor
    · intro hdeny _
      exact Or.inr ⟨hactive, (enforceStateless_sound hdeny).left⟩
    · intro hsubstitute
      exact absurd (enforceStateless_substitute _ _ _ _ _) hsubstitute
    intro hdeny _ hfails
    rw [hactive] at hfails
    exact absurd hfails (enforceStateless_sound hdeny).right
  | some session =>
    simp only
    cases hbinding : checkSessionBinding r session identityID clientUUID with
    | some reason =>
      simp only
      constructor
      · intro hdeny
        cases hdeny
      · intro hsubstitute
        exact absurd rfl hsubstitute
      intro hdeny
      cases hdeny
    | none =>
      simp only
      have hproven := checkSessionBinding_eq_none.mp hbinding
      rcases checkPart_sound b session partID with ⟨hallowed, hsubstituted⟩
      constructor
      · intro hdeny hnone
        left
        refine ⟨session, hactive, hproven, ?_⟩
        rcases hallowed hdeny hnone with hselected | hsame
        · exact Or.inl hselected
        · exact Or.inr (sameVariant_sound hsame).left
      · intro hsubstitute
        exact ⟨session, hactive, hsubstituted hsubstitute⟩
      intro hdeny hnone hfails
      rw [hactive] at hfails
      refine ⟨session, hactive, ?_⟩
      rcases hallowed hdeny hnone with hselected | hsame
      · exact hselected
      · exact absurd hfails (sameVariant_sound hsame).right

def filmSession : Session where
  plexSessionID := str "x"
  ratingKey := str "9"
  identityID := str "jodie"
  clientUUID := []
  selectedMediaIndex := 0
  selectedPartPlexID := str "301"
  selectedPartKey := str "/library/parts/301/17/file.mkv"
  selectedVariantID := str "v0"
  selectedPartID := str "p0"
  playbackMode := .directPlay
  routingMode := str "automatic"
  effectivePolicy := defaults

def secondPart : IndexedPart where
  serverEnabled := true
  ratingKey := str "9"
  variant := { candidateAt 0 with partPlexID := str "302" }

def filmIndex : PartIndex where
  rows := [secondPart]
  order := Order.stored _
  lookupFails := true
  variantFails := false

def filmBoundary : Boundary where
  engine := pmsEngine
  index := some filmIndex
  findActive := fun id => if id = str "x" then .found filmSession else .absent

def mediaRequest (path rawQuery : GoString) : Request :=
  Request.bareGet path rawQuery Header.empty

theorem part_boundary_second_part :
    enforcePart filmBoundary (mediaRequest (str "/library/parts/302/17/file.mkv")
      (str "token=t")) (str "302") (str "x") (str "jodie") [] = permitted ∧
    exists session, filmBoundary.active (str "x") = some session ∧
      (str "302" = session.selectedPartPlexID ∨ BelongsTo filmBoundary session (str "302")) := by
  have hpermitted : enforcePart filmBoundary
      (mediaRequest (str "/library/parts/302/17/file.mkv") (str "token=t")) (str "302")
      (str "x") (str "jodie") [] = permitted := by
    rfl
  refine ⟨hpermitted, ?_⟩
  have hsound := part_boundary_sound filmBoundary
    (mediaRequest (str "/library/parts/302/17/file.mkv") (str "token=t")) (str "302")
    (str "x") (str "jodie") [] (by decide)
  rw [hpermitted] at hsound
  rcases hsound.allowed rfl rfl with hsession | hstateless
  · rcases hsession with ⟨session, hactive, _, hpart⟩
    exact ⟨session, hactive, hpart⟩
  exact absurd hstateless.left (by
    intro h
    cases h)

/-!
## Manifests
-/

structure ManifestBound (r : Request) (session : Session)
    (identityID clientUUID : GoString) : Prop where
  binding : BindingProven r session identityID clientUUID
  titles : forall title, title ∈ namedTitles r.query -> title = session.ratingKey
  recorded : 0 ≤ session.selectedMediaIndex
  indexes : forall value, value ∈ r.query.all (str "mediaIndex") ->
    manifestIndex value = some session.selectedMediaIndex
  missing : r.query.all (str "mediaIndex") = [] -> session.selectedMediaIndex = 0
  modes : str "0" ∈ r.query.all (str "directPlay") ->
    str "0" ∈ r.query.all (str "directStream") ->
    session.effectivePolicy.allowTranscode ≠ .deny

structure RepeatsAgree (r : Request) (session : Session) : Prop where
  titles : forall title, title ∈ namedTitles r.query -> title ≠ extractRatingKey r ->
    title = session.ratingKey
  indexes : forall value, value ∈ (r.query.all (str "mediaIndex")).tail ->
    manifestIndex value = some session.selectedMediaIndex
  modes : session.effectivePolicy.allowTranscode = .deny ->
    str "0" ∈ r.query.all (str "directPlay") ->
    str "0" ∈ r.query.all (str "directStream") ->
    r.query.get (str "directPlay") = str "0" ∧ r.query.get (str "directStream") = str "0"

theorem get_eq_head (q : Values) (name : GoString) :
    q.get name = (q.all name).headD [] := by
  unfold Values.get Values.all
  induction q with
  | nil => rfl
  | cons pair q ih =>
    rw [List.find?_cons, List.filter_cons]
    cases pair.1 == name with
    | true => rfl
    | false => exact ih

theorem checkManifest_permitted :
    (checkManifest r session).deny = false <->
      (extractRatingKey r = [] ∨ extractRatingKey r = session.ratingKey) ∧
      ¬ ((r.query.get (str "directPlay") = str "0" ∧
          r.query.get (str "directStream") = str "0") ∧
        session.effectivePolicy.allowTranscode = .deny) ∧ 0 ≤ session.selectedMediaIndex ∧
      manifestIndex (r.query.get (str "mediaIndex")) = some session.selectedMediaIndex := by
  unfold checkManifest
  split
  · rename_i htitle
    constructor
    · intro h
      cases h
    intro h
    rcases h.left with hnone | hsame
    · exact absurd hnone htitle.left
    · exact absurd hsame htitle.right
  rename_i htitle
  split
  · rename_i hmode
    constructor
    · intro h
      cases h
    intro h
    exact absurd hmode h.right.left
  rename_i hmode
  split
  · rename_i hnegative
    constructor
    · intro h
      cases h
    intro h
    omega
  rename_i hnegative
  split
  · rename_i hindex
    refine ⟨fun _ => ⟨?_, hmode, by omega, hindex⟩, fun _ => rfl⟩
    by_cases hnone : extractRatingKey r = []
    · exact Or.inl hnone
    right
    by_contra hother
    exact htitle ⟨hnone, hother⟩
  rename_i hindex
  constructor
  · intro h
    cases h
  intro h
  exact absurd h.right.right.right hindex

theorem manifestBound_iff_repeatsAgree (hbinding : BindingProven r session identityID clientUUID)
    (hpermitted : (checkManifest r session).deny = false) :
    ManifestBound r session identityID clientUUID <-> RepeatsAgree r session := by
  rcases checkManifest_permitted.mp hpermitted with ⟨htitle, hmode, hrecorded, hindex⟩
  rw [get_eq_head] at hindex
  constructor
  · intro h
    constructor
    · intro title hnamed _
      exact h.titles title hnamed
    · intro value hvalue
      exact h.indexes value (List.mem_of_mem_tail hvalue)
    intro hdeny hplay hstream
    exact absurd hdeny (h.modes hplay hstream)
  intro h
  refine ⟨hbinding, ?_, hrecorded, ?_, ?_, ?_⟩
  · intro title hnamed
    by_cases hread : title = extractRatingKey r
    · rcases htitle with hnone | hsame
      · exact absurd (hread.trans hnone) (mem_namedTitles.mp hnamed).left
      · exact hread.trans hsame
    · exact h.titles title hnamed hread
  · intro value hvalue
    cases hall : r.query.all (str "mediaIndex") with
    | nil =>
      rw [hall] at hvalue
      cases hvalue
    | cons first rest =>
      rw [hall] at hvalue hindex
      rcases List.mem_cons.mp hvalue with rfl | hrest
      · exact hindex
      apply h.indexes
      rw [hall]
      exact hrest
  · intro hnone
    rw [hnone] at hindex
    exact (Option.some.inj hindex).symm
  intro hplay hstream hdeny
  exact hmode ⟨h.modes hdeny hplay hstream, hdeny⟩

theorem enforceManifest_permitted {sessionID : GoString} :
    (enforceManifest b r sessionID identityID clientUUID).deny = false <->
      exists session, b.findActive sessionID = .found session ∧
        BindingProven r session identityID clientUUID ∧ (checkManifest r session).deny = false := by
  unfold enforceManifest
  cases hfind : b.findActive sessionID with
  | absent | failed =>
    simp [refused]
  | found session =>
    simp only [Lookup.found.injEq, exists_eq_left']
    cases hbinding : checkSessionBinding r session identityID clientUUID with
    | some reason =>
      constructor
      · intro h
        cases h
      intro h
      rw [checkSessionBinding_eq_none.mpr h.left] at hbinding
      cases hbinding
    | none =>
      simp only
      exact ⟨fun h => ⟨checkSessionBinding_eq_none.mp hbinding, h⟩, fun h => h.right⟩

/-- A manifest that is let through is bound to its session in every parameter exactly
when it is refused or no value behind the first disagrees. -/
theorem manifest_bound_iff (b : Boundary) (r : Request)
    (sessionID identityID clientUUID : GoString) :
    ((enforceManifest b r sessionID identityID clientUUID).deny = false ->
        exists session, b.findActive sessionID = .found session ∧
          ManifestBound r session identityID clientUUID) <->
      (enforceManifest b r sessionID identityID clientUUID).deny = true ∨
        forall session, b.findActive sessionID = .found session -> RepeatsAgree r session := by
  cases hdeny : (enforceManifest b r sessionID identityID clientUUID).deny with
  | true =>
    simp
  | false =>
    rcases enforceManifest_permitted.mp hdeny with ⟨session, hfind, hbinding, hpermitted⟩
    have hiff := manifestBound_iff_repeatsAgree hbinding hpermitted
    rw [hfind]
    simp [hiff]

/-- A manifest whose first values are the recorded ones, with another title and another
candidate behind them. -/
def repeatedManifest : Request :=
  mediaRequest (str "/video/:/transcode/universal/start.m3u8")
    (str "ratingKey=9&path=%2Flibrary%2Fmetadata%2F10&mediaIndex=0&mediaIndex=1&token=t")

theorem repeated_values_accepted :
    (enforceManifest filmBoundary repeatedManifest (str "x") (str "jodie") []).deny = false ∧
    str "10" ∈ namedTitles repeatedManifest.query ∧
    str "1" ∈ repeatedManifest.query.all (str "mediaIndex") ∧
    ¬ exists session, filmBoundary.findActive (str "x") = .found session ∧
      ManifestBound repeatedManifest session (str "jodie") [] := by
  have htitle : str "10" ∈ namedTitles repeatedManifest.query := by decide +kernel
  refine ⟨by decide +kernel, htitle, by decide +kernel, ?_⟩
  intro h
  rcases h with ⟨session, hfind, hbound⟩
  cases hfind
  exact absurd (hbound.titles (str "10") htitle) (by decide)

end ReplxEdge.Playback
