import ReplxEdge.MediaPolicy.Levels
import ReplxEdge.MediaPolicy.Selection

/-!
# Provenance

Every field of a loaded policy comes from the most specific level that sets it, and a
rejection names the level behind a limit that the variant is beyond. What the loop over
the levels makes of the texts is the policy that evaluation reads.
-/

namespace ReplxEdge.MediaPolicy

open Foundation
open Admin (PolicyConfig unmarshalPolicy)
open Playback (normalize levelPolicy)

/-!
## The loaded policy
-/

def foundLevels (levels : List LoadedLevel) : List (Level × PolicyConfig) :=
  levels.filterMap fun l => (readLevel l.row).join.map fun c => (l.level, c)

def overlayFound (p : TextPolicy) (found : Level × PolicyConfig) : TextPolicy :=
  p.mergeAs ⟨found.2, fun _ => none⟩ found.1.name

def behind (found : List (Level × PolicyConfig)) (field : PolicyField) :
    Option (Level × PolicyConfig) :=
  found.reverse.find? fun l => configures l.2 field

theorem foldlM_loadStep_none (levels : List LoadedLevel) (start : TextPolicy × GoString) :
    levels.foldlM loadStep start = none <-> exists l, l ∈ levels ∧ readLevel l.row = none := by
  induction levels generalizing start with
  | nil =>
    simp
  | cons l rest ih =>
    rw [List.foldlM_cons]
    cases hread : readLevel l.row with
    | none =>
      have hstep : loadStep start l = none := by
        unfold loadStep
        rw [hread]
        rfl
      rw [hstep]
      simp [hread]
    | some found =>
      have hstep : exists next, loadStep start l = some next := by
        unfold loadStep
        rw [hread]
        exact ⟨_, rfl⟩
      rcases hstep with ⟨next, hnext⟩
      rw [hnext]
      change rest.foldlM loadStep next = none <-> _
      rw [ih next]
      simp [hread]

variable {loaded : TextPolicy × GoString}

theorem foldlM_loadStep_some {levels : List LoadedLevel} {start : TextPolicy × GoString}
    (h : levels.foldlM loadStep start = some loaded) :
    loaded.1 = (foundLevels levels).foldl overlayFound start.1 := by
  induction levels generalizing start with
  | nil =>
    cases h
    rfl
  | cons l rest ih =>
    rw [List.foldlM_cons] at h
    rcases Option.bind_eq_some_iff.mp h with ⟨next, hnext, hrest⟩
    unfold loadStep at hnext
    rcases Option.map_eq_some_iff.mp hnext with ⟨found, hread, hfound⟩
    rw [ih hrest]
    unfold foundLevels
    cases found with
    | none =>
      cases hfound
      rw [List.filterMap_cons_none (by simp [hread])]
      rfl
    | some c =>
      cases hfound
      rw [List.filterMap_cons_some (b := (l.level, c)) (by simp [hread]), List.foldl_cons]
      rfl

theorem foldl_overlayFound (found : List (Level × PolicyConfig)) (p : TextPolicy)
    (field : PolicyField) :
    valueOf (found.foldl overlayFound p).config field =
        (behind found field).elim (valueOf p.config field) (fun l => valueOf l.2 field) ∧
      (found.foldl overlayFound p).provenance field.name =
        (behind found field).elim (p.provenance field.name) (fun l => some l.1.name) := by
  induction found generalizing p with
  | nil => exact ⟨rfl, rfl⟩
  | cons l rest ih =>
    have hbehind : behind (l :: rest) field =
        (behind rest field).or (if configures l.2 field then some l else none) := by
      unfold behind
      rw [List.reverse_cons, List.find?_append, List.find?_singleton]
    have hvalue : valueOf (overlayFound p l).config field =
        if configures l.2 field then valueOf l.2 field else valueOf p.config field :=
      valueOf_mergeConfig p.config l.2 field
    have hname : (overlayFound p l).provenance field.name =
        if configures l.2 field then some l.1.name else p.provenance field.name :=
      mergeAs_provenance_name p ⟨l.2, fun _ => none⟩ l.1.name_ne_nil field
    rw [List.foldl_cons, (ih (overlayFound p l)).left, (ih (overlayFound p l)).right,
      hbehind, hvalue, hname]
    cases behind rest field with
    | some other => exact ⟨rfl, rfl⟩
    | none =>
      rw [Option.none_or]
      split
      all_goals exact ⟨rfl, rfl⟩

def policyAt (row : ConfigRow) : TextPolicy :=
  ⟨(readLevel row).join.getD emptyConfig, fun _ => none⟩

theorem loadStep_policyAt {sofar next : TextPolicy × GoString} {l : LoadedLevel}
    (h : loadStep sofar l = some next) :
    next.1 = sofar.1.mergeAs (policyAt l.row) l.level.name := by
  unfold loadStep at h
  rcases Option.map_eq_some_iff.mp h with ⟨found, hread, hfound⟩
  unfold policyAt
  rw [hread]
  cases found with
  | none =>
    cases hfound
    exact (TextPolicy.mergeAs_empty sofar.1 _ _ rfl).symm
  | some c =>
    cases hfound
    rfl

theorem loadText_three (db : Option PolicyRows) (identityID clientID : Option GoString) :
    loadText db identityID clientID = [⟨.global, globalRow db⟩, ⟨.user, userRow db identityID⟩,
        ⟨.device, deviceRow db clientID⟩].foldlM loadStep
        (TextPolicy.defaults, Level.global.name) := by
  have hskip : forall (sofar : TextPolicy × GoString) (level : Level),
      loadStep sofar ⟨level, .missing⟩ = some sofar := fun _ _ => rfl
  have huser : userRow db none = .missing := by
    cases db <;> rfl
  have hdevice : deviceRow db none = .missing := by
    cases db <;> rfl
  unfold loadText applicable
  cases identityID with
  | none =>
    cases clientID with
    | none =>
      simp [huser, hdevice, hskip]
    | some client =>
      simp [huser, hskip]
  | some identity =>
    cases clientID with
    | none =>
      simp [hdevice, hskip]
    | some client => rfl

variable {db : Option PolicyRows} {identityID clientID : Option GoString}

theorem loadText_effective (h : loadText db identityID clientID = some loaded) :
    loaded.1 = TextPolicy.effective (policyAt (globalRow db)) (policyAt (userRow db identityID))
    (policyAt (deviceRow db clientID)) := by
  rw [loadText_three, List.foldlM_cons] at h
  rcases Option.bind_eq_some_iff.mp h with ⟨first, hfirst, h⟩
  rw [List.foldlM_cons] at h
  rcases Option.bind_eq_some_iff.mp h with ⟨second, hsecond, h⟩
  rw [List.foldlM_cons] at h
  rcases Option.bind_eq_some_iff.mp h with ⟨third, hthird, h⟩
  cases h
  rw [loadStep_policyAt hthird, loadStep_policyAt hsecond, loadStep_policyAt hfirst]
  rfl

/-!
## Rejections
-/

def beyond (p : Policy) (v : Variant) : PolicyField -> Bool
  | .maxSourceWidth => exceeds v.width p.maxSourceWidth
  | .maxSourceHeight => exceeds v.height p.maxSourceHeight
  | .maxSourceBitrateKbps => exceeds v.bitrateKbps p.maxSourceBitrateKbps
  | .allow4K => is4K v && p.allow4K = .deny
  | .allowDolbyVision =>
    v.dynamicRange = .dolbyVision && p.allowDolbyVision = .deny
  | .unknownDRBehavior =>
    v.dynamicRange = .unknown && p.unknownDRBehavior = .deny
  | .allowHDR =>
    [.hdr10, .hdr10Plus, .hlg, .hdrOther].contains v.dynamicRange && p.allowHDR = .deny
  | _ => false

def Reason.fields : Reason -> List PolicyField
  | .maxSourceResolution => [.maxSourceWidth, .maxSourceHeight]
  | .source4KDenied => [.allow4K]
  | .hdrDenied => [.allowHDR]
  | .dolbyVisionDenied => [.allowDolbyVision]
  | .sourceBitrateCeil => [.maxSourceBitrateKbps]
  | .partUnavailable => []
  | .unknownDRDenied => [.unknownDRBehavior]

theorem resolutionField_mem (v : Variant) (p : Policy) :
    resolutionField v p ∈ Reason.maxSourceResolution.fields := by
  unfold resolutionField
  split
  all_goals decide

variable {p : Policy} {v : Variant}

theorem resolutionField_beyond (h : overResolution v p = true) :
    beyond p v (resolutionField v p) = true := by
  unfold resolutionField
  split
  · assumption
  rename_i hheight
  unfold overResolution at h
  rw [Bool.or_eq_true] at h
  rcases h with hwidth | hother
  · exact hwidth
  · exact absurd hother hheight

theorem violation_beyond {reason : Reason}
    {field : Option PolicyField} (h : violation p v = some (reason, field)) :
    (reason = .partUnavailable ∧ field = none ∧ v.partAvailable = false) ∨
      exists limit, field = some limit ∧ limit ∈ reason.fields ∧ beyond p v limit = true := by
  unfold violation at h
  split at h
  · rename_i hpart
    cases h
    left
    exact ⟨rfl, rfl, Bool.eq_false_iff.mpr (by simpa using hpart)⟩
  right
  split at h
  · rename_i hfour
    cases h
    exact ⟨_, rfl, by decide, hfour⟩
  split at h
  · rename_i hover
    cases h
    exact ⟨_, rfl, resolutionField_mem v p, resolutionField_beyond hover⟩
  split at h
  · rename_i hdenies
    unfold deniesDR at hdenies
    cases hrange : v.dynamicRange with
    | sdr =>
      rw [hrange] at hdenies
      cases hdenies
    | unknown | hdr10 | hdr10Plus | hlg | hdrOther =>
      rw [hrange] at h hdenies
      cases h
      exact ⟨_, rfl, by decide, by simpa [beyond, hrange] using hdenies⟩
    | dolbyVision =>
      rw [hrange] at h hdenies
      simp only [reduceCtorEq, if_false, true_and] at h
      rw [if_pos (of_decide_eq_true hdenies)] at h
      cases h
      exact ⟨_, rfl, by decide, by simpa [beyond, hrange] using hdenies⟩
  split at h
  · rename_i hbitrate
    cases h
    exact ⟨_, rfl, by decide, hbitrate⟩
  · cases h

theorem rejected_beyond {scope : Level} {variants : List Variant}
    {rejection : Rejection} (h : rejection ∈ (evaluateAll p scope variants).rejected) :
    exists v, v ∈ variants ∧ rejection.mediaIndex = v.mediaIndex ∧
    ((rejection.reason = .partUnavailable ∧ v.partAvailable = false) ∨
        exists limit, limit ∈ rejection.reason.fields ∧ beyond p v limit = true ∧
          rejection.scope = (p.provenance limit).getD scope) := by
  rw [evaluateAll_rejected] at h
  rcases List.mem_filterMap.mp h with ⟨v, hv, hrejection⟩
  rcases Option.map_eq_some_iff.mp hrejection with ⟨found, hfound, rfl⟩
  rcases found with ⟨reason, field⟩
  refine ⟨v, hv, rfl, ?_⟩
  rcases violation_beyond hfound with ⟨hreason, _, hpart⟩ | ⟨limit, rfl, hmem, hbeyond⟩
  · left
    exact ⟨hreason, hpart⟩
  right
  exact ⟨limit, hmem, hbeyond, rfl⟩

/-!
## The policy that evaluation reads
-/

def Level.ofName (name : GoString) : Option Level :=
  [.default, .global, .user, .device].find? fun level => level.name == name

theorem Level.ofName_name (level : Level) : Level.ofName level.name = some level := by
  cases level <;> decide

def TextPolicy.policy (p : TextPolicy) : Policy :=
  { levelPolicy p.config with
    provenance := fun field => (p.provenance field.name).bind Level.ofName }

theorem TextPolicy.policy_defaults : TextPolicy.defaults.policy = MediaPolicy.defaults := by
  unfold TextPolicy.policy MediaPolicy.defaults
  have hprovenance : (fun field : PolicyField =>
      (TextPolicy.defaults.provenance field.name).bind Level.ofName) =
        fun _ => some .default := by
    funext field
    rw [defaults_provenance, Option.bind_some, Level.ofName_name]
  rw [hprovenance]
  rfl

theorem normalize_pickText (base specific : GoString) :
    normalize (pickText base specific) = pickState (normalize base) (normalize specific) := by
  unfold pickText pickState
  split
  · exact normalize_text _
  · rfl

theorem TextPolicy.policy_mergeAs (base : TextPolicy) (c : PolicyConfig) (level : Level) :
    (base.mergeAs ⟨c, fun _ => none⟩ level.name).policy =
      MediaPolicy.mergeAs base.policy (levelPolicy c) level := by
  have hprovenance : (fun field : PolicyField =>
      ((base.mergeAs ⟨c, fun _ => none⟩ level.name).provenance field.name).bind Level.ofName) =
      fun field => if (levelPolicy c).configures field then some level
        else base.policy.provenance field := by
    funext field
    rw [mergeAs_provenance_name _ _ level.name_ne_nil]
    unfold configures
    split
    · rw [Option.bind_some, Level.ofName_name]
    · rfl
  have hmode : pickMode base.config.routingMode c.routingMode =
      if (levelPolicy c).configures .routingMode then c.routingMode
      else base.config.routingMode := by
    unfold pickMode Policy.configures levelPolicy
    simp only [Bool.and_eq_true, bne_iff_ne, Bool.not_eq_true']
  unfold TextPolicy.policy MediaPolicy.mergeAs
  rw [hprovenance]
  simp only [TextPolicy.mergeAs, mergeConfig, levelPolicy, normalize_pickText]
  rw [hmode]
  rfl

/-- The answers of the loader's queries, decoded. -/
def ConfigRow.answer (row : ConfigRow) : LevelAnswer :=
  (readLevel row).elim .unavailable fun found =>
    found.elim .absent fun c => .found (levelPolicy c)

def PolicyRows.source (rows : PolicyRows) (server : GoString) : Source where
  server := some server
  global := rows.global.answer
  user := fun id => (rows.user id).answer
  device := fun id => (rows.device id).answer

def strOrNil (s : GoString) : Option GoString :=
  if s = [] then none else some s

theorem loadStep_policy (sofar : TextPolicy × GoString) (l : LoadedLevel) :
    (loadStep sofar l).map (fun next => next.1.policy) =
      (readLevel l.row).map fun found =>
        overlay sofar.1.policy l.level (found.map levelPolicy) := by
  unfold loadStep
  cases readLevel l.row with
  | none => rfl
  | some found =>
    cases found with
    | none => rfl
    | some c => exact congrArg some (TextPolicy.policy_mergeAs sofar.1 c l.level)

theorem loadLevel_answer (row : GoString -> ConfigRow) (id : GoString) :
    loadLevel (fun id => (row id).answer) id =
      (readLevel (((strOrNil id).map row).getD .missing)).map fun found =>
        found.map levelPolicy := by
  unfold loadLevel strOrNil
  by_cases hid : id = []
  · rw [if_pos hid, if_pos hid]
    rfl
  rw [if_neg hid, if_neg hid]
  unfold ConfigRow.answer
  simp only [Option.map_some, Option.getD_some]
  cases readLevel (row id) with
  | none => rfl
  | some found =>
    cases found with
    | none | some => rfl

theorem loadGlobal_answer (row : ConfigRow) :
    loadGlobal row.answer = (readLevel row).map fun found => found.map levelPolicy := by
  unfold ConfigRow.answer
  cases readLevel row with
  | none => rfl
  | some found =>
    cases found with
    | none | some => rfl

/-- One round of the same loop over policies that are already decoded. -/
def overlayStep (p : Policy) (l : LoadedLevel) : Option Policy :=
  (readLevel l.row).map fun found => overlay p l.level (found.map levelPolicy)

theorem foldlM_loadStep_policy (levels : List LoadedLevel) (start : TextPolicy × GoString) :
    (levels.foldlM loadStep start).map (fun loaded => loaded.1.policy) =
      levels.foldlM overlayStep start.1.policy := by
  induction levels generalizing start with
  | nil => rfl
  | cons l rest ih =>
    have hstep : (loadStep start l).map (fun next => next.1.policy) =
        overlayStep start.1.policy l := loadStep_policy start l
    rw [List.foldlM_cons, List.foldlM_cons, ← hstep]
    cases loadStep start l with
    | none => rfl
    | some next => exact ih next

theorem loadText_policy (rows : PolicyRows) (server identityID clientID : GoString) :
    (loadText (some rows) (strOrNil identityID) (strOrNil clientID)).map
        (fun loaded => loaded.1.policy) =
      (loadEffective (rows.source server) identityID clientID).map Prod.fst := by
  rw [loadText_three, foldlM_loadStep_policy, TextPolicy.policy_defaults]
  unfold loadEffective PolicyRows.source
  simp only [loadGlobal_answer, loadLevel_answer, List.foldlM_cons, List.foldlM_nil,
    overlayStep, globalRow, userRow, deviceRow, Option.elim_some, Option.bind_some]
  cases readLevel rows.global with
  | none => rfl
  | some global =>
    cases readLevel (((strOrNil identityID).map rows.user).getD .missing) with
    | none => rfl
    | some user =>
      cases readLevel (((strOrNil clientID).map rows.device).getD .missing) with
      | none | some => rfl

/-!
## The whole load
-/

/-- What a load returns for a caller: field by field the value of the most specific level
that sets it, with the name of that level. -/
structure LoadedFrom (db : Option PolicyRows) (identityID clientID : Option GoString)
    (pol : TextPolicy) : Prop where
  value : forall field, valueOf pol.config field =
    (behind (foundLevels (applicable db identityID clientID)) field).elim
      (valueOf TextPolicy.defaults.config field) (fun l => valueOf l.2 field)
  provenance : forall field, pol.provenance field.name =
    some ((behind (foundLevels (applicable db identityID clientID)) field).elim
      .default Prod.fst).name
  folded : pol = TextPolicy.effective (policyAt (globalRow db))
    (policyAt (userRow db identityID)) (policyAt (deviceRow db clientID))

theorem loadText_loadedFrom {pol : TextPolicy} {scope : GoString}
    (h : loadText db identityID clientID = some (pol, scope)) :
    LoadedFrom db identityID clientID pol := by
  have hfold : pol = (foundLevels (applicable db identityID clientID)).foldl overlayFound
      TextPolicy.defaults := foldlM_loadStep_some h
  have hfields := foldl_overlayFound (foundLevels (applicable db identityID clientID))
    TextPolicy.defaults
  constructor
  · intro field
    rw [hfold]
    exact (hfields field).left
  · intro field
    rw [hfold, (hfields field).right, defaults_provenance]
    cases behind (foundLevels (applicable db identityID clientID)) field with
    | none | some => rfl
  · exact loadText_effective h

/-- Loading, rejecting and merging keep track of the level behind every field. -/
theorem effective_provenance :
    (forall db identityID clientID, (loadText db identityID clientID = none <->
        exists l, l ∈ applicable db identityID clientID ∧ readLevel l.row = none) ∧
      forall pol scope, loadText db identityID clientID = some (pol, scope) ->
        LoadedFrom db identityID clientID pol) ∧ (forall p scope variants rejection,
      rejection ∈ (evaluateAll p scope variants).rejected ->
        exists v, v ∈ variants ∧ rejection.mediaIndex = v.mediaIndex ∧
          ((rejection.reason = .partUnavailable ∧ v.partAvailable = false) ∨
            exists limit, limit ∈ rejection.reason.fields ∧ beyond p v limit = true ∧
              rejection.scope = (p.provenance limit).getD scope)) ∧
    (forall a b c : TextPolicy, (a.merge b).merge c = a.merge (b.merge c)) ∧
    forall p : TextPolicy, p.merge TextPolicy.empty = p := by
  constructor
  · intro db identityID clientID
    constructor
    · exact foldlM_loadStep_none _ _
    intro pol scope h
    exact loadText_loadedFrom h
  constructor
  · intro p scope variants rejection h
    exact rejected_beyond h
  constructor
  · exact TextPolicy.merge_assoc
  intro p
  exact TextPolicy.mergeAs_empty p TextPolicy.empty [] rfl

end ReplxEdge.MediaPolicy
