import ReplxEdge.Playback.CurrentPolicy

/-!
# Policy levels

Policies as they are decoded, with their texts, and the loop that overlays the levels of a
caller and keeps for every field the name of the level behind it.
-/

namespace ReplxEdge.MediaPolicy

open Foundation
open Admin (PolicyConfig unmarshalPolicy)
open Playback (normalize levelPolicy)

/-!
## Fields
-/

namespace PolicyField

def all : List PolicyField :=
  [maxSourceWidth, maxSourceHeight, maxSourceBitrateKbps, maxStreamingBitrateKbps, allow4K,
    allowHDR, allowDolbyVision, allowTranscode, preferDirectPlay, maxAudioChannels,
    unknownDRBehavior, routingMode]

def name : PolicyField -> GoString
  | maxSourceWidth => str "maxSourceWidth"
  | maxSourceHeight => str "maxSourceHeight"
  | maxSourceBitrateKbps => str "maxSourceBitrateKbps"
  | maxStreamingBitrateKbps => str "maxStreamingBitrateKbps"
  | allow4K => str "allow4K"
  | allowHDR => str "allowHDR"
  | allowDolbyVision => str "allowDolbyVision"
  | allowTranscode => str "allowTranscode"
  | preferDirectPlay => str "preferDirectPlay"
  | maxAudioChannels => str "maxAudioChannels"
  | unknownDRBehavior => str "unknownDynamicRangeBehavior"
  | routingMode => str "routingMode"

theorem mem_all (field : PolicyField) : field ∈ all := by
  cases field <;> decide

theorem name_inj {field other : PolicyField} (h : field.name = other.name) :
    field = other := by
  have hall : forall a, a ∈ all -> forall b, b ∈ all -> a.name = b.name -> a = b := by decide
  exact hall field field.mem_all other other.mem_all h

end PolicyField

def Level.name : Level -> GoString
  | .default => str "DEFAULT"
  | .global => str "GLOBAL"
  | .user => str "USER"
  | .device => str "DEVICE"

def TriState.text : TriState -> GoString
  | .inherit => str "inherit"
  | .allow => str "allow"
  | .deny => str "deny"

/-!
## Policies with their texts
-/

/-- A policy, and the name of a level for the fields that have one. -/
structure TextPolicy where
  config : PolicyConfig
  provenance : GoString -> Option GoString

def emptyConfig : PolicyConfig :=
  ⟨none, none, none, none, [], [], [], [], [], none, [], []⟩

namespace TextPolicy

def empty : TextPolicy :=
  ⟨emptyConfig, fun _ => none⟩

def defaults : TextPolicy where
  config :=
    { emptyConfig with
      allow4K := str "allow"
      allowHDR := str "allow"
      allowDolbyVision := str "allow"
      allowTranscode := str "allow"
      preferDirectPlay := str "allow"
      unknownDRBehavior := str "allow"
      routingMode := str "automatic" }
  provenance := fun name =>
    if PolicyField.all.any fun field => field.name == name then some Level.default.name
    else none

end TextPolicy

def pickText (base specific : GoString) : GoString :=
  if normalize specific ≠ .inherit then (normalize specific).text else base

def pickMode (base specific : GoString) : GoString :=
  if specific ≠ [] ∧ equalFold specific (str "inherit") = false then specific else base

def mergeConfig (base specific : PolicyConfig) : PolicyConfig where
  maxSourceWidth := pickBound base.maxSourceWidth specific.maxSourceWidth
  maxSourceHeight := pickBound base.maxSourceHeight specific.maxSourceHeight
  maxSourceBitrateKbps := pickBound base.maxSourceBitrateKbps specific.maxSourceBitrateKbps
  maxStreamingBitrateKbps :=
    pickBound base.maxStreamingBitrateKbps specific.maxStreamingBitrateKbps
  allow4K := pickText base.allow4K specific.allow4K
  allowHDR := pickText base.allowHDR specific.allowHDR
  allowDolbyVision := pickText base.allowDolbyVision specific.allowDolbyVision
  allowTranscode := pickText base.allowTranscode specific.allowTranscode
  preferDirectPlay := pickText base.preferDirectPlay specific.preferDirectPlay
  maxAudioChannels := pickBound base.maxAudioChannels specific.maxAudioChannels
  unknownDRBehavior := pickText base.unknownDRBehavior specific.unknownDRBehavior
  routingMode := pickMode base.routingMode specific.routingMode

def configures (c : PolicyConfig) (field : PolicyField) : Bool :=
  (levelPolicy c).configures field

namespace TextPolicy

/-- Overlay a more specific policy. With a scope, the fields that it replaces are
stamped with it. -/
def mergeAs (base specific : TextPolicy) (scope : GoString) : TextPolicy where
  config := mergeConfig base.config specific.config
  provenance := fun name =>
    if scope ≠ [] ∧ (PolicyField.all.any fun field =>
        field.name == name && configures specific.config field) = true then some scope
    else base.provenance name

def merge (base specific : TextPolicy) : TextPolicy :=
  mergeAs base specific []

def effective (global user device : TextPolicy) : TextPolicy :=
  mergeAs (mergeAs (mergeAs defaults global Level.global.name) user Level.user.name) device
    Level.device.name

end TextPolicy

/-!
## Loading
-/

inductive ConfigRow where
  | failed
  | missing
  | config (stored : Json)

/-- The answers for the enabled rows of one server; there may be no database. -/
structure PolicyRows where
  global : ConfigRow
  user : GoString -> ConfigRow
  device : GoString -> ConfigRow

structure LoadedLevel where
  level : Level
  row : ConfigRow

def readLevel : ConfigRow -> Option (Option PolicyConfig)
  | .failed => none
  | .missing => some none
  | .config stored => (unmarshalPolicy stored).map some

/-- The row of a level. Without a database, or without the id that activates the level,
none is found. -/
def globalRow (db : Option PolicyRows) : ConfigRow :=
  db.elim .missing PolicyRows.global

def userRow (db : Option PolicyRows) (identityID : Option GoString) : ConfigRow :=
  (db.bind fun rows => identityID.map rows.user).getD .missing

def deviceRow (db : Option PolicyRows) (clientID : Option GoString) : ConfigRow :=
  (db.bind fun rows => clientID.map rows.device).getD .missing

def applicable (db : Option PolicyRows) (identityID clientID : Option GoString) :
    List LoadedLevel :=
  ⟨.global, globalRow db⟩ ::
    ((if identityID.isSome then [⟨.user, userRow db identityID⟩] else []) ++
      if clientID.isSome then [⟨.device, deviceRow db clientID⟩] else [])

/-- One round of the loop over the levels. A provenance in the row itself is not read. -/
def loadStep (sofar : TextPolicy × GoString) (l : LoadedLevel) :
    Option (TextPolicy × GoString) :=
  (readLevel l.row).map fun found =>
    found.elim sofar fun c =>
      (sofar.1.mergeAs ⟨c, fun _ => none⟩ l.level.name, l.level.name)

def loadText (db : Option PolicyRows) (identityID clientID : Option GoString) :
    Option (TextPolicy × GoString) :=
  (applicable db identityID clientID).foldlM loadStep
    (TextPolicy.defaults, Level.global.name)

/-!
## Field by field
-/

/-- What a policy says about a field; a state counts as it is normalized. -/
inductive FieldValue where
  | bound (limit : Option Int)
  | state (value : TriState)
  | mode (text : GoString)
deriving DecidableEq

def valueOf (c : PolicyConfig) : PolicyField -> FieldValue
  | .maxSourceWidth => .bound c.maxSourceWidth
  | .maxSourceHeight => .bound c.maxSourceHeight
  | .maxSourceBitrateKbps => .bound c.maxSourceBitrateKbps
  | .maxStreamingBitrateKbps => .bound c.maxStreamingBitrateKbps
  | .allow4K => .state (normalize c.allow4K)
  | .allowHDR => .state (normalize c.allowHDR)
  | .allowDolbyVision => .state (normalize c.allowDolbyVision)
  | .allowTranscode => .state (normalize c.allowTranscode)
  | .preferDirectPlay => .state (normalize c.preferDirectPlay)
  | .maxAudioChannels => .bound c.maxAudioChannels
  | .unknownDRBehavior => .state (normalize c.unknownDRBehavior)
  | .routingMode => .mode c.routingMode

theorem normalize_text (t : TriState) : normalize t.text = t := by
  cases t <;> decide

theorem bound_pickBound (base specific : Option Int) :
    .bound (pickBound base specific) =
      if specific.isSome then .bound specific else FieldValue.bound base := by
  unfold pickBound
  split
  all_goals rfl

theorem state_pickText (base specific : GoString) :
    .state (normalize (pickText base specific)) = if (normalize specific != .inherit) = true then
        .state (normalize specific) else FieldValue.state (normalize base) := by
  unfold pickText
  by_cases hset : normalize specific = .inherit
  · rw [if_neg (not_not.mpr hset), hset]
    rfl
  · rw [if_pos hset, normalize_text, if_pos (bne_iff_ne.mpr hset)]

theorem mode_pickMode (base specific : GoString) :
    .mode (pickMode base specific) =
      if (specific != [] && !equalFold specific (str "inherit")) = true then
        .mode specific else FieldValue.mode base := by
  unfold pickMode
  simp only [Bool.and_eq_true, bne_iff_ne, Bool.not_eq_true']
  split
  all_goals rfl

theorem valueOf_mergeConfig (base specific : PolicyConfig) (field : PolicyField) :
    valueOf (mergeConfig base specific) field =
      if configures specific field then valueOf specific field else valueOf base field := by
  cases field with
  | maxSourceWidth | maxSourceHeight | maxSourceBitrateKbps | maxStreamingBitrateKbps
  | maxAudioChannels => exact bound_pickBound _ _
  | allow4K | allowHDR | allowDolbyVision | allowTranscode | preferDirectPlay
  | unknownDRBehavior => exact state_pickText _ _
  | routingMode => exact mode_pickMode _ _

theorem any_field (field : PolicyField) (test : PolicyField -> Bool) :
    (PolicyField.all.any fun other => other.name == field.name && test other) =
      test field := by
  rw [Bool.eq_iff_iff, List.any_eq_true]
  constructor
  · intro h
    rcases h with ⟨other, _, hother⟩
    rw [Bool.and_eq_true, beq_iff_eq] at hother
    rw [← PolicyField.name_inj hother.left]
    exact hother.right
  intro h
  exists field
  rw [h]
  exact ⟨field.mem_all, by simp⟩

theorem mergeAs_provenance_name (base specific : TextPolicy) {scope : GoString}
    (hscope : scope ≠ []) (field : PolicyField) :
    (base.mergeAs specific scope).provenance field.name =
      if configures specific.config field then some scope else base.provenance field.name := by
  unfold TextPolicy.mergeAs
  simp only [any_field, hscope, ne_eq, not_false_eq_true, true_and]

theorem defaults_provenance (field : PolicyField) :
    TextPolicy.defaults.provenance field.name = some Level.default.name := by
  cases field <;> rfl

theorem Level.name_ne_nil (level : Level) : level.name ≠ [] := by
  cases level <;> decide

/-!
## Merging
-/

theorem pickBound_assoc (a b c : Option Int) :
    pickBound (pickBound a b) c = pickBound a (pickBound b c) := by
  cases c with
  | none | some => rfl

theorem pickText_assoc (a b c : GoString) :
    pickText (pickText a b) c = pickText a (pickText b c) := by
  by_cases hc : normalize c = .inherit
  · have hkeep : forall base, pickText base c = base := by
      intro base
      unfold pickText
      rw [if_neg (not_not.mpr hc)]
    rw [hkeep, hkeep]
  have htake : forall base, pickText base c = (normalize c).text := by
    intro base
    unfold pickText
    rw [if_pos hc]
  rw [htake, htake]
  unfold pickText
  rw [normalize_text, if_pos hc]

theorem pickMode_assoc (a b c : GoString) :
    pickMode (pickMode a b) c = pickMode a (pickMode b c) := by
  by_cases hc : c ≠ [] ∧ equalFold c (str "inherit") = false
  · have htake : forall base, pickMode base c = c := by
      intro base
      unfold pickMode
      rw [if_pos hc]
    rw [htake, htake, htake]
  have hkeep : forall base, pickMode base c = base := by
    intro base
    unfold pickMode
    rw [if_neg hc]
  rw [hkeep, hkeep]

theorem mergeConfig_assoc (a b c : PolicyConfig) :
    mergeConfig (mergeConfig a b) c = mergeConfig a (mergeConfig b c) := by
  unfold mergeConfig
  simp only [pickBound_assoc, pickText_assoc, pickMode_assoc]

theorem mergeConfig_empty (c : PolicyConfig) : mergeConfig c emptyConfig = c := by
  have htext : forall base, pickText base [] = base := fun _ => rfl
  have hmode : forall base, pickMode base [] = base := fun _ => rfl
  unfold mergeConfig emptyConfig
  simp only [htext, hmode]
  rfl

namespace TextPolicy

theorem merge_provenance (base specific : TextPolicy) :
    (base.merge specific).provenance = base.provenance := by
  funext name
  unfold merge mergeAs
  simp

theorem merge_assoc (a b c : TextPolicy) : (a.merge b).merge c = a.merge (b.merge c) := by
  have hconfig : ((a.merge b).merge c).config = (a.merge (b.merge c)).config :=
    mergeConfig_assoc a.config b.config c.config
  have hprovenance : ((a.merge b).merge c).provenance =
      (a.merge (b.merge c)).provenance := by
    rw [merge_provenance, merge_provenance, merge_provenance]
  cases hleft : (a.merge b).merge c
  cases hright : a.merge (b.merge c)
  rw [hleft, hright] at hconfig hprovenance
  cases hconfig
  cases hprovenance
  rfl

theorem configures_empty (field : PolicyField) : configures emptyConfig field = false := by
  cases field <;> rfl

theorem mergeAs_empty (p specific : TextPolicy) (scope : GoString)
    (h : specific.config = emptyConfig) : p.mergeAs specific scope = p := by
  have hnone : forall name, (PolicyField.all.any fun field =>
      field.name == name && configures specific.config field) = false := by
    intro name
    rw [List.any_eq_false]
    intro field _
    rw [h, configures_empty, Bool.and_false]
    decide
  unfold mergeAs
  simp only [hnone, Bool.false_eq_true, and_false, if_false]
  rw [h, mergeConfig_empty]

end TextPolicy

end ReplxEdge.MediaPolicy
