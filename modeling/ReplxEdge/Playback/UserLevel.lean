import ReplxEdge.Playback.Engine

/-!
# The user level of the effective policy

A caller whose link row names an identity is held to that identity's policy
exactly when the resolver finds the identity. An unresolved caller is evaluated
without a user level, and is not refused for it.
-/

namespace ReplxEdge.Playback

open Foundation
open Net
open Trace
open Identity
open MediaPolicy

def LinkNames (w : Caller) (r : Request) (I : GoString) : Prop :=
  exists server row, w.database.enabled = some server ∧
    w.database.links.lookup (server, fingerprint w.secret (extractToken r)) = some row ∧
    row.identityID = some I

def Evaluates (e : Engine) (I : GoString) (evaluated : Option Policy) : Prop :=
  exists pol user, evaluated = some pol ∧
    e.policies.user I = .found user ∧ IncludesUser pol user

/-- A negotiation is refused or evaluates the user level of the linked identity. -/
def DecisionKept (w : Caller) (e : Engine) (r : Request) : Prop :=
  forall I, LinkNames w r I -> e.policies.user I ≠ .absent ->
    (decisionFor w e r).outcome.refused = true ∨
      Evaluates e I (decisionFor w e r).evaluated

/-- A part is refused or checked under the user level of the linked identity. -/
def PartKept (w : Caller) (e : Engine) (r : Request) (partID : GoString) : Prop :=
  forall I, LinkNames w r I -> e.policies.user I ≠ .absent ->
    (partCheckFor w e r partID).verdict.deny = true ∨
      Evaluates e I (partCheckFor w e r partID).evaluated

def CallerFound (w : Caller) (r : Request) (I : GoString) : Prop :=
  exists resolver, w.resolver = some resolver ∧
    ResolvesTo resolver w.database w.conditions w.now
      (fingerprint w.secret (extractToken r)) (extractToken r) I

theorem linkNames_ne_nil {w : Caller} {r : Request} {I : GoString}
    (h : LinkNames w r I) : I ≠ [] := by
  rcases h with ⟨server, row, _, _, hid⟩
  intro hnil
  rw [hnil] at hid
  exact row.named hid

theorem resolveCaller_identity {w : Caller} {r : Request} {I : GoString}
    (hI : I ≠ []) (htoken : extractToken r ≠ []) :
    (resolveCaller w r).1 = I <-> CallerFound w r I := by
  unfold resolveCaller CallerFound
  rw [if_neg htoken]
  cases hresolver : w.resolver with
  | none =>
    constructor
    · intro h
      exact absurd h.symm hI
    intro h
    rcases h with ⟨resolver, hsome, _⟩
    cases hsome
  | some resolver =>
    simp only [Option.some.injEq, exists_eq_left']
    exact resolve_identity hI

/-!
## A resolved caller
-/

section Resolved

variable {e : Engine} {r : Request} {identityID : GoString}

theorem evaluates_of_load {clientUUID : GoString} {pol : Policy} {scope : Level}
    (hid : identityID ≠ []) (hrow : e.policies.user identityID ≠ .absent)
    (hload : loadEffective e.policies identityID clientUUID = some (pol, scope)) :
    Evaluates e identityID (some pol) := by
  have hanswer : forall answer, e.policies.user identityID = answer ->
      answer ≠ .absent := by
    intro answer h
    rw [← h]
    exact hrow
  rcases loadEffective_includes hid hanswer hload with ⟨user, hfound, hincl⟩
  exact ⟨pol, user, rfl, hfound, hincl⟩

theorem handleDecision_kept (sessionID clientUUID : GoString) (hid : identityID ≠ [])
    (hrow : e.policies.user identityID ≠ .absent) :
    (handleDecision e r sessionID identityID clientUUID).outcome.refused = true ∨
      Evaluates e identityID (handleDecision e r sessionID identityID clientUUID).evaluated := by
  unfold handleDecision
  split
  · exact Or.inl rfl
  split
  · exact Or.inl rfl
  cases hload : loadEffective e.policies identityID clientUUID with
  | none => exact Or.inl rfl
  | some loaded =>
    simp only
    split
    · exact Or.inl rfl
    · exact Or.inr (evaluates_of_load hid hrow hload)

theorem enforceStateless_kept (partID clientUUID : GoString) (hid : identityID ≠ [])
    (hrow : e.policies.user identityID ≠ .absent) :
    (enforceStateless e r partID identityID clientUUID).verdict.deny = true ∨ Evaluates e identityID
        (enforceStateless e r partID identityID clientUUID).evaluated := by
  unfold enforceStateless
  split
  · exact Or.inl rfl
  split
  · exact Or.inl rfl
  cases hload : loadEffective e.policies identityID clientUUID with
  | none => exact Or.inl rfl
  | some loaded =>
    simp only
    split
    · exact Or.inl rfl
    · exact Or.inr (evaluates_of_load hid hrow hload)

end Resolved

/-!
## A caller resolved to somebody else

An engine whose only policy row is the user level of one identity lets every
other caller through under the defaults.
-/

def no4K : Policy where
  maxSourceWidth := none
  maxSourceHeight := none
  maxSourceBitrateKbps := none
  maxStreamingBitrateKbps := none
  allow4K := .deny
  allowHDR := .inherit
  allowDolbyVision := .inherit
  allowTranscode := .inherit
  preferDirectPlay := .inherit
  maxAudioChannels := none
  unknownDRBehavior := .inherit
  routingMode := []
  provenance := fun _ => none

def restricting (I : GoString) : Source where
  server := some (str "srv")
  global := .absent
  user := fun id => if id = I then .found no4K else .absent
  device := fun _ => .absent

def fourK : VariantSource where
  mediaIndex := 0
  width := some 3840
  height := some 2160
  bitrateKbps := some 60000
  dynamicRange := .sdr
  videoCodec := str "hevc"
  audioChannels := some 8
  partAvailable := true
  partKey := str "/library/parts/42/file.mkv"
  partPlexID := str "42"
  variantUUID := str "v"
  partUUID := str "p"

def directAnswer : Forwarded where
  status := 200
  contentType := str "application/json"
  body := []
  response := some ⟨1000, true, false, false, none⟩

def restrictingEngine (I : GoString) : Engine where
  origin := str "http://pms:32400"
  policies := restricting I
  indexVariants := fun _ => [fourK]
  liveVariants := fun _ _ => none
  pms := fun _ => some directAnswer
  create := fun _ => .acknowledged (str "session")
  partRow := fun _ => some fourK

section Others

variable {I J : GoString}

theorem restricting_user (I : GoString) :
    (restrictingEngine I).policies.user I = .found no4K := by
  change (if I = I then .found no4K else LevelAnswer.absent) = _
  rw [if_pos rfl]

theorem loadLevel_absent {answer : GoString -> LevelAnswer} {id : GoString}
    (h : answer id = .absent) : loadLevel answer id = some none := by
  unfold loadLevel
  rw [h, ite_self]

theorem loadEffective_restricting (hother : J ≠ I) (clientID : GoString) :
    loadEffective (restricting I) J clientID = some (defaults, .global) := by
  have huser : loadLevel (restricting I).user J = some none :=
    loadLevel_absent (if_neg hother)
  have hdevice : loadLevel (restricting I).device clientID = some none :=
    loadLevel_absent rfl
  unfold loadEffective
  rw [huser, hdevice]
  rfl

theorem not_evaluates_defaults : ¬ Evaluates (restrictingEngine I) I (some defaults) := by
  intro h
  rcases h with ⟨pol, user, hpol, huser, hincl⟩
  rw [restricting_user] at huser
  cases huser
  cases hpol
  have hset : no4K.configures .allow4K = true := rfl
  exact includesUser_provenance hincl hset rfl

theorem handleDecision_other {r : Request} (sessionID clientUUID : GoString)
    (hother : J ≠ I) (hrating : extractRatingKey r ≠ []) (htoken : extractToken r ≠ []) :
    (handleDecision (restrictingEngine I) r sessionID J clientUUID).outcome.refused = false ∧
      (handleDecision (restrictingEngine I) r sessionID J clientUUID).evaluated =
        some defaults := by
  have hload : loadEffective (restrictingEngine I).policies J clientUUID =
      some (defaults, .global) := loadEffective_restricting hother clientUUID
  unfold handleDecision
  rw [if_neg hrating, if_neg htoken, hload]
  exact ⟨rfl, rfl⟩

variable {partID : GoString}

theorem enforceStateless_other {r : Request} (clientUUID : GoString)
    (hother : J ≠ I) (hpart : partID ≠ []) (htoken : extractToken r ≠ []) :
    (enforceStateless (restrictingEngine I) r partID J clientUUID).verdict.deny = false ∧
    (enforceStateless (restrictingEngine I) r partID J clientUUID).evaluated = some defaults := by
  have hload : loadEffective (restrictingEngine I).policies J clientUUID =
      some (defaults, .global) := loadEffective_restricting hother clientUUID
  have hfound : lookupPart (restrictingEngine I) partID = some fourK := by
    unfold lookupPart
    rw [if_neg hpart]
    rfl
  unfold enforceStateless
  rw [if_neg htoken, hfound, hload]
  exact ⟨rfl, rfl⟩

theorem restricting_present (I : GoString) :
    (restrictingEngine I).policies.user I ≠ .absent := by
  rw [restricting_user]
  simp

variable {w : Caller} {r : Request}

theorem not_decisionKept (hlink : LinkNames w r I) (hother : (resolveCaller w r).1 ≠ I)
    (hrating : extractRatingKey r ≠ []) (htoken : extractToken r ≠ []) :
    ¬ DecisionKept w (restrictingEngine I) r := by
  intro h
  have hopen := handleDecision_other (extractSession r) (resolveCaller w r).2 hother
    hrating htoken
  rcases h I hlink (restricting_present I) with hrefused | heval
  · exact absurd (hopen.left.symm.trans hrefused) (by decide)
  unfold decisionFor at heval
  rw [hopen.right] at heval
  exact not_evaluates_defaults heval

theorem not_partKept (hlink : LinkNames w r I)
    (hother : (resolveCaller w r).1 ≠ I) (hpart : partID ≠ [])
    (htoken : extractToken r ≠ []) : ¬ PartKept w (restrictingEngine I) r partID := by
  intro h
  have hopen := enforceStateless_other (resolveCaller w r).2 hother hpart htoken
  rcases h I hlink (restricting_present I) with hdeny | heval
  · exact absurd (hopen.left.symm.trans hdeny) (by decide)
  unfold partCheckFor at heval
  rw [hopen.right] at heval
  exact not_evaluates_defaults heval

end Others

/-!
## Every caller
-/

theorem decision_kept_iff (w : Caller) (r : Request) :
    (forall e, DecisionKept w e r) <-> extractRatingKey r = [] ∨ extractToken r = [] ∨
        forall I, LinkNames w r I -> CallerFound w r I := by
  constructor
  · intro h
    by_cases hrating : extractRatingKey r = []
    · exact Or.inl hrating
    by_cases htoken : extractToken r = []
    · exact Or.inr (Or.inl htoken)
    refine Or.inr (Or.inr ?_)
    intro I hlink
    rw [← resolveCaller_identity (linkNames_ne_nil hlink) htoken]
    by_contra hother
    exact not_decisionKept hlink hother hrating htoken (h (restrictingEngine I))
  intro h e I hlink hrow
  unfold decisionFor
  rcases h with hrating | htoken | hfound
  · apply Or.inl
    unfold handleDecision
    rw [if_pos hrating]
    rfl
  · apply Or.inl
    unfold handleDecision
    split
    all_goals rfl
  by_cases htoken : extractToken r = []
  · apply Or.inl
    unfold handleDecision
    rw [if_pos htoken]
    split
    all_goals rfl
  have hid := (resolveCaller_identity (linkNames_ne_nil hlink) htoken).mpr
    (hfound I hlink)
  rw [hid]
  exact handleDecision_kept _ _ (linkNames_ne_nil hlink) hrow

theorem part_kept_iff (w : Caller) (r : Request) (partID : GoString) :
    (forall e, PartKept w e r partID) <-> partID = [] ∨ extractToken r = [] ∨
        forall I, LinkNames w r I -> CallerFound w r I := by
  constructor
  · intro h
    by_cases hpart : partID = []
    · exact Or.inl hpart
    by_cases htoken : extractToken r = []
    · exact Or.inr (Or.inl htoken)
    refine Or.inr (Or.inr ?_)
    intro I hlink
    rw [← resolveCaller_identity (linkNames_ne_nil hlink) htoken]
    by_contra hother
    exact not_partKept hlink hother hpart htoken (h (restrictingEngine I))
  intro h e I hlink hrow
  unfold partCheckFor
  by_cases htoken : extractToken r = []
  · apply Or.inl
    unfold enforceStateless
    rw [if_pos htoken]
    rfl
  rcases h with hpart | hnone | hfound
  · apply Or.inl
    unfold enforceStateless lookupPart
    rw [if_neg htoken, if_pos hpart]
    rfl
  · exact absurd hnone htoken
  have hid := (resolveCaller_identity (linkNames_ne_nil hlink) htoken).mpr
    (hfound I hlink)
  rw [hid]
  exact enforceStateless_kept _ _ (linkNames_ne_nil hlink) hrow

/-- The user level is kept for every policy table and title exactly for the callers
that cannot be checked at all and those whose linked identity is found. -/
theorem user_level_kept_iff (w : Caller) (r : Request) (partID : GoString) :
    ((forall e, DecisionKept w e r) <-> extractRatingKey r = [] ∨ extractToken r = [] ∨
        forall I, LinkNames w r I -> CallerFound w r I) ∧ ((forall e, PartKept w e r partID) <->
      partID = [] ∨ extractToken r = [] ∨ forall I, LinkNames w r I -> CallerFound w r I) :=
  ⟨decision_kept_iff w r, part_kept_iff w r partID⟩

/-!
## A lost link query
-/

def linkedRow : LinkRow where
  identityID := some (str "jodie")
  status := .valid
  validatedAt := some 0
  named := by decide

def linkedDatabase (secret token : GoString) : Database where
  enabled := some (str "srv")
  links := Table.empty.set (str "srv", fingerprint secret token) linkedRow
  identities := [⟨str "srv", str "jodie", some 7⟩]
  clients := []

def outage : Conditions where
  serverFails := false
  linkFails := true
  identityInsertFails := false
  identitySelectFails := false
  linkWriteFails := false
  invalidWriteFails := false
  clientFails := false
  newIdentity := str "new"
  newClient := str "client"
  account := .failed

def freshResolver : Resolver where
  db := true
  tv := true
  acct := Table.empty
  cli := Table.empty
  server := []
  srvAt := 0

def outageCaller : Caller where
  secret := str "s"
  resolver := some freshResolver
  order := ⟨Order.stored _, Order.stored _⟩
  database := linkedDatabase (str "s") (str "t")
  conditions := outage
  now := 0

def titleRequest : Request :=
  Request.bareGet (str "/video/:/transcode/universal/decision")
    (str "ratingKey=9&token=t") Header.empty

theorem outage_unresolved : (resolveCaller outageCaller titleRequest).1 = [] := by
  decide +kernel

theorem outage_linked : LinkNames outageCaller titleRequest (str "jodie") := by
  refine ⟨str "srv", linkedRow, rfl, ?_, rfl⟩
  have htoken : extractToken titleRequest = str "t" := by decide +kernel
  change (Table.empty.set (str "srv", fingerprint (str "s") (str "t")) linkedRow).lookup
    (str "srv", fingerprint (str "s") (extractToken titleRequest)) = some linkedRow
  rw [htoken, Table.lookup_set, if_pos rfl]

/-- During the outage a 4K title that the linked user may not play is negotiated, and
its part is let through. -/
theorem outage_drops_user_level :
    ¬ DecisionKept outageCaller (restrictingEngine (str "jodie")) titleRequest ∧
      ¬ PartKept outageCaller (restrictingEngine (str "jodie")) titleRequest (str "42") := by
  have hother : (resolveCaller outageCaller titleRequest).1 ≠ str "jodie" := by
    rw [outage_unresolved]
    decide
  have htoken : extractToken titleRequest ≠ [] := by decide +kernel
  have hrating : extractRatingKey titleRequest ≠ [] := by decide +kernel
  constructor
  · exact not_decisionKept outage_linked hother hrating htoken
  · exact not_partKept outage_linked hother (by decide) htoken

end ReplxEdge.Playback
