import ReplxEdge.MediaPolicy.Evaluate

/-!
# Loading the effective policy

One query per applicable level. A missing row is inheritance; a failed query or
a configuration that does not decode fails the whole load.
-/

namespace ReplxEdge.MediaPolicy

open Foundation

inductive LevelAnswer where
  | unavailable
  | absent
  | found (p : Policy)

/-- The answers the loader gets: the enabled server's row, the global level, and the
user and device levels by their id. A failed server query is `none`. -/
structure Source where
  server : Option GoString
  global : LevelAnswer
  user : GoString -> LevelAnswer
  device : GoString -> LevelAnswer

/-- The policy of a level, `none` where it is inherited. -/
abbrev Configured := Option Policy

def overlay (base : Policy) (level : Level) : Configured -> Policy
  | none => base
  | some p => mergeAs base p level

def compose (global user device : Configured) : Policy :=
  overlay (overlay (overlay defaults .global global) .user user)
    .device device

def scopeOf (user device : Configured) : Level :=
  if device.isSome then .device
  else if user.isSome then .user
  else .global

/-- A level that applies to the caller; an unresolved id makes it inapplicable. -/
def loadLevel (answer : GoString -> LevelAnswer) (id : GoString) : Option Configured :=
  if id = [] then some none
  else
    match answer id with
    | .unavailable => none
    | .absent => some none
    | .found p => some (some p)

def loadGlobal : LevelAnswer -> Option Configured
  | .unavailable => none
  | .absent => some none
  | .found p => some (some p)

/-- The effective policy for an identity and a client, empty ids standing for
unresolved ones; `none` when the load fails. -/
def loadEffective (source : Source) (identityID clientID : GoString) :
    Option (Policy × Level) :=
  match source.server with
  | none => none
  | some _ =>
    match loadGlobal source.global with
    | none => none
    | some global =>
      match loadLevel source.user identityID with
      | none => none
      | some user =>
        match loadLevel source.device clientID with
        | none => none
        | some device => some (compose global user device, scopeOf user device)

theorem loadLevel_of_answers {answer other : GoString -> LevelAnswer} {id : GoString}
    {level : Configured} (h : loadLevel answer id = some level)
    (hother : forall id, answer id ≠ .unavailable -> other id = answer id) :
    loadLevel other id = some level := by
  unfold loadLevel at h ⊢
  split at h
  · rename_i hid
    rw [if_pos hid]
    exact h
  rename_i hid
  rw [if_neg hid, hother id]
  · exact h
  intro hunavailable
  rw [hunavailable] at h
  cases h

variable {source : Source} {identityID clientID : GoString}

theorem loadEffective_of_answers {other : Source} {loaded : Policy × Level}
    (h : loadEffective source identityID clientID = some loaded)
    (hserver : other.server = source.server)
    (hglobal : source.global ≠ .unavailable -> other.global = source.global)
    (huser : forall id, source.user id ≠ .unavailable -> other.user id = source.user id)
    (hdevice : forall id, source.device id ≠ .unavailable -> other.device id = source.device id) :
    loadEffective other identityID clientID = some loaded := by
  unfold loadEffective at h ⊢
  rw [hserver]
  cases hs : source.server with
  | none =>
    rw [hs] at h
    cases h
  | some server =>
    rw [hs] at h
    simp only at h ⊢
    have hg : other.global = source.global := by
      apply hglobal
      intro hunavailable
      rw [hunavailable] at h
      cases h
    rw [hg]
    cases hload : loadGlobal source.global with
    | none =>
      rw [hload] at h
      cases h
    | some global =>
      rw [hload] at h
      simp only at h ⊢
      split at h
      · cases h
      rename_i user hu
      rw [loadLevel_of_answers hu huser]
      simp only at h ⊢
      split at h
      · cases h
      rename_i device hd
      rw [loadLevel_of_answers hd hdevice]
      exact h

def IncludesUser (pol user : Policy) : Prop :=
  exists global device, pol = compose global (some user) device

variable {pol : Policy} {scope : Level}

theorem loadEffective_eq (h : loadEffective source identityID clientID = some (pol, scope)) :
    exists global user device, loadLevel source.user identityID = some user ∧
      pol = compose global user device := by
  unfold loadEffective at h
  split at h
  · cases h
  rename_i server hserver
  cases hglobal : loadGlobal source.global with
  | none =>
    rw [hglobal] at h
    cases h
  | some global =>
    rw [hglobal] at h
    cases huser : loadLevel source.user identityID with
    | none =>
      rw [huser] at h
      cases h
    | some user =>
      rw [huser] at h
      cases hdevice : loadLevel source.device clientID with
      | none =>
        rw [hdevice] at h
        cases h
      | some device =>
        rw [hdevice] at h
        cases h
        exact ⟨global, user, device, rfl, rfl⟩

theorem loadEffective_includes (hid : identityID ≠ [])
    (hrow : forall answer, source.user identityID = answer -> answer ≠ .absent)
    (h : loadEffective source identityID clientID = some (pol, scope)) :
    exists p, source.user identityID = .found p ∧ IncludesUser pol p := by
  rcases loadEffective_eq h with ⟨global, user, device, huser, hpol⟩
  unfold loadLevel at huser
  rw [if_neg hid] at huser
  cases hanswer : source.user identityID with
  | unavailable =>
    rw [hanswer] at huser
    cases huser
  | absent => exact absurd rfl (hrow .absent hanswer)
  | found p =>
    rw [hanswer] at huser
    cases huser
    exact ⟨p, rfl, global, device, hpol⟩

theorem mergeAs_provenance (base specific : Policy) (level : Level) (field : PolicyField) :
    (mergeAs base specific level).provenance field =
      if specific.configures field then some level else base.provenance field :=
  rfl

theorem includesUser_provenance {user : Policy} (h : IncludesUser pol user)
    {field : PolicyField} (hset : user.configures field = true) :
    pol.provenance field ≠ some .default := by
  rcases h with ⟨global, device, rfl⟩
  have huser : (overlay (overlay defaults .global global) .user
      (some user)).provenance field = some .user := by
    change (mergeAs _ user .user).provenance field = some .user
    rw [mergeAs_provenance, if_pos hset]
  unfold compose
  cases device with
  | none =>
    change (overlay (overlay defaults .global global) .user (some user)).provenance field ≠ _
    rw [huser]
    decide
  | some p =>
    change (mergeAs _ p .device).provenance field ≠ _
    rw [mergeAs_provenance]
    split
    · decide
    rw [huser]
    decide

end ReplxEdge.MediaPolicy
