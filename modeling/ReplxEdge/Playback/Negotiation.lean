import ReplxEdge.Playback.Targets

/-!
# What a negotiation records

A relayed decision leaves a session behind, and the part boundary later trusts
it. The record is right when it holds a candidate that policy allows, the one
that PMS negotiated, and when the request names no other title than the one the
candidates were loaded for.
-/

namespace ReplxEdge.Playback

open Foundation
open Net
open Trace
open MediaPolicy

variable {response : DecisionResponse} {e : Engine} {r : Request}
variable {identityID clientUUID title : GoString} {sources : List VariantSource}
variable {answer : Forwarded} {source selected : VariantSource} {q : Values}

/-!
## Accepted answers
-/

/-- The response of an answer that passes every check in front of the session store. -/
def acceptedResponse (pol : Policy) (dec : Decision) (answer : Forwarded) :
    Option DecisionResponse :=
  match answer.response with
  | none => none
  | some response =>
    if (answer.status < 200 ∨ 299 < answer.status) ∨
        (response.code = 0 ∧ response.directPlay = false ∧
          response.directStream = false ∧ response.transcode = false) ∨
        rejectedByPolicy dec.rejected dec.selected.mediaIndex response.mediaIndex = true ∨
        (modeOf response = .transcode ∧ pol.allowTranscode = .deny) then
      none
    else some response

section Relayed

variable {e : Engine} {r : Request} {sessionID identityID clientUUID : GoString}
variable {pol : Policy} {scope : Level} {sources : List VariantSource} {dec : Decision}
variable {selected : VariantSource} {answer relayed : Forwarded} {session : Session}

theorem acceptAnswer_relayed {chosen : VariantSource × Int} :
    (acceptAnswer e r sessionID identityID clientUUID pol answer response chosen).outcome =
        .relayed relayed session <-> relayed = answer ∧
      session = sessionFor r sessionID identityID clientUUID pol response chosen ∧
      exists id, e.create session = .acknowledged id := by
  unfold acceptAnswer
  cases hcreate : e.create (sessionFor r sessionID identityID clientUUID pol response chosen)
    with
  | acknowledged id =>
    simp only [hcreate]
    constructor
    · intro h
      cases h
      exact ⟨rfl, rfl, id, hcreate⟩
    intro h
    rw [h.left, h.right.left]
  | unacknowledged | failed =>
    simp only [hcreate]
    constructor
    · intro h
      cases h
    rintro ⟨_, rfl, id, hid⟩
    cases hcreate.symm.trans hid

theorem acceptAnswer_created {chosen : VariantSource × Int} :
    (acceptAnswer e r sessionID identityID clientUUID pol answer response chosen).created =
        some session <->
      session = sessionFor r sessionID identityID clientUUID pol response chosen ∧
      e.create session ≠ .failed := by
  unfold acceptAnswer
  cases hcreate : e.create (sessionFor r sessionID identityID clientUUID pol response chosen)
    with
  | acknowledged | unacknowledged =>
    simp only [hcreate]
    constructor
    · intro h
      cases h
      exact ⟨rfl, by simp [hcreate]⟩
    intro h
    rw [h.left]
  | failed =>
    simp only [hcreate]
    constructor
    · intro h
      cases h
    rintro ⟨rfl, hkept⟩
    exact absurd hcreate hkept

theorem checkAnswer_some (h : acceptedResponse pol dec answer = some response) :
    checkAnswer e r sessionID identityID clientUUID pol sources dec selected answer =
      acceptAnswer e r sessionID identityID clientUUID pol answer response
        (trackedSelection sources selected dec.selected.mediaIndex response.mediaIndex) := by
  unfold acceptedResponse at h
  unfold checkAnswer
  cases hfound : answer.response with
  | none =>
    rw [hfound] at h
    cases h
  | some found =>
    rw [hfound] at h
    simp only at h ⊢
    split at h
    · cases h
    rename_i hchecks
    cases h
    simp only [not_or] at hchecks
    rcases hchecks with ⟨hstatus, hsignal, hrejected, hmode⟩
    rw [if_neg (not_or.mpr hstatus), if_neg hsignal, if_neg hrejected, if_neg hmode]

theorem checkAnswer_none (h : acceptedResponse pol dec answer = none) :
    exists o : Outcome, o.refused = true ∧ checkAnswer e r sessionID identityID clientUUID pol
      sources dec selected answer = o.only := by
  unfold acceptedResponse at h
  unfold checkAnswer
  cases hresponse : answer.response with
  | none => exact ⟨_, rfl, rfl⟩
  | some response =>
    rw [hresponse] at h
    simp only at h ⊢
    split
    · exact ⟨_, rfl, rfl⟩
    rename_i hstatus
    split
    · exact ⟨_, rfl, rfl⟩
    rename_i hsignal
    split
    · exact ⟨_, rfl, rfl⟩
    rename_i hrejected
    split
    · exact ⟨_, rfl, rfl⟩
    rename_i hmode
    simp [hstatus, hsignal, hrejected, hmode] at h

end Relayed

/-- How a decision is relayed: the loaded policy, the evaluation, the candidate it
selects, the answer of PMS and its accepted response. -/
structure Negotiated (e : Engine) (r : Request) (identityID clientUUID : GoString)
    (pol : Policy) (scope : Level) (dec : Decision) (selected : VariantSource)
    (answer : Forwarded) (response : DecisionResponse) : Prop where
  rating : extractRatingKey r ≠ []
  token : extractToken r ≠ []
  loaded : loadEffective e.policies identityID clientUUID = some (pol, scope)
  evaluated : evaluate pol scope
    ((variants e r (extractToken r)).map VariantSource.toPolicy) = Except.ok dec
  candidate : indexOf (variants e r (extractToken r)) dec.selected.mediaIndex =
    some selected
  forwarded : forward e r (extractToken r) dec.selected.mediaIndex
    dec.outputBitrateKbps = some answer
  accepted : acceptedResponse pol dec answer = some response

section Answers

variable {sessionID : GoString} {pol : Policy} {scope : Level} {dec : Decision}

theorem Negotiated.answered
    (h : Negotiated e r identityID clientUUID pol scope dec selected answer response)
    (sessionID : GoString) :
    (handleDecision e r sessionID identityID clientUUID).toAnswered =
      acceptAnswer e r sessionID identityID clientUUID pol answer response
        (trackedSelection (variants e r (extractToken r)) selected dec.selected.mediaIndex
          response.mediaIndex) := by
  unfold handleDecision
  rw [if_neg h.rating, if_neg h.token, h.loaded]
  simp only
  have hcandidate := h.candidate
  have hevaluated := h.evaluated
  cases hsources : variants e r (extractToken r) with
  | nil =>
    rw [hsources] at hcandidate
    cases hcandidate
  | cons first rest =>
    rw [hsources] at hcandidate hevaluated
    simp only [negotiate, hevaluated, hcandidate, h.forwarded, checkAnswer_some h.accepted]

theorem negotiate_cases (sessionID : GoString) (pol : Policy) (scope : Level)
    (sources : List VariantSource) :
    (exists dec selected answer response,
      evaluate pol scope (sources.map VariantSource.toPolicy) = Except.ok dec ∧
      indexOf sources dec.selected.mediaIndex = some selected ∧
      forward e r (extractToken r) dec.selected.mediaIndex dec.outputBitrateKbps = some answer ∧
      acceptedResponse pol dec answer = some response) ∨
    exists o : Outcome, o.refused = true ∧
      negotiate e r sessionID identityID clientUUID pol scope sources = o.only := by
  unfold negotiate
  cases hevaluate : evaluate pol scope (sources.map VariantSource.toPolicy) with
  | error failure =>
    rcases failure with ⟨code, rejected⟩
    cases code with
    | noAllowedVariant | transcodeForbidden => exact Or.inr ⟨_, rfl, rfl⟩
  | ok dec =>
    simp only
    cases hindex : indexOf sources dec.selected.mediaIndex with
    | none => exact Or.inr ⟨_, rfl, rfl⟩
    | some selected =>
      simp only
      cases hforward : forward e r (extractToken r) dec.selected.mediaIndex
          dec.outputBitrateKbps with
      | none => exact Or.inr ⟨_, rfl, rfl⟩
      | some answer =>
        cases haccepted : acceptedResponse pol dec answer with
        | none => exact Or.inr (checkAnswer_none haccepted)
        | some response =>
          exact Or.inl ⟨dec, selected, answer, response, rfl, hindex, hforward, haccepted⟩

theorem handleDecision_cases (e : Engine) (r : Request)
    (sessionID identityID clientUUID : GoString) :
    (exists pol scope dec selected answer response,
      Negotiated e r identityID clientUUID pol scope dec selected answer response) ∨
    exists o : Outcome, o.refused = true ∧
      (handleDecision e r sessionID identityID clientUUID).toAnswered = o.only := by
  unfold handleDecision
  split
  · exact Or.inr ⟨_, rfl, rfl⟩
  rename_i hrating
  split
  · exact Or.inr ⟨_, rfl, rfl⟩
  rename_i htoken
  split
  · exact Or.inr ⟨_, rfl, rfl⟩
  rename_i pol scope hload
  split
  · exact Or.inr ⟨_, rfl, rfl⟩
  rename_i first rest hsources
  rcases negotiate_cases sessionID pol scope (first :: rest) with hnegotiated | hrefused
  · rcases hnegotiated with
      ⟨dec, selected, answer, response, hevaluate, hindex, hforward, haccepted⟩
    rw [← hsources] at hevaluate hindex
    exact Or.inl ⟨pol, scope, dec, selected, answer, response,
      ⟨hrating, htoken, hload, hevaluate, hindex, hforward, haccepted⟩⟩
  · exact Or.inr hrefused

variable {session : Session}

theorem handleDecision_relayed :
    (handleDecision e r sessionID identityID clientUUID).outcome = .relayed answer session <->
      exists pol scope dec selected response,
        Negotiated e r identityID clientUUID pol scope dec selected answer response ∧
        session = sessionFor r sessionID identityID clientUUID pol response
          (trackedSelection (variants e r (extractToken r)) selected
            dec.selected.mediaIndex response.mediaIndex) ∧
        exists id, e.create session = .acknowledged id := by
  constructor
  · intro h
    rcases handleDecision_cases e r sessionID identityID clientUUID with hcase | hcase
    · rcases hcase with ⟨pol, scope, dec, selected, found, response, hnegotiated⟩
      rw [hnegotiated.answered] at h
      rcases acceptAnswer_relayed.mp h with ⟨rfl, hsession, hcreate⟩
      exact ⟨pol, scope, dec, selected, response, hnegotiated, hsession, hcreate⟩
    · rcases hcase with ⟨o, hrefused, ho⟩
      rw [ho] at h
      rw [show o = .relayed answer session from h] at hrefused
      cases hrefused
  rintro ⟨pol, scope, dec, selected, response, hnegotiated, hsession, hcreate⟩
  rw [hnegotiated.answered]
  exact acceptAnswer_relayed.mpr ⟨rfl, hsession, hcreate⟩

theorem handleDecision_created :
    (handleDecision e r sessionID identityID clientUUID).created = some session <->
      exists pol scope dec selected answer response,
        Negotiated e r identityID clientUUID pol scope dec selected answer response ∧
        session = sessionFor r sessionID identityID clientUUID pol response
          (trackedSelection (variants e r (extractToken r)) selected
            dec.selected.mediaIndex response.mediaIndex) ∧ e.create session ≠ .failed := by
  constructor
  · intro h
    rcases handleDecision_cases e r sessionID identityID clientUUID with hcase | hcase
    · rcases hcase with ⟨pol, scope, dec, selected, answer, response, hnegotiated⟩
      rw [hnegotiated.answered] at h
      rcases acceptAnswer_created.mp h with ⟨hsession, hcreate⟩
      exact ⟨pol, scope, dec, selected, answer, response, hnegotiated, hsession, hcreate⟩
    · rcases hcase with ⟨o, _, ho⟩
      rw [ho] at h
      cases h
  rintro ⟨pol, scope, dec, selected, answer, response, hnegotiated, hsession, hcreate⟩
  rw [hnegotiated.answered]
  exact acceptAnswer_created.mpr ⟨hsession, hcreate⟩

end Answers

/-!
## The recorded selection
-/

/-- A record of the candidate that was negotiated, which policy does not reject. -/
structure SoundRecord (pol : Policy) (scope : Level) (sources : List VariantSource)
    (answer : Forwarded) (session : Session) : Prop where
  status : 200 ≤ answer.status ∧ answer.status ≤ 299
  candidate : exists source, source ∈ sources ∧
    session.selectedMediaIndex = source.mediaIndex ∧
    session.selectedPartPlexID = source.partPlexID ∧
    session.selectedPartKey = source.partKey ∧
    session.selectedVariantID = source.variantUUID ∧
    session.selectedPartID = source.partUUID
  unrejected : forall rejection,
    rejection ∈ rejections pol scope (sources.map VariantSource.toPolicy) ->
      rejection.mediaIndex ≠ session.selectedMediaIndex
  reported : forall response index, answer.response = some response ->
    response.mediaIndex = some index -> session.selectedMediaIndex = index
  mode : forall response, answer.response = some response ->
    pol.allowTranscode = .deny -> modeOf response ≠ .transcode

/-- A negotiation leaves a session in the store only where it relays the answer of PMS, and
then the session is a sound record; it relays nothing without one. -/
structure DecisionSound (e : Engine) (r : Request)
    (sessionID identityID clientUUID : GoString) : Prop where
  created : forall session,
    (handleDecision e r sessionID identityID clientUUID).created = some session ->
    exists answer, (handleDecision e r sessionID identityID clientUUID).outcome =
      .relayed answer session
  relayed : forall answer session,
    (handleDecision e r sessionID identityID clientUUID).outcome =
      .relayed answer session ->
    (handleDecision e r sessionID identityID clientUUID).created = some session ∧
      exists pol scope, loadEffective e.policies identityID clientUUID = some (pol, scope) ∧
        SoundRecord pol scope (variants e r (extractToken r)) answer session

/-- The index that PMS settles on is a candidate's and no rejected one's. -/
structure SettlesOnCandidate (sources : List VariantSource) (dec : Decision)
    (response : DecisionResponse) : Prop where
  candidate : exists source, source ∈ sources ∧
    source.mediaIndex = response.mediaIndex.getD dec.selected.mediaIndex
  unrejected : forall rejection, rejection ∈ dec.rejected ->
    rejection.mediaIndex ≠ response.mediaIndex.getD dec.selected.mediaIndex

variable {index : Int}

theorem indexOf_some (h : indexOf sources index = some source) :
    source ∈ sources ∧ source.mediaIndex = index := by
  refine ⟨List.mem_of_find?_eq_some h, ?_⟩
  have hfound := List.find?_some h
  simpa using hfound

theorem indexOf_of_mem (h : source ∈ sources)
    : exists found, indexOf sources source.mediaIndex = some found := by
  apply Option.isSome_iff_exists.mp
  unfold indexOf
  rw [List.find?_isSome]
  exact ⟨source, h, by simp⟩

theorem trackedSelection_mem (h : indexOf sources index = some selected) (reported : Option Int) :
    (trackedSelection sources selected index reported).1 ∈ sources ∧
    (trackedSelection sources selected index reported).1.mediaIndex =
    (trackedSelection sources selected index reported).2 := by
  have hselected := indexOf_some h
  cases reported with
  | none => exact hselected
  | some reported =>
    unfold trackedSelection
    simp only
    split
    · exact hselected
    cases hreported : indexOf sources reported with
    | none => exact hselected
    | some source => exact indexOf_some hreported

theorem trackedSelection_index {reported : Option Int} (hmem : source ∈ sources)
    (hindex : source.mediaIndex = reported.getD index) :
    (trackedSelection sources selected index reported).2 = reported.getD index := by
  cases reported with
  | none => rfl
  | some reported =>
    unfold trackedSelection
    simp only
    split
    · rename_i hsame
      exact hsame.symm
    rcases indexOf_of_mem hmem with ⟨found, hfound⟩
    rw [show source.mediaIndex = reported from hindex] at hfound
    rw [hfound]
    rfl

theorem acceptedResponse_some {pol : Policy} {dec : Decision}
    (h : acceptedResponse pol dec answer = some response) :
    answer.response = some response ∧ 200 ≤ answer.status ∧ answer.status ≤ 299 ∧
      (pol.allowTranscode = .deny -> modeOf response ≠ .transcode) := by
  unfold acceptedResponse at h
  split at h
  · cases h
  rename_i found hresponse
  rw [hresponse]
  split at h
  · cases h
  rename_i hchecks
  cases h
  simp only [not_or] at hchecks
  rcases hchecks with ⟨⟨hlow, hhigh⟩, _, _, hmode⟩
  refine ⟨rfl, by omega, by omega, ?_⟩
  intro hdeny htranscode
  exact hmode ⟨htranscode, hdeny⟩

def Engine.storing (e : Engine) (create : Session -> Creation) : Engine :=
  { e with create := create }

/-- What a store commits it acknowledges. -/
def Acknowledges (create : Session -> Creation) : Prop :=
  forall session, create session ≠ .unacknowledged

section Soundness

variable {e : Engine} {r : Request} {sessionID identityID clientUUID : GoString}
variable {pol : Policy} {scope : Level} {dec : Decision} {selected : VariantSource}
variable {answer : Forwarded} {response : DecisionResponse}

/-- The store is not asked before the answer is accepted. -/
theorem negotiated_storing {create : Session -> Creation} :
    Negotiated (e.storing create) r identityID clientUUID pol scope dec selected answer
        response <->
      Negotiated e r identityID clientUUID pol scope dec selected answer response := by
  constructor
  · intro h
    exact ⟨h.rating, h.token, h.loaded, h.evaluated, h.candidate, h.forwarded, h.accepted⟩
  · intro h
    exact ⟨h.rating, h.token, h.loaded, h.evaluated, h.candidate, h.forwarded, h.accepted⟩

theorem Negotiated.sound
    (h : Negotiated e r identityID clientUUID pol scope dec selected answer response)
    (hsettles : SettlesOnCandidate (variants e r (extractToken r)) dec response) :
    SoundRecord pol scope (variants e r (extractToken r)) answer
      (sessionFor r sessionID identityID clientUUID pol response
        (trackedSelection (variants e r (extractToken r)) selected dec.selected.mediaIndex
          response.mediaIndex)) := by
  rcases acceptedResponse_some h.accepted with ⟨hresponse, hlow, hhigh, hmode⟩
  rcases trackedSelection_mem h.candidate response.mediaIndex with ⟨hmem, hindex⟩
  rcases hsettles.candidate with ⟨source, hsource, hsettled⟩
  have htracked : (trackedSelection (variants e r (extractToken r)) selected
      dec.selected.mediaIndex response.mediaIndex).2 =
      response.mediaIndex.getD dec.selected.mediaIndex :=
    trackedSelection_index hsource hsettled
  refine ⟨⟨hlow, hhigh⟩, ⟨_, hmem, hindex.symm, rfl, rfl, rfl, rfl⟩, ?_, ?_, ?_⟩
  · intro rejection hrejection
    rw [← (evaluate_ok h.evaluated).right] at hrejection
    change rejection.mediaIndex ≠ (trackedSelection _ _ _ _).2
    rw [htracked]
    exact hsettles.unrejected rejection hrejection
  · intro found index hfound hreported
    rw [hresponse] at hfound
    cases hfound
    change (trackedSelection _ _ _ _).2 = index
    rw [htracked, hreported]
    rfl
  intro found hfound
  rw [hresponse] at hfound
  cases hfound
  exact hmode

theorem Negotiated.settles
    (h : Negotiated e r identityID clientUUID pol scope dec selected answer response)
    (hsound : SoundRecord pol scope (variants e r (extractToken r)) answer
      (sessionFor r sessionID identityID clientUUID pol response
        (trackedSelection (variants e r (extractToken r)) selected dec.selected.mediaIndex
          response.mediaIndex))) :
    SettlesOnCandidate (variants e r (extractToken r)) dec response := by
  rcases acceptedResponse_some h.accepted with ⟨hresponse, _, _, _⟩
  rcases trackedSelection_mem h.candidate response.mediaIndex with ⟨hmem, hindex⟩
  have htracked : (trackedSelection (variants e r (extractToken r)) selected
      dec.selected.mediaIndex response.mediaIndex).2 =
      response.mediaIndex.getD dec.selected.mediaIndex := by
    cases hreported : response.mediaIndex with
    | none => rfl
    | some index =>
      have hrecorded := hsound.reported response index hresponse hreported
      rw [hreported] at hrecorded
      exact hrecorded
  constructor
  · exact ⟨_, hmem, hindex.trans htracked⟩
  intro rejection hrejection
  rw [(evaluate_ok h.evaluated).right] at hrejection
  rw [← htracked]
  exact hsound.unrejected rejection hrejection

end Soundness

/-- Over the stores that acknowledge what they commit, a negotiation is sound exactly when
every answer that passes the checks settles on a candidate which policy does not reject. -/
theorem decision_sound_iff (e : Engine) (r : Request) (sessionID identityID clientUUID : GoString) :
    (forall create, Acknowledges create ->
        DecisionSound (e.storing create) r sessionID identityID clientUUID) <->
      forall pol scope dec selected answer response,
        Negotiated e r identityID clientUUID pol scope dec selected answer response ->
        SettlesOnCandidate (variants e r (extractToken r)) dec response := by
  constructor
  · intro h pol scope dec selected answer response hnegotiated
    have hdecision := h (fun _ => .acknowledged []) fun _ hlost => nomatch hlost
    rcases (hdecision.relayed answer _ (handleDecision_relayed.mpr
      ⟨pol, scope, dec, selected, response, negotiated_storing.mpr hnegotiated, rfl, [],
        rfl⟩)).right
      with ⟨pol', scope', hload, hsound⟩
    have hsame := hnegotiated.loaded.symm.trans hload
    cases hsame
    exact hnegotiated.settles hsound
  intro h create hacknowledges
  constructor
  · intro session hcreated
    rcases handleDecision_created.mp hcreated with
      ⟨pol, scope, dec, selected, answer, response, hnegotiated, hsession, hkept⟩
    refine ⟨answer, handleDecision_relayed.mpr
      ⟨pol, scope, dec, selected, response, hnegotiated, hsession, ?_⟩⟩
    cases hcreate : (e.storing create).create session with
    | acknowledged id => exact ⟨id, rfl⟩
    | unacknowledged => exact absurd hcreate (hacknowledges session)
    | failed => exact absurd hcreate hkept
  intro answer session hrelayed
  rcases handleDecision_relayed.mp hrelayed with
    ⟨pol, scope, dec, selected, response, hnegotiated, hsession, id, hcreate⟩
  refine ⟨handleDecision_created.mpr ⟨pol, scope, dec, selected, answer, response, hnegotiated,
    hsession, by simp [hcreate]⟩, pol, scope, hnegotiated.loaded, ?_⟩
  rw [hsession]
  exact hnegotiated.sound
    (h pol scope dec selected answer response (negotiated_storing.mp hnegotiated))

def candidateAt (index : Int) : VariantSource where
  mediaIndex := index
  width := some 1920
  height := some 1080
  bitrateKbps := some 8000
  dynamicRange := .sdr
  videoCodec := str "h264"
  audioChannels := some 2
  partAvailable := true
  partKey := str "/library/parts/301/17/file.mkv"
  partPlexID := str "301"
  variantUUID := str "v0"
  partUUID := str "p0"

def otherIndexAnswer : Forwarded where
  status := 200
  contentType := str "application/json"
  body := str "\x7b\"MediaContainer\":\x7b\"directPlay\":true,\"mediaIndex\":7\x7d\x7d"
  response := some ⟨0, true, false, false, some 7⟩

def playAnswer : Forwarded where
  status := 200
  contentType := str "application/json"
  body := str "\x7b\"MediaContainer\":\x7b\"directPlay\":true\x7d\x7d"
  response := some ⟨0, true, false, false, none⟩

def indexedEngine (answer : Forwarded) : Engine :=
  { pmsEngine with
    indexVariants := fun _ => [candidateAt 0]
    pms := fun _ => some answer
    create := fun _ => .acknowledged (str "1") }

def filmNegotiation : Request :=
  decisionWith (str "ratingKey=9&token=t")

def unacknowledgedEngine : Engine :=
  (indexedEngine playAnswer).storing fun _ => .unacknowledged

/-- An index that PMS reports and no candidate has is relayed next to a record of another
one. And a session stays in the store behind an error when its acknowledgement is lost. -/
theorem unknown_index_relayed :
    (exists session, (handleDecision (indexedEngine otherIndexAnswer) filmNegotiation (str "s") []
        []).outcome = .relayed otherIndexAnswer session ∧ session.selectedMediaIndex = 0 ∧
      ¬ DecisionSound (indexedEngine otherIndexAnswer) filmNegotiation (str "s") [] []) ∧
    exists session,
      (handleDecision unacknowledgedEngine filmNegotiation (str "s") [] []).toAnswered =
        ⟨.failed 500 (str "SESSION_PERSIST_FAILED"), some session⟩ ∧
      ¬ DecisionSound unacknowledgedEngine filmNegotiation (str "s") [] [] := by
  constructor
  · refine ⟨_, rfl, rfl, fun h => ?_⟩
    rcases (h.relayed _ _ rfl).right with ⟨pol, scope, _, hsound⟩
    exact absurd (hsound.reported _ 7 rfl rfl) (by decide)
  refine ⟨_, rfl, fun h => ?_⟩
  rcases h.created _ rfl with ⟨answer, hrelayed⟩
  cases hrelayed

/-!
## Titles
-/

def titleNamed (pair : GoString × GoString) : GoString :=
  if pair.1 = str "ratingKey" then pair.2
  else if pair.1 = str "key" ∨ pair.1 = str "path" ∨ pair.1 = str "url" then
    metadataID pair.2
  else []

def namedTitles (q : Values) : List GoString :=
  (q.map titleNamed).filter fun title => title != []

def firstTitle (q : Values) : GoString :=
  firstNonEmpty [q.get (str "ratingKey"), metadataID (q.get (str "key")),
    metadataID (q.get (str "path")), metadataID (q.get (str "url"))]

/-- Candidates are evaluated and one of them is sent to PMS. -/
def Forwards (e : Engine) (r : Request) (identityID clientUUID : GoString) : Prop :=
  exists selected cap, .decision selected cap ∈ calls e r identityID clientUUID

/-- The title whose document a metadata request asks for. -/
def documentTitle (rawPath : GoString) : Option GoString :=
  (pathUnescape (hierarchyText rawPath)).bind fun path =>
    let title := trimPrefix path (str "/library/metadata/")
    if hasPrefix path (str "/library/metadata/") && !title.contains 47 then some title else none

/-- Whatever title a forwarded query names is the one that is recorded, and the candidates
are its own, from the index or from its document; a request that names two is refused. -/
structure TitleBound (e : Engine) (r : Request)
    (sessionID identityID clientUUID : GoString) : Prop where
  forwarded : forall selected cap,
    .decision selected cap ∈ calls e r identityID clientUUID ->
    forall title, title ∈ namedTitles (rewriteQuery r.query selected cap) ->
      title = extractRatingKey r
  loaded : Forwards e r identityID clientUUID -> forall rawPath,
    .metadata rawPath ∈ calls e r identityID clientUUID ->
      documentTitle rawPath = some (extractRatingKey r)
  refused : forall a b, a ∈ namedTitles r.query -> b ∈ namedTitles r.query -> a ≠ b ->
    (handleDecision e r sessionID identityID clientUUID).outcome.refused = true

/-- A query names one title at most, and does so with a first value or together with
the path. -/
structure SingleTitle (r : Request) : Prop where
  same : forall a b, a ∈ namedTitles r.query -> b ∈ namedTitles r.query -> a = b
  first : firstTitle r.query = [] -> forall title, title ∈ namedTitles r.query ->
    title = metadataID r.path

/-- Candidates that are not indexed come from the document of the title. -/
def OwnDocument (e : Engine) (r : Request) : Prop :=
  e.indexVariants (extractRatingKey r) = [] ->
    documentTitle (livePath r.query) = some (extractRatingKey r)

theorem mem_namedTitles :
    title ∈ namedTitles q <-> title ≠ [] ∧ exists pair, pair ∈ q ∧ titleNamed pair = title := by
  unfold namedTitles
  rw [List.mem_filter, List.mem_map, bne_iff_ne, and_comm]

theorem namedTitles_setValue {name : GoString} (hname : forall v, titleNamed (name, v) = [])
    {value : GoString} :
    title ∈ namedTitles (setValue q name value) <-> title ∈ namedTitles q := by
  rw [mem_namedTitles, mem_namedTitles]
  constructor
  · intro h
    rcases h with ⟨hne, pair, hpair, htitle⟩
    unfold setValue at hpair
    rcases List.mem_append.mp hpair with hkept | hset
    · exact ⟨hne, pair, (List.mem_filter.mp hkept).left, htitle⟩
    rw [List.mem_singleton.mp hset, hname] at htitle
    exact absurd htitle.symm hne
  intro h
  rcases h with ⟨hne, pair, hpair, htitle⟩
  refine ⟨hne, pair, ?_, htitle⟩
  unfold setValue
  apply List.mem_append_left
  rw [List.mem_filter, bne_iff_ne]
  refine ⟨hpair, ?_⟩
  intro hsame
  have hnone := hname pair.2
  rw [← hsame, htitle] at hnone
  exact hne hnone

theorem namedTitles_rewriteQuery {selected : Int} {cap : Option Int} :
    title ∈ namedTitles (rewriteQuery q selected cap) <-> title ∈ namedTitles q := by
  have hindex : forall v, titleNamed (str "mediaIndex", v) = [] := by
    intro v
    rfl
  have hrate : forall v, titleNamed (str "maxVideoBitrate", v) = [] := by
    intro v
    rfl
  unfold rewriteQuery
  cases cap with
  | none => exact namedTitles_setValue hindex
  | some cap =>
    simp only
    split
    · split
      · exact namedTitles_setValue hindex
      · rw [namedTitles_setValue hrate, namedTitles_setValue hindex]
    · rw [namedTitles_setValue hrate, namedTitles_setValue hindex]

theorem get_mem {name : GoString} (h : q.get name ≠ []) :
    (name, q.get name) ∈ q := by
  unfold Values.get at h ⊢
  cases hfind : q.find? fun pair => pair.1 == name with
  | none =>
    rw [hfind] at h
    exact absurd rfl h
  | some pair =>
    have hname : pair.1 = name := by simpa using List.find?_some hfind
    have hmem := List.mem_of_find?_eq_some hfind
    rw [← hname]
    exact hmem

theorem firstNonEmpty_mem {texts : List GoString} (h : firstNonEmpty texts ≠ []) :
    firstNonEmpty texts ∈ texts := by
  unfold firstNonEmpty at h ⊢
  cases hfind : texts.find? fun text => text != [] with
  | none =>
    rw [hfind] at h
    exact absurd rfl h
  | some text => exact List.mem_of_find?_eq_some hfind

theorem firstTitle_mem (h : firstTitle q ≠ []) :
    firstTitle q ∈ namedTitles q := by
  have hvalue : forall name, metadataID (q.get name) ≠ [] -> q.get name ≠ [] := by
    intro name hid hnil
    rw [hnil] at hid
    exact hid rfl
  have hmem := firstNonEmpty_mem h
  change firstTitle q ∈ _ at hmem
  refine mem_namedTitles.mpr ⟨h, ?_⟩
  simp only [List.mem_cons, List.not_mem_nil, or_false] at hmem
  rcases hmem with hrating | hkey | hpath | hurl
  · rw [hrating] at h ⊢
    exact ⟨_, get_mem h, rfl⟩
  · rw [hkey] at h ⊢
    exact ⟨_, get_mem (hvalue _ h), rfl⟩
  · rw [hpath] at h ⊢
    exact ⟨_, get_mem (hvalue _ h), rfl⟩
  rw [hurl] at h ⊢
  exact ⟨_, get_mem (hvalue _ h), rfl⟩

theorem firstNonEmpty_cons (text : GoString) (texts : List GoString) :
    firstNonEmpty (text :: texts) = if text = [] then firstNonEmpty texts else text := by
  unfold firstNonEmpty
  rw [List.find?_cons]
  cases text with
  | nil | cons => rfl

theorem firstNonEmpty_concat (texts : List GoString) (last : GoString) :
    firstNonEmpty (texts ++ [last]) =
      if firstNonEmpty texts = [] then last else firstNonEmpty texts := by
  induction texts with
  | nil =>
    rw [List.nil_append, firstNonEmpty_cons]
    cases last with
    | nil | cons => rfl
  | cons text texts ih =>
    rw [List.cons_append, firstNonEmpty_cons, firstNonEmpty_cons, ih]
    cases text with
    | nil | cons => rfl

theorem extractRatingKey_eq (r : Request) :
    extractRatingKey r =
      if firstTitle r.query = [] then metadataID r.path else firstTitle r.query :=
  firstNonEmpty_concat [r.query.get (str "ratingKey"), metadataID (r.query.get (str "key")),
    metadataID (r.query.get (str "path")), metadataID (r.query.get (str "url"))]
    (metadataID r.path)

theorem Negotiated.forwards {pol : Policy} {scope : Level} {dec : Decision}
    (h : Negotiated e r identityID clientUUID pol scope dec selected answer response) :
    Forwards e r identityID clientUUID := by
  refine ⟨dec.selected.mediaIndex, dec.outputBitrateKbps, ?_⟩
  unfold calls
  rw [if_neg h.rating, if_neg h.token, h.loaded]
  apply List.mem_append_right
  unfold decisionCalls
  rw [h.evaluated]
  simp only
  rw [h.candidate]
  exact List.mem_singleton_self _

theorem refused_of_not_forwards (h : ¬ Forwards e r identityID clientUUID) (sessionID : GoString) :
    (handleDecision e r sessionID identityID clientUUID).outcome.refused = true := by
  cases houtcome : (handleDecision e r sessionID identityID clientUUID).outcome with
  | relayed answer session =>
    rcases handleDecision_relayed.mp houtcome with
      ⟨pol, scope, dec, selected, response, hnegotiated, _, _⟩
    exact absurd hnegotiated.forwards h
  | denied | failed | policyError => rfl

theorem SingleTitle.eq_ratingKey (h : SingleTitle r) (htitle : title ∈ namedTitles r.query)
    : title = extractRatingKey r := by
  rw [extractRatingKey_eq]
  split
  · rename_i hfirst
    exact h.first hfirst title htitle
  rename_i hfirst
  exact h.same title _ htitle (firstTitle_mem hfirst)

theorem metadata_mem_calls (h : Forwards e r identityID clientUUID) (rawPath : GoString) :
    .metadata rawPath ∈ calls e r identityID clientUUID <->
      e.indexVariants (extractRatingKey r) = [] ∧ rawPath = livePath r.query := by
  have hnone : forall pol scope (sources : List VariantSource),
      .metadata rawPath ∉ decisionCalls pol scope sources := by
    intro pol scope sources
    unfold decisionCalls
    repeat' split
    all_goals simp
  rcases h with ⟨selected, cap, hcall⟩
  unfold calls at hcall ⊢
  split at hcall
  · cases hcall
  rename_i hrating
  split at hcall
  · cases hcall
  rename_i htoken
  rw [if_neg hrating, if_neg htoken]
  split at hcall
  · cases hcall
  rename_i pol scope hload
  simp only [List.mem_append, hnone, or_false]
  unfold metadataCalls at hcall ⊢
  split
  · rename_i hlive
    simp [hlive.left]
  rename_i hlive
  simp only [List.not_mem_nil, false_iff, not_and]
  intro hindex _
  -- without candidates nothing is sent
  have hpath : livePath r.query = [] := not_not.mp fun hne => hlive ⟨hindex, hne⟩
  have hvariants : variants e r (extractToken r) = [] := by
    unfold variants
    rw [hindex]
    simp only [hpath, if_true]
  rw [if_neg hlive, hvariants] at hcall
  cases hcall

def crossedTitles : Request :=
  decisionWith (str "ratingKey=1&path=%2Flibrary%2Fmetadata%2F2&token=t")

end ReplxEdge.Playback
