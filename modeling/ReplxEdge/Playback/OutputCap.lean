import ReplxEdge.Playback.Negotiation

/-!
# The output cap

A policy may cap the rate at which PMS streams a source. The cap is decided for
the candidate that evaluation selects, written into the forwarded query next to
what the client asked for, and PMS may answer with another candidate.
-/

namespace ReplxEdge.Playback

open Foundation
open Net
open Trace
open MediaPolicy

variable {r : Request} {cap : Int} {dec : Decision} {recorded : VariantSource}

/-!
## Rates
-/

theorem atoi_formatInt {n : Int} (hlow : 0 ≤ n) (hhigh : n < 2 ^ 63) :
    atoi (formatInt n) = some n := by
  have htext : formatInt n = decimal n.natAbs := by
    unfold formatInt
    rw [if_neg (by omega)]
  have hdigit : forall b, b ∈ decimal n.natAbs -> 48 ≤ b ∧ b ≤ 57 := by
    intro b hb
    exact digit_of_mem_decimal hb
  have hhead : (decimal n.natAbs).headD 0 ≠ 45 ∧ (decimal n.natAbs).headD 0 ≠ 43 := by
    cases hdecimal : decimal n.natAbs with
    | nil => exact absurd hdecimal (decimal_ne_nil _)
    | cons b digits =>
      rw [hdecimal] at hdigit
      have hb := (hdigit b List.mem_cons_self).left
      constructor
      · intro h
        rw [show b = 45 from h] at hb
        exact absurd hb (by decide)
      intro h
      rw [show b = 43 from h] at hb
      exact absurd hb (by decide)
  have hsigned : ((decimal n.natAbs).headD 0 == 45 || (decimal n.natAbs).headD 0 == 43) =
      false := by
    rw [beq_false_of_ne hhead.left, beq_false_of_ne hhead.right]
    rfl
  have hall : (decimal n.natAbs).all (fun b => decide (48 ≤ b ∧ b ≤ 57)) = true := by
    rw [List.all_eq_true]
    intro b hb
    exact decide_eq_true (hdigit b hb)
  have hplain : ¬ (decimal n.natAbs = [] ∨
      !(decimal n.natAbs).all (fun b => decide (48 ≤ b ∧ b ≤ 57))) := by
    rw [hall]
    simpa using decimal_ne_nil n.natAbs
  rw [htext, atoi, hsigned]
  simp only [Bool.false_eq_true, if_false]
  rw [if_neg hplain, decimal_value, beq_false_of_ne hhead.left]
  simp only [Bool.false_eq_true, if_false]
  rw [if_pos (by omega), show (n.natAbs : Int) = n by omega]

def RateWithin (cap : Int) (text : GoString) : Prop :=
  exists n, atoi text = some n ∧ 0 < n ∧ n ≤ cap

def TighterRate (cap : Int) (text : GoString) : Prop :=
  exists n, atoi text = some n ∧ 0 < n ∧ n < cap

def clientRates (r : Request) : List GoString :=
  r.query.all (str "maxVideoBitrate")

/-- The first rate of the client reads as a number below the cap, of whatever sign. -/
def FirstBelow (r : Request) (cap : Int) : Prop :=
  exists n, atoi (r.query.get (str "maxVideoBitrate")) = some n ∧ n < cap

def forwardedRates (r : Request) (dec : Decision) : List GoString :=
  (parseQuery (rewriteQuery r.query dec.selected.mediaIndex
    dec.outputBitrateKbps).encode).all (str "maxVideoBitrate")

def KnownWithin (source : VariantSource) (cap : Int) : Prop :=
  exists rate, source.bitrateKbps = some rate ∧ rate ≤ cap

theorem get_setValue_of_ne {other name : GoString} (h : other ≠ name) (values : Values)
    (value : GoString) : (setValue values other value).get name = values.get name := by
  have hhead : forall vs : Values, vs.get name = (vs.all name).headD [] := by
    intro vs
    unfold Values.get Values.all
    rw [← List.head?_filter, ← List.head?_map]
    cases (vs.filter fun pair => pair.1 == name).map Prod.snd with
    | nil | cons => rfl
  rw [hhead, hhead, all_setValue_of_ne h]

theorem index_ne_rate : str "mediaIndex" ≠ str "maxVideoBitrate" := by
  decide

theorem rates_rewriteQuery_cap (h : ¬ FirstBelow r cap) (selected : Int) :
    (rewriteQuery r.query selected (some cap)).all (str "maxVideoBitrate") =
      [formatInt cap] := by
  unfold rewriteQuery
  simp only
  rw [get_setValue_of_ne index_ne_rate]
  split
  · rename_i n hn
    rw [if_neg (fun hlt => h ⟨n, hn, hlt⟩), all_setValue]
  · rw [all_setValue]

theorem rates_rewriteQuery_client {cap : Option Int}
    (h : forall value, cap = some value -> FirstBelow r value) (selected : Int) :
    (rewriteQuery r.query selected cap).all (str "maxVideoBitrate") = clientRates r := by
  unfold rewriteQuery
  cases cap with
  | none => exact all_setValue_of_ne index_ne_rate _ _
  | some cap =>
    rcases h cap rfl with ⟨n, hn, hlt⟩
    simp only
    rw [get_setValue_of_ne index_ne_rate, hn]
    simp only
    rw [if_pos hlt]
    exact all_setValue_of_ne index_ne_rate _ _

theorem evaluate_outputCap {p : Policy} {scope : Level} {variants : List Variant}
    (h : evaluate p scope variants = Except.ok dec) :
    dec.outputBitrateKbps = outputCap p dec.selected := by
  unfold evaluate at h
  cases heligible : eligible p variants with
  | nil =>
    rw [heligible] at h
    cases h
  | cons first rest =>
    rw [heligible] at h
    simp only at h
    split at h
    · cases h
    cases h
    rfl

section Forwarded

variable {r : Request} {pol : Policy} {dec : Decision} {cap : Int}

/-- The selected candidate is above the cap and the client's first rate does not stand. -/
def CapWritten (r : Request) (dec : Decision) (cap : Int) : Prop :=
  exceeds dec.selected.bitrateKbps (some cap) = true ∧ ¬ FirstBelow r cap

theorem forwardedRates_cap (hcap : pol.maxStreamingBitrateKbps = some cap)
    (houtput : dec.outputBitrateKbps = outputCap pol dec.selected)
    (h : CapWritten r dec cap) : forwardedRates r dec = [formatInt cap] := by
  unfold forwardedRates
  rw [all_parseQuery_encode, houtput, outputCap, hcap, if_pos h.left]
  exact rates_rewriteQuery_cap h.right _

theorem forwardedRates_client (hcap : pol.maxStreamingBitrateKbps = some cap)
    (houtput : dec.outputBitrateKbps = outputCap pol dec.selected)
    (h : ¬ CapWritten r dec cap) : forwardedRates r dec = clientRates r := by
  unfold forwardedRates
  rw [all_parseQuery_encode, houtput, outputCap, hcap]
  apply rates_rewriteQuery_client
  intro value hvalue
  split at hvalue
  · rename_i hexceeds
    cases hvalue
    by_contra hfirst
    exact h ⟨hexceeds, hfirst⟩
  · cases hvalue

end Forwarded

/-!
## Accepted negotiations
-/

def Accepts (e : Engine) (r : Request) (sessionID identityID clientUUID : GoString)
    (pol : Policy) (dec : Decision) (recorded : VariantSource) : Prop :=
  exists scope selected answer response,
    Negotiated e r identityID clientUUID pol scope dec selected answer response ∧
    recorded = (trackedSelection (variants e r (extractToken r)) selected
      dec.selected.mediaIndex response.mediaIndex).1 ∧
    (handleDecision e r sessionID identityID clientUUID).outcome =
      .relayed answer (sessionFor r sessionID identityID clientUUID pol response
        (trackedSelection (variants e r (extractToken r)) selected
          dec.selected.mediaIndex response.mediaIndex))

variable {e : Engine} {sessionID identityID clientUUID : GoString}

theorem accepts_of_relayed {answer : Forwarded} {session : Session}
    (h : (handleDecision e r sessionID identityID clientUUID).outcome = .relayed answer session) :
    exists pol dec recorded, Accepts e r sessionID identityID clientUUID pol dec recorded := by
  rcases handleDecision_relayed.mp h with
    ⟨pol, scope, dec, selected, response, hnegotiated, hsession, _⟩
  refine ⟨pol, dec, _, scope, selected, answer, response, hnegotiated, rfl, ?_⟩
  rw [h, hsession]

theorem Accepts.outputCap_eq
    {pol : Policy} (h : Accepts e r sessionID identityID clientUUID pol dec recorded) :
    dec.outputBitrateKbps = outputCap pol dec.selected := by
  rcases h with ⟨scope, selected, answer, response, hnegotiated, _, _⟩
  exact evaluate_outputCap hnegotiated.evaluated

/-- What an accepted negotiation keeps of a positive cap: the recorded source is known to
be within it or every forwarded rate is, and no tighter rate of the client is lost. -/
structure CapHeld (r : Request) (dec : Decision) (recorded : VariantSource) (cap : Int) :
    Prop where
  limited : KnownWithin recorded cap ∨
    forall text, text ∈ forwardedRates r dec -> RateWithin cap text
  kept : forall text, text ∈ clientRates r -> TighterRate cap text ->
    text ∈ forwardedRates r dec

/-- The cap reaches PMS, or it is not needed: the recorded source is within it or all
rates of the client are. A cap that is written replaces no tighter rate. -/
structure CapReaches (r : Request) (dec : Decision) (recorded : VariantSource) (cap : Int) :
    Prop where
  limited : KnownWithin recorded cap ∨ CapWritten r dec cap ∨
    forall text, text ∈ clientRates r -> RateWithin cap text
  kept : CapWritten r dec cap -> forall text, text ∈ clientRates r -> ¬ TighterRate cap text

theorem rateWithin_formatInt (hpos : 0 < cap) (hint : cap < 2 ^ 63) :
    RateWithin cap (formatInt cap) :=
  ⟨cap, atoi_formatInt (Int.le_of_lt hpos) hint, hpos, Int.le_refl cap⟩

theorem not_tighterRate_formatInt (hpos : 0 < cap) (hint : cap < 2 ^ 63) :
    ¬ TighterRate cap (formatInt cap) := by
  intro h
  rcases h with ⟨n, hn, _, hlt⟩
  rw [atoi_formatInt (Int.le_of_lt hpos) hint] at hn
  cases hn
  exact absurd hlt (Int.lt_irrefl cap)

theorem capHeld_iff {pol : Policy} (recorded : VariantSource)
    (hcap : pol.maxStreamingBitrateKbps = some cap) (hpos : 0 < cap) (hint : cap < 2 ^ 63)
    (houtput : dec.outputBitrateKbps = outputCap pol dec.selected) :
    CapHeld r dec recorded cap <-> CapReaches r dec recorded cap := by
  by_cases hwritten : CapWritten r dec cap
  · have hrates := forwardedRates_cap hcap houtput hwritten
    constructor
    · intro h
      constructor
      · exact Or.inr (Or.inl hwritten)
      intro _ text htext htighter
      have hmem := h.kept text htext htighter
      rw [hrates, List.mem_singleton] at hmem
      rw [hmem] at htighter
      exact not_tighterRate_formatInt hpos hint htighter
    intro h
    constructor
    · right
      intro text htext
      rw [hrates, List.mem_singleton] at htext
      rw [htext]
      exact rateWithin_formatInt hpos hint
    intro text htext htighter
    exact absurd htighter (h.kept hwritten text htext)
  have hrates := forwardedRates_client hcap houtput hwritten
  constructor
  · intro h
    constructor
    · rcases h.limited with hknown | hwithin
      · exact Or.inl hknown
      rw [hrates] at hwithin
      exact Or.inr (Or.inr hwithin)
    intro h
    exact absurd h hwritten
  intro h
  constructor
  · rcases h.limited with hknown | hcapped | hwithin
    · exact Or.inl hknown
    · exact absurd hcapped hwritten
    rw [hrates]
    exact Or.inr hwithin
  intro text htext _
  rw [hrates]
  exact htext

theorem not_capHeld (pol : Policy) {text : GoString} (hcap : pol.maxStreamingBitrateKbps = some cap)
    (houtput : dec.outputBitrateKbps = outputCap pol dec.selected)
    (hknown : ¬ KnownWithin recorded cap) (hwritten : ¬ CapWritten r dec cap)
    (htext : text ∈ clientRates r) (hrate : ¬ RateWithin cap text) :
    ¬ CapHeld r dec recorded cap := by
  intro h
  rcases h.limited with hwithin | hrates
  · exact hknown hwithin
  rw [forwardedRates_client hcap houtput hwritten] at hrates
  exact hrate (hrates text htext)

def ratedAt (index : Int) (rate : Option Int) : VariantSource :=
  { candidateAt index with bitrateKbps := rate }

def cappedLevel : Policy :=
  { defaults with maxStreamingBitrateKbps := some 4000 }

def cappedPolicy : Policy :=
  compose (some cappedLevel) none none

def cappedEngine (sources : List VariantSource) (answer : Forwarded) : Engine :=
  { indexedEngine answer with
    indexVariants := fun _ => sources
    policies := { pmsEngine.policies with global := .found cappedLevel } }

def ratedRequest (rates : GoString) : Request :=
  decisionWith (str "ratingKey=9&token=t" ++ rates)

def ratedDecision (rate cap : Option Int) : Decision :=
  ⟨(ratedAt 0 rate).toPolicy, cap, []⟩

def secondIndexAnswer : Forwarded where
  status := 200
  contentType := str "application/json"
  body := str "\x7b\"MediaContainer\":\x7b\"directPlay\":true,\"mediaIndex\":1\x7d\x7d"
  response := some ⟨0, true, false, false, some 1⟩

end ReplxEdge.Playback
