import ReplxEdge.Foundation.Runes

/-!
# Media policy

Policies of several levels are folded field by field, the more specific level
winning where it is configured, and the folded policy filters and ranks the
media variants of a title.
-/

namespace ReplxEdge.MediaPolicy

open Foundation

/-!
## Policies
-/

inductive TriState where
  | inherit
  | allow
  | deny
deriving DecidableEq

inductive Level where
  | default
  | global
  | user
  | device
deriving DecidableEq

inductive PolicyField where
  | maxSourceWidth
  | maxSourceHeight
  | maxSourceBitrateKbps
  | maxStreamingBitrateKbps
  | allow4K
  | allowHDR
  | allowDolbyVision
  | allowTranscode
  | preferDirectPlay
  | maxAudioChannels
  | unknownDRBehavior
  | routingMode
deriving DecidableEq

/-- One level, or the fold of several. The provenance names the level behind each
field. -/
structure Policy where
  maxSourceWidth : Option Int
  maxSourceHeight : Option Int
  maxSourceBitrateKbps : Option Int
  maxStreamingBitrateKbps : Option Int
  allow4K : TriState
  allowHDR : TriState
  allowDolbyVision : TriState
  allowTranscode : TriState
  preferDirectPlay : TriState
  maxAudioChannels : Option Int
  unknownDRBehavior : TriState
  routingMode : GoString
  provenance : PolicyField -> Option Level

def defaults : Policy where
  maxSourceWidth := none
  maxSourceHeight := none
  maxSourceBitrateKbps := none
  maxStreamingBitrateKbps := none
  allow4K := .allow
  allowHDR := .allow
  allowDolbyVision := .allow
  allowTranscode := .allow
  preferDirectPlay := .allow
  maxAudioChannels := none
  unknownDRBehavior := .allow
  routingMode := str "automatic"
  provenance := fun _ => some .default

def Policy.configures (p : Policy) : PolicyField -> Bool
  | .maxSourceWidth => p.maxSourceWidth.isSome
  | .maxSourceHeight => p.maxSourceHeight.isSome
  | .maxSourceBitrateKbps => p.maxSourceBitrateKbps.isSome
  | .maxStreamingBitrateKbps => p.maxStreamingBitrateKbps.isSome
  | .allow4K => p.allow4K != .inherit
  | .allowHDR => p.allowHDR != .inherit
  | .allowDolbyVision => p.allowDolbyVision != .inherit
  | .allowTranscode => p.allowTranscode != .inherit
  | .preferDirectPlay => p.preferDirectPlay != .inherit
  | .maxAudioChannels => p.maxAudioChannels.isSome
  | .unknownDRBehavior => p.unknownDRBehavior != .inherit
  | .routingMode =>
    p.routingMode != [] && !equalFold p.routingMode (str "inherit")

def pickBound (base specific : Option Int) : Option Int :=
  if specific.isSome then specific else base

def pickState (base specific : TriState) : TriState :=
  if specific ≠ .inherit then specific else base

def mergeAs (base specific : Policy) (level : Level) : Policy where
  maxSourceWidth := pickBound base.maxSourceWidth specific.maxSourceWidth
  maxSourceHeight := pickBound base.maxSourceHeight specific.maxSourceHeight
  maxSourceBitrateKbps := pickBound base.maxSourceBitrateKbps specific.maxSourceBitrateKbps
  maxStreamingBitrateKbps :=
    pickBound base.maxStreamingBitrateKbps specific.maxStreamingBitrateKbps
  allow4K := pickState base.allow4K specific.allow4K
  allowHDR := pickState base.allowHDR specific.allowHDR
  allowDolbyVision := pickState base.allowDolbyVision specific.allowDolbyVision
  allowTranscode := pickState base.allowTranscode specific.allowTranscode
  preferDirectPlay := pickState base.preferDirectPlay specific.preferDirectPlay
  maxAudioChannels := pickBound base.maxAudioChannels specific.maxAudioChannels
  unknownDRBehavior := pickState base.unknownDRBehavior specific.unknownDRBehavior
  routingMode :=
    if specific.configures .routingMode then specific.routingMode
    else base.routingMode
  provenance := fun field =>
    if specific.configures field then some level else base.provenance field

/-!
## Variants
-/

inductive DynamicRange where
  | sdr
  | hdr10
  | hdr10Plus
  | hlg
  | hdrOther
  | dolbyVision
  | unknown
deriving DecidableEq

inductive Playability where
  | directPlay
  | directStream
  | unknownPlayability
  | transcode
deriving DecidableEq

structure Variant where
  mediaIndex : Int
  width : Option Int
  height : Option Int
  bitrateKbps : Option Int
  dynamicRange : DynamicRange
  videoCodec : GoString
  audioChannels : Option Int
  playability : Playability
  partAvailable : Bool

inductive Reason where
  | maxSourceResolution
  | source4KDenied
  | hdrDenied
  | dolbyVisionDenied
  | sourceBitrateCeil
  | partUnavailable
  | unknownDRDenied
deriving DecidableEq

structure Rejection where
  mediaIndex : Int
  scope : Level
  reason : Reason
deriving DecidableEq

def exceeds (value bound : Option Int) : Bool :=
  match value, bound with
  | some v, some b => decide (b < v)
  | _, _ => false

def is4K (v : Variant) : Bool :=
  exceeds v.width (some 1920) || exceeds v.height (some 1080)

def overResolution (v : Variant) (p : Policy) : Bool :=
  exceeds v.width p.maxSourceWidth || exceeds v.height p.maxSourceHeight

/-- The bound that `overResolution` fired on. -/
def resolutionField (v : Variant) (p : Policy) : PolicyField :=
  if exceeds v.height p.maxSourceHeight then .maxSourceHeight
  else .maxSourceWidth

def deniesDR (p : Policy) (v : Variant) : Bool :=
  match v.dynamicRange with
  | .dolbyVision => p.allowDolbyVision = .deny
  | .hdr10 => p.allowHDR = .deny
  | .hdr10Plus => p.allowHDR = .deny
  | .hlg => p.allowHDR = .deny
  | .hdrOther => p.allowHDR = .deny
  | .unknown => p.unknownDRBehavior = .deny
  | .sdr => false

def violation (p : Policy) (v : Variant) : Option (Reason × Option PolicyField) :=
  if !v.partAvailable then some (.partUnavailable, none)
  else if is4K v && p.allow4K = .deny then
    some (.source4KDenied, some .allow4K)
  else if overResolution v p then
    some (.maxSourceResolution, some (resolutionField v p))
  else if deniesDR p v then
    if v.dynamicRange = .unknown then
      some (.unknownDRDenied, some .unknownDRBehavior)
    else if v.dynamicRange = .dolbyVision ∧
        p.allowDolbyVision = .deny then
      some (.dolbyVisionDenied, some .allowDolbyVision)
    else some (.hdrDenied, some .allowHDR)
  else if exceeds v.bitrateKbps p.maxSourceBitrateKbps then
    some (.sourceBitrateCeil, some .maxSourceBitrateKbps)
  else none

/-- The level a rejection names: the field's, else the fallback. -/
def rejectionScope (p : Policy) (fallback : Level) : Option PolicyField -> Level
  | none => fallback
  | some field => (p.provenance field).getD fallback

/-!
## Ranking
-/

def pixels (v : Variant) : Int :=
  v.width.getD 0 * v.height.getD 0

def maxPixels (p : Policy) : Int :=
  let w := p.maxSourceWidth.getD 0
  let h := p.maxSourceHeight.getD 0
  if 0 < w ∧ 0 < h then w * h else 0

def codecPenalty (v : Variant) : Int :=
  let codec := toLower (trimSpace v.videoCodec)
  if [str "h264", str "avc", str "mpeg4"].contains codec then 0
  else if [str "hevc", str "h265"].contains codec then 1
  else if [str "vp9", str "av1"].contains codec then 2
  else 3

def playbackCost : Playability -> Int
  | .directPlay => 0
  | .directStream => 1
  | .unknownPlayability => 1
  | .transcode => 2

def rangePenalty : DynamicRange -> Int
  | .dolbyVision => -4
  | .hdr10Plus => -3
  | .hdr10 => -2
  | .hlg => -2
  | .hdrOther => -1
  | .unknown => -1
  | .sdr => 0

/-- The key without overflow. -/
def rankKey (p : Policy) (v : Variant) : List Int :=
  [playbackCost v.playability,
    (if 0 < maxPixels p then maxPixels p else 0) - pixels v,
    rangePenalty v.dynamicRange, codecPenalty v,
    (if exceeds v.audioChannels p.maxAudioChannels then
      v.audioChannels.getD 0 - p.maxAudioChannels.getD 0
    else 0),
    (v.bitrateKbps.map fun b => Int.tdiv b 1000).getD 0, v.mediaIndex]

def lessKey : List Int -> List Int -> Bool
  | a :: as, b :: bs => if a ≠ b then decide (a < b) else lessKey as bs
  | _, _ => false

/-- The 64-bit number that an exact result is kept as. -/
def wrap (n : Int) : Int :=
  n.bmod (2 ^ 64)

def wrappedMaxPixels (p : Policy) : Int :=
  let w := p.maxSourceWidth.getD 0
  let h := p.maxSourceHeight.getD 0
  if 0 < w ∧ 0 < h then wrap (w * h) else 0

def wrappedKey (p : Policy) (v : Variant) : List Int :=
  [playbackCost v.playability,
    (if 0 < wrappedMaxPixels p then wrap (wrappedMaxPixels p - wrap (pixels v))
      else wrap (-wrap (pixels v))),
    rangePenalty v.dynamicRange, codecPenalty v,
    (if exceeds v.audioChannels p.maxAudioChannels then
      wrap (v.audioChannels.getD 0 - p.maxAudioChannels.getD 0)
    else 0),
    (v.bitrateKbps.map fun b => Int.tdiv b 1000).getD 0, v.mediaIndex]

def choose (p : Policy) (first : Variant) (rest : List Variant) : Variant :=
  rest.foldl
    (fun best v => if lessKey (wrappedKey p v) (wrappedKey p best) then v else best) first

/-!
## Evaluation
-/

inductive ErrorCode where
  | noAllowedVariant
  | transcodeForbidden
deriving DecidableEq

structure Decision where
  selected : Variant
  outputBitrateKbps : Option Int
  rejected : List Rejection

structure PolicyError where
  code : ErrorCode
  rejected : List Rejection

def rejections (p : Policy) (scope : Level) (variants : List Variant) : List Rejection :=
  variants.filterMap fun v =>
    (violation p v).map fun found => ⟨v.mediaIndex, rejectionScope p scope found.2, found.1⟩

def eligible (p : Policy) (variants : List Variant) : List Variant :=
  variants.filter fun v => (violation p v).isNone

def outputCap (p : Policy) (v : Variant) : Option Int :=
  if exceeds v.bitrateKbps p.maxStreamingBitrateKbps then p.maxStreamingBitrateKbps else none

def evaluate (p : Policy) (scope : Level) (variants : List Variant) :
    Except PolicyError Decision :=
  let rejected := rejections p scope variants
  match eligible p variants with
  | [] => Except.error ⟨.noAllowedVariant, rejected⟩
  | first :: rest =>
    let best := choose p first rest
    if best.playability = .transcode ∧ p.allowTranscode = .deny then
      Except.error ⟨.transcodeForbidden, rejected⟩
    else Except.ok ⟨best, outputCap p best, rejected⟩

theorem choose_mem (p : Policy) (first : Variant) (rest : List Variant) :
    choose p first rest ∈ first :: rest := by
  unfold choose
  induction rest generalizing first with
  | nil => exact List.mem_singleton_self _
  | cons v rest ih =>
    rw [List.foldl_cons]
    split
    · exact List.mem_cons_of_mem _ (ih v)
    rcases List.mem_cons.mp (ih first) with hfirst | hrest
    · rw [hfirst]
      exact List.mem_cons_self
    · exact List.mem_cons_of_mem _ (List.mem_cons_of_mem _ hrest)

theorem evaluate_ok {p : Policy} {scope : Level} {variants : List Variant} {dec : Decision}
    (h : evaluate p scope variants = Except.ok dec) :
    dec.selected ∈ eligible p variants ∧ dec.rejected = rejections p scope variants := by
  unfold evaluate at h
  cases heligible : eligible p variants with
  | nil =>
    rw [heligible] at h
    cases h
  | cons first rest =>
    rw [heligible] at h
    simp only at h
    split at h
    · cases h
    cases h
    exact ⟨choose_mem p first rest, rfl⟩

end ReplxEdge.MediaPolicy
