import ReplxEdge.MediaPolicy.Selection

/-!
# Tighter policies

A policy with smaller limits or more denials. It keeps fewer variants and, as the limits
enter the keys of all variants by the same amount, ranks those that it keeps alike.
-/

namespace ReplxEdge.MediaPolicy

open Foundation

/-- A limit that is the same, smaller, or newly set. -/
def TighterBound (base tight : Option Int) : Prop :=
  tight = base ∨ exists b, tight = some b ∧ forall c, base = some c -> b ≤ c

def TighterState (base tight : TriState) : Prop :=
  tight = base ∨ (base = .allow ∧ tight = .deny)

/-- A policy that restricts sources more, and decides alike on the rest of what
evaluation reads. -/
structure Tightens (p tight : Policy) : Prop where
  width : TighterBound p.maxSourceWidth tight.maxSourceWidth
  height : TighterBound p.maxSourceHeight tight.maxSourceHeight
  bitrate : TighterBound p.maxSourceBitrateKbps tight.maxSourceBitrateKbps
  fourK : TighterState p.allow4K tight.allow4K
  hdr : TighterState p.allowHDR tight.allowHDR
  dolbyVision : TighterState p.allowDolbyVision tight.allowDolbyVision
  unknownDR : TighterState p.unknownDRBehavior tight.unknownDRBehavior
  transcode : tight.allowTranscode = p.allowTranscode
  audio : tight.maxAudioChannels = p.maxAudioChannels

/-!
## Rules
-/

theorem exceeds_tighter {value base tight : Option Int} (h : TighterBound base tight)
    (hexceeds : exceeds value base = true) : exceeds value tight = true := by
  rcases h with rfl | ⟨b, rfl, hle⟩
  · exact hexceeds
  cases value with
  | none => cases hexceeds
  | some v =>
    cases base with
    | none => cases hexceeds
    | some c =>
      have hlt : c < v := of_decide_eq_true hexceeds
      exact decide_eq_true (lt_of_le_of_lt (hle c rfl) hlt)

theorem deny_tighter {base tight : TriState} (h : TighterState base tight)
    (hdeny : base = .deny) : tight = .deny := by
  rcases h with rfl | ⟨_, htight⟩
  · exact hdeny
  · exact htight

variable {p tight : Policy} {v : Variant}

theorem deniesDR_tighter (h : Tightens p tight)
    (hdenies : deniesDR p v = true) : deniesDR tight v = true := by
  unfold deniesDR at hdenies ⊢
  cases hrange : v.dynamicRange with
  | sdr =>
    rw [hrange] at hdenies
    cases hdenies
  | dolbyVision =>
    rw [hrange] at hdenies
    exact decide_eq_true (deny_tighter h.dolbyVision (of_decide_eq_true hdenies))
  | unknown =>
    rw [hrange] at hdenies
    exact decide_eq_true (deny_tighter h.unknownDR (of_decide_eq_true hdenies))
  | hdr10 | hdr10Plus | hlg | hdrOther =>
    rw [hrange] at hdenies
    exact decide_eq_true (deny_tighter h.hdr (of_decide_eq_true hdenies))

theorem broken_tighter (h : Tightens p tight) {rule : Rule}
    (hbroken : Rule.broken p v rule = true) : Rule.broken tight v rule = true := by
  cases rule with
  | availability => exact hbroken
  | fourK =>
    rw [Rule.broken, Bool.and_eq_true, decide_eq_true_iff] at hbroken ⊢
    exact ⟨hbroken.left, deny_tighter h.fourK hbroken.right⟩
  | resolution =>
    rw [Rule.broken, overResolution, Bool.or_eq_true] at hbroken ⊢
    rcases hbroken with hwidth | hheight
    · left
      exact exceeds_tighter h.width hwidth
    right
    exact exceeds_tighter h.height hheight
  | dynamicRange => exact deniesDR_tighter h hbroken
  | sourceBitrate => exact exceeds_tighter h.bitrate hbroken

theorem allowed_tighter (h : Tightens p tight)
    (hallowed : (violation tight v).isNone = true) : (violation p v).isNone = true := by
  rw [violation_isNone_iff, first_eq_none_iff] at hallowed ⊢
  intro rule
  rw [Bool.eq_false_iff]
  intro hbroken
  exact absurd (broken_tighter h hbroken) (by rw [hallowed rule]; decide)

theorem eligible_tighter (h : Tightens p tight) (variants : List Variant) :
    eligible tight variants =
    (eligible p variants).filter fun v => (violation tight v).isNone := by
  unfold eligible
  rw [List.filter_filter]
  apply List.filter_congr
  intro v _
  cases hallowed : (violation tight v).isNone with
  | true =>
    rw [allowed_tighter h hallowed]
    rfl
  | false => rfl

/-!
## Keys
-/

theorem wrappedKey_lt_iff (h : Tightens p tight) {w : Variant}
    (hv : Fits p v ∧ Fits tight v) (hw : Fits p w ∧ Fits tight w) :
    wrappedKey tight v < wrappedKey tight w <-> wrappedKey p v < wrappedKey p w := by
  have hshift : forall a b c : Int, (a - b < a - c <-> c < b) ∧ (a - b = a - c <-> b = c) := by
    intro a b c
    omega
  rw [wrappedKey_eq hv.left, wrappedKey_eq hv.right, wrappedKey_eq hw.left, wrappedKey_eq hw.right]
  unfold rankKey
  rw [h.audio]
  simp only [List.cons_lt_cons_iff, hshift]

/-- A tighter policy keeps fewer variants, and selects the same one as long as it keeps
it. -/
theorem tightens_selects (p tight : Policy) (scope scope' : Level) (variants : List Variant)
    (h : Tightens p tight) (hfits : forall v, v ∈ variants -> Fits p v ∧ Fits tight v) :
    (sift tight scope' variants).1.Sublist (sift p scope variants).1 ∧
      forall v, (evaluateAll p scope variants).selected = some v ->
        v ∈ (sift tight scope' variants).1 ->
          (evaluateAll tight scope' variants).selected = some v := by
  rw [sift_eq, sift_eq]
  have hkept := eligible_tighter h variants
  constructor
  · rw [hkept]
    exact List.filter_sublist
  intro v hselected hstill
  cases heligible : eligible p variants with
  | nil =>
    rw [evaluateAll_nil heligible] at hselected
    cases hselected
  | cons first rest =>
    have hleast := choose_firstLeast p first rest
    rw [evaluateAll_cons heligible] at hselected
    split at hselected
    · cases hselected
    rename_i hplayable
    cases hselected
    have hallowed : (violation tight (choose p first rest)).isNone = true :=
      (List.mem_filter.mp hstill).right
    have hmembers : forall v, v ∈ eligible tight variants -> Fits p v ∧ Fits tight v :=
      fun v hv => hfits v (List.mem_of_mem_filter hv)
    have htight : FirstLeast (wrappedKey tight) (eligible tight variants)
        (choose p first rest) := by
      rw [← heligible] at hleast
      have hfiltered : FirstLeast (wrappedKey p)
          ((eligible p variants).filter fun v => (violation tight v).isNone)
          (choose p first rest) := hleast.filter hallowed
      rw [← hkept] at hfiltered
      apply hfiltered.of_lt_iff
      intro v hv w hw
      exact wrappedKey_lt_iff h (hmembers v hv) (hmembers w hw)
    cases heligible' : eligible tight variants with
    | nil =>
      rw [heligible'] at htight
      cases htight
    | cons first' rest' =>
      rw [heligible'] at htight
      have hsame := htight.unique (choose_firstLeast tight first' rest')
      rw [evaluateAll_cons heligible', ← hsame, h.transcode, if_neg hplayable]

def shelf : List Variant :=
  [⟨0, some 3840, some 2160, some 60000, .hdr10, str "hevc", some 6,
      .unknownPlayability, true⟩,
    ⟨1, some 1920, some 1080, some 15000, .sdr, str "h264", some 2,
      .unknownPlayability, true⟩,
    ⟨2, some 1280, some 720, some 4000, .sdr, str "h264", some 2,
      .unknownPlayability, true⟩]

def ultraHD : Policy :=
  { defaults with
    maxSourceWidth := some 3840
    maxSourceHeight := some 2160
    allowDolbyVision := .deny }

theorem tightens_ultraHD : Tightens defaults ultraHD where
  width := Or.inr ⟨3840, rfl, fun _ h => nomatch h⟩
  height := Or.inr ⟨2160, rfl, fun _ h => nomatch h⟩
  bitrate := Or.inl rfl
  fourK := Or.inl rfl
  hdr := Or.inl rfl
  dolbyVision := Or.inr ⟨rfl, rfl⟩
  unknownDR := Or.inl rfl
  transcode := rfl
  audio := rfl

/-- The best variant of the shelf is within the new limits and stays selected. -/
theorem tightens_selects_shelf :
    (sift ultraHD .user shelf).1.Sublist (sift defaults .global shelf).1 ∧
      exists v, (evaluateAll defaults .global shelf).selected = some v ∧
        (evaluateAll ultraHD .user shelf).selected = some v := by
  have hfits : forall v, v ∈ shelf -> Fits defaults v ∧ Fits ultraHD v := by decide +kernel
  have hselects := tightens_selects defaults ultraHD .global .user shelf
    tightens_ultraHD hfits
  have hselected : (evaluateAll defaults .global shelf).selected = shelf.head? := rfl
  have hkept : (sift ultraHD .user shelf).1 = shelf := rfl
  have hfirst : shelf.head? = some (shelf.head (List.cons_ne_nil _ _)) := rfl
  constructor
  · exact hselects.left
  rw [hfirst] at hselected
  refine ⟨_, hselected, hselects.right _ hselected ?_⟩
  rw [hkept]
  exact List.head_mem _

end ReplxEdge.MediaPolicy
