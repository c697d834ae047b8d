import ReplxEdge.Foundation.Ranking
import ReplxEdge.MediaPolicy.Evaluate
import Mathlib.Algebra.Group.Int.Defs
import Mathlib.Data.Int.Order.Basic
import Mathlib.Data.List.Nodup

/-!
# Filter and selection

The evaluation of a policy as the source runs it: one loop that sorts the variants into
eligible and rejected ones, a running minimum over seven-component keys in 64-bit
arithmetic, and the check on transcoding behind it.
-/

namespace ReplxEdge.MediaPolicy

open Foundation

variable {p : Policy} {v : Variant} {variants : List Variant}

/-!
## The evaluation
-/

structure Evaluation where
  selected : Option Variant
  selectedIndex : Int
  outputBitrateKbps : Option Int
  rejected : List Rejection
  error : Option ErrorCode

def rejectionOf (p : Policy) (scope : Level) (v : Variant) : Option Rejection :=
  (violation p v).map fun found => ⟨v.mediaIndex, rejectionScope p scope found.2, found.1⟩

/-- One round of the loop over the variants: the eligible ones and the rejections so
far. -/
def siftStep (p : Policy) (scope : Level) (sofar : List Variant × List Rejection)
    (v : Variant) : List Variant × List Rejection :=
  match rejectionOf p scope v with
  | none => (sofar.1 ++ [v], sofar.2)
  | some rejection => (sofar.1, sofar.2 ++ [rejection])

def sift (p : Policy) (scope : Level) (variants : List Variant) :
    List Variant × List Rejection :=
  variants.foldl (siftStep p scope) ([], [])

def evaluateAll (p : Policy) (scope : Level) (variants : List Variant) : Evaluation :=
  let sifted := sift p scope variants
  match sifted.1 with
  | [] => ⟨none, 0, none, sifted.2, some .noAllowedVariant⟩
  | first :: rest =>
    let best := choose p first rest
    if best.playability = .transcode ∧ p.allowTranscode = .deny then
      ⟨none, best.mediaIndex, none, sifted.2, some .transcodeForbidden⟩
    else ⟨some best, best.mediaIndex, outputCap p best, sifted.2, none⟩

/-!
## The loop
-/

theorem siftStep_eq (p : Policy) (scope : Level) (kept : List Variant)
    (rejected : List Rejection) (v : Variant) :
    siftStep p scope (kept, rejected) v =
      (kept ++ eligible p [v], rejected ++ rejections p scope [v]) := by
  unfold siftStep
  cases hv : violation p v with
  | none | some =>
    simp [rejectionOf, eligible, rejections, hv]

theorem sift_eq (p : Policy) (scope : Level) (variants : List Variant) :
    sift p scope variants = (eligible p variants, rejections p scope variants) := by
  have hfrom : forall (rest kept : List Variant) (rejected : List Rejection),
      rest.foldl (siftStep p scope) (kept, rejected) =
        (kept ++ eligible p rest, rejected ++ rejections p scope rest) := by
    intro rest
    induction rest with
    | nil =>
      intro kept rejected
      simp [eligible, rejections]
    | cons v rest ih =>
      intro kept rejected
      have heligible : eligible p (v :: rest) = eligible p [v] ++ eligible p rest :=
        List.filter_append (p := fun v => (violation p v).isNone) [v] rest
      have hrejections : rejections p scope (v :: rest) =
          rejections p scope [v] ++ rejections p scope rest :=
        List.filterMap_append (l := [v])
      rw [List.foldl_cons, siftStep_eq, ih, heligible, hrejections, List.append_assoc,
        List.append_assoc]
  exact hfrom variants [] []

/-!
## Rules
-/

inductive Rule where
  | availability
  | fourK
  | resolution
  | dynamicRange
  | sourceBitrate
deriving DecidableEq

namespace Rule

def all : List Rule :=
  [availability, fourK, resolution, dynamicRange, sourceBitrate]

def broken (p : Policy) (v : Variant) : Rule -> Bool
  | availability => !v.partAvailable
  | fourK => is4K v && p.allow4K = .deny
  | resolution => overResolution v p
  | dynamicRange => deniesDR p v
  | sourceBitrate => exceeds v.bitrateKbps p.maxSourceBitrateKbps

def reason (v : Variant) : Rule -> Reason
  | availability => .partUnavailable
  | fourK => .source4KDenied
  | resolution => .maxSourceResolution
  | dynamicRange =>
    match v.dynamicRange with
    | .unknown => .unknownDRDenied
    | .dolbyVision => .dolbyVisionDenied
    | _ => .hdrDenied
  | sourceBitrate => .sourceBitrateCeil

def first (p : Policy) (v : Variant) : Option Rule :=
  all.find? (broken p v)

theorem mem_all (rule : Rule) : rule ∈ all := by
  cases rule <;> decide

end Rule

theorem dynamicRange_reason (h : deniesDR p v = true) :
    (if v.dynamicRange = .unknown then (.unknownDRDenied, some .unknownDRBehavior)
    else if v.dynamicRange = .dolbyVision ∧ p.allowDolbyVision = .deny then
      (.dolbyVisionDenied, some .allowDolbyVision) else (.hdrDenied, some PolicyField.allowHDR)).1 =
      Rule.reason v .dynamicRange := by
  unfold deniesDR at h
  unfold Rule.reason
  cases hrange : v.dynamicRange with
  | dolbyVision =>
    rw [hrange] at h
    simp [of_decide_eq_true h]
  | sdr =>
    rw [hrange] at h
    cases h
  | hdr10 | hdr10Plus | hlg | hdrOther | unknown =>
    simp

theorem violation_reason (p : Policy) (v : Variant) :
    (violation p v).map Prod.fst = (Rule.first p v).map (Rule.reason v) := by
  unfold violation Rule.first Rule.all
  simp only [List.find?_cons, List.find?_nil]
  cases hpart : Rule.broken p v .availability with
  | true =>
    rw [Rule.broken] at hpart
    rw [if_pos hpart]
    rfl
  | false =>
    rw [Rule.broken] at hpart
    rw [if_neg (by rw [hpart]; decide)]
    cases hfour : Rule.broken p v .fourK with
    | true =>
      rw [Rule.broken] at hfour
      rw [if_pos hfour]
      rfl
    | false =>
      rw [Rule.broken] at hfour
      rw [if_neg (by rw [hfour]; decide)]
      cases hover : Rule.broken p v .resolution with
      | true =>
        rw [Rule.broken] at hover
        rw [if_pos hover]
        rfl
      | false =>
        rw [Rule.broken] at hover
        rw [if_neg (by rw [hover]; decide)]
        cases hrange : Rule.broken p v .dynamicRange with
        | true =>
          rw [Rule.broken] at hrange
          rw [if_pos hrange, ← apply_ite some, ← apply_ite some, Option.map_some,
            dynamicRange_reason hrange]
          rfl
        | false =>
          rw [Rule.broken] at hrange
          rw [if_neg (by rw [hrange]; decide)]
          cases hbitrate : Rule.broken p v .sourceBitrate with
          | true =>
            rw [Rule.broken] at hbitrate
            rw [if_pos hbitrate]
            rfl
          | false =>
            rw [Rule.broken] at hbitrate
            rw [if_neg (by rw [hbitrate]; decide)]
            rfl

/-!
## The running minimum
-/

theorem lessKey_iff {a b : List Int} (hlength : a.length = b.length) :
    lessKey a b = true <-> a < b := by
  induction a generalizing b with
  | nil =>
    cases b with
    | nil =>
      simp [lessKey]
    | cons y b => cases hlength
  | cons x a ih =>
    cases b with
    | nil => cases hlength
    | cons y b =>
      rw [lessKey, List.cons_lt_cons_iff, ← ih (Nat.succ.inj hlength)]
      by_cases hxy : x = y
      · simp [hxy]
      · simp [hxy]

theorem choose_eq (p : Policy) (first : Variant) (rest : List Variant) :
    choose p first rest = runningMin (wrappedKey p) first rest := by
  unfold choose runningMin
  congr 1
  funext best v
  have hless := lessKey_iff (a := wrappedKey p v) (b := wrappedKey p best) rfl
  by_cases hlt : wrappedKey p v < wrappedKey p best
  · rw [if_pos hlt, if_pos (hless.mpr hlt)]
  · rw [if_neg hlt, if_neg fun h => hlt (hless.mp h)]

theorem choose_firstLeast (p : Policy) (first : Variant) (rest : List Variant) :
    FirstLeast (wrappedKey p) (first :: rest) (choose p first rest) := by
  rw [choose_eq]
  exact runningMin_firstLeast first rest

theorem playbackCost_eq_two (m : Playability) :
    2 ≤ playbackCost m <-> m = .transcode := by
  cases m <;> decide

variable {w : Variant}

theorem playbackCost_le_of_key (h : wrappedKey p v ≤ wrappedKey p w) :
    playbackCost v.playability ≤ playbackCost w.playability := by
  rcases lt_or_eq_of_le h with hlt | heq
  · exact List.head_le_of_lt hlt
  · exact le_of_eq (List.cons.inj heq).left

theorem mediaIndex_of_key (h : wrappedKey p v = wrappedKey p w) : v.mediaIndex = w.mediaIndex := by
  have hlast := congrArg List.getLast? h
  exact Option.some.inj hlast

theorem choose_transcode (p : Policy) (first : Variant) (rest : List Variant) :
    (choose p first rest).playability = .transcode <->
      forall v, v ∈ first :: rest -> v.playability = .transcode := by
  have hleast := choose_firstLeast p first rest
  constructor
  · intro hbest v hv
    rw [← playbackCost_eq_two] at hbest ⊢
    exact le_trans hbest (playbackCost_le_of_key (hleast.le v hv))
  intro hall
  exact hall _ hleast.mem

/-!
## The evaluation as a whole
-/

variable {scope : Level}

theorem evaluateAll_nil (h : eligible p variants = []) :
    evaluateAll p scope variants = ⟨none, 0, none, rejections p scope variants,
      some .noAllowedVariant⟩ := by
  unfold evaluateAll
  rw [sift_eq, h]

theorem evaluateAll_cons {rest : List Variant}
    {first : Variant} (h : eligible p variants = first :: rest) :
    evaluateAll p scope variants = if (choose p first rest).playability = .transcode ∧
          p.allowTranscode = .deny then
        ⟨none, (choose p first rest).mediaIndex, none, rejections p scope variants,
          some .transcodeForbidden⟩
      else ⟨some (choose p first rest), (choose p first rest).mediaIndex,
        outputCap p (choose p first rest), rejections p scope variants, none⟩ := by
  unfold evaluateAll
  rw [sift_eq, h]

theorem evaluateAll_rejected (p : Policy) (scope : Level) (variants : List Variant) :
    (evaluateAll p scope variants).rejected = rejections p scope variants := by
  cases h : eligible p variants with
  | nil =>
    rw [evaluateAll_nil h]
  | cons first rest =>
    rw [evaluateAll_cons h]
    split
    all_goals rfl

/-- A policy sorts the variants into refused and kept ones, and selects among the kept. -/
structure Selects (p : Policy) (scope : Level) (variants refused kept : List Variant) :
    Prop where
  loop : (sift p scope variants).1 = kept
  sorted : (refused ++ kept).Perm variants
  rejected : (evaluateAll p scope variants).rejected.map some =
    refused.map (rejectionOf p scope)
  reason : forall v, v ∈ refused -> exists rule rejection, Rule.first p v = some rule ∧
    rejectionOf p scope v = some rejection ∧ rejection.mediaIndex = v.mediaIndex ∧
      rejection.reason = rule.reason v
  allowed : forall v, v ∈ kept -> forall rule, Rule.broken p v rule = false
  none_allowed : (evaluateAll p scope variants).error = some .noAllowedVariant <->
    kept = []
  best : kept ≠ [] -> exists best, best ∈ kept ∧
    (evaluateAll p scope variants).selectedIndex = best.mediaIndex ∧
      (forall v, v ∈ kept -> wrappedKey p best ≤ wrappedKey p v) ∧
        ((evaluateAll p scope variants).error = none ->
          (evaluateAll p scope variants).selected = some best)
  forbidden : (evaluateAll p scope variants).error = some .transcodeForbidden <->
    kept ≠ [] ∧ p.allowTranscode = .deny ∧
      forall v, v ∈ kept -> v.playability = .transcode
  unordered : (variants.map Variant.mediaIndex).Nodup -> forall others, others.Perm variants ->
    (evaluateAll p scope others).selectedIndex = (evaluateAll p scope variants).selectedIndex ∧
      (evaluateAll p scope others).error = (evaluateAll p scope variants).error

theorem first_eq_none_iff (p : Policy) (v : Variant) :
    Rule.first p v = none <-> forall rule, Rule.broken p v rule = false := by
  unfold Rule.first
  rw [List.find?_eq_none]
  constructor
  · intro h rule
    exact Bool.eq_false_iff.mpr (h rule rule.mem_all)
  intro h rule _
  rw [h rule]
  decide

theorem violation_isNone_iff (p : Policy) (v : Variant) :
    (violation p v).isNone = true <-> Rule.first p v = none := by
  have hreason := violation_reason p v
  rw [Option.isNone_iff_eq_none]
  constructor
  · intro hnone
    rw [hnone] at hreason
    exact Option.map_eq_none_iff.mp hreason.symm
  intro hnone
  rw [hnone] at hreason
  exact Option.map_eq_none_iff.mp hreason

theorem rejectionOf_reason (scope : Level) (h : ¬ (violation p v).isNone = true) :
    exists rule rejection, Rule.first p v = some rule ∧
      rejectionOf p scope v = some rejection ∧ rejection.mediaIndex = v.mediaIndex ∧
        rejection.reason = rule.reason v := by
  have hreason := violation_reason p v
  unfold rejectionOf
  cases hviolation : violation p v with
  | none =>
    rw [hviolation] at h
    exact absurd rfl h
  | some found =>
    rw [hviolation, Option.map_some] at hreason
    rcases Option.map_eq_some_iff.mp hreason.symm with ⟨rule, hrule, hfound⟩
    exact ⟨rule, _, hrule, rfl, rfl, hfound.symm⟩

theorem rejections_map_some (p : Policy) (scope : Level) (variants : List Variant) :
    (rejections p scope variants).map some =
      (variants.filter fun v => !(violation p v).isNone).map (rejectionOf p scope) := by
  unfold rejections
  induction variants with
  | nil => rfl
  | cons v rest ih =>
    cases hv : violation p v with
    | none =>
      simpa [hv] using ih
    | some found =>
      simpa [hv, rejectionOf] using ih

theorem key_injective (h : (variants.map Variant.mediaIndex).Nodup) :
    forall v, v ∈ eligible p variants -> forall w, w ∈ eligible p variants ->
      wrappedKey p v = wrappedKey p w -> v = w := by
  intro v hv w hw hkey
  exact List.inj_on_of_nodup_map h (List.mem_of_mem_filter hv) (List.mem_of_mem_filter hw)
    (mediaIndex_of_key hkey)

theorem evaluateAll_perm (scope : Level) {others : List Variant}
    (hdistinct : (variants.map Variant.mediaIndex).Nodup) (hperm : others.Perm variants) :
    (evaluateAll p scope others).selectedIndex = (evaluateAll p scope variants).selectedIndex ∧
      (evaluateAll p scope others).error = (evaluateAll p scope variants).error := by
  have hkept : (eligible p variants).Perm (eligible p others) := hperm.symm.filter _
  cases h : eligible p variants with
  | nil =>
    rw [h] at hkept
    rw [evaluateAll_nil h, evaluateAll_nil hkept.nil_eq.symm]
    exact ⟨rfl, rfl⟩
  | cons first rest =>
    cases h' : eligible p others with
    | nil =>
      rw [h, h'] at hkept
      cases hkept.eq_nil
    | cons first' rest' =>
      have hinj := key_injective (p := p) hdistinct
      rw [h] at hinj
      rw [h, h'] at hkept
      have hsame : choose p first rest = choose p first' rest' :=
        (choose_firstLeast p first rest).perm (choose_firstLeast p first' rest') hkept hinj
      rw [evaluateAll_cons h, evaluateAll_cons h', hsame]
      split
      all_goals exact ⟨rfl, rfl⟩

/-- Evaluation is a filter and a selection, for every policy and every list of variants. -/
theorem evaluateAll_selects (p : Policy) (scope : Level) (variants : List Variant) :
    exists refused kept, Selects p scope variants refused kept := by
  exists variants.filter fun v => !(violation p v).isNone
  exists eligible p variants
  constructor
  case loop =>
    rw [sift_eq]
  case sorted =>
    exact List.perm_append_comm.trans (List.filter_append_perm _ variants)
  case rejected =>
    rw [evaluateAll_rejected]
    exact rejections_map_some p scope variants
  case reason =>
    intro v hv
    have hsome := (List.mem_filter.mp hv).right
    rw [Bool.not_eq_true'] at hsome
    exact rejectionOf_reason scope (by rw [hsome]; decide)
  case allowed =>
    intro v hv
    rw [← first_eq_none_iff, ← violation_isNone_iff]
    exact (List.mem_filter.mp hv).right
  case none_allowed =>
    cases h : eligible p variants with
    | nil =>
      rw [evaluateAll_nil h]
      simp
    | cons first rest =>
      rw [evaluateAll_cons h]
      split
      all_goals simp
  case best =>
    intro hne
    cases h : eligible p variants with
    | nil => exact absurd h hne
    | cons first rest =>
      have hleast := choose_firstLeast p first rest
      refine ⟨choose p first rest, hleast.mem, ?_, hleast.le, ?_⟩
      · rw [evaluateAll_cons h]
        split
        all_goals rfl
      rw [evaluateAll_cons h]
      split
      · intro herror
        cases herror
      intro _
      rfl
  case forbidden =>
    cases h : eligible p variants with
    | nil =>
      rw [evaluateAll_nil h]
      simp
    | cons first rest =>
      rw [evaluateAll_cons h, ← choose_transcode p first rest]
      split
      · rename_i hdenied
        simp [hdenied]
      rename_i hallowed
      constructor
      · intro herror
        cases herror
      intro hall
      exact absurd ⟨hall.right.right, hall.right.left⟩ hallowed
  case unordered =>
    intro hdistinct others hperm
    exact evaluateAll_perm scope hdistinct hperm

/-!
## Without overflow
-/

def InInt64 (n : Int) : Prop :=
  -2 ^ 63 ≤ n ∧ n < 2 ^ 63

/-- No step of a variant's key leaves the 64-bit range. -/
structure Fits (p : Policy) (v : Variant) : Prop where
  cap : InInt64 (maxPixels p)
  pixels : InInt64 (pixels v)
  negated : InInt64 (-MediaPolicy.pixels v)
  distance : InInt64 (maxPixels p - MediaPolicy.pixels v)
  audio : InInt64 (v.audioChannels.getD 0 - p.maxAudioChannels.getD 0)

instance InInt64.decidable (n : Int) : Decidable (InInt64 n) :=
  inferInstanceAs (Decidable (_ ∧ _))

instance Fits.decidable (p : Policy) (v : Variant) : Decidable (Fits p v) :=
  decidable_of_iff
    (InInt64 (maxPixels p) ∧ InInt64 (MediaPolicy.pixels v) ∧
      InInt64 (-MediaPolicy.pixels v) ∧ InInt64 (maxPixels p - MediaPolicy.pixels v) ∧
        InInt64 (v.audioChannels.getD 0 - p.maxAudioChannels.getD 0))
    ⟨fun h => ⟨h.1, h.2.1, h.2.2.1, h.2.2.2.1, h.2.2.2.2⟩,
      fun h => ⟨h.cap, h.pixels, h.negated, h.distance, h.audio⟩⟩

theorem wrap_eq {n : Int} (h : InInt64 n) : wrap n = n := by
  unfold InInt64 at h
  unfold wrap
  apply Int.bmod_eq_of_le
  · omega
  · omega

theorem wrappedMaxPixels_eq (h : InInt64 (maxPixels p)) :
    wrappedMaxPixels p = maxPixels p := by
  unfold wrappedMaxPixels
  unfold maxPixels at h ⊢
  simp only at h ⊢
  split
  · rename_i hpositive
    rw [if_pos hpositive] at h
    exact wrap_eq h
  · rfl

theorem wrappedKey_eq (h : Fits p v) :
    wrappedKey p v = rankKey p v := by
  unfold wrappedKey rankKey
  rw [wrappedMaxPixels_eq h.cap, wrap_eq h.pixels, wrap_eq h.negated, wrap_eq h.distance,
    wrap_eq h.audio]
  congr 2
  split
  · rfl
  · omega

/-- Filtering the variants and sifting them in one loop give the same result. -/
theorem evaluate_ok_iff (p : Policy) (scope : Level) (variants : List Variant) (dec : Decision) :
    evaluate p scope variants = Except.ok dec <-> evaluateAll p scope variants =
        ⟨some dec.selected, dec.selected.mediaIndex, dec.outputBitrateKbps, dec.rejected,
          none⟩ := by
  unfold evaluate
  cases h : eligible p variants with
  | nil =>
    rw [evaluateAll_nil h]
    simp
  | cons first rest =>
    rw [evaluateAll_cons h]
    simp only
    split
    · simp
    constructor
    · intro hok
      cases hok
      rfl
    intro heq
    cases dec
    cases heq
    rfl

end ReplxEdge.MediaPolicy
