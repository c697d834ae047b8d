import Mathlib.Data.List.Infix
import Mathlib.Data.List.TakeWhile

/-!
# Byte strings

A Go string is a sequence of bytes, so the whole development works over lists
of `UInt8`. This module fixes the string operations the program calls
and the facts about separators that its key formats rely on.
-/

namespace ReplxEdge.Foundation

abbrev GoString := List UInt8

/-- An ASCII literal as a byte string. -/
def str (s : String) : GoString :=
  s.toList.map fun c => c.val.toUInt8

def hasPrefix (s p : GoString) : Bool :=
  decide (p <+: s)

def hasSuffix (s p : GoString) : Bool :=
  decide (p <:+ s)

def contains (s sub : GoString) : Bool :=
  decide (sub <:+: s)

/-- Go's `strings.Split` for a one-byte separator. -/
def split (s : GoString) (sep : UInt8) : List GoString :=
  s.splitOn sep

/-- The text before the first separator, all of it when there is none. -/
def before (s : GoString) (sep : UInt8) : GoString :=
  s.takeWhile fun c => c != sep

/-- The text after the first separator, empty when there is none. -/
def after (s : GoString) (sep : UInt8) : GoString :=
  (s.dropWhile fun c => c != sep).drop 1

def trimPrefix (s p : GoString) : GoString :=
  if hasPrefix s p then s.drop p.length else s

def trimSuffix (s p : GoString) : GoString :=
  if hasSuffix s p then s.take (s.length - p.length) else s

/-- The text before the last separator, empty when there is none. -/
def beforeLast (s : GoString) (sep : UInt8) : GoString :=
  ((s.reverse.dropWhile fun c => c != sep).drop 1).reverse

def afterLast (s : GoString) (sep : UInt8) : GoString :=
  (s.reverse.takeWhile fun c => c != sep).reverse

def join (sep : UInt8) (fields : List GoString) : GoString :=
  [sep].intercalate fields

variable {s a b : GoString} {sep : UInt8}

/-- A fact about every byte, from the 256 cases. -/
theorem forall_byte {P : UInt8 -> Prop}
    (h : forall n : Fin 256, P (UInt8.ofNat n)) (b : UInt8) : P b := by
  have hb := h ⟨b.toNat, UInt8.toNat_lt b⟩
  rwa [UInt8.ofNat_toNat] at hb

@[simp] theorem hasPrefix_eq_true {p : GoString} :
    hasPrefix s p = true <-> p <+: s := by
  simp [hasPrefix]

theorem before_of_not_mem (h : sep ∉ s) :
    before s sep = s := by
  rw [before, List.takeWhile_eq_self_iff]
  intro b hb
  simp only [bne_iff_ne, ne_eq]
  intro hsep
  exact h (hsep ▸ hb)

theorem before_append (h : sep ∉ a) (b : GoString) :
    before (a ++ b) sep = a ++ before b sep := by
  unfold before
  apply List.takeWhile_append_of_pos
  intro c hc
  simp only [bne_iff_ne, ne_eq]
  intro hsep
  exact h (hsep ▸ hc)

theorem before_append_of_mem (h : sep ∈ a) (b : GoString) :
    before (a ++ b) sep = before a sep := by
  induction a with
  | nil => cases h
  | cons c a ih =>
    unfold before at ih ⊢
    rw [List.cons_append, List.takeWhile_cons, List.takeWhile_cons]
    split
    · rename_i hc
      rcases List.mem_cons.mp h with rfl | htail
      · simp at hc
      · rw [ih htail]
    · rfl

theorem after_append (h : sep ∉ a) (b : GoString) :
    after (a ++ b) sep = after b sep := by
  unfold after
  rw [List.dropWhile_append_of_pos]
  intro c hc
  simp only [bne_iff_ne, ne_eq]
  intro hsep
  exact h (hsep ▸ hc)

theorem after_append_of_mem (h : sep ∈ a) (b : GoString) :
    after (a ++ b) sep = after a sep ++ b := by
  induction a with
  | nil => cases h
  | cons c a ih =>
    unfold after at ih ⊢
    rw [List.cons_append, List.dropWhile_cons, List.dropWhile_cons]
    split
    · rename_i hc
      rcases List.mem_cons.mp h with rfl | htail
      · simp at hc
      · exact ih htail
    · rfl

theorem after_of_not_mem (h : sep ∉ s) : after s sep = [] := by
  rw [← List.append_nil s, after_append h]
  rfl

theorem before_cons_self (sep : UInt8) (b : GoString) : before (sep :: b) sep = [] := by
  simp [before]

theorem after_cons_self (sep : UInt8) (b : GoString) : after (sep :: b) sep = b := by
  simp [after]

theorem trimSuffix_concat (l : GoString) (b c : UInt8) :
    trimSuffix (l ++ [b]) [c] = if b = c then l else l ++ [b] := by
  unfold trimSuffix
  by_cases h : b = c
  · rw [h, if_pos (by simp [hasSuffix]), if_pos rfl]
    simp
  have hnot : hasSuffix (l ++ [b]) [c] = false := by
    simp only [hasSuffix, decide_eq_false_iff_not]
    intro hsuffix
    rcases hsuffix with ⟨t, ht⟩
    exact h (List.append_inj_right' ht rfl |> List.singleton_inj.mp |> Eq.symm)
  rw [hnot, if_neg h, if_neg (by decide)]

theorem trimSuffix_append (a : GoString) (hb : b ≠ []) (c : UInt8) :
    trimSuffix (a ++ b) [c] = a ++ trimSuffix b [c] := by
  rw [← List.dropLast_append_getLast hb, ← List.append_assoc, trimSuffix_concat, trimSuffix_concat]
  split
  · rfl
  · rw [List.append_assoc]

theorem trimSuffix_append_self (a b : GoString) : trimSuffix (a ++ b) b = a := by
  unfold trimSuffix
  rw [if_pos (by simp [hasSuffix]), List.length_append, Nat.add_sub_cancel, List.take_left]

theorem afterLast_append (a : GoString) (h : sep ∉ b) :
    afterLast (a ++ sep :: b) sep = b := by
  have hreverse : (a ++ sep :: b).reverse = b.reverse ++ sep :: a.reverse := by simp
  have hbefore : before (b.reverse ++ sep :: a.reverse) sep = b.reverse := by
    rw [before_append (by simpa using h), before_cons_self, List.append_nil]
  unfold afterLast
  rw [hreverse]
  exact (congrArg List.reverse hbefore).trans b.reverse_reverse

theorem beforeLast_append (a : GoString) (h : sep ∉ b) :
    beforeLast (a ++ sep :: b) sep = a := by
  have hreverse : (a ++ sep :: b).reverse = b.reverse ++ sep :: a.reverse := by simp
  have hafter : after (b.reverse ++ sep :: a.reverse) sep = a.reverse := by
    rw [after_append (by simpa using h), after_cons_self]
  unfold beforeLast
  rw [hreverse]
  exact (congrArg List.reverse hafter).trans a.reverse_reverse

theorem exists_last (h : sep ∈ s) :
    exists a b, s = a ++ sep :: b ∧ sep ∉ b := by
  rcases List.eq_append_cons_of_mem (List.mem_reverse.mpr h) with ⟨b, a, hsplit, hfirst⟩
  exact ⟨a.reverse, b.reverse, by simpa using congrArg List.reverse hsplit,
    by simpa using hfirst⟩

theorem not_mem_before (s : GoString) (sep : UInt8) : sep ∉ before s sep := by
  intro hmem
  have hkept := List.mem_takeWhile_imp hmem
  simp at hkept

theorem mem_of_mem_before {b : UInt8} (h : b ∈ before s sep) : b ∈ s :=
  (List.takeWhile_prefix _).mem h

theorem length_before_le (s : GoString) (sep : UInt8) :
    (before s sep).length ≤ s.length :=
  (List.takeWhile_prefix _).length_le

theorem not_mem_of_length_before (h : s.length ≤ (before s sep).length) : sep ∉ s := by
  have hall : before s sep = s :=
    (List.takeWhile_prefix _).eq_of_length_le h
  rw [← hall]
  exact not_mem_before s sep

theorem not_mem_of_mem_split {piece : GoString} (h : piece ∈ split s sep) : sep ∉ piece := by
  unfold split at h
  induction s generalizing piece with
  | nil =>
    rw [List.splitOn_nil, List.mem_singleton] at h
    rw [h]
    exact List.not_mem_nil
  | cons b rest ih =>
    rw [List.splitOn_cons_eq_if_modifyHead] at h
    split at h
    · rcases List.mem_cons.mp h with h | h
      · rw [h]
        exact List.not_mem_nil
      · exact ih h
    rename_i hb
    cases hrest : rest.splitOn sep with
    | nil => exact absurd hrest (List.splitOn_ne_nil sep rest)
    | cons first others =>
      rw [hrest, List.modifyHead_cons] at h
      rcases List.mem_cons.mp h with h | h
      · rw [h, List.mem_cons, not_or]
        refine ⟨?_, ih (by rw [hrest]; exact List.mem_cons_self)⟩
        intro heq
        exact hb (by rw [heq, beq_self_eq_true])
      · exact ih (by rw [hrest]; exact List.mem_cons_of_mem first h)

/-!
## Separators

Text without the separator splits off uniquely from either end. The fields in
the middle of a joined string may contain the separator; those at the two ends
may not.
-/

section Separators

variable {alpha : Type}

theorem append_separator_inj {sep : alpha} {a b x y : List alpha} (ha : sep ∉ a) (hb : sep ∉ b)
    (h : a ++ sep :: x = b ++ sep :: y) : a = b ∧ x = y := by
  induction a generalizing b with
  | nil =>
    cases b with
    | nil =>
      simpa using h
    | cons c b =>
      have hc : sep = c := by simpa using congrArg List.head? h
      exact absurd (by simp [hc]) hb
  | cons c a ih =>
    cases b with
    | nil =>
      have hc : c = sep := by simpa using congrArg List.head? h
      exact absurd (by simp [hc]) ha
    | cons d b =>
      simp only [List.cons_append, List.cons.injEq] at h
      rcases ih (fun hmem => ha (List.mem_cons_of_mem c hmem))
          (fun hmem => hb (List.mem_cons_of_mem d hmem)) h.right with
        ⟨hab, hxy⟩
      exact ⟨by rw [h.left, hab], hxy⟩

theorem separator_append_inj {sep : alpha} {a b x y : List alpha} (ha : sep ∉ a) (hb : sep ∉ b)
    (h : x ++ sep :: a = y ++ sep :: b) : x = y ∧ a = b := by
  have hrev : a.reverse ++ sep :: x.reverse = b.reverse ++ sep :: y.reverse := by
    simpa using congrArg List.reverse h
  rcases append_separator_inj (by simpa using ha) (by simpa using hb) hrev with
    ⟨hab, hxy⟩
  exact ⟨List.reverse_injective hxy, List.reverse_injective hab⟩

theorem intercalate_cons_inj {sep : alpha} {a b : List alpha}
    {xs ys : List (List alpha)} (ha : sep ∉ a) (hb : sep ∉ b) (hxs : xs ≠ []) (hys : ys ≠ [])
    (h : [sep].intercalate (a :: xs) = [sep].intercalate (b :: ys)) :
    a = b ∧ [sep].intercalate xs = [sep].intercalate ys := by
  cases xs with
  | nil => exact absurd rfl hxs
  | cons x xs =>
    cases ys with
    | nil => exact absurd rfl hys
    | cons y ys =>
      simp only [List.intercalate_cons_cons, List.append_assoc, List.singleton_append] at h
      exact append_separator_inj ha hb h

theorem intercalate_concat (sep : alpha) (last : List alpha)
    (xs : List (List alpha)) (hxs : xs ≠ []) :
    [sep].intercalate (xs ++ [last]) = [sep].intercalate xs ++ sep :: last := by
  induction xs with
  | nil => exact absurd rfl hxs
  | cons x xs ih =>
    cases xs with
    | nil =>
      simp [List.intercalate_cons_cons]
    | cons y xs =>
      have hrest := ih (by simp)
      simp only [List.cons_append] at hrest
      simp only [List.cons_append, List.intercalate_cons_cons, List.append_assoc, hrest]

theorem intercalate_concat_inj {sep : alpha} {a b : List alpha}
    (xs ys : List (List alpha)) (ha : sep ∉ a) (hb : sep ∉ b) (hxs : xs ≠ []) (hys : ys ≠ [])
    (h : [sep].intercalate (xs ++ [a]) = [sep].intercalate (ys ++ [b])) :
    [sep].intercalate xs = [sep].intercalate ys ∧ a = b := by
  rw [intercalate_concat sep a xs hxs, intercalate_concat sep b ys hys] at h
  exact separator_append_inj ha hb h

end Separators

end ReplxEdge.Foundation
