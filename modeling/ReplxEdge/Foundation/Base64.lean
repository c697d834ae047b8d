import ReplxEdge.Foundation.Bytes
import Mathlib.Algebra.Group.Nat.Defs

/-!
# Base64

The encoding without padding, `base64.RawStdEncoding`. Three bytes are written as four
digits; the last group may be shorter. The decoder passes over line ends and does not look
at the bits that a short group leaves over.
-/

namespace ReplxEdge.Foundation.Base64

def alphabet : GoString :=
  str "ABCDEFGHIJKLMNOPQRSTUVWXYZabcdefghijklmnopqrstuvwxyz0123456789+/"

def digit (n : Nat) : UInt8 :=
  alphabet.getD n 0

/-- A group of 24 bits in four parts. -/
def groupValues (group : Nat) : List Nat :=
  [group / 2 ^ 18 % 64, group / 2 ^ 12 % 64, group / 2 ^ 6 % 64, group % 64]

def values : GoString -> List Nat
  | [] => []
  | [a] => (groupValues (a.toNat * 2 ^ 16)).take 2
  | [a, b] => (groupValues (a.toNat * 2 ^ 16 + b.toNat * 2 ^ 8)).take 3
  | a :: b :: c :: rest =>
    groupValues (a.toNat * 2 ^ 16 + b.toNat * 2 ^ 8 + c.toNat) ++ values rest

def encode (s : GoString) : GoString :=
  (values s).map digit

def groupBytes (a b c d : Nat) : GoString :=
  let group := a * 2 ^ 18 + b * 2 ^ 12 + c * 2 ^ 6 + d
  [UInt8.ofNat (group / 2 ^ 16), UInt8.ofNat (group / 2 ^ 8), UInt8.ofNat group]

/-- A single digit is no group. -/
def decodeGroups : List Nat -> Option GoString
  | [] => some []
  | [_] => none
  | [a, b] => some ((groupBytes a b 0 0).take 1)
  | [a, b, c] => some ((groupBytes a b c 0).take 2)
  | a :: b :: c :: d :: rest => (decodeGroups rest).map (groupBytes a b c d ++ ·)

def decode (s : GoString) : Option GoString :=
  ((s.filter fun b => b != 10 && b != 13).mapM fun b => alphabet.idxOf? b).bind decodeGroups

/-!
## Round trip
-/

theorem digit_spec : forall n : Fin 64,
    alphabet.idxOf? (digit n) = some n.val ∧ digit n ≠ 10 ∧ digit n ≠ 13 ∧ digit n ≠ 36 := by
  decide

variable {n : Nat} {s : GoString}

theorem values_lt (h : n ∈ values s) : n < 64 := by
  have hgroup : forall {group : Nat}, n ∈ groupValues group -> n < 64 := by
    intro group hn
    simp only [groupValues, List.mem_cons, List.not_mem_nil, or_false] at hn
    rcases hn with rfl | rfl | rfl | rfl <;> exact Nat.mod_lt _ (by decide)
  fun_induction values s with
  | case1 => cases h
  | case2 a => exact hgroup (List.mem_of_mem_take h)
  | case3 a b => exact hgroup (List.mem_of_mem_take h)
  | case4 a b c rest ih => exact (List.mem_append.mp h).elim hgroup ih

theorem ofNat_of_mod {b : UInt8} (h : n % 256 = b.toNat) : UInt8.ofNat n = b := by
  apply UInt8.toNat_inj.mp
  rw [UInt8.toNat_ofNat', h]

theorem decodeGroups_values (s : GoString) : decodeGroups (values s) = some s := by
  fun_induction values s with
  | case1 => rfl
  | case2 a =>
    have ha := a.toNat_lt
    simp only [groupValues, decodeGroups, groupBytes, List.take]
    rw [ofNat_of_mod (b := a) (by omega)]
  | case3 a b =>
    have ha := a.toNat_lt
    have hb := b.toNat_lt
    simp only [groupValues, decodeGroups, groupBytes, List.take]
    rw [ofNat_of_mod (b := a) (by omega), ofNat_of_mod (b := b) (by omega)]
  | case4 a b c rest ih =>
    have ha := a.toNat_lt
    have hb := b.toNat_lt
    have hc := c.toNat_lt
    simp only [groupValues, List.cons_append, List.nil_append, decodeGroups, groupBytes, ih]
    rw [ofNat_of_mod (b := a) (by omega), ofNat_of_mod (b := b) (by omega),
      ofNat_of_mod (b := c) (by omega)]
    rfl

theorem decode_encode (s : GoString) : decode (encode s) = some s := by
  have hkept : (encode s).filter (fun b => b != 10 && b != 13) = encode s := by
    rw [List.filter_eq_self]
    intro b hb
    rcases List.mem_map.mp hb with ⟨n, hn, rfl⟩
    have hdigit := digit_spec ⟨n, values_lt hn⟩
    simp [hdigit.right.left, hdigit.right.right.left]
  have hread : forall values : List Nat, (forall n, n ∈ values -> n < 64) ->
      (values.map digit).mapM (fun b => alphabet.idxOf? b) = some values := by
    intro values hsmall
    induction values with
    | nil => rfl
    | cons n values ih =>
      rw [List.forall_mem_cons] at hsmall
      rw [List.map_cons, List.mapM_cons, (digit_spec ⟨n, hsmall.left⟩).left, ih hsmall.right]
      rfl
  unfold decode
  rw [hkept, encode, hread _ fun _ => values_lt]
  exact decodeGroups_values s

theorem dollar_not_mem_encode (s : GoString) : 36 ∉ encode s := by
  intro hmem
  rcases List.mem_map.mp hmem with ⟨n, hn, hdollar⟩
  exact (digit_spec ⟨n, values_lt hn⟩).right.right.right hdollar

end ReplxEdge.Foundation.Base64
