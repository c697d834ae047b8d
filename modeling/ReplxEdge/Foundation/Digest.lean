import ReplxEdge.Foundation.Bytes
import Mathlib.Algebra.Group.Nat.Defs

/-!
# Digests and their text forms

SHA-256, the keyed digest built from it, and the hexadecimal and decimal texts
that enter cache keys.
-/

namespace ReplxEdge.Foundation

/-!
## SHA-256
-/

namespace Sha256

def roundConstants : List UInt32 :=
  [0x428A2F98, 0x71374491, 0xB5C0FBCF, 0xE9B5DBA5, 0x3956C25B, 0x59F111F1,
    0x923F82A4, 0xAB1C5ED5, 0xD807AA98, 0x12835B01, 0x243185BE, 0x550C7DC3,
    0x72BE5D74, 0x80DEB1FE, 0x9BDC06A7, 0xC19BF174, 0xE49B69C1, 0xEFBE4786,
    0x0FC19DC6, 0x240CA1CC, 0x2DE92C6F, 0x4A7484AA, 0x5CB0A9DC, 0x76F988DA,
    0x983E5152, 0xA831C66D, 0xB00327C8, 0xBF597FC7, 0xC6E00BF3, 0xD5A79147,
    0x06CA6351, 0x14292967, 0x27B70A85, 0x2E1B2138, 0x4D2C6DFC, 0x53380D13,
    0x650A7354, 0x766A0ABB, 0x81C2C92E, 0x92722C85, 0xA2BFE8A1, 0xA81A664B,
    0xC24B8B70, 0xC76C51A3, 0xD192E819, 0xD6990624, 0xF40E3585, 0x106AA070,
    0x19A4C116, 0x1E376C08, 0x2748774C, 0x34B0BCB5, 0x391C0CB3, 0x4ED8AA4A,
    0x5B9CCA4F, 0x682E6FF3, 0x748F82EE, 0x78A5636F, 0x84C87814, 0x8CC70208,
    0x90BEFFFA, 0xA4506CEB, 0xBEF9A3F7, 0xC67178F2]

structure State where
  a : UInt32
  b : UInt32
  c : UInt32
  d : UInt32
  e : UInt32
  f : UInt32
  g : UInt32
  h : UInt32

def initial : State :=
  { a := 0x6A09E667, b := 0xBB67AE85, c := 0x3C6EF372, d := 0xA54FF53A,
    e := 0x510E527F, f := 0x9B05688C, g := 0x1F83D9AB, h := 0x5BE0CD19 }

def rotr (x n : UInt32) : UInt32 :=
  (x >>> n) ||| (x <<< (32 - n))

def beBytes (width n : Nat) : GoString :=
  (List.range width).reverse.map fun i => UInt8.ofNat (n / 256 ^ i)

def pad (m : GoString) : GoString :=
  m ++ 0x80 :: (List.replicate ((119 - m.length % 64) % 64) 0 ++ beBytes 8 (8 * m.length))

def blockWords : GoString -> List UInt32
  | b0 :: b1 :: b2 :: b3 :: rest =>
    ((b0.toUInt32 <<< 24) ||| (b1.toUInt32 <<< 16) |||
      (b2.toUInt32 <<< 8) ||| b3.toUInt32) :: blockWords rest
  | _ => []

def extend : Nat -> List UInt32 -> List UInt32
  | 0, w => w
  | n + 1, w =>
    let w15 := w.getD 14 0
    let w2 := w.getD 1 0
    let s0 := rotr w15 7 ^^^ rotr w15 18 ^^^ (w15 >>> 3)
    let s1 := rotr w2 17 ^^^ rotr w2 19 ^^^ (w2 >>> 10)
    extend n ((s1 + w.getD 6 0 + s0 + w.getD 15 0) :: w)

def round (s : State) (kw : UInt32 × UInt32) : State :=
  let s1 := rotr s.e 6 ^^^ rotr s.e 11 ^^^ rotr s.e 25
  let ch := (s.e &&& s.f) ^^^ (~~~s.e &&& s.g)
  let t1 := s.h + s1 + ch + kw.1 + kw.2
  let s0 := rotr s.a 2 ^^^ rotr s.a 13 ^^^ rotr s.a 22
  let maj := (s.a &&& s.b) ^^^ (s.a &&& s.c) ^^^ (s.b &&& s.c)
  { a := t1 + s0 + maj, b := s.a, c := s.b, d := s.c,
    e := s.d + t1, f := s.e, g := s.f, h := s.g }

def compress (s : State) (words : List UInt32) : State :=
  let w := (extend 48 words.reverse).reverse
  let r := (roundConstants.zip w).foldl round s
  { a := s.a + r.a, b := s.b + r.b, c := s.c + r.c, d := s.d + r.d,
    e := s.e + r.e, f := s.f + r.f, g := s.g + r.g, h := s.h + r.h }

def blocks : Nat -> List UInt32 -> State -> State
  | 0, _, s => s
  | n + 1, words, s => blocks n (words.drop 16) (compress s (words.take 16))

def State.bytes (s : State) : GoString :=
  [s.a, s.b, s.c, s.d, s.e, s.f, s.g, s.h].flatMap fun x => beBytes 4 x.toNat

end Sha256

def sha256 (m : GoString) : GoString :=
  let padded := Sha256.pad m
  (Sha256.blocks (padded.length / 64) (Sha256.blockWords padded) Sha256.initial).bytes

theorem sha256_length (m : GoString) : (sha256 m).length = 32 := by
  simp [sha256, Sha256.State.bytes, Sha256.beBytes]

/-!
## Hexadecimal text
-/

def hexDigit (n : Nat) : UInt8 :=
  if n < 10 then UInt8.ofNat (48 + n) else UInt8.ofNat (87 + n)

def hexEncode (s : GoString) : GoString :=
  s.flatMap fun b => [hexDigit (b.toNat / 16), hexDigit (b.toNat % 16)]

example : hexEncode (sha256 (str "abc")) =
    str "ba7816bf8f01cfea414140de5dae2223b00361a396177a9cb410ff61f20015ad" := by
  decide +kernel

theorem hexEncode_length (s : GoString) :
    (hexEncode s).length = 2 * s.length := by
  simp [hexEncode, Nat.mul_comm]

variable {n : Nat}

theorem not_mem_hexEncode {sep : UInt8} (hsep : forall n, n < 16 -> hexDigit n ≠ sep)
    (s : GoString) : sep ∉ hexEncode s := by
  intro hmem
  rcases List.mem_flatMap.mp hmem with ⟨b, _hb, hdigit⟩
  have hb256 : b.toNat < 256 := UInt8.toNat_lt b
  simp only [List.mem_cons, List.not_mem_nil, or_false] at hdigit
  rcases hdigit with h | h
  · exact hsep _ (by omega) h.symm
  · exact hsep _ (by omega) h.symm

theorem colon_not_mem_hexEncode (s : GoString) : (58 : UInt8) ∉ hexEncode s :=
  not_mem_hexEncode (by decide) s

variable {m : Nat}

theorem hexDigit_inj (hn : n < 16) (hm : m < 16) (h : hexDigit n = hexDigit m) : n = m := by
  have hall : forall a b : Fin 16, hexDigit a = hexDigit b -> a.val = b.val := by decide
  exact hall ⟨n, hn⟩ ⟨m, hm⟩ h

theorem hexEncode_inj {s t : GoString} (h : hexEncode s = hexEncode t) : s = t := by
  induction s generalizing t with
  | nil =>
    cases t with
    | nil => rfl
    | cons c t =>
      simp [hexEncode] at h
  | cons b s ih =>
    cases t with
    | nil =>
      simp [hexEncode] at h
    | cons c t =>
      have hb : b.toNat < 256 := UInt8.toNat_lt b
      have hc : c.toNat < 256 := UInt8.toNat_lt c
      simp only [hexEncode, List.flatMap_cons, List.cons_append, List.nil_append,
        List.cons.injEq] at h
      have hhigh := hexDigit_inj (by omega) (by omega) h.left
      have hlow := hexDigit_inj (by omega) (by omega) h.right.left
      have hbyte : b = c := UInt8.toNat_inj.mp (by omega)
      rw [hbyte, ih h.right.right]

/-!
## Keyed digest
-/

def hmacSha256 (key m : GoString) : GoString :=
  let short := if 64 < key.length then sha256 key else key
  let block := short ++ List.replicate (64 - short.length) 0
  sha256 (block.map (fun b => b ^^^ 0x5C) ++ sha256 (block.map (fun b => b ^^^ 0x36) ++ m))

/-!
## Decimal text
-/

/-- The text `%d` prints for an unsigned value. -/
def decimal (n : Nat) : GoString :=
  (Nat.toDigits 10 n).map fun c => c.val.toUInt8

/-- `strconv.FormatInt` in base ten. -/
def formatInt (n : Int) : GoString :=
  if n < 0 then 45 :: decimal n.natAbs else decimal n.natAbs

variable {c : Char}

theorem isDigit_range (hc : c.isDigit) :
    48 ≤ c.toNat ∧ c.toNat ≤ 57 := by
  simp only [Char.isDigit, ge_iff_le, Bool.and_eq_true, decide_eq_true_eq] at hc
  exact ⟨hc.left, hc.right⟩

theorem digitByte_toNat (hc : c.isDigit) :
    c.val.toUInt8.toNat = c.toNat := by
  have hrange := isDigit_range hc
  have hval : c.val.toNat = c.toNat := rfl
  rw [UInt32.toNat_toUInt8, hval]
  omega

theorem digit_of_mem_decimal {b : UInt8} (hmem : b ∈ decimal n) :
    48 ≤ b.toNat ∧ b.toNat ≤ 57 := by
  rcases List.mem_map.mp hmem with ⟨c, hc, hbyte⟩
  have hdigit := Nat.isDigit_of_mem_toDigits (by decide) (by decide) hc
  rw [← hbyte, digitByte_toNat hdigit]
  exact isDigit_range hdigit

theorem colon_not_mem_decimal (n : Nat) : (58 : UInt8) ∉ decimal n := by
  intro hmem
  have hcolon : (58 : UInt8).toNat = 58 := rfl
  have hdigit := digit_of_mem_decimal hmem
  omega

theorem minus_not_mem_decimal (n : Nat) : (45 : UInt8) ∉ decimal n := by
  intro hmem
  have hminus : (45 : UInt8).toNat = 45 := rfl
  have hdigit := digit_of_mem_decimal hmem
  omega

theorem decimal_toChars (n : Nat) :
    (decimal n).map (fun b => Char.ofNat b.toNat) = Nat.toDigits 10 n := by
  have hid : forall c, c ∈ Nat.toDigits 10 n ->
      Char.ofNat (c.val.toUInt8.toNat) = c := by
    intro c hc
    rw [digitByte_toNat (Nat.isDigit_of_mem_toDigits (by decide) (by decide) hc)]
    exact Char.ofNat_toNat c
  rw [decimal, List.map_map]
  exact (List.map_congr_left hid).trans (List.map_id _)

theorem decimal_inj (h : decimal n = decimal m) : n = m := by
  have hdigits : Nat.toDigits 10 n = Nat.toDigits 10 m := by
    rw [← decimal_toChars n, ← decimal_toChars m, h]
  calc
    n = Nat.ofDigitChars 10 (Nat.toDigits 10 n) 0 :=
      Nat.ofDigitChars_ten_toDigits.symm
    _ = Nat.ofDigitChars 10 (Nat.toDigits 10 m) 0 := by rw [hdigits]
    _ = m := Nat.ofDigitChars_ten_toDigits

theorem formatInt_inj {n m : Int} (h : formatInt n = formatInt m) : n = m := by
  unfold formatInt at h
  split at h
  · split at h
    · have habs := decimal_inj (List.cons.inj h).right
      omega
    · exact absurd (h ▸ List.mem_cons_self) (minus_not_mem_decimal m.natAbs)
  split at h
  · exact absurd (h ▸ List.mem_cons_self) (minus_not_mem_decimal n.natAbs)
  have habs := decimal_inj h
  omega

theorem foldl_digits {digits : List Char} (h : forall c, c ∈ digits -> c.isDigit) (n : Nat) :
    (digits.map fun c => c.val.toUInt8).foldl
        (fun (m : Int) b => 10 * m + (b.toNat - 48 : Nat)) n =
      Nat.ofDigitChars 10 digits n := by
  induction digits generalizing n with
  | nil => rfl
  | cons c digits ih =>
    have hbyte := digitByte_toNat (h c List.mem_cons_self)
    have hstep : (10 * (n : Int) + (c.val.toUInt8.toNat - 48 : Nat)) =
        ((10 * n + (c.toNat - 48) : Nat) : Int) := by
      rw [hbyte]
      push_cast
      rfl
    rw [List.map_cons, List.foldl_cons, hstep, Nat.ofDigitChars_cons,
      ih (fun d hd => h d (List.mem_cons_of_mem c hd))]
    rfl

theorem decimal_value (n : Nat) :
    (decimal n).foldl (fun (m : Int) b => 10 * m + (b.toNat - 48 : Nat)) 0 = n := by
  have hdigits : forall c, c ∈ Nat.toDigits 10 n -> c.isDigit := by
    intro c hc
    exact Nat.isDigit_of_mem_toDigits (by decide) (by decide) hc
  have h := foldl_digits hdigits 0
  rw [Nat.ofDigitChars_ten_toDigits] at h
  exact h

theorem decimal_ne_nil (n : Nat) : decimal n ≠ [] := by
  unfold decimal
  rw [ne_eq, List.map_eq_nil_iff]
  exact Nat.toDigits_ne_nil

end ReplxEdge.Foundation
