import ReplxEdge.Foundation.Bytes
import Mathlib.Algebra.Group.Nat.Defs

/-!
# Runes and letter case

Go's `strings` functions work on runes: a byte string is decoded as UTF-8, and
every byte that starts no valid sequence decodes to the replacement rune on its
own. Lower-casing then maps each rune through the simple lower-case mapping of
the Unicode character database.
-/

namespace ReplxEdge.Foundation

variable {b : UInt8} {s : GoString}

/-!
## Decoding
-/

def runeError : Nat := 0xFFFD

/-- Length of the sequence a leading byte announces, 0 for no leading byte. -/
def sequenceLength (b : UInt8) : Nat :=
  if b < 0x80 then 1
  else if 0xC2 ≤ b ∧ b ≤ 0xDF then 2
  else if 0xE0 ≤ b ∧ b ≤ 0xEF then 3
  else if 0xF0 ≤ b ∧ b ≤ 0xF4 then 4
  else 0

/-- The second byte's range excludes overlong forms, surrogates and runes
beyond the last plane. -/
def acceptsSecond (b0 b1 : UInt8) : Bool :=
  decide ((if b0 = 0xE0 then 0xA0 else if b0 = 0xF0 then 0x90 else 0x80) ≤ b1 ∧
    b1 ≤ (if b0 = 0xED then 0x9F else if b0 = 0xF4 then 0x8F else 0xBF))

def acceptsTail (b0 : UInt8) : GoString -> Bool
  | [] => true
  | b1 :: rest =>
    acceptsSecond b0 b1 && rest.all fun b => decide (0x80 ≤ b ∧ b ≤ 0xBF)

def decodeRune : GoString -> Nat × Nat
  | [] => (runeError, 0)
  | b0 :: rest =>
    let n := sequenceLength b0
    let tail := rest.take (n - 1)
    if n = 1 then (b0.toNat, 1)
    else if n = 0 ∨ tail.length + 1 < n ∨ acceptsTail b0 tail = false then
      (runeError, 1)
    else
      (tail.foldl (fun acc b => acc * 64 + b.toNat % 64)
        (b0.toNat % 2 ^ (7 - n)), n)

/-- The runes of a string, each with the bytes it was decoded from. -/
def runeChunksFueled : Nat -> GoString -> List (Nat × GoString)
  | 0, _ => []
  | _, [] => []
  | fuel + 1, s =>
    let (rune, width) := decodeRune s
    (rune, s.take width) :: runeChunksFueled fuel (s.drop width)

def runeChunks (s : GoString) : List (Nat × GoString) :=
  runeChunksFueled s.length s

def encodeRune (r : Nat) : GoString :=
  if r < 0x80 then [UInt8.ofNat r]
  else if r < 0x800 then
    [UInt8.ofNat (0xC0 + r / 64), UInt8.ofNat (0x80 + r % 64)]
  else if r < 0x10000 then
    [UInt8.ofNat (0xE0 + r / 4096), UInt8.ofNat (0x80 + r / 64 % 64),
      UInt8.ofNat (0x80 + r % 64)]
  else
    [UInt8.ofNat (0xF0 + r / 262144), UInt8.ofNat (0x80 + r / 4096 % 64),
      UInt8.ofNat (0x80 + r / 64 % 64), UInt8.ofNat (0x80 + r % 64)]

/-!
## Lower case

Rows of the mapping beyond ASCII: first rune, last rune, stride, and the
distance to the lower-case rune.
-/

def lowerRanges : List (Nat × Nat × Nat × Int) :=
  [(0xC0, 0xD6, 1, 32), (0xD8, 0xDE, 1, 32), (0x100, 0x12E, 2, 1), (0x130, 0x130, 1, -199),
    (0x132, 0x136, 2, 1), (0x139, 0x147, 2, 1), (0x14A, 0x176, 2, 1), (0x178, 0x178, 1, -121),
    (0x179, 0x17D, 2, 1), (0x181, 0x181, 1, 210), (0x182, 0x184, 2, 1), (0x186, 0x186, 1, 206),
    (0x187, 0x187, 1, 1), (0x189, 0x18A, 1, 205), (0x18B, 0x18B, 1, 1), (0x18E, 0x18E, 1, 79),
    (0x18F, 0x18F, 1, 202), (0x190, 0x190, 1, 203), (0x191, 0x191, 1, 1), (0x193, 0x193, 1, 205),
    (0x194, 0x194, 1, 207), (0x196, 0x196, 1, 211), (0x197, 0x197, 1, 209), (0x198, 0x198, 1, 1),
    (0x19C, 0x19C, 1, 211), (0x19D, 0x19D, 1, 213), (0x19F, 0x19F, 1, 214), (0x1A0, 0x1A4, 2, 1),
    (0x1A6, 0x1A6, 1, 218), (0x1A7, 0x1A7, 1, 1), (0x1A9, 0x1A9, 1, 218), (0x1AC, 0x1AC, 1, 1),
    (0x1AE, 0x1AE, 1, 218), (0x1AF, 0x1AF, 1, 1), (0x1B1, 0x1B2, 1, 217), (0x1B3, 0x1B5, 2, 1),
    (0x1B7, 0x1B7, 1, 219), (0x1B8, 0x1B8, 1, 1), (0x1BC, 0x1BC, 1, 1), (0x1C4, 0x1C4, 1, 2),
    (0x1C5, 0x1C5, 1, 1), (0x1C7, 0x1C7, 1, 2), (0x1C8, 0x1C8, 1, 1), (0x1CA, 0x1CA, 1, 2),
    (0x1CB, 0x1DB, 2, 1), (0x1DE, 0x1EE, 2, 1), (0x1F1, 0x1F1, 1, 2), (0x1F2, 0x1F4, 2, 1),
    (0x1F6, 0x1F6, 1, -97), (0x1F7, 0x1F7, 1, -56), (0x1F8, 0x21E, 2, 1), (0x220, 0x220, 1, -130),
    (0x222, 0x232, 2, 1), (0x23A, 0x23A, 1, 10795), (0x23B, 0x23B, 1, 1), (0x23D, 0x23D, 1, -163),
    (0x23E, 0x23E, 1, 10792), (0x241, 0x241, 1, 1), (0x243, 0x243, 1, -195), (0x244, 0x244, 1, 69),
    (0x245, 0x245, 1, 71), (0x246, 0x24E, 2, 1), (0x370, 0x372, 2, 1), (0x376, 0x376, 1, 1),
    (0x37F, 0x37F, 1, 116), (0x386, 0x386, 1, 38), (0x388, 0x38A, 1, 37), (0x38C, 0x38C, 1, 64),
    (0x38E, 0x38F, 1, 63), (0x391, 0x3A1, 1, 32), (0x3A3, 0x3AB, 1, 32), (0x3CF, 0x3CF, 1, 8),
    (0x3D8, 0x3EE, 2, 1), (0x3F4, 0x3F4, 1, -60), (0x3F7, 0x3F7, 1, 1), (0x3F9, 0x3F9, 1, -7),
    (0x3FA, 0x3FA, 1, 1), (0x3FD, 0x3FF, 1, -130), (0x400, 0x40F, 1, 80), (0x410, 0x42F, 1, 32),
    (0x460, 0x480, 2, 1), (0x48A, 0x4BE, 2, 1), (0x4C0, 0x4C0, 1, 15), (0x4C1, 0x4CD, 2, 1),
    (0x4D0, 0x52E, 2, 1), (0x531, 0x556, 1, 48), (0x10A0, 0x10C5, 1, 7264),
    (0x10C7, 0x10C7, 1, 7264), (0x10CD, 0x10CD, 1, 7264), (0x13A0, 0x13EF, 1, 38864),
    (0x13F0, 0x13F5, 1, 8), (0x1C90, 0x1CBA, 1, -3008), (0x1CBD, 0x1CBF, 1, -3008),
    (0x1E00, 0x1E94, 2, 1), (0x1E9E, 0x1E9E, 1, -7615), (0x1EA0, 0x1EFE, 2, 1),
    (0x1F08, 0x1F0F, 1, -8), (0x1F18, 0x1F1D, 1, -8), (0x1F28, 0x1F2F, 1, -8),
    (0x1F38, 0x1F3F, 1, -8), (0x1F48, 0x1F4D, 1, -8), (0x1F59, 0x1F5F, 2, -8),
    (0x1F68, 0x1F6F, 1, -8), (0x1F88, 0x1F8F, 1, -8), (0x1F98, 0x1F9F, 1, -8),
    (0x1FA8, 0x1FAF, 1, -8), (0x1FB8, 0x1FB9, 1, -8), (0x1FBA, 0x1FBB, 1, -74),
    (0x1FBC, 0x1FBC, 1, -9), (0x1FC8, 0x1FCB, 1, -86), (0x1FCC, 0x1FCC, 1, -9),
    (0x1FD8, 0x1FD9, 1, -8), (0x1FDA, 0x1FDB, 1, -100), (0x1FE8, 0x1FE9, 1, -8),
    (0x1FEA, 0x1FEB, 1, -112), (0x1FEC, 0x1FEC, 1, -7), (0x1FF8, 0x1FF9, 1, -128),
    (0x1FFA, 0x1FFB, 1, -126), (0x1FFC, 0x1FFC, 1, -9), (0x2126, 0x2126, 1, -7517),
    (0x212A, 0x212A, 1, -8383), (0x212B, 0x212B, 1, -8262), (0x2132, 0x2132, 1, 28),
    (0x2160, 0x216F, 1, 16), (0x2183, 0x2183, 1, 1), (0x24B6, 0x24CF, 1, 26),
    (0x2C00, 0x2C2F, 1, 48), (0x2C60, 0x2C60, 1, 1), (0x2C62, 0x2C62, 1, -10743),
    (0x2C63, 0x2C63, 1, -3814), (0x2C64, 0x2C64, 1, -10727), (0x2C67, 0x2C6B, 2, 1),
    (0x2C6D, 0x2C6D, 1, -10780), (0x2C6E, 0x2C6E, 1, -10749), (0x2C6F, 0x2C6F, 1, -10783),
    (0x2C70, 0x2C70, 1, -10782), (0x2C72, 0x2C72, 1, 1), (0x2C75, 0x2C75, 1, 1),
    (0x2C7E, 0x2C7F, 1, -10815), (0x2C80, 0x2CE2, 2, 1), (0x2CEB, 0x2CED, 2, 1),
    (0x2CF2, 0x2CF2, 1, 1), (0xA640, 0xA66C, 2, 1), (0xA680, 0xA69A, 2, 1), (0xA722, 0xA72E, 2, 1),
    (0xA732, 0xA76E, 2, 1), (0xA779, 0xA77B, 2, 1), (0xA77D, 0xA77D, 1, -35332),
    (0xA77E, 0xA786, 2, 1), (0xA78B, 0xA78B, 1, 1), (0xA78D, 0xA78D, 1, -42280),
    (0xA790, 0xA792, 2, 1), (0xA796, 0xA7A8, 2, 1), (0xA7AA, 0xA7AA, 1, -42308),
    (0xA7AB, 0xA7AB, 1, -42319), (0xA7AC, 0xA7AC, 1, -42315), (0xA7AD, 0xA7AD, 1, -42305),
    (0xA7AE, 0xA7AE, 1, -42308), (0xA7B0, 0xA7B0, 1, -42258), (0xA7B1, 0xA7B1, 1, -42282),
    (0xA7B2, 0xA7B2, 1, -42261), (0xA7B3, 0xA7B3, 1, 928), (0xA7B4, 0xA7C2, 2, 1),
    (0xA7C4, 0xA7C4, 1, -48), (0xA7C5, 0xA7C5, 1, -42307), (0xA7C6, 0xA7C6, 1, -35384),
    (0xA7C7, 0xA7C9, 2, 1), (0xA7D0, 0xA7D0, 1, 1), (0xA7D6, 0xA7D8, 2, 1), (0xA7F5, 0xA7F5, 1, 1),
    (0xFF21, 0xFF3A, 1, 32), (0x10400, 0x10427, 1, 40), (0x104B0, 0x104D3, 1, 40),
    (0x10570, 0x1057A, 1, 39), (0x1057C, 0x1058A, 1, 39), (0x1058C, 0x10592, 1, 39),
    (0x10594, 0x10595, 1, 39), (0x10C80, 0x10CB2, 1, 64), (0x118A0, 0x118BF, 1, 32),
    (0x16E40, 0x16E5F, 1, 32), (0x1E900, 0x1E921, 1, 34)]

def lowerByte (b : UInt8) : UInt8 :=
  if 65 ≤ b ∧ b ≤ 90 then b + 32 else b

def upperByte (b : UInt8) : UInt8 :=
  if 97 ≤ b ∧ b ≤ 122 then b - 32 else b

def lowerRune (r : Nat) : Nat :=
  if r < 0x80 then (lowerByte (UInt8.ofNat r)).toNat
  else
    match lowerRanges.find? fun row =>
        decide (row.1 ≤ r ∧ r ≤ row.2.1 ∧ (r - row.1) % row.2.2.1 = 0) with
    | some row => (Int.ofNat r + row.2.2.2).toNat
    | none => r

def isASCII (s : GoString) : Bool :=
  s.all fun b => decide (b < 0x80)

def toLower (s : GoString) : GoString :=
  if isASCII s then s.map lowerByte
  else (runeChunks s).flatMap fun chunk => encodeRune (lowerRune chunk.1)

def toUpperToken (s : GoString) : GoString :=
  s.map upperByte

/-!
## Folding and trimming

The two runes outside ASCII that fold to an ASCII letter are the Kelvin sign
and the long s, which is all that a comparison with an ASCII constant can see.
-/

def foldRune (r : Nat) : Nat :=
  if r = 0x212A then 0x6B
  else if r = 0x017F then 0x73
  else if r < 0x80 then (lowerByte (UInt8.ofNat r)).toNat
  else r

/-- `strings.EqualFold` against an ASCII constant. -/
def equalFold (s constant : GoString) : Bool :=
  (runeChunks s).map (fun chunk => foldRune chunk.1) ==
    constant.map fun b => (lowerByte b).toNat

/-- Runes whose folding class is not the one of their lower-case rune. -/
def foldExceptions : List (Nat × Nat) :=
  [(0x00B5, 0x03BC), (0x0130, 0x0130), (0x017F, 0x0073), (0x0345, 0x03B9),
    (0x03C2, 0x03C3), (0x03D0, 0x03B2), (0x03D1, 0x03B8), (0x03D5, 0x03C6),
    (0x03D6, 0x03C0), (0x03F0, 0x03BA), (0x03F1, 0x03C1), (0x03F5, 0x03B5),
    (0x1C80, 0x0432), (0x1C81, 0x0434), (0x1C82, 0x043E), (0x1C83, 0x0441),
    (0x1C84, 0x0442), (0x1C85, 0x0442), (0x1C86, 0x044A), (0x1C87, 0x0463),
    (0x1C88, 0xA64B), (0x1E9B, 0x1E61), (0x1FBE, 0x03B9)]

/-- The representative of a rune's class under `unicode.SimpleFold`. -/
def foldClass (r : Nat) : Nat :=
  match foldExceptions.find? fun row => row.1 == r with
  | some row => row.2
  | none => lowerRune r

/-- `strings.EqualFold` of two arbitrary texts. -/
def equalFoldText (s t : GoString) : Bool :=
  (runeChunks s).map (fun chunk => foldClass chunk.1) ==
    (runeChunks t).map fun chunk => foldClass chunk.1

theorem equalFoldText_refl (s : GoString) : equalFoldText s s = true :=
  beq_self_eq_true _

def isSpaceRune (r : Nat) : Bool :=
  decide ((9 ≤ r ∧ r ≤ 13) ∨ r = 32 ∨ r = 0x85 ∨ r = 0xA0 ∨ r = 0x1680 ∨
    (0x2000 ≤ r ∧ r ≤ 0x200A) ∨ r = 0x2028 ∨ r = 0x2029 ∨ r = 0x202F ∨
    r = 0x205F ∨ r = 0x3000)

def trimSpace (s : GoString) : GoString :=
  let leading := (runeChunks s).dropWhile fun chunk => isSpaceRune chunk.1
  let kept := (leading.reverse.dropWhile fun chunk => isSpaceRune chunk.1).reverse
  kept.flatMap fun chunk => chunk.2

/-!
## Lower-casing around ASCII bytes

An ASCII byte is always a rune of its own, so a string falls apart at it: what
stands before and after lower-cases separately.
-/

theorem lowerByte_eq_self (h : ¬ (65 ≤ b ∧ b ≤ 90)) :
    lowerByte b = b := by
  simp [lowerByte, h]

theorem toLower_of_isASCII (h : isASCII s = true) :
    toLower s = s.map lowerByte := by
  simp [toLower, h]

theorem decodeRune_ascii (hb : b < 0x80) (rest : GoString) :
    decodeRune (b :: rest) = (b.toNat, 1) := by
  simp [decodeRune, sequenceLength, hb]

theorem decodeRune_width (b : UInt8) (rest : GoString) :
    1 ≤ (decodeRune (b :: rest)).2 ∧ (decodeRune (b :: rest)).2 ≤ rest.length + 1 := by
  unfold decodeRune
  simp only
  split
  · simp
  split
  · simp
  rename_i hone hbad
  simp only [not_or, List.length_take] at hbad
  constructor
  · exact Nat.pos_of_ne_zero hbad.left
  · omega

theorem runeChunksFueled_eq {fuel : Nat} (h : s.length ≤ fuel) :
    runeChunksFueled fuel s = runeChunks s := by
  unfold runeChunks
  induction fuel using Nat.strong_induction_on generalizing s with
  | _ fuel ih =>
    cases s with
    | nil =>
      cases fuel with
      | zero | succ => rfl
    | cons b rest =>
      cases fuel with
      | zero => cases h
      | succ fuel =>
        have hwidth := decodeRune_width b rest
        have hdrop : ((b :: rest).drop (decodeRune (b :: rest)).2).length ≤
            rest.length := by
          rw [List.length_drop, List.length_cons]
          omega
        have hrest : rest.length ≤ fuel := by simpa using h
        simp only [runeChunksFueled, List.length_cons]
        rw [ih fuel (by omega) (by omega), ih rest.length (by omega) hdrop]

theorem runeChunks_cons (b : UInt8) (rest : GoString) :
    runeChunks (b :: rest) =
      ((decodeRune (b :: rest)).1, (b :: rest).take (decodeRune (b :: rest)).2) ::
        runeChunks ((b :: rest).drop (decodeRune (b :: rest)).2) := by
  have hwidth := decodeRune_width b rest
  have hdrop : ((b :: rest).drop (decodeRune (b :: rest)).2).length ≤ rest.length := by
    rw [List.length_drop, List.length_cons]
    omega
  rw [← runeChunksFueled_eq hdrop]
  rfl

variable {c : UInt8}

theorem acceptsTail_ascii {b0 : UInt8} (hc : c < 0x80) {t : GoString} :
    acceptsTail b0 (t ++ c :: s) = false := by
  have hsecond : acceptsSecond b0 c = false := by
    unfold acceptsSecond
    apply decide_eq_false
    intro hrange
    have hlow : (128 : UInt8) ≤ c := by
      refine UInt8.le_trans ?_ hrange.left
      split
      · decide
      split
      · decide
      · decide
    exact absurd hc (UInt8.not_lt.mpr hlow)
  cases t with
  | nil =>
    simp [acceptsTail, hsecond]
  | cons b1 t =>
    have hnot : ¬ (0x80 ≤ c) := UInt8.not_le.mpr hc
    simp [acceptsTail, hnot]

theorem decodeRune_append_ascii (hc : c < 0x80) (b0 : UInt8)
    (a s : GoString) : decodeRune (b0 :: (a ++ c :: s)) = decodeRune (b0 :: a) := by
  unfold decodeRune
  simp only
  by_cases hone : sequenceLength b0 = 1
  · rw [if_pos hone, if_pos hone]
  rw [if_neg hone, if_neg hone]
  by_cases hfits : sequenceLength b0 - 1 ≤ a.length
  · have htake : (a ++ c :: s).take (sequenceLength b0 - 1) =
        a.take (sequenceLength b0 - 1) := List.take_append_of_le_length hfits
    rw [htake]
  have hshort : (a.take (sequenceLength b0 - 1)).length + 1 < sequenceLength b0 := by
    rw [List.length_take]
    omega
  have hreject : acceptsTail b0 ((a ++ c :: s).take (sequenceLength b0 - 1)) =
      false := by
    have htake : (a ++ c :: s).take (sequenceLength b0 - 1) =
        a ++ c :: s.take (sequenceLength b0 - 1 - a.length - 1) := by
      rw [List.take_append, List.take_of_length_le (by omega),
        List.take_cons (by omega)]
    rw [htake]
    exact acceptsTail_ascii hc
  rw [if_pos (Or.inr (Or.inr hreject)), if_pos (Or.inr (Or.inl hshort))]

theorem runeChunks_append_ascii (hc : c < 0x80) (a s : GoString) :
    runeChunks (a ++ c :: s) = runeChunks a ++ (c.toNat, [c]) :: runeChunks s := by
  induction hlength : a.length using Nat.strong_induction_on generalizing a with
  | _ n ih =>
    cases a with
    | nil =>
      rw [List.nil_append, runeChunks_cons, decodeRune_ascii hc]
      rfl
    | cons b0 a =>
      have hwidth := decodeRune_width b0 a
      have hle : (decodeRune (b0 :: a)).2 ≤ (b0 :: a).length := hwidth.right
      rw [List.cons_append, runeChunks_cons, decodeRune_append_ascii hc,
        runeChunks_cons b0 a, ← List.cons_append,
        List.take_append_of_le_length hle, List.drop_append_of_le_length hle]
      rw [ih _ ?_ _ rfl]
      · rfl
      rw [List.length_drop, ← hlength, List.length_cons]
      omega

theorem encodeRune_lowerRune_ascii (hb : b < 0x80) :
    encodeRune (lowerRune b.toNat) = [lowerByte b] := by
  have hall : forall b : UInt8, b < 0x80 ->
      encodeRune (lowerRune b.toNat) = [lowerByte b] :=
    forall_byte (by decide +kernel)
  exact hall b hb

/-- The fast path for ASCII agrees with the general one. -/
theorem toLower_eq_flatMap (s : GoString) :
    toLower s = (runeChunks s).flatMap fun chunk => encodeRune (lowerRune chunk.1) := by
  by_cases hascii : isASCII s = true
  · rw [toLower_of_isASCII hascii]
    rw [isASCII, List.all_eq_true] at hascii
    induction s with
    | nil => rfl
    | cons b s ih =>
      have hb : b < 0x80 := by simpa using hascii b (by simp)
      have hrest := ih (fun c hmem => hascii c (List.mem_cons_of_mem b hmem))
      have hchunks := runeChunks_append_ascii hb [] s
      rw [List.nil_append] at hchunks
      rw [hchunks, List.map_cons, hrest, List.flatMap_append, List.flatMap_cons,
        encodeRune_lowerRune_ascii hb]
      rfl
  · rw [toLower, if_neg hascii]

theorem toLower_append_ascii (hc : c < 0x80) (a s : GoString) :
    toLower (a ++ c :: s) = toLower a ++ lowerByte c :: toLower s := by
  rw [toLower_eq_flatMap, toLower_eq_flatMap a, toLower_eq_flatMap s,
    runeChunks_append_ascii hc, List.flatMap_append, List.flatMap_cons,
    encodeRune_lowerRune_ascii hc, List.singleton_append]

theorem toLower_lower_append {p : GoString} (s : GoString)
    (hp : (p.all fun b => decide (b < 0x80 ∧ ¬ (65 ≤ b ∧ b ≤ 90))) = true) :
    toLower (p ++ s) = p ++ toLower s := by
  induction p with
  | nil => rfl
  | cons b p ih =>
    rw [List.all_cons, Bool.and_eq_true, decide_eq_true_eq] at hp
    rcases hp with ⟨hb, hrest⟩
    have hstep := toLower_append_ascii hb.left [] (p ++ s)
    have hnil : toLower ([] : GoString) = [] := rfl
    rw [List.nil_append, hnil, List.nil_append, lowerByte_eq_self hb.right] at hstep
    rw [List.cons_append, hstep, ih hrest]
    rfl

theorem equalFoldText_nil (h : equalFoldText [] s = true) : s = [] := by
  cases s with
  | nil => rfl
  | cons b rest =>
    rw [equalFoldText, runeChunks_cons] at h
    cases h

end ReplxEdge.Foundation
