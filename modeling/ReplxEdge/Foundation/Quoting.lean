import ReplxEdge.Foundation.Json

/-!
# Reading quoted texts back

`json.Marshal` writes every rune of a valid text so that it can be read again, and the end
of a quoted text can be told from what it quotes. A quoted text in front of others
therefore determines the text and what follows it.
-/

namespace ReplxEdge.Foundation

variable {b b0 : UInt8} {rest tail bytes : GoString} {rune : Nat}

/-!
## Valid texts
-/

/-- A byte that starts no sequence decodes to the replacement rune on its own. -/
def validChunk (chunk : Nat × GoString) : Bool :=
  !(chunk.1 == runeError && chunk.2.length == 1)

def validText (s : GoString) : Bool :=
  (runeChunks s).all validChunk

variable {n : Nat}

theorem ofNat_eq_of_toNat (h : n = b.toNat) : UInt8.ofNat n = b := by
  rw [h]
  exact UInt8.ofNat_toNat

theorem encodeRune_one (hb : b < 0x80) : encodeRune b.toNat = [b] := by
  have hlt : b.toNat < 128 := UInt8.lt_iff_toNat_lt.mp hb
  unfold encodeRune
  rw [if_pos hlt, ofNat_eq_of_toNat rfl]

theorem continuation_range (h : 0x80 ≤ b ∧ b ≤ 0xBF) :
    128 ≤ b.toNat ∧ b.toNat ≤ 191 :=
  ⟨UInt8.le_iff_toNat_le.mp h.left, UInt8.le_iff_toNat_le.mp h.right⟩

variable {b1 : UInt8}

theorem encodeRune_two (hlow : 0xC2 ≤ b0) (hhigh : b0 ≤ 0xDF) (h1 : 0x80 ≤ b1 ∧ b1 ≤ 0xBF) :
    encodeRune (b0.toNat % 2 ^ 5 * 64 + b1.toNat % 64) = [b0, b1] := by
  have hb0 : 194 ≤ b0.toNat := UInt8.le_iff_toNat_le.mp hlow
  have hb0' : b0.toNat ≤ 223 := UInt8.le_iff_toNat_le.mp hhigh
  have hb1 := continuation_range h1
  unfold encodeRune
  rw [if_neg (by omega), if_pos (by omega), ofNat_eq_of_toNat (b := b0) (by omega),
    ofNat_eq_of_toNat (b := b1) (by omega)]

/-- The second byte of a longer sequence keeps overlong forms out. -/
theorem acceptsSecond_range (h : acceptsSecond b0 b1 = true) :
    128 ≤ b1.toNat ∧ b1.toNat ≤ 191 ∧ (b0.toNat = 224 -> 160 ≤ b1.toNat) ∧
    (b0.toNat = 240 -> 144 ≤ b1.toNat) := by
  unfold acceptsSecond at h
  rw [decide_eq_true_eq, UInt8.le_iff_toNat_le, UInt8.le_iff_toNat_le] at h
  rcases h with ⟨hlow, hhigh⟩
  have hle : b1.toNat ≤ 191 := by
    refine hhigh.trans ?_
    split
    · decide
    split
    · decide
    · decide
  refine ⟨?_, hle, ?_, ?_⟩
  · refine le_trans ?_ hlow
    split
    · decide
    split
    · decide
    · decide
  · intro hb0
    rw [if_pos (UInt8.toNat_inj.mp hb0)] at hlow
    exact hlow
  intro hb0
  have heq : b0 = 0xF0 := UInt8.toNat_inj.mp hb0
  rw [heq, if_neg (by decide), if_pos rfl] at hlow
  exact hlow

variable {b2 : UInt8}

theorem encodeRune_three (hlow : 0xE0 ≤ b0) (hhigh : b0 ≤ 0xEF)
    (h1 : acceptsSecond b0 b1 = true) (h2 : 0x80 ≤ b2 ∧ b2 ≤ 0xBF) :
    encodeRune ((b0.toNat % 2 ^ 4 * 64 + b1.toNat % 64) * 64 + b2.toNat % 64) = [b0, b1, b2] := by
  rcases acceptsSecond_range h1 with ⟨hb1, hb1', hoverlong, _⟩
  have hb0 : 224 ≤ b0.toNat := UInt8.le_iff_toNat_le.mp hlow
  have hb0' : b0.toNat ≤ 239 := UInt8.le_iff_toNat_le.mp hhigh
  have hb2 := continuation_range h2
  unfold encodeRune
  rw [if_neg (by omega), if_neg (by omega), if_pos (by omega),
    ofNat_eq_of_toNat (b := b0) (by omega), ofNat_eq_of_toNat (b := b1) (by omega),
    ofNat_eq_of_toNat (b := b2) (by omega)]

theorem encodeRune_four {b3 : UInt8} (hlow : 0xF0 ≤ b0) (hhigh : b0 ≤ 0xF4)
    (h1 : acceptsSecond b0 b1 = true) (h2 : 0x80 ≤ b2 ∧ b2 ≤ 0xBF) (h3 : 0x80 ≤ b3 ∧ b3 ≤ 0xBF) :
    encodeRune (((b0.toNat % 2 ^ 3 * 64 + b1.toNat % 64) * 64 + b2.toNat % 64) * 64 +
      b3.toNat % 64) = [b0, b1, b2, b3] := by
  rcases acceptsSecond_range h1 with ⟨hb1, hb1', _, hoverlong⟩
  have hb0 : 240 ≤ b0.toNat := UInt8.le_iff_toNat_le.mp hlow
  have hb0' : b0.toNat ≤ 244 := UInt8.le_iff_toNat_le.mp hhigh
  have hb2 := continuation_range h2
  have hb3 := continuation_range h3
  unfold encodeRune
  rw [if_neg (by omega), if_neg (by omega), if_neg (by omega),
    ofNat_eq_of_toNat (b := b0) (by omega), ofNat_eq_of_toNat (b := b1) (by omega),
    ofNat_eq_of_toNat (b := b2) (by omega), ofNat_eq_of_toNat (b := b3) (by omega)]

/-- The sequences that a leading byte beyond ASCII starts. -/
inductive Sequence (b0 : UInt8) : GoString -> Prop where
  | two {b1 : UInt8} (low : 0xC2 ≤ b0) (high : b0 ≤ 0xDF) (h1 : 0x80 ≤ b1 ∧ b1 ≤ 0xBF) :
      Sequence b0 [b1]
  | three {b1 b2 : UInt8} (low : 0xE0 ≤ b0) (high : b0 ≤ 0xEF)
      (h1 : acceptsSecond b0 b1 = true) (h2 : 0x80 ≤ b2 ∧ b2 ≤ 0xBF) : Sequence b0 [b1, b2]
  | four {b1 b2 b3 : UInt8} (low : 0xF0 ≤ b0) (high : b0 ≤ 0xF4)
      (h1 : acceptsSecond b0 b1 = true) (h2 : 0x80 ≤ b2 ∧ b2 ≤ 0xBF)
      (h3 : 0x80 ≤ b3 ∧ b3 ≤ 0xBF) : Sequence b0 [b1, b2, b3]

theorem sequenceLength_cases (h : ¬ b0 < 0x80) :
    sequenceLength b0 = 0 ∨ (sequenceLength b0 = 2 ∧ 0xC2 ≤ b0 ∧ b0 ≤ 0xDF) ∨
      (sequenceLength b0 = 3 ∧ 0xE0 ≤ b0 ∧ b0 ≤ 0xEF) ∨
      (sequenceLength b0 = 4 ∧ 0xF0 ≤ b0 ∧ b0 ≤ 0xF4) := by
  unfold sequenceLength
  rw [if_neg h]
  split
  · rename_i hrange
    exact Or.inr (Or.inl ⟨rfl, hrange⟩)
  split
  · rename_i hrange
    exact Or.inr (Or.inr (Or.inl ⟨rfl, hrange⟩))
  split
  · rename_i hrange
    exact Or.inr (Or.inr (Or.inr ⟨rfl, hrange⟩))
  · exact Or.inl rfl

theorem decodeRune_accepted (hn : sequenceLength b0 = n) (htwo : 2 ≤ n)
    (hvalid : decodeRune (b0 :: rest) ≠ (runeError, 1)) :
    (rest.take (n - 1)).length = n - 1 ∧ acceptsTail b0 (rest.take (n - 1)) = true ∧
      decodeRune (b0 :: rest) = ((rest.take (n - 1)).foldl
    (fun acc b => acc * 64 + b.toNat % 64) (b0.toNat % 2 ^ (7 - n)), n) := by
  simp only [decodeRune, hn] at hvalid ⊢
  rw [if_neg (by omega)] at hvalid ⊢
  split at hvalid
  · exact absurd rfl hvalid
  rename_i hgood
  rw [if_neg hgood]
  simp only [not_or, Bool.not_eq_false] at hgood
  exact ⟨le_antisymm (List.length_take_le _ _) (by omega), hgood.right.right, rfl⟩

/-- A leading byte beyond ASCII decodes to the rune whose sequence it starts. -/
theorem decodeRune_sequence (hb0 : ¬ b0 < 0x80)
    (hvalid : decodeRune (b0 :: rest) ≠ (runeError, 1)) :
    exists tail, Sequence b0 tail ∧ rest.take tail.length = tail ∧
      (decodeRune (b0 :: rest)).2 = tail.length + 1 ∧
      encodeRune (decodeRune (b0 :: rest)).1 = b0 :: tail := by
  rcases sequenceLength_cases hb0 with hn | ⟨hn, hlow, hhigh⟩ | ⟨hn, hlow, hhigh⟩ |
    ⟨hn, hlow, hhigh⟩
  · simp [decodeRune, hn] at hvalid
  · rcases decodeRune_accepted hn (by decide) hvalid with ⟨hlength, htail, hdecode⟩
    rcases List.length_eq_one_iff.mp hlength with ⟨b1, htake⟩
    rw [htake] at htail hdecode
    simp only [acceptsTail, List.all_nil, Bool.and_true] at htail
    rcases acceptsSecond_range htail with ⟨hb1, hb1', _, _⟩
    have h1 : 0x80 ≤ b1 ∧ b1 ≤ 0xBF :=
      ⟨UInt8.le_iff_toNat_le.mpr hb1, UInt8.le_iff_toNat_le.mpr hb1'⟩
    rw [hdecode]
    exact ⟨[b1], .two hlow hhigh h1, htake, rfl, encodeRune_two hlow hhigh h1⟩
  · rcases decodeRune_accepted hn (by decide) hvalid with ⟨hlength, htail, hdecode⟩
    rcases List.length_eq_two.mp hlength with ⟨b1, b2, htake⟩
    rw [htake] at htail hdecode
    simp only [acceptsTail, List.all_cons, List.all_nil, Bool.and_true, Bool.and_eq_true,
      decide_eq_true_eq] at htail
    rw [hdecode]
    exact ⟨[b1, b2], .three hlow hhigh htail.left htail.right, htake, rfl,
      encodeRune_three hlow hhigh htail.left htail.right⟩
  rcases decodeRune_accepted hn (by decide) hvalid with ⟨hlength, htail, hdecode⟩
  rcases List.length_eq_three.mp hlength with ⟨b1, b2, b3, htake⟩
  rw [htake] at htail hdecode
  simp only [acceptsTail, List.all_cons, List.all_nil, Bool.and_true, Bool.and_eq_true,
    decide_eq_true_eq] at htail
  rcases htail with ⟨h1, h2, h3⟩
  rw [hdecode]
  exact ⟨[b1, b2, b3], .four hlow hhigh h1 h2 h3, htake, rfl, encodeRune_four hlow hhigh h1 h2 h3⟩

theorem Sequence.high (h : Sequence b0 tail) :
    forall b, b ∈ b0 :: tail -> ¬ b < 0x80 := by
  have hge : forall b : UInt8, 128 ≤ b.toNat -> ¬ b < 0x80 := by
    intro b hb hlt
    exact absurd (UInt8.lt_iff_toNat_lt.mp hlt) (not_lt.mpr hb)
  have hlead : forall bound : UInt8, 128 ≤ bound.toNat -> bound ≤ b0 -> ¬ b0 < 0x80 := by
    intro bound hbound hle
    exact hge b0 (hbound.trans (UInt8.le_iff_toNat_le.mp hle))
  have htail : forall {b : UInt8}, 0x80 ≤ b ∧ b ≤ 0xBF -> ¬ b < 0x80 := by
    intro b hb
    exact hge b (UInt8.le_iff_toNat_le.mp hb.left)
  cases h with
  | two low high h1 =>
    exact List.forall_mem_cons.mpr ⟨hlead _ (by decide) low,
      List.forall_mem_singleton.mpr (htail h1)⟩
  | three low high h1 h2 =>
    exact List.forall_mem_cons.mpr ⟨hlead _ (by decide) low,
      List.forall_mem_cons.mpr ⟨hge _ (acceptsSecond_range h1).left,
        List.forall_mem_singleton.mpr (htail h2)⟩⟩
  | four low high h1 h2 h3 =>
    exact List.forall_mem_cons.mpr ⟨hlead _ (by decide) low,
      List.forall_mem_cons.mpr ⟨hge _ (acceptsSecond_range h1).left,
        List.forall_mem_cons.mpr ⟨htail h2, List.forall_mem_singleton.mpr (htail h3)⟩⟩⟩

inductive Decoded : Nat -> GoString -> Prop where
  | ascii {b : UInt8} (h : b < 0x80) : Decoded b.toNat [b]
  | sequence {b0 : UInt8} {tail : GoString} {rune : Nat} (h : Sequence b0 tail)
      (hrune : encodeRune rune = b0 :: tail) : Decoded rune (b0 :: tail)

theorem decoded_of_valid (h : validChunk ((decodeRune (b0 :: rest)).1,
      (b0 :: rest).take (decodeRune (b0 :: rest)).2) = true) :
    Decoded (decodeRune (b0 :: rest)).1 ((b0 :: rest).take (decodeRune (b0 :: rest)).2) := by
  by_cases hb0 : b0 < 0x80
  · rw [decodeRune_ascii hb0]
    exact .ascii hb0
  have hvalid : decodeRune (b0 :: rest) ≠ (runeError, 1) := by
    intro hbad
    rw [hbad] at h
    simp [validChunk] at h
  rcases decodeRune_sequence hb0 hvalid with ⟨tail, hsequence, htake, hwidth, hrune⟩
  rw [hwidth, List.take_succ_cons, htake]
  exact .sequence hsequence hrune

theorem Sequence.rune_ge (h : Sequence b0 tail)
    (hrune : encodeRune rune = b0 :: tail) : 128 ≤ rune := by
  by_contra hlt
  unfold encodeRune at hrune
  rw [if_pos (by omega)] at hrune
  cases h with
  | two | three | four => cases hrune

/-!
## Reading
-/

def hexValue (c : UInt8) : Nat :=
  if c ≤ 57 then c.toNat - 48 else c.toNat - 87

def unescape (e : UInt8) : UInt8 :=
  if e = 98 then 8
  else if e = 116 then 9
  else if e = 110 then 10
  else if e = 102 then 12
  else if e = 114 then 13
  else e

def readRune (bytes : GoString) (found : Option (GoString × GoString)) :
    Option (GoString × GoString) :=
  found.map fun r => (bytes ++ r.1, r.2)

/-- The text up to the closing quote, and what follows it. -/
def unquote : GoString -> Option (GoString × GoString)
  | [] => none
  | b :: rest =>
    if b = 34 then some ([], rest)
    else if b = 92 then
      match rest with
      | [] => none
      | e :: more =>
        if e = 117 then
          match more with
          | h1 :: h2 :: h3 :: h4 :: after =>
            readRune (encodeRune (((hexValue h1 * 16 + hexValue h2) * 16 + hexValue h3) *
              16 + hexValue h4)) (unquote after)
          | _ => none
        else readRune [unescape e] (unquote more)
    else readRune [b] (unquote rest)

theorem unquote_raw (h : forall b, b ∈ bytes -> b ≠ 34 ∧ b ≠ 92)
    (x : GoString) : unquote (bytes ++ x) = readRune bytes (unquote x) := by
  induction bytes with
  | nil =>
    cases hx : unquote x with
    | none | some => simp [readRune, hx]
  | cons b bytes ih =>
    have hb := h b List.mem_cons_self
    have hbytes := ih fun c hc => h c (List.mem_cons_of_mem b hc)
    rw [List.cons_append, unquote.eq_def]
    simp only
    rw [if_neg hb.left, if_neg hb.right, hbytes]
    cases hx : unquote x with
    | none => rfl
    | some r => simp [readRune]

theorem unquote_escape {e : UInt8} (he : e ≠ 117) (x : GoString) :
    unquote (92 :: e :: x) = readRune [unescape e] (unquote x) := by
  rw [unquote.eq_def]
  simp only
  rw [if_neg (by decide), if_pos trivial, if_neg he]

theorem unquote_hex (h1 h2 h3 h4 : UInt8) (x : GoString) :
    unquote (92 :: 117 :: h1 :: h2 :: h3 :: h4 :: x) =
      readRune (encodeRune (((hexValue h1 * 16 + hexValue h2) * 16 + hexValue h3) * 16 +
        hexValue h4)) (unquote x) := by
  rw [unquote.eq_def]
  simp only
  rw [if_neg (by decide), if_pos trivial, if_pos trivial]

theorem encodeRune_hexEncode (hb : b < 0x80) :
    exists high low, hexEncode [b] = [high, low] ∧
      encodeRune (((hexValue 48 * 16 + hexValue 48) * 16 + hexValue high) * 16 +
        hexValue low) = [b] := by
  have hvalue : forall n : Fin 16, hexValue (hexDigit n) = n := by decide
  have hlt : b.toNat < 128 := UInt8.lt_iff_toNat_lt.mp hb
  refine ⟨hexDigit (b.toNat / 16), hexDigit (b.toNat % 16), rfl, ?_⟩
  have hhigh := hvalue ⟨b.toNat / 16, by omega⟩
  have hlow := hvalue ⟨b.toNat % 16, by omega⟩
  have hzero : hexValue 48 = 0 := by decide
  simp only at hhigh hlow
  have hsum : ((hexValue 48 * 16 + hexValue 48) * 16 + hexValue (hexDigit (b.toNat / 16))) *
      16 + hexValue (hexDigit (b.toNat % 16)) = b.toNat := by
    rw [hzero, hhigh, hlow]
    omega
  rw [hsum, encodeRune_one hb]

/-- The letters that follow a backslash alone. -/
def escapes : List UInt8 :=
  [34, 92, 98, 116, 110, 102, 114]

theorem quoteRune_ascii : forall b : UInt8, b < 0x80 ->
    (quoteRune b.toNat [b] = [b] ∧ b ≠ 34 ∧ b ≠ 92) ∨
      (exists e, e ∈ escapes ∧ quoteRune b.toNat [b] = [92, e] ∧ unescape e = b) ∨
      quoteRune b.toNat [b] = 92 :: 117 :: 48 :: 48 :: hexEncode [b] :=
  forall_byte (by decide +kernel)

theorem unquote_quoteRune_ascii (hb : b < 0x80) (x : GoString) :
    unquote (quoteRune b.toNat [b] ++ x) = readRune [b] (unquote x) := by
  rcases quoteRune_ascii b hb with ⟨hself, hquote, hslash⟩ | ⟨e, he, hshort, hbyte⟩ | hlong
  · rw [hself]
    refine unquote_raw ?_ x
    intro c hc
    rw [List.mem_singleton.mp hc]
    exact ⟨hquote, hslash⟩
  · have hletters : (escapes.all fun e => e != 117) = true := by decide
    have hletter : e ≠ 117 := bne_iff_ne.mp (List.all_eq_true.mp hletters e he)
    rw [hshort, ← hbyte]
    exact unquote_escape hletter x
  rcases encodeRune_hexEncode hb with ⟨high, low, hhex, hrune⟩
  rw [hlong, hhex, ← hrune]
  exact unquote_hex 48 48 high low x

theorem unquote_quoteRune_sequence (h : Sequence b0 tail) (hrune : encodeRune rune = b0 :: tail)
    (x : GoString) :
    unquote (quoteRune rune (b0 :: tail) ++ x) = readRune (b0 :: tail) (unquote x) := by
  have hge := h.rune_ge hrune
  have hlong : (b0 :: tail).length ≠ 1 := by
    cases h with
    | two | three | four => simp
  unfold quoteRune
  rw [if_neg (by omega), if_neg (by omega), if_neg (by omega), if_neg (by omega),
    if_neg (by omega), if_neg (by omega), if_neg (by omega),
    if_neg fun hshort => hlong hshort.right]
  split
  · rename_i hline
    rw [← hrune, hline]
    exact unquote_hex 50 48 50 56 x
  split
  · rename_i hparagraph
    rw [← hrune, hparagraph]
    exact unquote_hex 50 48 50 57 x
  refine unquote_raw ?_ x
  intro b hb
  have hhigh := h.high b hb
  constructor
  all_goals
    intro heq
    rw [heq] at hhigh
    exact hhigh (by decide)

theorem unquote_quoteRune (h : Decoded rune bytes)
    (x : GoString) : unquote (quoteRune rune bytes ++ x) = readRune bytes (unquote x) := by
  cases h with
  | ascii hb => exact unquote_quoteRune_ascii hb x
  | sequence hsequence hrune => exact unquote_quoteRune_sequence hsequence hrune x

variable {s : GoString}

theorem unquote_quoted (h : validText s = true) (x : GoString) :
    unquote (((runeChunks s).flatMap fun chunk => quoteRune chunk.1 chunk.2) ++ 34 :: x) =
      some (s, x) := by
  induction hlength : s.length using Nat.strong_induction_on generalizing s with
  | _ n ih =>
    cases s with
    | nil =>
      show unquote (34 :: x) = some ([], x)
      rw [unquote.eq_def]
      rfl
    | cons b0 rest =>
      have hwidth := decodeRune_width b0 rest
      unfold validText at h
      rw [runeChunks_cons, List.all_cons, Bool.and_eq_true] at h
      have hrest := ih _ (by rw [List.length_drop, ← hlength, List.length_cons]; omega)
        h.right rfl
      rw [runeChunks_cons, List.flatMap_cons, List.append_assoc,
        unquote_quoteRune (decoded_of_valid h.left), hrest]
      simp only [readRune, Option.map_some, List.take_append_drop]

theorem quoteText_append_inj {a b x y : GoString} (ha : validText a = true)
    (hb : validText b = true) (h : quoteText a ++ x = quoteText b ++ y) : a = b ∧ x = y := by
  simp only [quoteText, List.cons_append, List.append_assoc, List.nil_append,
    List.cons.injEq, true_and] at h
  have hread := congrArg unquote h
  rw [unquote_quoted ha, unquote_quoted hb, Option.some.injEq, Prod.mk.injEq] at hread
  exact hread

/-!
## Lines
-/

theorem newline_not_mem_quoteRune (h : Decoded rune bytes) :
    (10 : UInt8) ∉ quoteRune rune bytes := by
  cases h with
  | ascii hb =>
    have hall : forall b : UInt8, b < 0x80 -> (10 : UInt8) ∉ quoteRune b.toNat [b] :=
      forall_byte (by decide +kernel)
    exact hall _ hb
  | sequence hsequence hrune =>
    rename_i b0 tail
    have hge := hsequence.rune_ge hrune
    have hlong : (b0 :: tail).length ≠ 1 := by
      cases hsequence with
      | two | three | four => simp
    unfold quoteRune
    rw [if_neg (by omega), if_neg (by omega), if_neg (by omega), if_neg (by omega),
      if_neg (by omega), if_neg (by omega), if_neg (by omega),
      if_neg fun hshort => hlong hshort.right]
    split
    · decide
    split
    · decide
    intro hmem
    exact hsequence.high 10 hmem (by decide)

theorem newline_not_mem_quoteText (h : validText s = true) :
    (10 : UInt8) ∉ quoteText s := by
  have hbody : (10 : UInt8) ∉
      (runeChunks s).flatMap fun chunk => quoteRune chunk.1 chunk.2 := by
    induction hlength : s.length using Nat.strong_induction_on generalizing s with
    | _ n ih =>
      cases s with
      | nil =>
        simp [runeChunks, runeChunksFueled]
      | cons b0 rest =>
        have hwidth := decodeRune_width b0 rest
        unfold validText at h
        rw [runeChunks_cons, List.all_cons, Bool.and_eq_true] at h
        have hrest := ih _ (by rw [List.length_drop, ← hlength, List.length_cons]; omega)
          h.right rfl
        rw [runeChunks_cons, List.flatMap_cons, List.mem_append, not_or]
        exact ⟨newline_not_mem_quoteRune (decoded_of_valid h.left), hrest⟩
  unfold quoteText
  rw [List.mem_append, List.mem_cons]
  intro hmem
  rcases hmem with (hquote | hmem) | hquote
  · exact absurd hquote (by decide)
  · exact hbody hmem
  · exact absurd hquote (by decide)

end ReplxEdge.Foundation
