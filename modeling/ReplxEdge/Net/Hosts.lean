import ReplxEdge.Net.Print

/-!
# Hosts

What a host looks like once it is decoded, and what becomes of it when it is written and
read again. A host comes back unless its zone holds bytes beyond ASCII: these are read as
they are and written as escapes that a zone may not hold.
-/

namespace ReplxEdge.Net

open Foundation

variable {b c : UInt8} {s text host marker rest port : GoString} {escape : UInt8 -> UInt8 -> Bool}

/-!
## Escaped texts
-/

section Escape

variable {keep : UInt8 -> Bool}

theorem escapeExcept_append (a b : GoString) :
    escapeExcept keep (a ++ b) = escapeExcept keep a ++ escapeExcept keep b := by
  unfold escapeExcept
  exact List.flatMap_append

theorem escapeExcept_cons (hb : keep b = true) (s : GoString) :
    escapeExcept keep (b :: s) = b :: escapeExcept keep s := by
  unfold escapeExcept
  rw [List.flatMap_cons, if_pos hb]
  rfl

theorem escapeExcept_kept (h : forall b, b ∈ s -> keep b = true) :
    escapeExcept keep s = s := by
  induction s with
  | nil => rfl
  | cons b s ih =>
    rw [escapeExcept_cons (h b List.mem_cons_self),
      ih fun c hc => h c (List.mem_cons_of_mem b hc)]

theorem escapeExcept_escaped (hb : keep b = false) (s : GoString) :
    escapeExcept keep (b :: s) =
      37 :: upperHex (b.toNat / 16) :: upperHex (b.toNat % 16) :: escapeExcept keep s := by
  unfold escapeExcept
  rw [List.flatMap_cons, hb]
  rfl

theorem mem_escapeExcept (h : c ∈ escapeExcept keep s) :
    (c ∈ s ∧ keep c = true) ∨ c = 37 ∨ exists n, n < 16 ∧ c = upperHex n := by
  unfold escapeExcept at h
  rcases List.mem_flatMap.mp h with ⟨b, hb, hc⟩
  split at hc
  · rename_i hkeep
    rw [List.mem_singleton] at hc
    rw [hc]
    exact Or.inl ⟨hb, hkeep⟩
  have hlt : b.toNat < 256 := UInt8.toNat_lt b
  simp only [List.mem_cons, List.not_mem_nil, or_false] at hc
  rcases hc with hpercent | hhigh | hlow
  · exact Or.inr (Or.inl hpercent)
  · exact Or.inr (Or.inr ⟨_, by omega, hhigh⟩)
  · exact Or.inr (Or.inr ⟨_, by omega, hlow⟩)

theorem not_mem_escapeExcept (h : c ∉ s ∨ keep c = false)
    (hpercent : c ≠ 37) (hdigit : unhex c = none) : c ∉ escapeExcept keep s := by
  intro hmem
  rcases mem_escapeExcept hmem with ⟨hc, hkeep⟩ | hsign | ⟨n, hn, hhex⟩
  · rcases h with habsent | hescaped
    · exact habsent hc
    rw [hkeep] at hescaped
    cases hescaped
  · exact hpercent hsign
  rw [hhex, unhex_upperHex hn] at hdigit
  cases hdigit

theorem pathUnescape_escapeExcept (hkeep : keep 37 = false) (s : GoString) :
    pathUnescape (escapeExcept keep s) = some s :=
  pathUnescape_flatMap hkeep s

end Escape

/-!
## Decoded hosts
-/

variable {front back : GoString} {hi lo : UInt8} {h l : Nat}

section Decode

variable {escape : UInt8 -> UInt8 -> Bool}

theorem hostUnescapeWith_plain (hb : b ≠ 37) (rest : GoString) :
    hostUnescapeWith escape (b :: rest) = if b < 0x80 ∧ isHostByte b = false then none
      else (hostUnescapeWith escape rest).map (b :: ·) := by
  rw [hostUnescapeWith]
  · intro hi lo tail hpercent _
    exact hb hpercent
  · exact hb

theorem hostUnescapeWith_escape (hhi : unhex hi = some h)
    (hlo : unhex lo = some l) (rest : GoString) :
    hostUnescapeWith escape (37 :: hi :: lo :: rest) = if escape hi lo then
    (hostUnescapeWith escape rest).map (UInt8.ofNat (16 * h + l) :: ·) else none := by
  rw [hostUnescapeWith, hhi, hlo]

theorem hostUnescapeWith_induction {P : GoString -> GoString -> Prop} (nil : P [] [])
    (escaped : forall {hi lo : UInt8} {h l : Nat} {rest host : GoString},
      unhex hi = some h -> unhex lo = some l -> escape hi lo = true ->
        hostUnescapeWith escape rest = some host -> P rest host ->
        P (37 :: hi :: lo :: rest) (UInt8.ofNat (16 * h + l) :: host))
    (plain : forall {b : UInt8} {rest host : GoString},
      b ≠ 37 -> (b < 0x80 -> isHostByte b = true) ->
        hostUnescapeWith escape rest = some host -> P rest host -> P (b :: rest) (b :: host))
    (h : hostUnescapeWith escape text = some host) : P text host := by
  induction text using hostUnescapeWith.induct escape generalizing host with
  | case1 =>
    cases h
    exact nil
  | case2 hi lo rest hiv lov hlo hhi hescape ih =>
    rw [hostUnescapeWith_escape hhi hlo, if_pos hescape] at h
    rcases Option.map_eq_some_iff.mp h with ⟨tail, htail, rfl⟩
    exact escaped hhi hlo hescape htail (ih htail)
  | case3 hi lo rest hiv lov hlo hhi hescape =>
    rw [hostUnescapeWith_escape hhi hlo, if_neg hescape] at h
    cases h
  | case4 hi lo rest hbad =>
    rw [hostUnescapeWith] at h
    split at h
    · rename_i hiv lov hhi hlo
      exact (hbad _ _ hhi hlo).elim
    · cases h
  | case5 rest hshort =>
    rw [hostUnescapeWith] at h
    · cases h
    · exact hshort
  | case6 b rest hpair hpercent hbyte =>
    rw [hostUnescapeWith_plain hpercent, if_pos hbyte] at h
    cases h
  | case7 b rest hpair hpercent hbyte ih =>
    rw [hostUnescapeWith_plain hpercent, if_neg hbyte] at h
    rcases Option.map_eq_some_iff.mp h with ⟨tail, htail, rfl⟩
    refine plain hpercent ?_ htail (ih htail)
    intro hascii
    by_contra hnot
    exact hbyte ⟨hascii, Bool.eq_false_iff.mpr hnot⟩

def isWritable (escape : UInt8 -> UInt8 -> Bool) (b : UInt8) : Bool :=
  isHostByte b || escape (upperHex (b.toNat / 16)) (upperHex (b.toNat % 16))

theorem hostUnescapeWith_escapeExcept {keep : UInt8 -> Bool}
    (hkeep : forall b, b ∈ s -> keep b = true -> isHostByte b = true) :
    hostUnescapeWith escape (escapeExcept keep s) =
      if s.all fun b => keep b || escape (upperHex (b.toNat / 16)) (upperHex (b.toNat % 16)) then
        some s else none := by
  induction s with
  | nil => rfl
  | cons b s ih =>
    have hrest := ih fun c hc => hkeep c (List.mem_cons_of_mem b hc)
    rw [List.all_cons]
    by_cases hkept : keep b = true
    · have hhost := hkeep b List.mem_cons_self hkept
      have hpercent : b ≠ 37 := by
        intro h
        rw [h] at hhost
        exact absurd hhost (by decide)
      rw [escapeExcept_cons hkept, hostUnescapeWith_plain hpercent,
        if_neg (by simp [hhost]), hrest, hkept, Bool.true_or, Bool.true_and]
      split
      all_goals rfl
    have hescaped : keep b = false := Bool.eq_false_iff.mpr hkept
    have hlt : b.toNat < 256 := UInt8.toNat_lt b
    have hbyte : UInt8.ofNat (16 * (b.toNat / 16) + b.toNat % 16) = b := by
      rw [Nat.div_add_mod]
      exact UInt8.ofNat_toNat
    rw [escapeExcept_escaped hescaped,
      hostUnescapeWith_escape (unhex_upperHex (by omega)) (unhex_upperHex (by omega)), hrest,
      hbyte, hescaped, Bool.false_or]
    split
    · rename_i hescape
      rw [hescape, Bool.true_and]
      split
      all_goals rfl
    rename_i hescape
    rw [Bool.eq_false_iff.mpr hescape, Bool.false_and]
    rfl

theorem hostUnescapeWith_written (s : GoString) :
    hostUnescapeWith escape (escapeExcept isHostByte s) =
      if s.all (isWritable escape) then some s else none :=
  hostUnescapeWith_escapeExcept fun _ _ hkept => hkept

theorem hostUnescapeWith_split (hc : c ≠ 37)
    (hdigit : unhex c = none) (h : hostUnescapeWith escape (front ++ c :: back) = some host) :
    exists front' back', hostUnescapeWith escape front = some front' ∧
      hostUnescapeWith escape back = some back' ∧ host = front' ++ c :: back' := by
  apply hostUnescapeWith_induction (P := fun text host => forall front : GoString,
    text = front ++ c :: back -> exists front' back',
      hostUnescapeWith escape front = some front' ∧
        hostUnescapeWith escape back = some back' ∧ host = front' ++ c :: back') ?_ ?_ ?_ h
  · rfl
  · intro front hfront
    cases front <;> cases hfront
  · intro hi lo hiv lov rest host hhi hlo hescape _ ih front hfront
    -- The byte is no percent sign and no digit, so the escape lies in front of it.
    match front, hfront with
    | [], hfront =>
      cases hfront
      exact absurd rfl hc
    | [_], hfront =>
      cases hfront
      rw [hdigit] at hhi
      cases hhi
    | [_, _], hfront =>
      cases hfront
      rw [hdigit] at hlo
      cases hlo
    | _ :: _ :: _ :: front, hfront =>
      cases hfront
      rcases ih front rfl with ⟨front', back', hdecoded, hback, rfl⟩
      refine ⟨_ :: front', back', ?_, hback, rfl⟩
      rw [hostUnescapeWith_escape hhi hlo, if_pos hescape, hdecoded]
      rfl
  intro b rest host hb hbyte hrest ih front hfront
  cases front with
  | nil =>
    cases hfront
    exact ⟨[], host, rfl, hrest, rfl⟩
  | cons d front =>
    cases hfront
    rcases ih front rfl with ⟨front', back', hdecoded, hback, rfl⟩
    refine ⟨b :: front', back', ?_, hback, rfl⟩
    rw [hostUnescapeWith_plain hb, if_neg, hdecoded]
    · rfl
    intro hbad
    rw [hbyte hbad.left] at hbad
    cases hbad.right

end Decode

/-!
## Bytes of a decoded host
-/

def isNameByte (b : UInt8) : Bool :=
  isHostByte b || b == 37 || decide (0x80 ≤ b)

theorem isNameByte_of_isHostByte (h : isHostByte b = true) :
    isNameByte b = true := by
  rw [isNameByte, h, Bool.true_or, Bool.true_or]

/-- Bytes of a zone that come back when they are written. -/
def isZoneByte (b : UInt8) : Bool :=
  isHostByte b || b == 37 || b == 32

variable {n : Nat}

theorem unhex_lt (h : unhex b = some n) : n < 16 := by
  have hall : forall b : UInt8, forall n, n ∈ unhex b -> n < 16 := by
    apply forall_byte
    decide +kernel
  exact hall b n h

theorem toNat_escape (hhi : unhex hi = some h)
    (hlo : unhex lo = some l) : (UInt8.ofNat (16 * h + l)).toNat = 16 * h + l := by
  have hh := unhex_lt hhi
  have hl := unhex_lt hlo
  rw [UInt8.toNat_ofNat']
  omega

theorem escape_percent (hhi : unhex hi = some h)
    (hlo : unhex lo = some l) (hpair : [hi, lo] = str "25") :
    UInt8.ofNat (16 * h + l) = 37 := by
  cases hpair
  cases hhi
  cases hlo
  rfl

theorem hostEscape_cases (hhi : unhex hi = some h) (hlo : unhex lo = some l)
    (hescape : ([hi, lo] == str "25" || decide (8 ≤ (unhex hi).getD 0)) = true) :
    ([hi, lo] = str "25" ∧ UInt8.ofNat (16 * h + l) = 37) ∨
      0x80 ≤ UInt8.ofNat (16 * h + l) := by
  rw [Bool.or_eq_true, beq_iff_eq, decide_eq_true_eq, hhi, Option.getD_some] at hescape
  rcases hescape with hpair | hhigh
  · exact Or.inl ⟨hpair, escape_percent hhi hlo hpair⟩
  right
  have hnat := toNat_escape hhi hlo
  rw [UInt8.le_iff_toNat_le, hnat]
  show 128 ≤ _
  omega

theorem hostUnescape_bytes (h : hostUnescape text = some host) :
    forall b, b ∈ host -> isNameByte b = true := by
  apply hostUnescapeWith_induction (P := fun _ host => forall b, b ∈ host ->
    isNameByte b = true) ?_ ?_ ?_ h
  · intro b hb
    cases hb
  · intro hi lo hiv lov rest host hhi hlo hescape _ ih b hb
    rcases List.mem_cons.mp hb with rfl | htail
    · rcases hostEscape_cases hhi hlo hescape with ⟨_, hpercent⟩ | hbeyond
      · rw [hpercent]
        decide
      · rw [isNameByte, decide_eq_true hbeyond, Bool.or_true]
    · exact ih b htail
  intro c rest host hc hbyte _ ih b hb
  rcases List.mem_cons.mp hb with rfl | htail
  · by_cases hascii : b < 0x80
    · exact isNameByte_of_isHostByte (hbyte hascii)
    · rw [isNameByte, decide_eq_true (UInt8.not_lt.mp hascii), Bool.or_true]
  · exact ih b htail

variable {zone : GoString}

theorem zoneUnescape_bytes (h : zoneUnescape text = some zone) :
    forall b, b ∈ zone -> isZoneByte b = true ∨ 0x80 ≤ b := by
  apply hostUnescapeWith_induction (P := fun _ zone => forall b, b ∈ zone ->
    isZoneByte b = true ∨ 0x80 ≤ b) ?_ ?_ ?_ h
  · intro b hb
    cases hb
  · intro hi lo hiv lov rest zone hhi hlo hescape _ ih b hb
    rcases List.mem_cons.mp hb with rfl | htail
    · left
      simp only [hhi, hlo, Option.getD_some, Bool.or_eq_true, beq_iff_eq] at hescape
      rcases hescape with (hpair | hblank) | hkept
      · rw [escape_percent hhi hlo hpair]
        decide
      · rw [hblank]
        decide
      · rw [isZoneByte, hkept, Bool.true_or, Bool.true_or]
    · exact ih b htail
  intro c rest zone hc hbyte _ ih b hb
  rcases List.mem_cons.mp hb with rfl | htail
  · by_cases hascii : b < 0x80
    · left
      rw [isZoneByte, hbyte hascii, Bool.true_or, Bool.true_or]
    · exact Or.inr (UInt8.not_lt.mp hascii)
  · exact ih b htail

theorem marker_of_percent (h : hostUnescape text = some host)
    (hpercent : 37 ∈ host) : str "%25" <:+: text := by
  revert hpercent
  apply hostUnescapeWith_induction (P := fun text host => 37 ∈ host ->
    str "%25" <:+: text) ?_ ?_ ?_ h
  · intro hmem
    cases hmem
  · intro hi lo hiv lov rest host hhi hlo hescape _ ih hmem
    rcases hostEscape_cases hhi hlo hescape with ⟨hpair, _⟩ | hbeyond
    · cases hpair
      exact (List.prefix_append (str "%25") rest).isInfix
    rcases List.mem_cons.mp hmem with hfirst | htail
    · rw [← hfirst] at hbeyond
      exact absurd hbeyond (by decide)
    · exact (ih htail).trans (List.suffix_append [37, hi, lo] rest).isInfix
  intro b rest host hb _ _ ih hmem
  rcases List.mem_cons.mp hmem with hfirst | htail
  · exact absurd hfirst.symm hb
  · exact (ih htail).trans (List.suffix_cons b rest).isInfix

/-!
## The marker of a zone
-/

theorem cutMarker_start (h : marker <+: text) :
    cutMarker marker text = some ([], text) := by
  cases text with
  | nil =>
    rw [cutMarker, if_pos (List.prefix_nil.mp h)]
  | cons b rest =>
    rw [cutMarker, if_pos (hasPrefix_eq_true.mpr h)]

theorem cutMarker_cons (h : hasPrefix (b :: rest) marker = false) :
    cutMarker marker (b :: rest) =
      (cutMarker marker rest).map fun cut => (b :: cut.1, cut.2) := by
  rw [cutMarker, h]
  rfl

theorem cutMarker_some (hmarker : marker ≠ []) (h : cutMarker marker text = some (front, back)) :
    text = front ++ back ∧ marker <+: back ∧ ¬ marker <:+: front := by
  induction text generalizing front with
  | nil =>
    rw [cutMarker, if_neg hmarker] at h
    cases h
  | cons b rest ih =>
    cases hstarts : hasPrefix (b :: rest) marker with
    | true =>
      rw [cutMarker, if_pos hstarts] at h
      cases h
      refine ⟨rfl, hasPrefix_eq_true.mp hstarts, ?_⟩
      intro hinfix
      exact hmarker (List.infix_nil.mp hinfix)
    | false =>
      rw [cutMarker_cons hstarts] at h
      rcases Option.map_eq_some_iff.mp h with ⟨⟨front, back⟩, hcut, hpair⟩
      cases hpair
      rcases ih hcut with ⟨rfl, hback, hnone⟩
      refine ⟨rfl, hback, ?_⟩
      intro hinfix
      rcases List.infix_cons_iff.mp hinfix with hfirst | hlater
      · have hwhole : marker <+: b :: (front ++ back) :=
          hfirst.trans (List.prefix_append (b :: front) back)
        rw [hasPrefix_eq_true.mpr hwhole] at hstarts
        cases hstarts
      · exact hnone hlater

theorem cutMarker_none (h : cutMarker marker text = none) :
    ¬ marker <:+: text := by
  induction text with
  | nil =>
    rw [cutMarker] at h
    split at h
    · cases h
    rename_i hmarker
    intro hinfix
    exact hmarker (List.infix_nil.mp hinfix)
  | cons b rest ih =>
    cases hstarts : hasPrefix (b :: rest) marker with
    | true =>
      rw [cutMarker, if_pos hstarts] at h
      cases h
    | false =>
      rw [cutMarker_cons hstarts] at h
      intro hinfix
      rcases List.infix_cons_iff.mp hinfix with hfirst | hlater
      · rw [hasPrefix_eq_true.mpr hfirst] at hstarts
        cases hstarts
      · exact ih (Option.map_eq_none_iff.mp h) hlater

theorem not_marker (h : b = 37 -> rest.head? ≠ some 50) :
    hasPrefix (b :: rest) (str "%25") = false := by
  cases hstarts : hasPrefix (b :: rest) (str "%25") with
  | false => rfl
  | true =>
    rcases hasPrefix_eq_true.mp hstarts with ⟨tail, htail⟩
    cases htail
    exact absurd rfl (h rfl)

theorem not_marker_escape {d : UInt8} (hd : d ≠ 50) (rest : GoString) :
    hasPrefix (37 :: d :: rest) (str "%25") = false :=
  not_marker fun _ hhead => hd (Option.some.inj hhead)

theorem upperHex_ne_percent (hn : n < 16) : upperHex n ≠ 37 := by
  revert n
  decide

theorem upperHex_ne_two (hn : n < 16) (hhigh : 8 ≤ n) : upperHex n ≠ 50 := by
  revert n
  decide

theorem cutMarker_written (hbytes : forall b, b ∈ s -> isNameByte b = true)
    (hplain : 37 ∉ s) (back : GoString) :
    cutMarker (str "%25") (escapeExcept isHostByte s ++ back) =
      (cutMarker (str "%25") back).map fun cut =>
        (escapeExcept isHostByte s ++ cut.1, cut.2) := by
  induction s with
  | nil =>
    change cutMarker (str "%25") back = (cutMarker (str "%25") back).map fun cut => cut
    rw [Option.map_id']
  | cons b s ih =>
    rw [List.mem_cons, not_or] at hplain
    have hrest := ih (fun c hc => hbytes c (List.mem_cons_of_mem b hc)) hplain.right
    by_cases hkept : isHostByte b = true
    · rw [escapeExcept_cons hkept, List.cons_append,
        cutMarker_cons (not_marker fun hb => absurd hb.symm hplain.left), hrest,
        Option.map_map]
      rfl
    have hescaped : isHostByte b = false := Bool.eq_false_iff.mpr hkept
    have hbeyond : 0x80 ≤ b := by
      have hname := hbytes b List.mem_cons_self
      rw [isNameByte, hescaped, Bool.false_or, Bool.or_eq_true, beq_iff_eq,
        decide_eq_true_eq] at hname
      rcases hname with hpercent | hbeyond
      · exact absurd hpercent.symm hplain.left
      · exact hbeyond
    have hlt : b.toNat < 256 := UInt8.toNat_lt b
    have hnat : 128 ≤ b.toNat := UInt8.le_iff_toNat_le.mp hbeyond
    have htwo : upperHex (b.toNat / 16) ≠ 50 := upperHex_ne_two (by omega) (by omega)
    have hfirst : upperHex (b.toNat / 16) ≠ 37 := upperHex_ne_percent (by omega)
    have hsecond : upperHex (b.toNat % 16) ≠ 37 := upperHex_ne_percent (by omega)
    rw [escapeExcept_escaped hescaped]
    simp only [List.cons_append]
    rw [cutMarker_cons (not_marker_escape htwo _),
      cutMarker_cons (not_marker fun hb => absurd hb hfirst),
      cutMarker_cons (not_marker fun hb => absurd hb hsecond), hrest]
    simp only [Option.map_map]
    rfl

/-!
## Hosts that were parsed
-/

/-- The forms of a parsed host: a name, an address in brackets, and one with a zone. -/
inductive ParsedHost : GoString -> Prop where
  | named {host : GoString} (hbytes : forall b, b ∈ host -> isNameByte b = true)
      (hopen : host.head? ≠ some 91)
      (hport : 58 ∈ host -> validOptionalPort (58 :: afterLast host 58) = true) :
      ParsedHost host
  | literal {address port : GoString}
      (hbytes : forall b, b ∈ address -> isNameByte b = true) (hplain : 37 ∉ address)
      (hport : validOptionalPort port = true) : ParsedHost (91 :: address ++ 93 :: port)
  | zoned {address zone port : GoString}
      (hbytes : forall b, b ∈ address -> isNameByte b = true) (hplain : 37 ∉ address)
      (hzone : forall b, b ∈ zone -> isZoneByte b = true ∨ 0x80 ≤ b)
      (hport : validOptionalPort port = true) :
      ParsedHost (91 :: address ++ 37 :: zone ++ 93 :: port)

theorem port_bytes (h : validOptionalPort port = true) :
    forall b, b ∈ port -> isHostByte b = true ∧ b ≠ 93 := by
  have hdigit : forall b : UInt8, 48 ≤ b ∧ b ≤ 57 -> isHostByte b = true ∧ b ≠ 93 :=
    forall_byte (by decide +kernel)
  intro b hb
  cases port with
  | nil => cases hb
  | cons colon digits =>
    rw [validOptionalPort, Bool.and_eq_true, beq_iff_eq, List.all_eq_true] at h
    rcases List.mem_cons.mp hb with rfl | htail
    · rw [h.left]
      decide
    · exact hdigit b (of_decide_eq_true (h.right b htail))

theorem bracket_not_mem_port (h : validOptionalPort port = true) :
    93 ∉ port := by
  intro hmem
  exact (port_bytes h 93 hmem).right rfl

theorem escapeExcept_port (h : validOptionalPort port = true) :
    escapeExcept isHostByte port = port :=
  escapeExcept_kept fun b hb => (port_bytes h b hb).left

theorem hostUnescapeWith_kept (escape : UInt8 -> UInt8 -> Bool)
    (h : forall b, b ∈ s -> isHostByte b = true) : hostUnescapeWith escape s = some s := by
  have hwritten : hostUnescapeWith escape (escapeExcept isHostByte s) = _ :=
    hostUnescapeWith_written s
  rw [escapeExcept_kept h, if_pos] at hwritten
  · exact hwritten
  rw [List.all_eq_true]
  intro b hb
  rw [isWritable, h b hb, Bool.true_or]

theorem port_of_hostUnescapeWith {decoded : GoString}
    (hport : forall b, b ∈ port -> isHostByte b = true)
    (h : hostUnescapeWith escape port = some decoded) : decoded = port := by
  rw [hostUnescapeWith_kept escape hport] at h
  exact (Option.some.inj h).symm

theorem hostUnescapeWith_cons (hb : b ≠ 37) (h : hostUnescapeWith escape (b :: rest) = some host) :
    exists tail, hostUnescapeWith escape rest = some tail ∧ host = b :: tail := by
  rw [hostUnescapeWith_plain hb] at h
  split at h
  · cases h
  rcases Option.map_eq_some_iff.mp h with ⟨tail, htail, rfl⟩
  exact ⟨tail, htail, rfl⟩

theorem mem_of_mem_hostUnescape (hc : c ≠ 37)
    (hascii : c < 0x80) (h : hostUnescape text = some host) (hmem : c ∈ host) : c ∈ text := by
  revert hmem
  apply hostUnescapeWith_induction (P := fun text host => c ∈ host -> c ∈ text) ?_ ?_ ?_ h
  · exact id
  · intro hi lo hiv lov rest host hhi hlo hescape _ ih hmem
    rcases List.mem_cons.mp hmem with rfl | htail
    · rcases hostEscape_cases hhi hlo hescape with ⟨_, hpercent⟩ | hbeyond
      · exact absurd hpercent hc
      · exact absurd hascii (UInt8.not_lt.mpr hbeyond)
    · exact List.mem_of_mem_drop (i := 3) (ih htail)
  intro b rest host _ _ _ ih hmem
  rcases List.mem_cons.mp hmem with rfl | htail
  · exact List.mem_cons_self
  · exact List.mem_cons_of_mem b (ih htail)

theorem head_of_hostUnescape (h : hostUnescape text = some host)
    (hopen : host.head? = some 91) : text.head? = some 91 := by
  revert hopen
  apply hostUnescapeWith_induction (P := fun text host => host.head? = some 91 ->
    text.head? = some 91) ?_ ?_ ?_ h
  · exact id
  · intro hi lo hiv lov rest host hhi hlo hescape _ _ hopen
    rw [List.head?_cons, Option.some.injEq] at hopen
    rcases hostEscape_cases hhi hlo hescape with ⟨_, hpercent⟩ | hbeyond
    · rw [hpercent] at hopen
      cases hopen
    rw [hopen] at hbeyond
    exact absurd hbeyond (by decide)
  intro b rest host _ _ _ _ hopen
  exact hopen

theorem parsedHost_named (hopen : text.head? ≠ some 91)
    (hport : ¬ (58 ∈ text ∧ validOptionalPort (58 :: afterLast text 58) = false))
    (h : hostUnescape text = some host) : ParsedHost host := by
  refine .named (hostUnescape_bytes h)
    (fun hhead => hopen (head_of_hostUnescape h hhead)) ?_
  intro hcolon
  have htext : 58 ∈ text := mem_of_mem_hostUnescape (by decide) (by decide) h hcolon
  have hvalid : validOptionalPort (58 :: afterLast text 58) = true := by
    by_contra hbad
    exact hport ⟨htext, Bool.eq_false_iff.mpr hbad⟩
  rcases exists_last htext with ⟨front, port, rfl, hlast⟩
  rw [afterLast_append front hlast] at hvalid
  rcases hostUnescapeWith_split (by decide) (by decide) h with
    ⟨front', port', _, hdecoded, rfl⟩
  have hsame : port' = port := port_of_hostUnescapeWith
    (fun b hb => (port_bytes hvalid b (List.mem_cons_of_mem 58 hb)).left) hdecoded
  rw [hsame, afterLast_append front' hlast]
  exact hvalid

theorem hostUnescape_address (h : hostUnescape (91 :: text) = some host)
    (hmarker : ¬ str "%25" <:+: 91 :: text) :
    exists address, host = 91 :: address ∧ (forall b, b ∈ address -> isNameByte b = true) ∧
      37 ∉ address := by
  rcases hostUnescapeWith_cons (by decide) h with ⟨address, _, rfl⟩
  refine ⟨address, rfl, ?_, ?_⟩
  · intro b hb
    exact hostUnescape_bytes h b (List.mem_cons_of_mem 91 hb)
  intro hpercent
  exact hmarker (marker_of_percent h (List.mem_cons_of_mem 91 hpercent))

theorem hasPrefix_bracket :
    hasPrefix s (str "[") = true <-> s.head? = some 91 := by
  rw [hasPrefix_eq_true]
  constructor
  · intro h
    rcases h with ⟨rest, rfl⟩
    rfl
  intro h
  cases s with
  | nil => cases h
  | cons b s =>
    cases h
    exact ⟨s, rfl⟩

theorem open_of_append (hc : c ≠ 91)
    (h : 91 :: rest = front ++ c :: back) : exists address, front = 91 :: address := by
  cases front with
  | nil => exact absurd (List.cons.inj h).left.symm hc
  | cons b address =>
    rw [(List.cons.inj h).left]
    exact ⟨address, rfl⟩

theorem parsedHost_zoned {address host1 host2 host3 : GoString}
    (hcut : cutMarker (str "%25") (91 :: address) = some (front, zone))
    (hport : validOptionalPort port = true) (hfront : hostUnescape front = some host1)
    (hzone : zoneUnescape zone = some host2) (hback : hostUnescape (93 :: port) = some host3) :
    ParsedHost (host1 ++ host2 ++ host3) := by
  rcases cutMarker_some (by decide) hcut with ⟨hsplit, ⟨tail, rfl⟩, hnone⟩
  rcases open_of_append (by decide) hsplit with ⟨rest, rfl⟩
  rcases hostUnescape_address hfront hnone with ⟨address', rfl, hbytes, hplain⟩
  rcases hostUnescapeWith_cons (by decide) hback with ⟨port', hdecoded, rfl⟩
  have hsame : port' = port :=
    port_of_hostUnescapeWith (fun b hb => (port_bytes hport b hb).left) hdecoded
  rw [hsame]
  have hmarker : zoneUnescape (str "%25" ++ tail) = (zoneUnescape tail).map (37 :: ·) :=
    hostUnescapeWith_escape (h := 2) (l := 5) (by decide) (by decide) tail
  rw [hmarker] at hzone
  rcases Option.map_eq_some_iff.mp hzone with ⟨zone', hzone', rfl⟩
  exact .zoned hbytes hplain (zoneUnescape_bytes hzone') hport

theorem parsedHost_of_parseHost (h : parseHost text = some host) :
    ParsedHost host := by
  unfold parseHost at h
  split at h
  · rename_i hopen
    split at h
    · rename_i hclose
      rcases exists_last hclose with ⟨lit, port, rfl, hlast⟩
      simp only [beforeLast_append lit hlast, afterLast_append lit hlast] at h
      split at h
      · cases h
      rename_i hinvalid
      have hport : validOptionalPort port = true := by simpa using hinvalid
      rcases hasPrefix_eq_true.mp hopen with ⟨rest, hrest⟩
      rcases open_of_append (by decide) hrest with ⟨address, rfl⟩
      split at h
      · rename_i hcut
        rcases hostUnescapeWith_split (by decide) (by decide) h with
          ⟨literal, port', hliteral, hdecoded, rfl⟩
        have hsame : port' = port :=
          port_of_hostUnescapeWith (fun b hb => (port_bytes hport b hb).left) hdecoded
        rw [hsame]
        rcases hostUnescape_address hliteral (cutMarker_none hcut) with
          ⟨address, rfl, hbytes, hplain⟩
        exact .literal hbytes hplain hport
      rename_i front zone hcut
      split at h
      · rename_i host1 host2 host3 hfront hzone hback
        cases h
        exact parsedHost_zoned hcut hport hfront hzone hback
      · cases h
    · cases h
  rename_i hopen
  split at h
  · cases h
  rename_i hport
  exact parsedHost_named (fun hhead => hopen (hasPrefix_bracket.mpr hhead)) hport h

/-!
## Hosts that come back
-/

def AsciiZone (host : GoString) : Prop :=
  hasPrefix host (str "[") = true ->
    forall b, b ∈ after (beforeLast host 93) 37 -> b < 0x80

theorem isWritable_host (b : UInt8) :
    isWritable (fun hi lo => [hi, lo] == str "25" || decide (8 ≤ (unhex hi).getD 0)) b =
      isNameByte b := by
  revert b
  exact forall_byte (by decide +kernel)

theorem hostUnescape_written (h : forall b, b ∈ s -> isNameByte b = true) :
    hostUnescape (escapeExcept isHostByte s) = some s := by
  unfold hostUnescape
  rw [hostUnescapeWith_written, if_pos]
  rw [List.all_eq_true]
  intro b hb
  rw [isWritable_host]
  exact h b hb

theorem zoneUnescape_written (s : GoString) :
    zoneUnescape (escapeExcept isHostByte s) = if s.all isZoneByte then some s else none := by
  have hwritable : forall b : UInt8, isWritable (fun hi lo =>
      let v := UInt8.ofNat (16 * (unhex hi).getD 0 + (unhex lo).getD 0)
      [hi, lo] == str "25" || v == 32 || isHostByte v) b = isZoneByte b :=
    forall_byte (by decide +kernel)
  unfold zoneUnescape
  rw [hostUnescapeWith_written]
  exact congrArg (fun keep => if s.all keep then some s else none) (funext hwritable)

section Bracket

variable {lit port : GoString} (hport : validOptionalPort port = true)
include hport

theorem parseHost_literal (hcut : cutMarker (str "%25") (91 :: lit) = none) :
    parseHost (91 :: lit ++ 93 :: port) = hostUnescape (91 :: lit ++ 93 :: port) := by
  have hlast := bracket_not_mem_port hport
  unfold parseHost
  rw [if_pos (hasPrefix_bracket.mpr rfl),
    if_pos (List.mem_append_right _ List.mem_cons_self)]
  simp only [beforeLast_append _ hlast, afterLast_append _ hlast, hport, hcut,
    Bool.true_eq_false, if_false]

theorem parseHost_zoned
    (hcut : cutMarker (str "%25") (91 :: lit) = some (front, zone))
    (hfront : hostUnescape front = some host) :
    parseHost (91 :: lit ++ 93 :: port) =
    (zoneUnescape zone).map fun decoded => host ++ decoded ++ 93 :: port := by
  have hlast := bracket_not_mem_port hport
  have hback : hostUnescape (93 :: port) = some (93 :: port) := by
    apply hostUnescapeWith_kept
    intro b hb
    rcases List.mem_cons.mp hb with rfl | htail
    · decide
    · exact (port_bytes hport b htail).left
  unfold parseHost
  rw [if_pos (hasPrefix_bracket.mpr rfl),
    if_pos (List.mem_append_right _ List.mem_cons_self)]
  simp only [beforeLast_append _ hlast, afterLast_append _ hlast, hport, hcut, hfront, hback,
    Bool.true_eq_false, if_false]
  cases zoneUnescape zone with
  | none | some => rfl

end Bracket

theorem parseHost_written_named (hbytes : forall b, b ∈ host -> isNameByte b = true)
    (hopen : host.head? ≠ some 91)
    (hport : 58 ∈ host -> validOptionalPort (58 :: afterLast host 58) = true) :
    parseHost (escapeExcept isHostByte host) = some host := by
  have hname : ¬ hasPrefix (escapeExcept isHostByte host) (str "[") = true := by
    rw [hasPrefix_bracket]
    cases host with
    | nil => exact Option.some_ne_none _ ∘ Eq.symm
    | cons b rest =>
      cases hkept : isHostByte b with
      | true =>
        rw [escapeExcept_cons hkept]
        exact hopen
      | false =>
        rw [escapeExcept_escaped hkept]
        intro hhead
        cases hhead
  have hcolon : ¬ (58 ∈ escapeExcept isHostByte host ∧
      validOptionalPort (58 :: afterLast (escapeExcept isHostByte host) 58) = false) := by
    intro hbad
    by_cases hmem : 58 ∈ host
    · have hvalid := hport hmem
      rcases exists_last hmem with ⟨front, digits, rfl, hlast⟩
      rw [afterLast_append front hlast] at hvalid
      have hdigits : escapeExcept isHostByte digits = digits :=
        escapeExcept_kept fun b hb => (port_bytes hvalid b (List.mem_cons_of_mem 58 hb)).left
      rw [escapeExcept_append, escapeExcept_cons (by decide), hdigits,
        afterLast_append _ hlast, hvalid] at hbad
      cases hbad.right
    · exact not_mem_escapeExcept (Or.inl hmem) (by decide) (by decide) hbad.left
  unfold parseHost
  rw [if_neg hname, if_neg hcolon]
  exact hostUnescape_written hbytes

theorem escapeExcept_bracket {lit : GoString} (hport : validOptionalPort port = true) :
    escapeExcept isHostByte (91 :: lit ++ 93 :: port) =
      91 :: escapeExcept isHostByte lit ++ 93 :: port := by
  rw [escapeExcept_append, escapeExcept_cons (by decide), escapeExcept_cons (by decide),
    escapeExcept_port hport]

section Literal

variable {address port : GoString} (hbytes : forall b, b ∈ address -> isNameByte b = true)
  (hplain : 37 ∉ address) (hport : validOptionalPort port = true)

include hbytes in
theorem open_bytes : forall b, b ∈ 91 :: address -> isNameByte b = true := by
  intro b hb
  rcases List.mem_cons.mp hb with rfl | htail
  · decide
  · exact hbytes b htail

include hplain in
theorem open_plain : 37 ∉ 91 :: address := by
  rw [List.mem_cons, not_or]
  exact ⟨by decide, hplain⟩

include hbytes hplain hport

theorem parseHost_written_literal :
    parseHost (escapeExcept isHostByte (91 :: address ++ 93 :: port)) =
      some (91 :: address ++ 93 :: port) := by
  have hcut := cutMarker_written (open_bytes hbytes) (open_plain hplain) []
  rw [List.append_nil, escapeExcept_cons (by decide)] at hcut
  rw [escapeExcept_bracket hport, parseHost_literal hport hcut, ← escapeExcept_bracket hport]
  apply hostUnescape_written
  intro b hb
  rcases List.mem_append.mp hb with hfront | hback
  · exact open_bytes hbytes b hfront
  rcases List.mem_cons.mp hback with rfl | htail
  · decide
  · exact isNameByte_of_isHostByte (port_bytes hport b htail).left

theorem parseHost_written_zoned (zone : GoString) :
    parseHost (escapeExcept isHostByte (91 :: (address ++ 37 :: zone) ++ 93 :: port)) =
      if zone.all isZoneByte then some (91 :: (address ++ 37 :: zone) ++ 93 :: port) else none := by
  have hpercent : escapeExcept isHostByte (37 :: zone) =
      str "%25" ++ escapeExcept isHostByte zone := rfl
  have hmarker : cutMarker (str "%25") (escapeExcept isHostByte (37 :: zone)) =
      some ([], escapeExcept isHostByte (37 :: zone)) := by
    apply cutMarker_start
    rw [hpercent]
    exact List.prefix_append _ _
  have hcut := cutMarker_written (open_bytes hbytes) (open_plain hplain)
    (escapeExcept isHostByte (37 :: zone))
  rw [hmarker, Option.map_some, List.append_nil, escapeExcept_cons (by decide),
    List.cons_append, ← escapeExcept_append] at hcut
  have hfront : hostUnescape (91 :: escapeExcept isHostByte address) =
      some (91 :: address) := by
    rw [← escapeExcept_cons (by decide)]
    exact hostUnescape_written (open_bytes hbytes)
  have hsign : isZoneByte 37 = true := by decide
  rw [escapeExcept_bracket hport, parseHost_zoned hport hcut hfront, zoneUnescape_written,
    List.all_cons, hsign, Bool.true_and]
  split
  all_goals rfl

end Literal

theorem all_isZoneByte (h : forall b, b ∈ zone -> isZoneByte b = true ∨ 0x80 ≤ b) :
    zone.all isZoneByte = true <-> forall b, b ∈ zone -> b < 0x80 := by
  have hascii : forall b : UInt8, isZoneByte b = true -> b < 0x80 :=
    forall_byte (by decide +kernel)
  rw [List.all_eq_true]
  constructor
  · intro hall b hb
    exact hascii b (hall b hb)
  intro hall b hb
  rcases h b hb with hzone | hbeyond
  · exact hzone
  · exact absurd (hall b hb) (UInt8.not_lt.mpr hbeyond)

theorem asciiZone_bracket {lit : GoString} (hport : validOptionalPort port = true) :
    AsciiZone (91 :: lit ++ 93 :: port) <-> forall b, b ∈ after (91 :: lit) 37 -> b < 0x80 := by
  have hlast := bracket_not_mem_port hport
  unfold AsciiZone
  rw [beforeLast_append _ hlast]
  constructor
  · intro h
    exact h (hasPrefix_bracket.mpr rfl)
  intro h _
  exact h

/-- A parsed host comes back from its text unless its zone needs escapes beyond ASCII, and
then the text has no host at all. -/
theorem parseHost_written (h : ParsedHost host) :
    (AsciiZone host -> parseHost (escapeExcept isHostByte host) = some host) ∧
      (¬ AsciiZone host -> parseHost (escapeExcept isHostByte host) = none) := by
  cases h with
  | named hbytes hopen hport =>
    refine ⟨fun _ => parseHost_written_named hbytes hopen hport, ?_⟩
    intro hnot
    exact absurd (fun hprefix => absurd (hasPrefix_bracket.mp hprefix) hopen) hnot
  | @literal address port hbytes hplain hport =>
    refine ⟨fun _ => parseHost_written_literal hbytes hplain hport, ?_⟩
    intro hnot
    apply absurd _ hnot
    rw [asciiZone_bracket hport, ← List.append_nil (91 :: address),
      after_append (open_plain hplain)]
    intro b hb
    cases hb
  | @zoned address zone port hbytes hplain hzone hport =>
    have hascii : AsciiZone (91 :: (address ++ 37 :: zone) ++ 93 :: port) <->
        zone.all isZoneByte = true := by
      rw [asciiZone_bracket hport, all_isZoneByte hzone, ← List.cons_append,
        after_append (open_plain hplain), after_cons_self]
    have hparse := parseHost_written_zoned hbytes hplain hport zone
    constructor
    · intro hzoned
      rw [if_pos (hascii.mp hzoned)] at hparse
      exact hparse
    intro hzoned
    rw [if_neg (mt hascii.mpr hzoned)] at hparse
    exact hparse

end ReplxEdge.Net
