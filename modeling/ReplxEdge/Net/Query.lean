import ReplxEdge.Foundation.Bytes
import Mathlib.Data.List.Perm.Basic
import Mathlib.Data.List.Dedup
import Mathlib.Data.List.Sort
import Mathlib.Data.List.Count

/-!
# URL queries

The query half of Go's `net/url`: percent-encoding of one component, the parser
that drops the pairs it cannot read, and the canonical encoding that sorts the
names. A set of query values is kept as the list of its pairs in the order they
were added, so the values of one name keep their order.
-/

namespace ReplxEdge.Net

open Foundation

/-!
## Component encoding
-/

def unhex (b : UInt8) : Option Nat :=
  if 48 ≤ b ∧ b ≤ 57 then some (b.toNat - 48)
  else if 97 ≤ b ∧ b ≤ 102 then some (b.toNat - 87)
  else if 65 ≤ b ∧ b ≤ 70 then some (b.toNat - 55)
  else none

def queryUnescape : GoString -> Option GoString
  | [] => some []
  | 37 :: hi :: lo :: rest =>
    match unhex hi, unhex lo with
    | some h, some l => (queryUnescape rest).map (UInt8.ofNat (16 * h + l) :: ·)
    | _, _ => none
  | 37 :: _ => none
  | 43 :: rest => (queryUnescape rest).map (32 :: ·)
  | b :: rest => (queryUnescape rest).map (b :: ·)

def isUnreserved (b : UInt8) : Bool :=
  decide ((48 ≤ b ∧ b ≤ 57) ∨ (65 ≤ b ∧ b ≤ 90) ∨ (97 ≤ b ∧ b ≤ 122) ∨
    b = 45 ∨ b = 46 ∨ b = 95 ∨ b = 126)

def upperHex (n : Nat) : UInt8 :=
  if n < 10 then UInt8.ofNat (48 + n) else UInt8.ofNat (55 + n)

def escapeByte (b : UInt8) : GoString :=
  if isUnreserved b then [b]
  else if b = 32 then [43]
  else [37, upperHex (b.toNat / 16), upperHex (b.toNat % 16)]

def queryEscape (s : GoString) : GoString :=
  s.flatMap escapeByte

theorem unhex_upperHex {n : Nat} (hn : n < 16) : unhex (upperHex n) = some n := by
  revert n
  decide

theorem queryUnescape_escapeByte (b : UInt8) (rest : GoString) :
    queryUnescape (escapeByte b ++ rest) = (queryUnescape rest).map (b :: ·) := by
  unfold escapeByte
  by_cases hplain : isUnreserved b = true
  · have hpercent : b ≠ 37 := by
      intro h
      subst h
      exact absurd hplain (by decide)
    have hplus : b ≠ 43 := by
      intro h
      subst h
      exact absurd hplain (by decide)
    rw [if_pos hplain, List.singleton_append, queryUnescape]
    · intro hi lo tail h
      exact absurd h hpercent
    · exact hpercent
    · exact hplus
  rw [if_neg hplain]
  by_cases hspace : b = 32
  · rw [if_pos hspace, hspace]
    rfl
  have hb : b.toNat < 256 := UInt8.toNat_lt b
  have hbyte : UInt8.ofNat (16 * (b.toNat / 16) + b.toNat % 16) = b := by
    rw [Nat.div_add_mod]
    exact UInt8.ofNat_toNat
  rw [if_neg hspace, List.cons_append, List.cons_append, List.singleton_append,
    queryUnescape, unhex_upperHex (by omega), unhex_upperHex (by omega)]
  simp only [hbyte]

theorem queryUnescape_queryEscape (s : GoString) :
    queryUnescape (queryEscape s) = some s := by
  induction s with
  | nil => rfl
  | cons b s ih =>
    rw [queryEscape, List.flatMap_cons, queryUnescape_escapeByte]
    rw [queryEscape] at ih
    rw [ih]
    rfl

theorem queryEscape_inj {s t : GoString} (h : queryEscape s = queryEscape t) :
    s = t := by
  have hdecode : queryUnescape (queryEscape s) = queryUnescape (queryEscape t) := by rw [h]
  simpa [queryUnescape_queryEscape] using hdecode

/-- A byte that escaped text never holds: every reserved byte except `%` and `+`. -/
def isSeparator (b : UInt8) : Bool :=
  !isUnreserved b && b != 37 && b != 43

theorem separator_not_mem_queryEscape (sep : UInt8) (hsep : isSeparator sep = true)
    (s : GoString) : sep ∉ queryEscape s := by
  intro hmem
  rcases List.mem_flatMap.mp hmem with ⟨b, _hb, hbyte⟩
  have hescape : forall b : UInt8, ((escapeByte b).all fun x => !isSeparator x) = true :=
    forall_byte (by decide +kernel)
  have hplain := List.all_eq_true.mp (hescape b) sep hbyte
  rw [hsep] at hplain
  cases hplain

/-!
## Reading a query

Segments are separated by ampersands. A segment with a semicolon, or whose name
or value has a broken escape, is dropped by the parser.
-/

inductive Segment where
  | pair (name value : GoString)
  | malformed (text : GoString)
deriving DecidableEq

def readSegment (text : GoString) : Segment :=
  if 59 ∈ text then Segment.malformed text
  else
    match queryUnescape (before text 61), queryUnescape (after text 61) with
    | some name, some value => Segment.pair name value
    | _, _ => Segment.malformed text

def segments (raw : GoString) : List Segment :=
  ((split raw 38).filter fun text => text != []).map readSegment

abbrev Values := List (GoString × GoString)

def Segment.pair? : Segment -> Option (GoString × GoString)
  | Segment.pair name value => some (name, value)
  | Segment.malformed _ => none

def Segment.isMalformed : Segment -> Bool
  | Segment.pair _ _ => false
  | Segment.malformed _ => true

def parseQuery (raw : GoString) : Values :=
  (segments raw).filterMap Segment.pair?

def Values.get (values : Values) (name : GoString) : GoString :=
  ((values.find? fun pair => pair.1 == name).map Prod.snd).getD []

theorem filter_wellFormed (l : List Segment) :
    (l.filter fun segment => !segment.isMalformed) =
      (l.filterMap Segment.pair?).map fun pair => Segment.pair pair.1 pair.2 := by
  induction l with
  | nil => rfl
  | cons segment l ih =>
    cases segment with
    | pair name value =>
      change Segment.pair name value :: _ = Segment.pair name value :: _
      rw [ih]
    | malformed text => exact ih

theorem segments_perm_iff {l m : List Segment} :
    l.Perm m <-> (l.filterMap Segment.pair?).Perm (m.filterMap Segment.pair?) ∧
      (l.filter Segment.isMalformed).Perm (m.filter Segment.isMalformed) := by
  constructor
  · intro h
    exact ⟨h.filterMap _, h.filter _⟩
  intro h
  have hpairs : (l.filter fun segment => !segment.isMalformed).Perm
      (m.filter fun segment => !segment.isMalformed) := by
    rw [filter_wellFormed, filter_wellFormed]
    exact h.left.map _
  calc
    l.Perm (l.filter Segment.isMalformed ++
        l.filter fun segment => !segment.isMalformed) :=
      (List.filter_append_perm _ l).symm
    _ |>.Perm (m.filter Segment.isMalformed ++
        m.filter fun segment => !segment.isMalformed) :=
      h.right.append hpairs
    _ |>.Perm m := List.filter_append_perm _ m

/-!
## Canonical encoding
-/

def nameLe (a b : GoString) : Bool :=
  decide (a ≤ b)

def Values.names (values : Values) : List GoString :=
  (values.map Prod.fst).dedup.mergeSort nameLe

/-- The pairs grouped by name, names sorted, values in the order they were added. -/
def Values.canonical (values : Values) : Values :=
  values.names.flatMap fun name => values.filter fun pair => pair.1 == name

def encodePair (pair : GoString × GoString) : GoString :=
  queryEscape pair.1 ++ 61 :: queryEscape pair.2

def Values.encode (values : Values) : GoString :=
  join 38 (values.canonical.map encodePair)

variable {values : Values}

theorem mem_names {name : GoString} :
    name ∈ values.names <-> name ∈ values.map Prod.fst := by
  rw [Values.names, List.mem_mergeSort, List.mem_dedup]

theorem nodup_names (values : Values) : values.names.Nodup :=
  (List.mergeSort_perm _ _).nodup_iff.mpr (List.nodup_dedup _)

theorem filter_flatMap_group {names : List GoString} (hnodup : names.Nodup)
    (values : Values) (name : GoString) :
    (names.flatMap fun n => values.filter fun pair => pair.1 == n).filter
        (fun pair => pair.1 == name) =
      if name ∈ names then values.filter (fun pair => pair.1 == name) else [] := by
  induction names with
  | nil => rfl
  | cons n names ih =>
    rcases List.nodup_cons.mp hnodup with ⟨hnot, hrest⟩
    rw [List.flatMap_cons, List.filter_append, ih hrest, List.filter_filter]
    by_cases hn : n = name
    · subst hn
      simp [hnot]
    have hempty : (values.filter fun pair => pair.1 == name && pair.1 == n) = [] := by
      rw [List.filter_eq_nil_iff]
      intro pair _hpair hboth
      simp only [Bool.and_eq_true, beq_iff_eq] at hboth
      exact hn (hboth.right.symm.trans hboth.left)
    have hmem : (name ∈ n :: names) <-> name ∈ names := by simp [Ne.symm hn]
    rw [hempty, List.nil_append]
    simp only [hmem]

theorem filter_canonical (values : Values) (name : GoString) :
    values.canonical.filter (fun pair => pair.1 == name) =
      values.filter fun pair => pair.1 == name := by
  rw [Values.canonical, filter_flatMap_group (nodup_names values)]
  by_cases hname : name ∈ values.names
  · rw [if_pos hname]
  rw [if_neg hname]
  symm
  rw [List.filter_eq_nil_iff]
  intro pair hpair heq
  rw [mem_names] at hname
  exact hname (List.mem_map.mpr ⟨pair, hpair, by simpa using heq⟩)

theorem canonical_perm (values : Values) : values.canonical.Perm values := by
  rw [List.perm_iff_count]
  intro pair
  have hcount : forall vs : Values,
      (vs.filter fun p => p.1 == pair.1).count pair = vs.count pair := by
    intro vs
    exact List.count_filter (by simp)
  rw [← hcount values.canonical, filter_canonical, hcount values]

theorem encodePair_ne_nil (pair : GoString × GoString) : encodePair pair ≠ [] := by
  simp [encodePair]

theorem ampersand_not_mem_encodePair (pair : GoString × GoString) :
    (38 : UInt8) ∉ encodePair pair := by
  have hname := separator_not_mem_queryEscape 38 (by decide) pair.1
  have hvalue := separator_not_mem_queryEscape 38 (by decide) pair.2
  simp [encodePair, hname, hvalue]

theorem encodePair_inj {p q : GoString × GoString} (h : encodePair p = encodePair q) :
    p = q := by
  rcases append_separator_inj
      (separator_not_mem_queryEscape 61 (by decide) p.1)
      (separator_not_mem_queryEscape 61 (by decide) q.1) h with
    ⟨hname, hvalue⟩
  exact Prod.ext (queryEscape_inj hname) (queryEscape_inj hvalue)

theorem split_join_encodePair {vs : Values} (hvs : vs ≠ []) :
    split (join 38 (vs.map encodePair)) 38 = vs.map encodePair := by
  refine List.splitOn_intercalate 38 ?_ (by simpa using hvs)
  intro text htext
  rcases List.mem_map.mp htext with ⟨pair, _hpair, rfl⟩
  exact ampersand_not_mem_encodePair pair

theorem join_encodePair_inj {ps qs : Values}
    (h : join 38 (ps.map encodePair) = join 38 (qs.map encodePair)) : ps = qs := by
  have hnil : forall vs : Values, join 38 (vs.map encodePair) = [] -> vs = [] := by
    intro vs hvs
    by_contra hne
    have hone : split [] 38 = vs.map encodePair := by
      rw [← hvs]
      exact split_join_encodePair hne
    cases vs with
    | nil => exact hne rfl
    | cons pair rest =>
      simp only [split, List.splitOn_nil, List.map_cons, List.cons.injEq] at hone
      exact encodePair_ne_nil pair hone.left.symm
  by_cases hps : ps = []
  · subst hps
    exact (hnil qs (by rw [← h]; rfl)).symm
  have hqs : qs ≠ [] := by
    intro hqs
    subst hqs
    exact hps (hnil ps (by rw [h]; rfl))
  have hmap : ps.map encodePair = qs.map encodePair := by
    rw [← split_join_encodePair hps, ← split_join_encodePair hqs, h]
  exact List.map_injective_iff.mpr (fun _ _ => encodePair_inj) hmap

variable {v w : Values}

theorem encode_filter_eq (h : v.encode = w.encode) (name : GoString) :
    (v.filter fun pair => pair.1 == name) = w.filter fun pair => pair.1 == name := by
  rw [← filter_canonical v, ← filter_canonical w, join_encodePair_inj h]

theorem encode_perm (h : v.encode = w.encode) : v.Perm w := by
  have hcanonical : v.canonical = w.canonical := join_encodePair_inj h
  exact (canonical_perm v).symm.trans (hcanonical ▸ canonical_perm w)

theorem encode_singleton (pair : GoString × GoString) :
    Values.encode [pair] = encodePair pair := by
  unfold Values.encode Values.canonical Values.names
  simp [join]

theorem separator_not_mem_encode {sep : UInt8} (hsep : isSeparator sep = true)
    (hamp : sep ≠ 38) (heq : sep ≠ 61) (values : Values) : sep ∉ values.encode := by
  intro hmem
  have hjoin : forall texts : List GoString, (forall t, t ∈ texts -> sep ∉ t) ->
      sep ∉ join 38 texts := by
    intro texts htexts hin
    induction texts with
    | nil => exact absurd hin (by simp [join])
    | cons t texts ih =>
      cases texts with
      | nil => exact htexts t (by simp) (by simpa [join] using hin)
      | cons u texts =>
        simp only [join, List.intercalate_cons_cons, List.mem_append, List.mem_singleton] at hin
        rcases hin with (hin | hin) | hin
        · exact htexts t (by simp) hin
        · exact hamp hin
        · exact ih (fun x hx => htexts x (by simp [hx])) hin
  refine hjoin _ ?_ hmem
  intro text htext
  rcases List.mem_map.mp htext with ⟨pair, _hpair, rfl⟩
  have hname := separator_not_mem_queryEscape _ hsep pair.1
  have hvalue := separator_not_mem_queryEscape _ hsep pair.2
  simp [encodePair, hname, hvalue, heq]

/-!
## Reading an encoding back
-/

def Values.all (values : Values) (name : GoString) : List GoString :=
  (values.filter fun pair => pair.1 == name).map Prod.snd

theorem readSegment_encodePair (pair : GoString × GoString) :
    readSegment (encodePair pair) = Segment.pair pair.1 pair.2 := by
  have hname := separator_not_mem_queryEscape 61 (by decide) pair.1
  have hsemi : (59 : UInt8) ∉ encodePair pair := by
    have hleft := separator_not_mem_queryEscape 59 (by decide) pair.1
    have hright := separator_not_mem_queryEscape 59 (by decide) pair.2
    simp [encodePair, hleft, hright]
  unfold readSegment
  rw [if_neg hsemi]
  unfold encodePair
  rw [before_append hname, after_append hname, before_cons_self, after_cons_self,
    List.append_nil, queryUnescape_queryEscape, queryUnescape_queryEscape]

theorem parseQuery_encode (values : Values) :
    parseQuery values.encode = values.canonical := by
  unfold Values.encode parseQuery segments
  by_cases hnil : values.canonical = []
  · rw [hnil]
    rfl
  have hkept : ((values.canonical.map encodePair).filter fun text => text != []) =
      values.canonical.map encodePair := by
    rw [List.filter_eq_self]
    intro text htext
    rcases List.mem_map.mp htext with ⟨pair, _hpair, rfl⟩
    simpa using encodePair_ne_nil pair
  rw [split_join_encodePair hnil, hkept, List.map_map]
  induction values.canonical with
  | nil => rfl
  | cons pair rest ih =>
    rw [List.map_cons, Function.comp_apply, readSegment_encodePair,
      List.filterMap_cons_some (b := (pair.1, pair.2)) (by rfl), ih]

theorem all_parseQuery_encode (values : Values) (name : GoString) :
    (parseQuery values.encode).all name = values.all name := by
  unfold Values.all
  rw [parseQuery_encode, filter_canonical]

theorem mem_parseQuery_encode {pair : GoString × GoString} :
    pair ∈ parseQuery values.encode <-> pair ∈ values := by
  rw [parseQuery_encode]
  exact (canonical_perm values).mem_iff

/-!
## Replacing the values of a name
-/

theorem all_replaced (values : Values) (name value : GoString) :
    Values.all ((values.filter fun pair => pair.1 != name) ++ [(name, value)]) name =
      [value] := by
  unfold Values.all
  rw [List.filter_append, List.filter_filter]
  have hnone : (values.filter fun pair => pair.1 == name && pair.1 != name) = [] := by
    rw [List.filter_eq_nil_iff]
    intro pair _
    simp
  rw [hnone]
  simp

theorem all_replaced_of_ne {other name : GoString} (h : other ≠ name) (values : Values)
    (value : GoString) :
    Values.all ((values.filter fun pair => pair.1 != other) ++ [(other, value)]) name =
      values.all name := by
  unfold Values.all
  rw [List.filter_append, List.filter_filter]
  have hkept : (values.filter fun pair => pair.1 == name && pair.1 != other) =
      values.filter fun pair => pair.1 == name := by
    apply List.filter_congr
    intro pair _
    rw [Bool.eq_iff_iff]
    simp only [Bool.and_eq_true, beq_iff_eq, bne_iff_ne, ne_eq, and_iff_left_iff_imp]
    intro hpair hother
    exact h (hother.symm.trans hpair)
  rw [hkept]
  simp [h]

end ReplxEdge.Net
