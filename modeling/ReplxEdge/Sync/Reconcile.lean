import ReplxEdge.Sync.Index

/-!
# Reconciling an item

A part id is unique over the whole index, whatever the position it is stored
under. Positions are rewritten one after the other, so a part that moved up may
meet its own old row, which has not been rewritten or deleted yet.
-/

namespace ReplxEdge.Sync

open Foundation

variable {alpha : Type} {index : Int} {m : MediaJSON} {row : PartRow}

/-!
## Positions of the origin
-/

def entryAt {alpha : Type} (l : List alpha) (index : Int) : Option alpha :=
  if 0 ≤ index then l[index.toNat]? else none

@[simp] theorem entryAt_natCast (l : List alpha) (n : Nat) :
    entryAt l (n : Int) = l[n]? := by
  unfold entryAt
  rw [if_pos (Int.natCast_nonneg n), Int.toNat_natCast]

theorem entryAt_some {l : List alpha} {a : alpha}
    (h : entryAt l index = some a) : 0 ≤ index ∧ index < l.length := by
  unfold entryAt at h
  split at h
  · rename_i hindex
    have hlt := (List.getElem?_eq_some_iff.mp h).choose
    omega
  · cases h

theorem entryAt_exists {l : List alpha} (h : 0 ≤ index ∧ index < l.length)
    : exists a, entryAt l index = some a := by
  unfold entryAt
  rw [if_pos h.left, ← Option.isSome_iff_exists, List.getElem?_eq_getElem (by omega)]
  rfl

theorem entryAt_mem {l : List alpha} {a : alpha} (h : entryAt l index = some a) : a ∈ l := by
  unfold entryAt at h
  split at h
  · exact List.mem_of_getElem? h
  · cases h

def originVariant (media : List MediaJSON) (idx : Int) : Option VariantRow :=
  (entryAt media idx).map variantRow

def originPart (media : List MediaJSON) (idx pidx : Int) : Option PartRow :=
  (entryAt media idx).bind fun m => (entryAt m.parts pidx).bind partRow

structure Reconciled (i : Index) (item : ItemKey) (media : List MediaJSON) : Prop where
  variants : forall idx, i.variants.lookup (item, idx) = originVariant media idx
  parts : forall idx pidx, i.parts.lookup ((item, idx), pidx) = originPart media idx pidx

def partIDs (media : List MediaJSON) : List Int :=
  media.flatMap fun m => m.parts.filterMap PartJSON.id

def NotHeldByOthers (i : Index) (item : ItemKey) (media : List MediaJSON) : Prop :=
  forall idx pidx row k held, originPart media idx pidx = some row ->
    i.parts.lookup k = some held -> held.plexPartID = row.plexPartID -> k.1.1 = item

/-- A position that was written before another one: in an earlier variant, or earlier in
the same variant under a part with an id. -/
def WrittenBefore (media : List MediaJSON) (idx pidx earlier pearlier : Int) : Prop :=
  (0 ≤ earlier ∧ earlier < idx) ∨
    (earlier = idx ∧ pearlier < pidx ∧ (originPart media idx pearlier).isSome)

/-- The old row of some position of the item still holds the id of a part when that part
is written. -/
def HeldByOldRow (old : Index) (item : ItemKey) (media : List MediaJSON) : Prop :=
  exists idx pidx row oidx opidx held, originPart media idx pidx = some row ∧
    old.parts.lookup ((item, oidx), opidx) = some held ∧
    held.plexPartID = row.plexPartID ∧ (oidx, opidx) ≠ (idx, pidx) ∧
    ¬ WrittenBefore media idx pidx oidx opidx

/-!
## Progress through an item

After the first `n` variants, and the parts up to position `v`, `q`, what was
visited is the origin's and everything else is as it was.
-/

section Progress

variable (old : Index) (item : ItemKey) (media : List MediaJSON)

/-- The parts behind a position: all of the variants before it, and in its own variant
those with an id. -/
def Visited (v q : Nat) (k : PartKey) : Prop :=
  k.1.1 = item ∧ WrittenBefore media v q k.1.2 k.2

structure Progress (n v q : Nat) (i : Index) : Prop where
  newVariants : forall k : VariantKey, k.1 = item -> 0 ≤ k.2 -> k.2 < n ->
    i.variants.lookup k = originVariant media k.2
  oldVariants : forall k : VariantKey, ¬ (k.1 = item ∧ 0 ≤ k.2 ∧ k.2 < n) ->
    i.variants.lookup k = old.variants.lookup k
  newParts : forall k, Visited item media v q k ->
    i.parts.lookup k = originPart media k.1.2 k.2
  oldParts : forall k, ¬ Visited item media v q k ->
    i.parts.lookup k = old.parts.lookup k

variable {old item media}
variable {n v q : Nat} {i : Index}

theorem originPart_eq (hm : media[v]? = some m) (pidx : Int) :
    originPart media v pidx = (entryAt m.parts pidx).bind partRow := by
  unfold originPart
  rw [entryAt_natCast, hm]
  rfl

theorem progress_start (hvariants : i.variants = old.variants) (hparts : i.parts = old.parts) :
    Progress old item media 0 0 0 i := by
  constructor
  · intro k _ hlow hhigh
    omega
  · intro k _
    rw [hvariants]
  · intro k hvisited
    rcases hvisited with ⟨_, hearlier | hsame⟩
    · omega
    rcases hsame with ⟨_, hlt, hsome⟩
    unfold originPart at hsome
    cases hentry : entryAt media 0 with
    | none =>
      simp [hentry] at hsome
    | some m =>
      rcases Option.isSome_iff_exists.mp hsome with ⟨row, hrow⟩
      rw [Int.natCast_zero, hentry, Option.bind_some] at hrow
      rcases Option.bind_eq_some_iff.mp hrow with ⟨p, hp, _⟩
      have := entryAt_some hp
      omega
  intro k _
  rw [hparts]

theorem Progress.variant (h : Progress old item media v v 0 i) (hm : media[v]? = some m) :
    Progress old item media (v + 1) v 0
      { i with variants := i.variants.set (item, (v : Int)) (variantRow m) } := by
  refine ⟨?_, ?_, h.newParts, h.oldParts⟩
  · intro k hitem hlow hhigh
    simp only
    rw [Table.lookup_set]
    split
    · rename_i hk
      rw [hk]
      simp only
      rw [originVariant, entryAt_natCast, hm]
      rfl
    rename_i hk
    apply h.newVariants k hitem hlow
    by_contra hge
    apply hk
    rw [← hitem]
    exact Prod.ext rfl (by omega)
  intro k hk
  simp only
  rw [Table.lookup_set, if_neg]
  · apply h.oldVariants k
    intro hbefore
    exact hk ⟨hbefore.left, hbefore.right.left, by omega⟩
  intro hsame
  rw [hsame] at hk
  exact hk ⟨rfl, by simp, by simp⟩

theorem visited_succ (k : PartKey) :
    Visited item media v (q + 1) k <-> Visited item media v q k ∨
        (k = ((item, (v : Int)), (q : Int)) ∧ (originPart media v q).isSome) := by
  unfold Visited WrittenBefore
  constructor
  · intro h
    rcases h with ⟨hitem, hearlier | hsame⟩
    · exact Or.inl ⟨hitem, Or.inl hearlier⟩
    rcases hsame with ⟨hv, hlt, hsome⟩
    by_cases hq : k.2 = (q : Int)
    · right
      rw [hq] at hsome
      exact ⟨Prod.ext (Prod.ext hitem hv) hq, hsome⟩
    left
    exact ⟨hitem, Or.inr ⟨hv, by omega, hsome⟩⟩
  intro h
  rcases h with ⟨hitem, hearlier | hsame⟩ | ⟨hk, hsome⟩
  · exact ⟨hitem, Or.inl hearlier⟩
  · exact ⟨hitem, Or.inr ⟨hsame.left, by omega, hsame.right.right⟩⟩
  rw [hk]
  exact ⟨rfl, Or.inr ⟨rfl, by simp, hsome⟩⟩

theorem Progress.skip (h : Progress old item media n v q i) (hnone : originPart media v q = none) :
    Progress old item media n v (q + 1) i := by
  refine ⟨h.newVariants, h.oldVariants, ?_, ?_⟩
  · intro k hk
    rcases (visited_succ k).mp hk with hbefore | hat
    · exact h.newParts k hbefore
    rw [hnone] at hat
    cases hat.right
  intro k hk
  exact h.oldParts k fun hbefore => hk ((visited_succ k).mpr (Or.inl hbefore))

theorem Progress.part (h : Progress old item media n v q i) (hrow : originPart media v q = some row)
    {parts : UniqueTable PartKey PartRow GoString PartRow.plexPartID}
    (hput : i.parts.put ((item, (v : Int)), (q : Int)) row = some parts) :
    Progress old item media n v (q + 1) { i with parts := parts } := by
  refine ⟨h.newVariants, h.oldVariants, ?_, ?_⟩
  · intro k hk
    simp only
    rw [UniqueTable.lookup_put hput]
    split
    · rename_i hat
      rw [hat, hrow]
    rename_i hat
    rcases (visited_succ k).mp hk with hbefore | hsame
    · exact h.newParts k hbefore
    · exact absurd hsame.left hat
  intro k hk
  simp only
  rw [UniqueTable.lookup_put hput, if_neg]
  · exact h.oldParts k fun hbefore => hk ((visited_succ k).mpr (Or.inl hbefore))
  intro hat
  exact hk ((visited_succ k).mpr (Or.inr ⟨hat, by rw [hrow]; rfl⟩))

/-- The old row of a position that was not visited holds the id of the part there. -/
def HeldAt (old : Index) (item : ItemKey) (media : List MediaJSON) (v q : Nat) : Prop :=
  exists row oidx opidx held, originPart media v q = some row ∧
    old.parts.lookup ((item, oidx), opidx) = some held ∧
    held.plexPartID = row.plexPartID ∧ (oidx, opidx) ≠ ((v : Int), (q : Int)) ∧
    ¬ WrittenBefore media v q oidx opidx

variable {idx pidx : Int}

theorem originPart_some (h : originPart media idx pidx = some row) :
    exists m p id, entryAt media idx = some m ∧ entryAt m.parts pidx = some p ∧
      p.id = some id ∧ row.plexPartID = formatInt id := by
  rcases Option.bind_eq_some_iff.mp h with ⟨m, hm, hrest⟩
  rcases Option.bind_eq_some_iff.mp hrest with ⟨p, hp, hrow⟩
  rcases Option.map_eq_some_iff.mp hrow with ⟨id, hid, rfl⟩
  exact ⟨m, p, id, hm, hp, hid, rfl⟩

theorem entryAt_unique {R : alpha -> alpha -> Prop} {l : List alpha}
    (h : l.Pairwise R) {i j : Int} {a b : alpha} (ha : entryAt l i = some a)
    (hb : entryAt l j = some b) (hab : ¬ R a b) (hba : ¬ R b a) : i = j := by
  rcases Int.eq_ofNat_of_zero_le (entryAt_some ha).left with ⟨m, rfl⟩
  rcases Int.eq_ofNat_of_zero_le (entryAt_some hb).left with ⟨n, rfl⟩
  change entryAt l (m : Int) = some a at ha
  change entryAt l (n : Int) = some b at hb
  rw [entryAt_natCast] at ha hb
  rcases List.getElem?_eq_some_iff.mp ha with ⟨hm, rfl⟩
  rcases List.getElem?_eq_some_iff.mp hb with ⟨hn, rfl⟩
  rw [List.pairwise_iff_getElem] at h
  rcases Nat.lt_trichotomy m n with hlt | heq | hgt
  · exact absurd (h m n hm hn hlt) hab
  · rw [heq]
  · exact absurd (h n m hn hm hgt) hba

theorem position_unique (h : (partIDs media).Nodup) {other pother : Int}
    {held : PartRow} (hrow : originPart media idx pidx = some row)
    (hheld : originPart media other pother = some held)
    (hid : held.plexPartID = row.plexPartID) : other = idx ∧ pother = pidx := by
  rcases originPart_some hrow with ⟨m, p, id, hm, hp, hpid, hrowid⟩
  rcases originPart_some hheld with ⟨n, q, id', hn, hq, hqid, hheldid⟩
  have hsame : id' = id := by
    apply formatInt_inj
    rw [← hheldid, ← hrowid, hid]
  rw [hsame] at hqid
  have hpmem : id ∈ m.parts.filterMap PartJSON.id :=
    List.mem_filterMap.mpr ⟨p, entryAt_mem hp, hpid⟩
  have hqmem : id ∈ n.parts.filterMap PartJSON.id :=
    List.mem_filterMap.mpr ⟨q, entryAt_mem hq, hqid⟩
  rcases List.nodup_flatMap.mp h with ⟨hwithin, hacross⟩
  have hidx : other = idx :=
    entryAt_unique hacross hn hm (fun hdisjoint => hdisjoint hqmem hpmem)
      (fun hdisjoint => hdisjoint hpmem hqmem)
  subst hidx
  rw [hm] at hn
  cases hn
  have hparts := List.pairwise_filterMap.mp (hwithin m (entryAt_mem hm))
  refine ⟨rfl, entryAt_unique hparts hq hp ?_ ?_⟩
  · intro hne
    exact hne id hqid id hpid rfl
  intro hne
  exact hne id hpid id hqid rfl

theorem Progress.put_eq_none (h : Progress old item media n v q i)
    (hdistinct : (partIDs media).Nodup) (hothers : NotHeldByOthers old item media)
    (hrow : originPart media v q = some row) :
    i.parts.put ((item, (v : Int)), (q : Int)) row = none <-> HeldAt old item media v q := by
  rw [UniqueTable.put_eq_none]
  constructor
  · intro hheld
    rcases hheld with ⟨k, held, hne, hlookup, hid⟩
    by_cases hvisited : Visited item media v q k
    · -- what was visited is the origin's, whose ids are distinct
      rw [h.newParts k hvisited] at hlookup
      rcases position_unique hdistinct hrow hlookup hid with ⟨hv, hq⟩
      exact absurd (Prod.ext (Prod.ext hvisited.left hv) hq) hne
    rw [h.oldParts k hvisited] at hlookup
    have hitem : k.1.1 = item := hothers v q row k held hrow hlookup hid
    refine ⟨row, k.1.2, k.2, held, hrow, ?_, hid, ?_, ?_⟩
    · rw [← hitem]
      exact hlookup
    · intro hsame
      rw [Prod.mk.injEq] at hsame
      exact hne (Prod.ext (Prod.ext hitem hsame.left) hsame.right)
    intro hbefore
    exact hvisited ⟨hitem, hbefore⟩
  intro hheld
  rcases hheld with ⟨row', oidx, opidx, held, hrow', hlookup, hid, hne, hbefore⟩
  rw [hrow] at hrow'
  cases hrow'
  refine ⟨((item, oidx), opidx), held, ?_, ?_, hid⟩
  · intro hsame
    rw [Prod.mk.injEq, Prod.mk.injEq] at hsame
    exact hne (Prod.ext hsame.left.right hsame.right)
  rw [h.oldParts _ fun hvisited => hbefore hvisited.right]
  exact hlookup

theorem mem_seenPart {parts : List PartJSON} {pidx : Nat} {x : Int} :
    x ∈ seenPart pidx parts <->
      pidx ≤ x ∧ ((entryAt parts (x - pidx)).bind partRow).isSome = true := by
  induction parts generalizing pidx with
  | nil =>
    simp [seenPart, entryAt]
  | cons p rest ih =>
    have hcons : x ∈ seenPart pidx (p :: rest) <->
        (x = pidx ∧ (partRow p).isSome = true) ∨ x ∈ seenPart (pidx + 1) rest := by
      rw [seenPart]
      split
      · rename_i hsome
        rw [List.mem_cons]
        simp [hsome]
      rename_i hnone
      simp [hnone]
    rw [hcons, ih]
    constructor
    · intro h
      rcases h with ⟨rfl, hsome⟩ | ⟨hle, hsome⟩
      · refine ⟨le_refl _, ?_⟩
        rw [Int.sub_self]
        exact hsome
      refine ⟨by omega, ?_⟩
      rcases Int.eq_ofNat_of_zero_le (show 0 ≤ x - (pidx + 1 : Nat) by omega) with ⟨d, hd⟩
      rw [hd, entryAt_natCast] at hsome
      rw [show x - (pidx : Int) = ((d + 1 : Nat) : Int) by omega, entryAt_natCast,
        List.getElem?_cons_succ]
      exact hsome
    intro h
    rcases h with ⟨hle, hsome⟩
    rcases Int.eq_ofNat_of_zero_le (show 0 ≤ x - (pidx : Int) by omega) with ⟨d, hd⟩
    rw [hd, entryAt_natCast] at hsome
    cases d with
    | zero =>
      left
      exact ⟨by omega, hsome⟩
    | succ d =>
      right
      refine ⟨by omega, ?_⟩
      rw [show x - ((pidx + 1 : Nat) : Int) = ((d : Nat) : Int) by omega,
        entryAt_natCast]
      rw [List.getElem?_cons_succ] at hsome
      exact hsome

theorem Progress.prune (hm : media[v]? = some m)
    (h : Progress old item media n v m.parts.length i) :
    Progress old item media n (v + 1) 0
      { i with
        parts := i.parts.keep fun k _ =>
          k.1 != (item, (v : Int)) || (seenPart 0 m.parts).contains k.2 } := by
  refine ⟨h.newVariants, h.oldVariants, ?_, ?_⟩
  · intro k hk
    simp only
    rw [UniqueTable.lookup_keep]
    rcases hk with ⟨hitem, hearlier | hsame⟩
    · by_cases hv : k.1.2 = (v : Int)
      · -- in this variant, what has an id was written and the rest goes
        have hk1 : k.1 = (item, (v : Int)) := Prod.ext hitem hv
        have horigin : originPart media k.1.2 k.2 = (entryAt m.parts k.2).bind partRow := by
          rw [hv, originPart_eq hm]
        have hseen : k.2 ∈ seenPart 0 m.parts <->
            (originPart media k.1.2 k.2).isSome = true := by
          rw [mem_seenPart, horigin]
          simp only [Int.natCast_zero, Int.sub_zero, and_iff_right_iff_imp]
          intro hsome
          rcases Option.isSome_iff_exists.mp hsome with ⟨row, hrow⟩
          rcases Option.bind_eq_some_iff.mp hrow with ⟨p, hp, _⟩
          exact (entryAt_some hp).left
        cases hrow : originPart media k.1.2 k.2 with
        | none =>
          have hgone : k.2 ∉ seenPart 0 m.parts := by
            rw [hseen, hrow]
            simp
          rw [Option.filter_eq_none_iff]
          intro row _
          simp [hk1, hgone]
        | some row =>
          have hkept : k.2 ∈ seenPart 0 m.parts := by
            rw [hseen, hrow]
            rfl
          have hvisited : Visited item media v m.parts.length k := by
            refine ⟨hitem, Or.inr ⟨hv, ?_, ?_⟩⟩
            · rw [horigin] at hrow
              rcases Option.bind_eq_some_iff.mp hrow with ⟨p, hp, _⟩
              exact (entryAt_some hp).right
            rw [← hv, hrow]
            rfl
          rw [h.newParts k hvisited, hrow]
          simp [hkept]
      rw [h.newParts k ⟨hitem, Or.inl ⟨hearlier.left, by omega⟩⟩]
      have hother : (k.1 != (item, (v : Int))) = true := by
        rw [bne_iff_ne]
        intro hsame
        exact hv (congrArg Prod.snd hsame)
      cases originPart media k.1.2 k.2 with
      | none => rfl
      | some row =>
        simp [hother]
    rcases hsame with ⟨hv, hlt, hsome⟩
    rcases Option.isSome_iff_exists.mp hsome with ⟨row, hrow⟩
    unfold originPart at hrow
    rcases Option.bind_eq_some_iff.mp hrow with ⟨m', _, hrest⟩
    rcases Option.bind_eq_some_iff.mp hrest with ⟨p, hp, _⟩
    have := entryAt_some hp
    omega
  intro k hk
  simp only
  rw [UniqueTable.lookup_keep]
  have hout : ¬ (k.1.1 = item ∧ 0 ≤ k.1.2 ∧ k.1.2 < v + 1) := by
    intro hin
    exact hk ⟨hin.left, Or.inl ⟨hin.right.left, by have := hin.right.right; omega⟩⟩
  have hother : (k.1 != (item, (v : Int))) = true := by
    rw [bne_iff_ne]
    intro hsame
    rw [hsame] at hout
    exact hout ⟨rfl, by simp, by simp⟩
  rw [h.oldParts k]
  · cases old.parts.lookup k with
    | none => rfl
    | some row =>
      simp [hother]
  intro hvisited
  rcases hvisited with ⟨hitem, hearlier | hsame⟩
  · exact hout ⟨hitem, hearlier.left, by omega⟩
  · exact hout ⟨hitem, by omega, by omega⟩

theorem exists_from_succ {P : Nat -> Prop} (h : ¬ P n) :
    (exists k, n + 1 ≤ k ∧ P k) <-> exists k, n ≤ k ∧ P k := by
  constructor
  · intro hlater
    rcases hlater with ⟨k, hle, hk⟩
    exact ⟨k, by omega, hk⟩
  intro hfrom
  rcases hfrom with ⟨k, hle, hk⟩
  refine ⟨k, Nat.lt_of_le_of_ne hle ?_, hk⟩
  intro hsame
  exact h (hsame ▸ hk)

theorem getElem?_of_drop {l rest : List alpha} {a : alpha} (h : l.drop n = a :: rest) :
    l[n]? = some a ∧ n < l.length ∧ l.drop (n + 1) = rest := by
  refine ⟨?_, ?_, ?_⟩
  · rw [← List.head?_drop, h]
    rfl
  · by_contra hge
    rw [List.drop_eq_nil_of_le (by omega)] at h
    cases h
  rw [← List.tail_drop, h]
  rfl

variable {j : Index}

theorem Progress.partsFrom (hm : media[v]? = some m) (h : Progress old item media n v q i)
    (hrun : run Index.apply i (partsFrom (item, (v : Int)) q (m.parts.drop q)) = some j) :
    Progress old item media n v (max q m.parts.length) j := by
  induction hrest : m.parts.drop q generalizing q i with
  | nil =>
    rw [hrest] at hrun
    cases hrun
    rw [Nat.max_eq_left (List.drop_eq_nil_iff.mp hrest)]
    exact h
  | cons p rest ih =>
    rcases getElem?_of_drop hrest with ⟨hp, hlt, hnext⟩
    have horigin : originPart media v q = partRow p := by
      rw [originPart_eq hm, entryAt_natCast, hp]
      rfl
    rw [hrest, Sync.partsFrom, run_append, run_partStatements, Option.bind_eq_some_iff] at hrun
    rcases hrun with ⟨next, hpart, hlater⟩
    rw [← hnext] at hlater
    rw [show max q m.parts.length = max (q + 1) m.parts.length by omega]
    refine ih ?_ hlater hnext
    cases hrow : partRow p with
    | none =>
      rw [hrow] at hpart horigin
      cases hpart
      exact h.skip horigin
    | some row =>
      rw [hrow] at hpart horigin
      rcases Option.map_eq_some_iff.mp hpart with ⟨parts, hput, rfl⟩
      exact h.part horigin hput

theorem Progress.partsFrom_eq_none (hm : media[v]? = some m)
    (hdistinct : (partIDs media).Nodup) (hothers : NotHeldByOthers old item media)
    (h : Progress old item media n v q i) :
    run Index.apply i (Sync.partsFrom (item, (v : Int)) q (m.parts.drop q)) = none <->
      exists pidx : Nat, q ≤ pidx ∧ HeldAt old item media v pidx := by
  induction hrest : m.parts.drop q generalizing q i with
  | nil =>
    constructor
    · intro hnone
      cases hnone
    intro hheld
    rcases hheld with ⟨pidx, hle, row, _, _, _, hrow, _⟩
    have hlength : m.parts.length ≤ q := List.drop_eq_nil_iff.mp hrest
    rw [originPart_eq hm, entryAt_natCast, List.getElem?_eq_none (by omega)] at hrow
    cases hrow
  | cons p rest ih =>
    rcases getElem?_of_drop hrest with ⟨hp, _, hnext⟩
    have horigin : originPart media v q = partRow p := by
      rw [originPart_eq hm, entryAt_natCast, hp]
      rfl
    rw [Sync.partsFrom, run_append, run_partStatements]
    cases hrow : partRow p with
    | none =>
      rw [hrow] at horigin
      refine (ih (h.skip horigin) hnext).trans (exists_from_succ ?_)
      intro hheld
      rcases hheld with ⟨row, _, _, _, hsome, _⟩
      rw [horigin] at hsome
      cases hsome
    | some row =>
      rw [hrow] at horigin
      have hrefused := h.put_eq_none hdistinct hothers horigin
      simp only
      cases hput : i.parts.put ((item, (v : Int)), (q : Int)) row with
      | none =>
        simp only [Option.map_none, Option.bind_none, true_iff]
        exact ⟨q, le_refl q, hrefused.mp hput⟩
      | some parts =>
        refine (ih (h.part horigin hput) hnext).trans (exists_from_succ ?_)
        rw [← hrefused, hput]
        simp

theorem bind_eq_none_of_some {beta : Type} {found : Option alpha}
    {f : alpha -> Option beta} {g : alpha -> beta} (h : forall a, f a = some (g a)) :
    found.bind f = none <-> found = none := by
  cases found with
  | none =>
    simp
  | some a =>
    simp [h a]

theorem run_variantStatements (i : Index) (item : ItemKey) (v : Nat) (m : MediaJSON) :
    run Index.apply i (variantStatements item v m) = (run Index.apply
        { i with variants := i.variants.set (item, (v : Int)) (variantRow m) }
        (partsFrom (item, (v : Int)) 0 m.parts)).bind fun written =>
          written.apply (.pruneParts (item, (v : Int)) (seenPart 0 m.parts)) := by
  rw [variantStatements, run, Index.apply]
  simp only
  rw [run_append]
  rfl

theorem Progress.variantStatements (hm : media[v]? = some m) (h : Progress old item media v v 0 i)
    (hrun : run Index.apply i (variantStatements item v m) = some j) :
    Progress old item media (v + 1) (v + 1) 0 j := by
  rw [run_variantStatements, Option.bind_eq_some_iff] at hrun
  rcases hrun with ⟨written, hparts, hprune⟩
  cases hprune
  have hdone := (h.variant hm).partsFrom hm hparts
  rw [Nat.zero_max] at hdone
  exact hdone.prune hm

theorem Progress.variantStatements_eq_none (hm : media[v]? = some m)
    (hdistinct : (partIDs media).Nodup) (hothers : NotHeldByOthers old item media)
    (h : Progress old item media v v 0 i) :
    run Index.apply i (Sync.variantStatements item v m) = none <->
      exists pidx : Nat, HeldAt old item media v pidx := by
  have hparts := (h.variant hm).partsFrom_eq_none hm hdistinct hothers
  simp only [Nat.zero_le, true_and, List.drop_zero] at hparts
  rw [← hparts, run_variantStatements]
  exact bind_eq_none_of_some fun _ => rfl

theorem Progress.variantsFrom (hv : v ≤ media.length) (h : Progress old item media v v 0 i)
    (hrun : run Index.apply i (variantsFrom item v (media.drop v)) = some j) :
    Progress old item media media.length media.length 0 j := by
  induction hrest : media.drop v generalizing v i with
  | nil =>
    have hlength : media.length ≤ v := List.drop_eq_nil_iff.mp hrest
    rw [hrest] at hrun
    cases hrun
    rw [show media.length = v by omega]
    exact h
  | cons m rest ih =>
    rcases getElem?_of_drop hrest with ⟨hm, hlt, hnext⟩
    rw [hrest, Sync.variantsFrom, run_append, Option.bind_eq_some_iff] at hrun
    rcases hrun with ⟨next, hvariant, hlater⟩
    rw [← hnext] at hlater
    exact ih hlt (h.variantStatements hm hvariant) hlater hnext

theorem Progress.variantsFrom_eq_none (hdistinct : (partIDs media).Nodup)
    (hothers : NotHeldByOthers old item media) (h : Progress old item media v v 0 i) :
    run Index.apply i (Sync.variantsFrom item v (media.drop v)) = none <->
      exists idx : Nat, v ≤ idx ∧ exists pidx : Nat, HeldAt old item media idx pidx := by
  induction hrest : media.drop v generalizing v i with
  | nil =>
    constructor
    · intro hnone
      cases hnone
    intro hheld
    rcases hheld with ⟨idx, hle, pidx, row, _, _, _, hrow, _⟩
    rcases originPart_some hrow with ⟨m, _, _, hm, _⟩
    have hlength : media.length ≤ v := List.drop_eq_nil_iff.mp hrest
    have hidx := entryAt_some hm
    omega
  | cons m rest ih =>
    rcases getElem?_of_drop hrest with ⟨hm, _, hnext⟩
    have hvariant := h.variantStatements_eq_none hm hdistinct hothers
    rw [Sync.variantsFrom, run_append]
    cases hrun : run Index.apply i (Sync.variantStatements item v m) with
    | none =>
      simp only [Option.bind_none, true_iff]
      exact ⟨v, le_refl v, hvariant.mp hrun⟩
    | some next =>
      rw [Option.bind_some]
      refine (ih (h.variantStatements hm hrun) hnext).trans (exists_from_succ ?_)
      rw [← hvariant, hrun]
      simp

theorem mem_seenIdx : idx ∈ seenIdx media <-> 0 ≤ idx ∧ idx < media.length := by
  unfold seenIdx
  rw [List.mem_map]
  constructor
  · intro h
    rcases h with ⟨n, hn, rfl⟩
    rw [List.mem_range] at hn
    constructor
    · exact Int.natCast_nonneg n
    · exact Int.ofNat_lt.mpr hn
  intro h
  exact ⟨idx.toNat, List.mem_range.mpr (by omega), Int.toNat_of_nonneg h.left⟩

theorem entryAt_eq_none {l : List alpha} (h : ¬ (0 ≤ index ∧ index < l.length))
    : entryAt l index = none := by
  cases hentry : entryAt l index with
  | none => rfl
  | some a => exact absurd (entryAt_some hentry) h

theorem Progress.reconciled (h : Progress old item media media.length media.length 0 i) :
    Reconciled
      { i with
        variants := i.variants.keep fun k _ => k.1 != item || (seenIdx media).contains k.2
        parts := i.parts.keep fun k _ => k.1.1 != item || (seenIdx media).contains k.1.2 }
      item media := by
  constructor
  · intro idx
    simp only
    rw [Table.lookup_keep]
    by_cases hseen : 0 ≤ idx ∧ idx < media.length
    · rw [h.newVariants (item, idx) rfl hseen.left hseen.right]
      have hmem : idx ∈ seenIdx media := mem_seenIdx.mpr hseen
      cases originVariant media idx with
      | none => rfl
      | some row =>
        simp [hmem]
    have hgone : idx ∉ seenIdx media := fun hmem => hseen (mem_seenIdx.mp hmem)
    rw [originVariant, entryAt_eq_none hseen, Option.map_none, Option.filter_eq_none_iff]
    intro row _
    simp [hgone]
  intro idx pidx
  simp only
  rw [UniqueTable.lookup_keep]
  by_cases hseen : 0 ≤ idx ∧ idx < media.length
  · rw [h.newParts ((item, idx), pidx) ⟨rfl, Or.inl hseen⟩]
    have hmem : idx ∈ seenIdx media := mem_seenIdx.mpr hseen
    cases originPart media idx pidx with
    | none => rfl
    | some row =>
      simp [hmem]
  have hgone : idx ∉ seenIdx media := fun hmem => hseen (mem_seenIdx.mp hmem)
  rw [originPart, entryAt_eq_none hseen, Option.bind_none, Option.filter_eq_none_iff]
  intro row _
  simp [hgone]

end Progress

/-!
## Whole items
-/

theorem heldByOldRow_iff {old : Index} {item : ItemKey} {media : List MediaJSON} :
    HeldByOldRow old item media <-> exists idx pidx : Nat, HeldAt old item media idx pidx := by
  constructor
  · intro h
    rcases h with ⟨idx, pidx, row, oidx, opidx, held, hrow, hrest⟩
    rcases originPart_some hrow with ⟨m, p, _, hm, hp, _⟩
    rcases Int.eq_ofNat_of_zero_le (entryAt_some hm).left with ⟨v, rfl⟩
    rcases Int.eq_ofNat_of_zero_le (entryAt_some hp).left with ⟨q, rfl⟩
    exact ⟨v, q, row, oidx, opidx, held, hrow, hrest⟩
  intro h
  rcases h with ⟨v, q, row, oidx, opidx, held, hrest⟩
  exact ⟨v, q, row, oidx, opidx, held, hrest⟩

theorem run_itemStatements (old : Index) (server libraryID : GoString) (it : ItemJSON)
    (gen : Option Int) :
    run Index.apply old (itemStatements server libraryID it gen) =
      (run Index.apply (old.putItem (server, it.ratingKey) libraryID gen)
        (variantsFrom (server, it.ratingKey) 0 it.media)).bind fun written =>
          written.apply (.pruneVariants (server, it.ratingKey) (seenIdx it.media)) := by
  rw [itemStatements, run, Index.apply]
  simp only
  rw [run_append, run_quiet, Option.bind_some, run, Index.apply]
  · simp only
    rw [run_append]
    rfl
  intro s hs
  rcases List.mem_map.mp hs with ⟨guid, _, rfl⟩
  rfl

variable {server : GoString} {it : ItemJSON}

theorem reconciled_of_run {old new : Index} {libraryID : GoString} {gen : Option Int}
    (h : run Index.apply old (itemStatements server libraryID it gen) = some new) :
    Reconciled new (server, it.ratingKey) it.media := by
  have hstart : Progress old (server, it.ratingKey) it.media 0 0 0
      (old.putItem (server, it.ratingKey) libraryID gen) := progress_start rfl rfl
  rw [run_itemStatements, Option.bind_eq_some_iff] at h
  rcases h with ⟨written, hwritten, hprune⟩
  cases hprune
  exact (hstart.variantsFrom (Nat.zero_le _) hwritten).reconciled

theorem run_itemStatements_eq_none {old : Index} (hdistinct : (partIDs it.media).Nodup)
    (hothers : NotHeldByOthers old (server, it.ratingKey) it.media) (libraryID : GoString)
    (gen : Option Int) :
    run Index.apply old (itemStatements server libraryID it gen) = none <->
      HeldByOldRow old (server, it.ratingKey) it.media := by
  have hstart : Progress old (server, it.ratingKey) it.media 0 0 0
      (old.putItem (server, it.ratingKey) libraryID gen) := progress_start rfl rfl
  have hvariants := hstart.variantsFrom_eq_none hdistinct hothers
  simp only [Nat.zero_le, true_and, List.drop_zero] at hvariants
  rw [heldByOldRow_iff, ← hvariants, run_itemStatements]
  exact bind_eq_none_of_some fun _ => rfl

/-- For an item whose part ids are distinct and not held by other items, the write
succeeds and leaves exactly the origin's rows, if and only if it has a rating key, the
database accepts its values, and no part takes an id that the old row of a later or
skipped position still holds. -/
theorem reconciled_iff (accepts : Accepts) (server libraryID : GoString) (it : ItemJSON)
    (gen : Option Int) (old : Index) (hdistinct : (partIDs it.media).Nodup)
    (hothers : NotHeldByOthers old (server, it.ratingKey) it.media) :
    (exists new, upsertItem accepts server libraryID it gen old = (Except.ok (), new) ∧
        Reconciled new (server, it.ratingKey) it.media) <-> it.ratingKey ≠ [] ∧
      (forall s, s ∈ itemStatements server libraryID it gen -> accepts s = true) ∧
      ¬ HeldByOldRow old (server, it.ratingKey) it.media := by
  have hnone := run_itemStatements_eq_none hdistinct hothers libraryID gen
  constructor
  · intro h
    rcases h with ⟨new, hok, _⟩
    rcases upsertItem_ok.mp hok with ⟨hkey, haccepted, hrun⟩
    refine ⟨hkey, haccepted, ?_⟩
    rw [← hnone, hrun]
    simp
  intro h
  rcases h with ⟨hkey, haccepted, hfree⟩
  rw [← hnone, ← ne_eq, Option.ne_none_iff_exists'] at hfree
  rcases hfree with ⟨new, hrun⟩
  exact ⟨new, upsertItem_ok.mpr ⟨hkey, haccepted, hrun⟩, reconciled_of_run hrun⟩

def version (id : Int) : MediaJSON where
  id := some id
  videoCodec := str "h264"
  videoProfile := []
  width := some 1920
  height := some 1080
  bitrate := some 8000
  dynamicRange := str "SDR"
  hdrFormat := []
  hdr := []
  displayTitle := []
  extendedDisplayTitle := []
  audioChannels := some 2
  parts := [⟨some id, str "/library/parts/" ++ formatInt id ++ str "/1/file.mkv", []⟩]

def filmOf (versions : List Int) : ItemJSON :=
  ⟨str "9", [], versions.map version⟩

def twoVersions : Index :=
  (upsertItem (fun _ => true) (str "s") (str "lib") (filmOf [301, 302]) none Index.empty).2

theorem twoVersions_film (k : PartKey) (held : PartRow)
    (h : twoVersions.parts.lookup k = some held) : k.1.1 = (str "s", str "9") := by
  have hall : twoVersions.parts.table.entries.all
      (fun entry => entry.1.1.1 == (str "s", str "9")) = true := by
    decide +kernel
  have hentry := List.all_eq_true.mp hall (k, held) (Table.mem_of_lookup h)
  exact beq_iff_eq.mp hentry

theorem twoVersions_held {k : PartKey} {held : PartRow}
    (h : twoVersions.parts.lookup k = some held) (hid : held.plexPartID = formatInt 301) :
    k = (((str "s", str "9"), 0), 0) := by
  have hall : twoVersions.parts.table.entries.all
      (fun entry => entry.2.plexPartID != formatInt 301 ||
        entry.1 == (((str "s", str "9"), 0), 0)) = true := by
    decide +kernel
  have hentry := List.all_eq_true.mp hall (k, held) (Table.mem_of_lookup h)
  rw [Bool.or_eq_true, bne_iff_ne, beq_iff_eq] at hentry
  rcases hentry with hne | hk
  · exact absurd hid hne
  · exact hk

theorem last_version_removed :
    exists new, upsertItem (fun _ => true) (str "s") (str "lib") (filmOf [301]) none
        twoVersions = (Except.ok (), new) ∧
      Reconciled new (str "s", str "9") (filmOf [301]).media := by
  apply (reconciled_iff (fun _ => true) (str "s") (str "lib") (filmOf [301]) none twoVersions
    (by decide) (fun _ _ _ k held _ h _ => twoVersions_film k held h)).mpr
  refine ⟨by decide, fun _ _ => rfl, ?_⟩
  intro h
  rcases h with ⟨idx, pidx, row, oidx, opidx, held, hrow, hlookup, hid, hne, _⟩
  rcases originPart_some hrow with ⟨m, p, id, hm, hp, hpid, hrowid⟩
  cases List.mem_singleton.mp (entryAt_mem hm)
  cases List.mem_singleton.mp (entryAt_mem hp)
  cases hpid
  have hidx : 0 ≤ idx ∧ idx < 1 := entryAt_some hm
  have hpidx : 0 ≤ pidx ∧ pidx < 1 := entryAt_some hp
  have hk := twoVersions_held hlookup (hid.trans hrowid)
  rw [Prod.mk.injEq, Prod.mk.injEq] at hk
  apply hne
  rw [hk.left.right, hk.right, show idx = 0 by omega, show pidx = 0 by omega]

/-- The film's first version is removed at the origin: the other one moves up to a part
id that its old row still holds. -/
theorem first_version_removed :
    (upsertItem (fun _ => true) (str "s") (str "lib") (filmOf [301, 302]) none
      Index.empty).1 = Except.ok () ∧ (partIDs (filmOf [302]).media).Nodup ∧
    NotHeldByOthers twoVersions (str "s", str "9") (filmOf [302]).media ∧
    exists s, (upsertItem (fun _ => true) (str "s") (str "lib") (filmOf [302]) none
      twoVersions).1 = Except.error (.failed s) := by
  refine ⟨by rfl, by decide, fun _ _ _ k held _ h _ => twoVersions_film k held h, ?_⟩
  exact ⟨_, by rfl⟩

end ReplxEdge.Sync
