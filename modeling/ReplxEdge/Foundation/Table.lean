import ReplxEdge.Foundation.Runs
import Mathlib.Algebra.Order.BigOperators.Group.List
import Mathlib.Algebra.GroupWithZero.Nat
import Mathlib.Algebra.Order.Group.Nat
import Mathlib.Data.List.Nodup

/-!
# Tables

A Go map: entries under distinct keys. A write replaces the entry under its key
and leaves the others alone.
-/

namespace ReplxEdge.Foundation

structure Table (key value : Type) where
  entries : List (key × value)
  distinct : (entries.map Prod.fst).Nodup

namespace Table

variable {key value : Type}

def empty : Table key value where
  entries := []
  distinct := by simp

/-!
### Weights

What a table weighs is the sum over its entries.
-/

def weigh (t : Table key value) (weight : key -> value -> Nat) : Nat :=
  (t.entries.map fun entry => weight entry.1 entry.2).sum

def keep (t : Table key value) (test : key -> value -> Bool) : Table key value where
  entries := t.entries.filter fun entry => test entry.1 entry.2
  distinct := t.distinct.sublist (List.filter_sublist.map Prod.fst)

theorem weight_filter_le (entries : List (key × value)) (test : key × value -> Bool)
    (weight : key -> value -> Nat) :
    ((entries.filter test).map fun entry => weight entry.1 entry.2).sum ≤
      (entries.map fun entry => weight entry.1 entry.2).sum :=
  (List.filter_sublist.map _).sum_le_sum fun _ _ => Nat.zero_le _

theorem weigh_keep_le (t : Table key value) (test : key -> value -> Bool)
    (weight : key -> value -> Nat) : (t.keep test).weigh weight ≤ t.weigh weight :=
  weight_filter_le _ _ weight

/-!
### Lookups and writes
-/

variable [DecidableEq key]

def lookup (t : Table key value) (k : key) : Option value :=
  (t.entries.find? fun entry => entry.1 == k).map Prod.snd

def delete (t : Table key value) (k : key) : Table key value where
  entries := t.entries.filter fun entry => entry.1 != k
  distinct := t.distinct.sublist (List.filter_sublist.map Prod.fst)

theorem not_mem_delete (t : Table key value) (k : key) :
    k ∉ (t.delete k).entries.map Prod.fst := by
  intro hmem
  rcases List.mem_map.mp hmem with ⟨entry, hentry, hkey⟩
  have hne := (List.mem_filter.mp hentry).right
  simp [hkey] at hne

def set (t : Table key value) (k : key) (v : value) : Table key value where
  entries := (k, v) :: (t.delete k).entries
  distinct := List.nodup_cons.mpr ⟨t.not_mem_delete k, (t.delete k).distinct⟩

@[simp] theorem lookup_empty (k : key) : (empty : Table key value).lookup k = none :=
  rfl

theorem mem_of_lookup {t : Table key value} {k : key} {v : value}
    (h : t.lookup k = some v) : (k, v) ∈ t.entries := by
  rcases Option.map_eq_some_iff.mp h with ⟨entry, hfind, rfl⟩
  have hkey : entry.1 = k := by simpa using List.find?_some hfind
  rw [← hkey]
  exact List.mem_of_find?_eq_some hfind

theorem lookup_of_mem {t : Table key value} {k : key} {v : value}
    (h : (k, v) ∈ t.entries) : t.lookup k = some v := by
  cases hfound : t.lookup k with
  | none =>
    rw [lookup, Option.map_eq_none_iff, List.find?_eq_none] at hfound
    exact absurd (beq_self_eq_true k) (hfound _ h)
  | some found =>
    have hsame := List.inj_on_of_nodup_map t.distinct (mem_of_lookup hfound) h rfl
    exact congrArg some (congrArg Prod.snd hsame)

theorem lookup_delete_ne (t : Table key value) {k other : key} (h : other ≠ k) :
    (t.delete k).lookup other = t.lookup other := by
  unfold lookup delete
  rw [List.find?_filter]
  congr 2
  funext entry
  by_cases hkey : entry.1 = other
  · simp [hkey, h]
  · simp [hkey]

theorem lookup_set (t : Table key value) (k other : key) (v : value) :
    (t.set k v).lookup other = if other = k then some v else t.lookup other := by
  by_cases h : other = k
  · subst h
    simp [lookup, set]
  have hne : (k == other) = false := by simpa using fun heq => h heq.symm
  rw [if_neg h, ← t.lookup_delete_ne h]
  unfold lookup set
  rw [List.find?_cons]
  simp only [hne]

theorem lookup_set_cases {t : Table key value} {k other : key} {v found : value}
    (h : (t.set k v).lookup other = some found) :
    found = v ∨ t.lookup other = some found := by
  rw [lookup_set] at h
  by_cases hkey : other = k
  · rw [if_pos hkey] at h
    exact Or.inl (Option.some.inj h).symm
  rw [if_neg hkey] at h
  exact Or.inr h

@[simp] theorem lookup_delete_self (t : Table key value) (k : key) :
    (t.delete k).lookup k = none := by
  unfold lookup delete
  rw [List.find?_filter]
  simp

theorem delete_of_lookup_none {t : Table key value} {k : key} (h : t.lookup k = none) :
    t.delete k = t := by
  have hentries : (t.delete k).entries = t.entries := by
    apply List.filter_eq_self.mpr
    intro entry hentry
    rw [bne_iff_ne]
    intro hkey
    have hfound : t.lookup k = some entry.2 := lookup_of_mem (by rw [← hkey]; exact hentry)
    rw [h] at hfound
    cases hfound
  cases t
  simp only [delete] at hentries
  simp only [delete, hentries]

theorem lookup_of_delete {t : Table key value} {k other : key} {found : value}
    (h : (t.delete k).lookup other = some found) : t.lookup other = some found := by
  by_cases hkey : other = k
  · rw [hkey, lookup_delete_self] at h
    cases h
  rw [← t.lookup_delete_ne hkey]
  exact h

/-!
### Weights after a write
-/

theorem weigh_delete_le (t : Table key value) (k : key) (weight : key -> value -> Nat) :
    (t.delete k).weigh weight ≤ t.weigh weight :=
  weight_filter_le _ _ weight

theorem weigh_set (t : Table key value) (k : key) (v : value) (weight : key -> value -> Nat) :
    (t.set k v).weigh weight = weight k v + (t.delete k).weigh weight := by
  unfold weigh set
  rw [List.map_cons, List.sum_cons]

theorem weigh_delete_add {t : Table key value} {k : key} {v : value}
    (h : t.lookup k = some v) (weight : key -> value -> Nat) :
    (t.delete k).weigh weight + weight k v ≤ t.weigh weight := by
  rcases List.mem_iff_append.mp (mem_of_lookup h) with ⟨front, back, hsplit⟩
  have hkept : (t.delete k).entries =
      (front.filter fun entry => entry.1 != k) ++ back.filter fun entry => entry.1 != k := by
    change t.entries.filter _ = _
    rw [hsplit, List.filter_append, List.filter_cons_of_neg (by simp)]
  have hfront := weight_filter_le front (fun entry => entry.1 != k) weight
  have hback := weight_filter_le back (fun entry => entry.1 != k) weight
  unfold weigh
  rw [hkept, hsplit, List.map_append, List.map_append, List.map_cons, List.sum_append,
    List.sum_append, List.sum_cons]
  simp only
  omega

theorem lookup_of_keep {t : Table key value} {test : key -> value -> Bool} {k : key}
    {found : value} (h : (t.keep test).lookup k = some found) :
    t.lookup k = some found := by
  have hmem := (List.mem_filter.mp (mem_of_lookup h)).left
  exact lookup_of_mem hmem

def modify (t : Table key value) (change : key -> value -> value) : Table key value where
  entries := t.entries.map fun entry => (entry.1, change entry.1 entry.2)
  distinct := by
    rw [List.map_map]
    exact t.distinct

theorem lookup_modify (t : Table key value) (change : key -> value -> value) (k : key) :
    (t.modify change).lookup k = (t.lookup k).map (change k) := by
  have hfind : (t.modify change).entries.find? (fun entry => entry.1 == k) =
      (t.entries.find? fun entry => entry.1 == k).map fun entry =>
        (entry.1, change entry.1 entry.2) := by
    show (t.entries.map _).find? _ = _
    rw [List.find?_map]
    rfl
  unfold lookup
  rw [hfind]
  cases hentry : t.entries.find? (fun entry => entry.1 == k) with
  | none => rfl
  | some entry =>
    have hkey : entry.1 = k := by simpa using List.find?_some hentry
    simp only [Option.map_some, hkey]

theorem lookup_keep (t : Table key value) (test : key -> value -> Bool) (k : key) :
    (t.keep test).lookup k = (t.lookup k).filter (test k) := by
  cases hlookup : t.lookup k with
  | none =>
    cases hkept : (t.keep test).lookup k with
    | none => rfl
    | some found =>
      rw [lookup_of_keep hkept] at hlookup
      cases hlookup
  | some v =>
    rw [Option.filter_some]
    split
    · rename_i htest
      exact lookup_of_mem (List.mem_filter.mpr ⟨mem_of_lookup hlookup, htest⟩)
    rename_i htest
    cases hkept : (t.keep test).lookup k with
    | none => rfl
    | some found =>
      have hsame := lookup_of_keep hkept
      rw [hlookup, Option.some.injEq] at hsame
      have hpassed := (List.mem_filter.mp (mem_of_lookup hkept)).right
      rw [← hsame] at hpassed
      exact absurd hpassed htest

theorem weigh_mono {a b : Table key value}
    (h : forall k v, a.lookup k = some v -> b.lookup k = some v)
    (weight : key -> value -> Nat) : a.weigh weight ≤ b.weigh weight := by
  have hsubset : a.entries ⊆ b.entries := by
    intro entry hentry
    exact mem_of_lookup (h entry.1 entry.2 (lookup_of_mem hentry))
  have hnodup : a.entries.Nodup := List.Nodup.of_map Prod.fst a.distinct
  rcases List.subperm_of_subset hnodup hsubset with ⟨shared, hperm, hsublist⟩
  unfold weigh
  rw [← (hperm.map _).sum_eq]
  exact (hsublist.map _).sum_le_sum fun _ _ => Nat.zero_le _

theorem weigh_le_add {a b : Table key value} {k : key} {bound : Nat}
    {weight : key -> value -> Nat} (hk : forall v, a.lookup k = some v -> weight k v ≤ bound)
    (h : forall other v, other ≠ k -> a.lookup other = some v -> b.lookup other = some v) :
    a.weigh weight ≤ bound + b.weigh weight := by
  have hrest : (a.delete k).weigh weight ≤ b.weigh weight := by
    refine weigh_mono ?_ weight
    intro other v hv
    refine h other v ?_ (lookup_of_delete hv)
    intro hsame
    rw [hsame, lookup_delete_self] at hv
    cases hv
  cases hfound : a.lookup k with
  | none =>
    have hself : a.weigh weight ≤ (a.delete k).weigh weight := by
      refine weigh_mono ?_ weight
      intro other v hv
      rw [lookup_delete_ne]
      · exact hv
      intro hsame
      rw [hsame, hfound] at hv
      cases hv
    exact (hself.trans hrest).trans (Nat.le_add_left _ _)
  | some v =>
    have hself : a.weigh weight ≤ ((a.delete k).set k v).weigh weight := by
      refine weigh_mono ?_ weight
      intro other w hw
      rw [lookup_set]
      split
      · rename_i hsame
        rw [← hw, hsame, hfound]
      rename_i hother
      rw [lookup_delete_ne _ hother]
      exact hw
    rw [weigh_set] at hself
    have hless := (a.delete k).weigh_delete_le k weight
    have hbound := hk v hfound
    omega

def oldest (order : Order (key × value)) (stamp : value -> Instant)
    (t : Table key value) : Option key :=
  ((order.visit t.entries).foldl
    (fun (found : Option (key × value)) entry =>
      match found with
      | none => some entry
      | some best => if stamp entry.2 < stamp best.2 then some entry else some best)
    none).map Prod.fst

def older (stamp : value -> Instant) (found : Option (key × value)) (entry : key × value) :
    Option (key × value) :=
  match found with
  | none => some entry
  | some best => if stamp entry.2 < stamp best.2 then some entry else some best

theorem oldest_of_ne_nil {t : Table key value} (order : Order (key × value))
    (stamp : value -> Instant) (h : t.entries ≠ []) :
    exists k v, t.oldest order stamp = some k ∧ t.lookup k = some v := by
  have hnone : forall entry, older stamp none entry = some (id entry : key × value) :=
    fun _ => rfl
  have hsome : forall old entry : key × value, exists found,
      older stamp (some old) entry = some found ∧ (found = old ∨ found = id entry) ∧
        stamp found.2 ≤ stamp old.2 ∧ stamp found.2 ≤ stamp (id entry).2 := by
    intro old entry
    by_cases hlt : stamp entry.2 < stamp old.2
    · exact ⟨entry, if_pos hlt, Or.inr rfl, Int.le_of_lt hlt, Int.le_refl _⟩
    · exact ⟨old, if_neg hlt, Or.inl rfl, Int.le_refl _, Int.not_lt.mp hlt⟩
  rcases foldl_pick id (fun a b => stamp a.2 ≤ stamp b.2) (fun _ => Int.le_refl _)
    (fun _ _ _ => Int.le_trans) hnone hsome (order.visit_ne_nil h) with ⟨entry, hentry, hfold, _⟩
  have holdest : t.oldest order stamp = some entry.1 := congrArg (Option.map Prod.fst) hfold
  exact ⟨entry.1, entry.2, holdest, lookup_of_mem ((order.perm t.entries).mem_iff.mp hentry)⟩

/-!
### Sizes
-/

theorem length_delete_lt {t : Table key value} {k : key} {v : value}
    (h : t.lookup k = some v) : (t.delete k).entries.length < t.entries.length :=
  List.length_filter_lt_length_iff_exists.mpr ⟨(k, v), mem_of_lookup h, by simp⟩

theorem length_set_le (t : Table key value) (k : key) (v : value) :
    (t.set k v).entries.length ≤ t.entries.length + 1 :=
  Nat.add_le_add_right (List.length_filter_le _ _) 1

theorem ne_none_mono {a b : Table key value} {k : key}
    (h : forall v, a.lookup k = some v -> b.lookup k = some v) (hk : a.lookup k ≠ none) :
    b.lookup k ≠ none := by
  rcases Option.ne_none_iff_exists'.mp hk with ⟨v, hv⟩
  rw [h v hv]
  exact Option.some_ne_none v

theorem length_mono {a b : Table key value} (h : forall k, a.lookup k ≠ none -> b.lookup k ≠ none) :
    a.entries.length ≤ b.entries.length := by
  have hsubset : a.entries.map Prod.fst ⊆ b.entries.map Prod.fst := by
    intro k hk
    rcases List.mem_map.mp hk with ⟨entry, hentry, rfl⟩
    have hfound : a.lookup entry.1 ≠ none := by
      rw [lookup_of_mem hentry]
      exact Option.some_ne_none _
    rcases Option.ne_none_iff_exists'.mp (h _ hfound) with ⟨v, hv⟩
    exact List.mem_map.mpr ⟨(entry.1, v), mem_of_lookup hv, rfl⟩
  simpa using (List.subperm_of_subset a.distinct hsubset).length_le

theorem length_set_of_lookup {t : Table key value} {k : key} (h : t.lookup k ≠ none)
    (v : value) : (t.set k v).entries.length ≤ t.entries.length := by
  apply length_mono
  intro other hother
  rw [lookup_set] at hother
  split at hother
  · rename_i hsame
    exact hsame ▸ h
  · exact hother

end Table

end ReplxEdge.Foundation
