import ReplxEdge.Foundation.Table

/-!
# Tables with a unique column

Besides its key, a row has a tag that no other row may have. A write that would
give a second row the same tag is refused.
-/

namespace ReplxEdge.Foundation

structure UniqueTable (key value tag : Type) [DecidableEq key] (column : value -> tag) where
  table : Table key value
  unique : forall k other v w, table.lookup k = some v -> table.lookup other = some w ->
    column v = column w -> k = other

namespace UniqueTable

variable {key value tag : Type} [DecidableEq key] {column : value -> tag}

def empty : UniqueTable key value tag column where
  table := Table.empty
  unique := by
    intro k other v w hv
    cases hv

def lookup (t : UniqueTable key value tag column) (k : key) : Option value :=
  t.table.lookup k

def keep (t : UniqueTable key value tag column) (test : key -> value -> Bool) :
    UniqueTable key value tag column where
  table := t.table.keep test
  unique := by
    intro k other v w hv hw
    exact t.unique k other v w (Table.lookup_of_keep hv) (Table.lookup_of_keep hw)

theorem lookup_keep (t : UniqueTable key value tag column) (test : key -> value -> Bool)
    (k : key) : (t.keep test).lookup k = (t.lookup k).filter (test k) :=
  t.table.lookup_keep test k

variable [DecidableEq tag]

def heldElsewhere (t : UniqueTable key value tag column) (k : key) (v : value) : Bool :=
  t.table.entries.any fun entry => entry.1 != k && decide (column entry.2 = column v)

theorem heldElsewhere_iff (t : UniqueTable key value tag column) (k : key) (v : value) :
    t.heldElsewhere k v = true <->
      exists other w, other ≠ k ∧ t.lookup other = some w ∧ column w = column v := by
  unfold heldElsewhere
  rw [List.any_eq_true]
  constructor
  · intro h
    rcases h with ⟨entry, hentry, hholds⟩
    rw [Bool.and_eq_true, bne_iff_ne, decide_eq_true_iff] at hholds
    exact ⟨entry.1, entry.2, hholds.left, Table.lookup_of_mem hentry, hholds.right⟩
  intro h
  rcases h with ⟨other, w, hne, hlookup, hcolumn⟩
  refine ⟨(other, w), Table.mem_of_lookup hlookup, ?_⟩
  rw [Bool.and_eq_true, bne_iff_ne, decide_eq_true_iff]
  exact ⟨hne, hcolumn⟩

theorem not_heldElsewhere {t : UniqueTable key value tag column} {k other : key} {v w : value}
    (h : ¬ t.heldElsewhere k v = true) (hlookup : t.lookup other = some w)
    (hcolumn : column w = column v) : other = k := by
  by_contra hne
  exact h ((t.heldElsewhere_iff k v).mpr ⟨other, w, hne, hlookup, hcolumn⟩)

/-- Write a row, unless another one has its tag. -/
def put (t : UniqueTable key value tag column) (k : key) (v : value) :
    Option (UniqueTable key value tag column) :=
  if h : t.heldElsewhere k v = true then none
  else
    some
      { table := t.table.set k v
        unique := by
          intro a b va vb ha hb hcolumn
          rw [Table.lookup_set] at ha hb
          split at ha
          · rename_i hak
            cases ha
            split at hb
            · rename_i hbk
              rw [hak, hbk]
            rw [hak]
            exact (not_heldElsewhere h hb hcolumn.symm).symm
          split at hb
          · rename_i hbk
            cases hb
            rw [hbk]
            exact not_heldElsewhere h ha hcolumn
          · exact t.unique a b va vb ha hb hcolumn }

theorem put_eq_none {t : UniqueTable key value tag column} {k : key} {v : value} :
    t.put k v = none <->
      exists other w, other ≠ k ∧ t.lookup other = some w ∧ column w = column v := by
  rw [← t.heldElsewhere_iff k v]
  unfold put
  split
  all_goals simp [*]

theorem lookup_put {t u : UniqueTable key value tag column} {k : key} {v : value}
    (h : t.put k v = some u) (other : key) :
    u.lookup other = if other = k then some v else t.lookup other := by
  unfold put at h
  split at h
  · cases h
  cases h
  exact t.table.lookup_set k other v

end UniqueTable

end ReplxEdge.Foundation
