import Mathlib.Data.List.Lex
import Mathlib.Data.List.Perm.Basic
import Mathlib.Data.List.Sort
import Mathlib.Order.Lattice

/-!
# Ranking

The running minimum of a list by a key. It is the first element of least key, and
that determines it: the choice survives a filter that keeps it and a change of keys
that orders the elements alike, and where the keys tell the elements apart it does not
depend on their order.
-/

namespace ReplxEdge.Foundation

section Least

variable {alpha key : Type} [LinearOrder key] (rank : alpha -> key)

def runningMin (first : alpha) (rest : List alpha) : alpha :=
  rest.foldl (fun best v => if rank v < rank best then v else best) first

def FirstLeast : List alpha -> alpha -> Prop
  | [], _ => False
  | x :: rest, best =>
    (best = x ∧ forall v, v ∈ rest -> rank x ≤ rank v) ∨
      (rank best < rank x ∧ FirstLeast rest best)

variable {rank}

theorem FirstLeast.mem {l : List alpha} {best : alpha} (h : FirstLeast rank l best) :
    best ∈ l := by
  induction l with
  | nil => cases h
  | cons x rest ih =>
    rcases h with ⟨rfl, _⟩ | ⟨_, hrest⟩
    · exact List.mem_cons_self
    · exact List.mem_cons_of_mem x (ih hrest)

theorem FirstLeast.le {l : List alpha} {best : alpha} (h : FirstLeast rank l best) :
    forall v, v ∈ l -> rank best ≤ rank v := by
  induction l with
  | nil => cases h
  | cons x rest ih =>
    intro v hv
    rcases h with ⟨rfl, hleast⟩ | ⟨hlt, hrest⟩
    · rcases List.mem_cons.mp hv with rfl | hv
      · exact le_refl _
      · exact hleast v hv
    rcases List.mem_cons.mp hv with rfl | hv
    · exact le_of_lt hlt
    · exact ih hrest v hv

theorem FirstLeast.unique {l : List alpha} {best other : alpha}
    (h : FirstLeast rank l best) (hother : FirstLeast rank l other) : best = other := by
  induction l with
  | nil => cases h
  | cons x rest ih =>
    rcases h with ⟨hbest, hleast⟩ | ⟨hlt, hrest⟩
    · rcases hother with ⟨hx, _⟩ | ⟨hlt, hrest⟩
      · rw [hbest, hx]
      · exact absurd hlt (not_lt_of_ge (hleast other hrest.mem))
    rcases hother with ⟨rfl, hleast⟩ | ⟨_, hrest'⟩
    · exact absurd hlt (not_lt_of_ge (hleast best hrest.mem))
    · exact ih hrest hrest'

theorem runningMin_firstLeast (first : alpha) (rest : List alpha) :
    FirstLeast rank (first :: rest) (runningMin rank first rest) := by
  unfold runningMin
  induction rest generalizing first with
  | nil =>
    left
    exact ⟨rfl, fun v hv => nomatch hv⟩
  | cons v rest ih =>
    rw [List.foldl_cons]
    split
    · rename_i hlt
      right
      constructor
      · exact lt_of_le_of_lt ((ih v).le v List.mem_cons_self) hlt
      · exact ih v
    rename_i hge
    have hle : rank first ≤ rank v := le_of_not_gt hge
    rcases ih first with ⟨hbest, hleast⟩ | ⟨hlt, hrest⟩
    · left
      constructor
      · exact hbest
      intro w hw
      rcases List.mem_cons.mp hw with rfl | hw
      · exact hle
      · exact hleast w hw
    right
    constructor
    · exact hlt
    right
    exact ⟨lt_of_lt_of_le hlt hle, hrest⟩

theorem FirstLeast.filter {l : List alpha} {best : alpha} (h : FirstLeast rank l best)
    {keep : alpha -> Bool} (hkeep : keep best = true) :
    FirstLeast rank (l.filter keep) best := by
  induction l with
  | nil => cases h
  | cons x rest ih =>
    rcases h with ⟨rfl, hleast⟩ | ⟨hlt, hrest⟩
    · rw [List.filter_cons_of_pos hkeep]
      left
      exact ⟨rfl, fun v hv => hleast v (List.mem_of_mem_filter hv)⟩
    rw [List.filter_cons]
    split
    · right
      exact ⟨hlt, ih hrest⟩
    · exact ih hrest

theorem FirstLeast.of_lt_iff {other : alpha -> key} {l : List alpha} {best : alpha}
    (h : FirstLeast rank l best)
    (hsame : forall v, v ∈ l -> forall w, w ∈ l -> (other v < other w <-> rank v < rank w)) :
    FirstLeast other l best := by
  induction l with
  | nil => cases h
  | cons x rest ih =>
    have hx : x ∈ x :: rest := List.mem_cons_self
    have hrest : forall v, v ∈ rest -> v ∈ x :: rest :=
      fun v hv => List.mem_cons_of_mem x hv
    rcases h with ⟨hbest, hleast⟩ | ⟨hlt, hfirst⟩
    · left
      constructor
      · exact hbest
      intro v hv
      have hge := hleast v hv
      rw [← not_lt] at hge ⊢
      rw [hsame v (hrest v hv) x hx]
      exact hge
    right
    constructor
    · exact (hsame best (hrest best hfirst.mem) x hx).mpr hlt
    · exact ih hfirst fun v hv w hw => hsame v (hrest v hv) w (hrest w hw)

/-- Where the ranks tell the elements apart, their order does not matter. -/
theorem FirstLeast.perm {l l' : List alpha} {best other : alpha}
    (h : FirstLeast rank l best) (hother : FirstLeast rank l' other) (hperm : l.Perm l')
    (hinj : forall v, v ∈ l -> forall w, w ∈ l -> rank v = rank w -> v = w) :
    best = other := by
  apply hinj best h.mem other (hperm.mem_iff.mpr hother.mem)
  apply le_antisymm
  · exact h.le other (hperm.mem_iff.mpr hother.mem)
  · exact hother.le best (hperm.mem_iff.mp h.mem)

/-- A sort whose comparison agrees with the ranks puts them in order. -/
theorem pairwise_insertionSort_rank {r : alpha -> alpha -> Prop} [DecidableRel r]
    (hr : forall {a b}, r a b -> rank a ≤ rank b) (hn : forall {a b}, ¬ r a b -> rank b ≤ rank a)
    (l : List alpha) : (l.insertionSort r).Pairwise fun a b => rank a ≤ rank b := by
  induction l with
  | nil => exact List.Pairwise.nil
  | cons a l ih =>
    rw [List.insertionSort_cons]
    generalize l.insertionSort r = sorted at ih
    induction sorted with
    | nil => exact List.pairwise_singleton _ _
    | cons b rest insert =>
      rcases List.pairwise_cons.mp ih with ⟨hb, hrest⟩
      rw [List.orderedInsert_cons]
      split
      · rename_i hab
        exact List.pairwise_cons.mpr ⟨List.forall_mem_cons.mpr
          ⟨hr hab, fun x hx => (hr hab).trans (hb x hx)⟩, ih⟩
      rename_i hab
      refine List.pairwise_cons.mpr ⟨?_, insert hrest⟩
      intro x hx
      rcases (List.mem_orderedInsert r).mp hx with rfl | hx
      · exact hn hab
      · exact hb x hx

end Least

end ReplxEdge.Foundation
