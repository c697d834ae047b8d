import ReplxEdge.Cache.Keys
import ReplxEdge.Foundation.Table
import Mathlib.Order.Lattice
import Mathlib.Algebra.BigOperators.Group.List.Basic

/-!
# Generations

Counters in one durable table, by scope digest and class. The generation of a
scope and class is the sum of three of them, next to the server's own counter.
A bump adds one to a single counter, which every pair of its namespace reads.
-/

namespace ReplxEdge.Cache

open Foundation

/-!
## The table
-/

/-- The rows, by scope digest and class. The empty text stands for the whole server,
or for all classes. -/
abbrev GenerationTable := Table (GoString × GoString) Nat

def row (g : GenerationTable) (scopeHash cls : GoString) : Nat :=
  (g.lookup (scopeHash, cls)).getD 0

def maxGeneration : Nat :=
  2 ^ 64 - 1

def saturatedAdd (values : List Nat) : Nat :=
  values.foldl
    (fun total value => if maxGeneration - total < value then maxGeneration else total + value)
    0

def generationScopeHash (scope : GoString) : GoString :=
  hexEncode (sha256 scope)

def defaultClass (cls : GoString) : GoString :=
  if cls = [] then str "browse" else cls

def scopeSum (g : GenerationTable) (scope cls : GoString) : Nat :=
  [row g (generationScopeHash scope) [], row g (generationScopeHash scope) cls, row g [] cls].sum

def getGeneration (g : GenerationTable) (scope : GoString) (cls : ResponseClass) :
    Nat × Nat :=
  (saturatedAdd [row g (generationScopeHash scope) [],
    row g (generationScopeHash scope) cls.label, row g [] cls.label], row g [] [])

/-!
## Bumps
-/

inductive Namespace where
  | all
  | serverClass (cls : GoString)
  | scope (scope : GoString)
  | scopeClass (scope cls : GoString)
deriving DecidableEq

def Namespace.row : Namespace -> GoString × GoString
  | all => ([], [])
  | serverClass cls => ([], cls)
  | scope s => (generationScopeHash s, [])
  | scopeClass s cls => (generationScopeHash s, defaultClass cls)

def Namespace.covers (n : Namespace) (scope : GoString) (cls : ResponseClass) : Bool :=
  match n with
  | .all => true
  | .serverClass c => c == cls.label
  | .scope s => s == scope
  | .scopeClass s c => s == scope && defaultClass c == cls.label

def bump (g : GenerationTable) (n : Namespace) : GenerationTable :=
  g.set n.row (row g n.row.1 n.row.2 + 1)

/-- Every sum that can be read is below saturation. -/
def Unsaturated (g : GenerationTable) : Prop :=
  forall scope cls, scopeSum g scope cls < maxGeneration

/-!
## Growth
-/

variable {g : GenerationTable}

theorem row_lt_of_entries {bound : Nat} (hbound : 0 < bound)
    (h : forall entry, entry ∈ g.entries -> entry.2 < bound) (scopeHash cls : GoString) :
    row g scopeHash cls < bound := by
  unfold row
  cases hlookup : g.lookup (scopeHash, cls) with
  | none => exact hbound
  | some generation => exact h _ (Table.mem_of_lookup hlookup)

theorem unsaturated_of_entries
    (h : forall entry, entry ∈ g.entries -> entry.2 < 2 ^ 62) : Unsaturated g := by
  intro scope cls
  have hrow := row_lt_of_entries (by decide) h
  have hscope := hrow (generationScopeHash scope) []
  have hclass := hrow (generationScopeHash scope) cls
  have hserver := hrow [] cls
  unfold scopeSum maxGeneration
  simp only [List.sum_cons, List.sum_nil]
  omega

theorem saturatedAdd_eq_min (values : List Nat) :
    saturatedAdd values = min maxGeneration values.sum := by
  have hfrom : forall (rest : List Nat) (total : Nat), total ≤ maxGeneration ->
      rest.foldl (fun total value =>
        if maxGeneration - total < value then maxGeneration else total + value) total =
        min maxGeneration (total + rest.sum) := by
    intro rest
    induction rest with
    | nil =>
      intro total htotal
      simp [htotal]
    | cons value rest ih =>
      intro total htotal
      rw [List.foldl_cons, List.sum_cons]
      split
      · rw [ih maxGeneration (Nat.le_refl _)]
        omega
      rw [ih (total + value) (by omega)]
      omega
  unfold saturatedAdd
  rw [hfrom values 0 (Nat.zero_le _), Nat.zero_add]

theorem row_bump (g : GenerationTable) (n : Namespace) (scopeHash cls : GoString) :
    row (bump g n) scopeHash cls =
      if (scopeHash, cls) = n.row then row g scopeHash cls + 1 else row g scopeHash cls := by
  unfold bump
  rw [row, Table.lookup_set]
  split
  · rename_i hrow
    rw [← hrow]
    rfl
  · rfl

theorem row_le_bump (g : GenerationTable) (n : Namespace) (scopeHash cls : GoString) :
    row g scopeHash cls ≤ row (bump g n) scopeHash cls := by
  rw [row_bump]
  split
  · exact Nat.le_succ _
  · exact Nat.le_refl _

theorem row_lt_bump (g : GenerationTable) (n : Namespace) (scopeHash cls : GoString)
    (h : (scopeHash, cls) = n.row) :
    row g scopeHash cls < row (bump g n) scopeHash cls := by
  rw [row_bump, if_pos h]
  exact Nat.lt_succ_self _

theorem getGeneration_le_bump (g : GenerationTable) (n : Namespace) (scope : GoString)
    (cls : ResponseClass) :
    getGeneration g scope cls ≤ getGeneration (bump g n) scope cls := by
  have hall := row_le_bump g n (generationScopeHash scope) []
  have hcls := row_le_bump g n (generationScopeHash scope) cls.label
  have hserver := row_le_bump g n [] cls.label
  unfold getGeneration
  rw [saturatedAdd_eq_min, saturatedAdd_eq_min, Prod.mk_le_mk]
  refine ⟨?_, row_le_bump g n [] []⟩
  simp only [List.sum_cons, List.sum_nil]
  omega

theorem getGeneration_lt_bump (hsat : Unsaturated g) {n : Namespace}
    {scope : GoString} {cls : ResponseClass} (hcovers : n.covers scope cls = true) :
    getGeneration g scope cls < getGeneration (bump g n) scope cls := by
  have hle := getGeneration_le_bump g n scope cls
  have hsum := hsat scope cls.label
  have hall := row_le_bump g n (generationScopeHash scope) []
  have hcls := row_le_bump g n (generationScopeHash scope) cls.label
  have hserver := row_le_bump g n [] cls.label
  apply lt_of_le_of_ne hle
  intro heq
  unfold scopeSum at hsum
  unfold getGeneration at heq
  rw [saturatedAdd_eq_min, saturatedAdd_eq_min, Prod.mk.injEq] at heq
  simp only [List.sum_cons, List.sum_nil] at heq hsum
  cases n with
  | all =>
    have hrow := row_lt_bump g .all [] [] rfl
    omega
  | serverClass c =>
    have hc : c = cls.label := by simpa [Namespace.covers] using hcovers
    have hrow := row_lt_bump g (.serverClass c) [] cls.label
      (by rw [← hc]; rfl)
    omega
  | scope s =>
    have hs : s = scope := by simpa [Namespace.covers] using hcovers
    have hrow := row_lt_bump g (.scope s) (generationScopeHash scope) []
      (by rw [← hs]; rfl)
    omega
  | scopeClass s c =>
    have hsc : s = scope ∧ defaultClass c = cls.label := by
      simpa [Namespace.covers] using hcovers
    have hrow := row_lt_bump g (.scopeClass s c) (generationScopeHash scope)
      cls.label (by rw [← hsc.left, ← hsc.right]; rfl)
    omega

end ReplxEdge.Cache
