import ReplxEdge.Foundation.Counting
import ReplxEdge.Cache.Generations

/-!
# Generation stores

The durable store and the one in memory behind a common interface. They keep
their counters under different keys: rows by scope digest and class here, maps by
scope, by scope and class in one text, and by class there.
-/

namespace ReplxEdge.Cache

open Foundation

/-!
## Calls
-/

inductive GenerationCall where
  | bump (scope cls : GoString)
  | bumpScope (scope : GoString)
  | bumpServerClass (cls : GoString)
  | bumpAll
deriving DecidableEq

/-- A store: what it shows for a scope and class, and its state after a call that
succeeds. -/
structure GenerationStore where
  State : Type
  get : State -> GoString -> GoString -> Nat × Nat
  call : State -> GenerationCall -> Option State

/-!
## The durable store
-/

def isClassByte (b : UInt8) : Bool :=
  decide (97 ≤ b ∧ b ≤ 122) || decide (48 ≤ b ∧ b ≤ 57) || b == 95 || b == 45

/-- A lower-case letter and up to 31 letters, digits, underscores and hyphens. -/
def classPattern : GoString -> Bool
  | [] => false
  | b :: rest => decide (97 ≤ b ∧ b ≤ 122) && decide (rest.length ≤ 31) && rest.all isClassByte

def digestPattern (s : GoString) : Bool :=
  s.length == 64 && s.all fun b => decide (48 ≤ b ∧ b ≤ 57) || decide (97 ≤ b ∧ b ≤ 102)

def scopeClassCheck (scopeHash cls : GoString) : Bool :=
  (scopeHash == [] && cls == []) || (scopeHash == [] && classPattern cls) ||
    (digestPattern scopeHash && (cls == [] || classPattern cls))

namespace PostgresGenerations

def get (g : GenerationTable) (scope cls : GoString) : Nat × Nat :=
  (saturatedAdd [row g (generationScopeHash scope) [],
    row g (generationScopeHash scope) (defaultClass cls), row g [] (defaultClass cls)], row g [] [])

/-- The statement of a bump. It fails when the row breaks the constraint or its number
leaves the column's range. -/
def exec (g : GenerationTable) (n : Namespace) : Option GenerationTable :=
  if scopeClassCheck n.row.1 n.row.2 = true ∧ row g n.row.1 n.row.2 + 1 < 2 ^ 63 then
    some (Cache.bump g n)
  else none

def call (g : GenerationTable) : GenerationCall -> Option GenerationTable
  | .bump scope cls =>
    if scope = [] then some g else exec g (.scopeClass scope cls)
  | .bumpScope scope =>
    if scope = [] then some g else exec g (.scope scope)
  | .bumpServerClass cls =>
    if cls = [] then none else exec g (.serverClass cls)
  | .bumpAll => exec g .all

end PostgresGenerations

def postgresGenerations : GenerationStore :=
  ⟨GenerationTable, PostgresGenerations.get, PostgresGenerations.call⟩

/-!
## The store in memory
-/

structure MemoryGenerations where
  scopes : Table GoString Nat
  classes : Table GoString Nat
  serverClasses : Table GoString Nat
  global : Nat

namespace MemoryGenerations

def empty : MemoryGenerations :=
  ⟨Table.empty, Table.empty, Table.empty, 0⟩

def counter (t : Table GoString Nat) (key : GoString) : Nat :=
  (t.lookup key).getD 0

def increment (n : Nat) : Nat :=
  (n + 1) % 2 ^ 64

def count (t : Table GoString Nat) (key : GoString) : Table GoString Nat :=
  t.set key (increment (counter t key))

def classKey (scope cls : GoString) : GoString :=
  scope ++ 0 :: cls

def get (m : MemoryGenerations) (scope cls : GoString) : Nat × Nat :=
  (saturatedAdd [counter m.scopes scope, counter m.classes (classKey scope (defaultClass cls)),
    counter m.serverClasses (defaultClass cls)], m.global)

def call (m : MemoryGenerations) : GenerationCall -> Option MemoryGenerations
  | .bump scope cls =>
    if scope = [] then some m
    else some { m with classes := count m.classes (classKey scope (defaultClass cls)) }
  | .bumpScope scope =>
    if scope = [] then some m else some { m with scopes := count m.scopes scope }
  | .bumpServerClass cls =>
    if cls = [] then some m else some { m with serverClasses := count m.serverClasses cls }
  | .bumpAll => some { m with global := increment m.global }

end MemoryGenerations

def memoryGenerations : GenerationStore :=
  ⟨MemoryGenerations, MemoryGenerations.get, MemoryGenerations.call⟩

/-!
## What a call retires

A call without a scope, or for a server class without a name, is accepted in
memory and counts nothing.
-/

namespace GenerationCall

def scope? : GenerationCall -> Option GoString
  | bump scope _ => some scope
  | bumpScope scope => some scope
  | bumpServerClass _ => none
  | bumpAll => none

def retires (call : GenerationCall) (scope cls : GoString) : Bool :=
  match call with
  | bump s c => s != [] && s == scope && defaultClass c == defaultClass cls
  | bumpScope s => s != [] && s == scope
  | bumpServerClass c => c != [] && c == defaultClass cls
  | bumpAll => true

def gain (call : GenerationCall) (scope cls : GoString) : Nat × Nat :=
  if call.retires scope cls then if call = bumpAll then (0, 1) else (1, 0) else 0

theorem gain_ne_zero_iff (call : GenerationCall) (scope cls : GoString) :
    call.gain scope cls ≠ 0 <-> call.retires scope cls = true := by
  unfold gain
  cases call.retires scope cls with
  | false =>
    simp
  | true =>
    by_cases hall : call = bumpAll
    · simp [hall]
    · simp [hall]

end GenerationCall

def Below (shown : Nat × Nat) : Prop :=
  shown.1 < maxGeneration ∧ shown.2 < maxGeneration

instance Below.decidable (shown : Nat × Nat) : Decidable (Below shown) :=
  inferInstanceAs (Decidable (_ ∧ _))

variable {c : GenerationCall} {n : MemoryGenerations}

theorem generationScopeHash_ne_nil (scope : GoString) : generationScopeHash scope ≠ [] := by
  intro hnil
  have hlength := congrArg List.length hnil
  unfold generationScopeHash at hlength
  rw [hexEncode_length, sha256_length] at hlength
  cases hlength

theorem defaultClass_ne_nil (cls : GoString) : defaultClass cls ≠ [] := by
  unfold defaultClass
  split
  · decide
  · assumption

/-!
## Counting in the durable store
-/

/-- The digests of the scopes in a call meet the digest of a scope only on that scope. -/
def GenerationCall.Separate (call : GenerationCall) (scope : GoString) : Prop :=
  forall s, call.scope? = some s -> generationScopeHash s = generationScopeHash scope ->
    s = scope

namespace PostgresGenerations

variable {g h : GenerationTable} {scope cls : GoString}

def counted : GenerationCall -> Option Namespace
  | .bump scope cls =>
    if scope = [] then none else some (.scopeClass scope cls)
  | .bumpScope scope => if scope = [] then none else some (.scope scope)
  | .bumpServerClass cls =>
    if cls = [] then none else some (.serverClass cls)
  | .bumpAll => some .all

theorem call_cases (hcall : call g c = some h) :
    (counted c = none ∧ h = g) ∨ exists n, counted c = some n ∧ h = Cache.bump g n := by
  have hexec : forall n, exec g n = some h -> h = Cache.bump g n := by
    intro n hn
    unfold exec at hn
    split at hn
    · cases hn
      rfl
    · cases hn
  have hscoped : forall (scope : GoString) (n : Namespace),
      (if scope = [] then some g else exec g n) = some h ->
        ((if scope = [] then none else some n) = none ∧ h = g) ∨
          exists m, (if scope = [] then none else some n) = some m ∧ h = Cache.bump g m := by
    intro scope n hn
    by_cases hempty : scope = []
    · rw [if_pos hempty] at hn ⊢
      cases hn
      exact Or.inl ⟨rfl, rfl⟩
    rw [if_neg hempty] at hn ⊢
    exact Or.inr ⟨n, rfl, hexec n hn⟩
  cases c with
  | bump scope cls => exact hscoped scope (.scopeClass scope cls) hcall
  | bumpScope scope => exact hscoped scope (.scope scope) hcall
  | bumpServerClass cls =>
    by_cases hempty : cls = []
    · subst hempty
      cases hcall
    have hn : exec g (.serverClass cls) = some h := by rw [← hcall, call, if_neg hempty]
    exact Or.inr ⟨.serverClass cls, by rw [counted, if_neg hempty], hexec _ hn⟩
  | bumpAll => exact Or.inr ⟨.all, rfl, hexec _ hcall⟩

def shownRows (scope cls : GoString) : List (GoString × GoString) :=
  [(generationScopeHash scope, []), (generationScopeHash scope, cls), ([], cls)]

theorem sum_rows_bump (g : GenerationTable) (n : Namespace) (rows : List (GoString × GoString)) :
    (rows.map fun r => row (Cache.bump g n) r.1 r.2).sum =
      (rows.map fun r => row g r.1 r.2).sum + rows.count n.row := by
  induction rows with
  | nil => rfl
  | cons r rest ih =>
    rw [List.map_cons, List.map_cons, List.sum_cons, List.sum_cons, List.count_cons, ih, row_bump]
    by_cases hrow : r = n.row
    · rw [if_pos hrow, if_pos (by simpa using hrow)]
      omega
    rw [if_neg hrow, if_neg (by simpa using hrow)]
    omega

theorem count_shownRows {n : Namespace} (hseparate : c.Separate scope) (hn : counted c = some n) :
    ((shownRows scope (defaultClass cls)).count n.row,
      if ([], []) = n.row then 1 else 0) = c.gain scope cls := by
  have hhash := generationScopeHash_ne_nil
  have hclass := defaultClass_ne_nil cls
  have hkey : forall s, c.scope? = some s ->
      (generationScopeHash scope = generationScopeHash s <-> s = scope) := by
    intro s hs
    constructor
    · intro hsame
      exact hseparate s hs hsame.symm
    intro hsame
    rw [hsame]
  cases c with
  | bump s c =>
    rw [counted, Option.ite_none_left_eq_some] at hn
    rcases hn with ⟨hscope, hn⟩
    cases hn
    have hkeys := hkey s rfl
    have hother := defaultClass_ne_nil c
    have hclasses : defaultClass cls = defaultClass c <-> defaultClass c = defaultClass cls :=
      eq_comm
    simp only [shownRows, Namespace.row, List.count_cons, List.count_nil, beq_iff_eq,
      Prod.mk.injEq, hkeys, hclasses, hother.symm, (hhash _).symm, and_false, false_and,
      if_false, GenerationCall.gain, GenerationCall.retires, hscope, bne_iff_ne, ne_eq,
      Bool.and_eq_true, not_false_eq_true, true_and, reduceCtorEq]
    split <;> rfl
  | bumpScope s =>
    rw [counted, Option.ite_none_left_eq_some] at hn
    rcases hn with ⟨hscope, hn⟩
    cases hn
    have hkeys := hkey s rfl
    simp only [shownRows, Namespace.row, List.count_cons, List.count_nil, beq_iff_eq,
      Prod.mk.injEq, hkeys, hclass, (hhash _).symm, and_false, and_true,
      if_false, GenerationCall.gain, GenerationCall.retires, hscope, bne_iff_ne, ne_eq,
      Bool.and_eq_true, not_false_eq_true, true_and, reduceCtorEq]
    split <;> rfl
  | bumpServerClass c =>
    rw [counted, Option.ite_none_left_eq_some] at hn
    rcases hn with ⟨hnamed, hn⟩
    cases hn
    have hnil : ¬ [] = c := fun h => hnamed h.symm
    have hclasses : defaultClass cls = c <-> c = defaultClass cls := eq_comm
    simp only [shownRows, Namespace.row, List.count_cons, List.count_nil, beq_iff_eq,
      Prod.mk.injEq, hclasses, hhash, hnil, and_false, true_and, false_and,
      if_false, GenerationCall.gain, GenerationCall.retires, hnamed, bne_iff_ne, ne_eq,
      Bool.and_eq_true, not_false_eq_true, reduceCtorEq]
    split <;> rfl
  | bumpAll =>
    cases hn
    simp [shownRows, Namespace.row, GenerationCall.gain, GenerationCall.retires, hclass, hhash]

theorem gain_of_counted_none (hnone : counted c = none) :
    c.gain scope cls = 0 := by
  cases c with
  | bump s c =>
    have hempty : s = [] := by
      by_contra hne
      rw [counted, if_neg hne] at hnone
      cases hnone
    simp [GenerationCall.gain, GenerationCall.retires, hempty]
  | bumpScope s =>
    have hempty : s = [] := by
      by_contra hne
      rw [counted, if_neg hne] at hnone
      cases hnone
    simp [GenerationCall.gain, GenerationCall.retires, hempty]
  | bumpServerClass c =>
    have hempty : c = [] := by
      by_contra hne
      rw [counted, if_neg hne] at hnone
      cases hnone
    simp [GenerationCall.gain, GenerationCall.retires, hempty]
  | bumpAll => cases hnone

theorem get_eq (hbelow : scopeSum g scope (defaultClass cls) ≤ maxGeneration) :
    get g scope cls = (scopeSum g scope (defaultClass cls), row g [] []) := by
  unfold get
  rw [saturatedAdd_eq_min]
  exact congrArg (fun n => (n, row g [] [])) (Nat.min_eq_right hbelow)

theorem scopeSum_lt (hbelow : (get g scope cls).1 < maxGeneration) :
    scopeSum g scope (defaultClass cls) < maxGeneration := by
  unfold get at hbelow
  rw [saturatedAdd_eq_min] at hbelow
  unfold scopeSum
  omega

theorem gain_fst_le_one (c : GenerationCall) (scope cls : GoString) :
    (c.gain scope cls).1 ≤ 1 := by
  unfold GenerationCall.gain
  split
  · split <;> simp
  · simp

theorem counts (scope cls : GoString) :
    Counts call (fun g c => Below (get g scope cls) ∧ c.Separate scope)
      (fun g => get g scope cls) (fun c => c.gain scope cls) := by
  intro g c h hcond hcall
  change get h scope cls = get g scope cls + c.gain scope cls
  rcases call_cases hcall with ⟨hnone, rfl⟩ | ⟨n, hn, rfl⟩
  · rw [gain_of_counted_none hnone, add_zero]
  have hlt := scopeSum_lt hcond.left.left
  have hgain : ((shownRows scope (defaultClass cls)).count n.row,
      if ([], []) = n.row then 1 else 0) = c.gain scope cls :=
    count_shownRows hcond.right hn
  have hone := gain_fst_le_one c scope cls
  rw [← hgain] at hone
  have hsum : scopeSum (Cache.bump g n) scope (defaultClass cls) =
      scopeSum g scope (defaultClass cls) +
        (shownRows scope (defaultClass cls)).count n.row :=
    sum_rows_bump g n (shownRows scope (defaultClass cls))
  rw [get_eq (by omega), get_eq (by omega), hsum, row_bump, ← hgain]
  split
  all_goals rfl

end PostgresGenerations

/-!
## Counting in memory
-/

namespace MemoryGenerations

variable {m : MemoryGenerations} {scope cls : GoString}

theorem increment_eq {n : Nat} (h : n < maxGeneration) : increment n = n + 1 := by
  unfold maxGeneration at h
  exact Nat.mod_eq_of_lt (by omega)

theorem counter_count (t : Table GoString Nat) (key : GoString) {other : GoString}
    (hlt : counter t other < maxGeneration) :
    counter (count t key) other = counter t other + if other = key then 1 else 0 := by
  unfold count counter
  rw [Table.lookup_set]
  split
  · rename_i hsame
    rw [hsame] at hlt ⊢
    exact increment_eq hlt
  · rfl

theorem classKey_inj {s c : GoString} (hs : (0 : UInt8) ∉ s) (hscope : (0 : UInt8) ∉ scope) :
    classKey scope cls = classKey s c <-> s = scope ∧ c = cls := by
  constructor
  · intro hsame
    unfold classKey at hsame
    have hbefore := congrArg (fun text => before text 0) hsame
    have hafter := congrArg (fun text => after text 0) hsame
    simp only [before_append hs, before_append hscope, after_append hs, after_append hscope,
      before_cons_self, after_cons_self, List.append_nil] at hbefore hafter
    exact ⟨hbefore.symm, hafter.symm⟩
  intro hsame
  rw [hsame.left, hsame.right]

def NulFree (c : GenerationCall) : Prop :=
  forall s, c.scope? = some s -> (0 : UInt8) ∉ s

def total (m : MemoryGenerations) (scope cls : GoString) : Nat :=
  counter m.scopes scope + counter m.classes (classKey scope (defaultClass cls)) +
    counter m.serverClasses (defaultClass cls)

theorem get_eq (hbelow : total m scope cls ≤ maxGeneration) :
    get m scope cls = (total m scope cls, m.global) := by
  unfold get
  rw [saturatedAdd_eq_min]
  unfold total at hbelow ⊢
  simp only [List.sum_cons, List.sum_nil]
  congr 1
  omega

theorem total_lt (hbelow : (get m scope cls).1 < maxGeneration) :
    total m scope cls < maxGeneration := by
  unfold get at hbelow
  rw [saturatedAdd_eq_min] at hbelow
  simp only [List.sum_cons, List.sum_nil] at hbelow
  unfold total
  omega

theorem adds_of_total (hall : c ≠ .bumpAll) (hglobal : n.global = m.global)
    (htotal : total n scope cls = total m scope cls + if c.retires scope cls = true then 1 else 0) :
    (total n scope cls, n.global) = (total m scope cls, m.global) + c.gain scope cls := by
  rw [htotal, hglobal, GenerationCall.gain, if_neg hall]
  split
  all_goals rfl

theorem call_adds (hbelow : Below (get m scope cls)) (hscope : (0 : UInt8) ∉ scope)
    (hfree : NulFree c) (hcall : call m c = some n) :
    (total n scope cls, n.global) = (total m scope cls, m.global) + c.gain scope cls := by
  have hlt := total_lt hbelow.left
  unfold total at hlt
  cases c with
  | bump s c =>
    by_cases hempty : s = []
    · rw [call, if_pos hempty] at hcall
      cases hcall
      refine adds_of_total (by simp) rfl ?_
      simp [GenerationCall.retires, hempty]
    rw [call, if_neg hempty] at hcall
    cases hcall
    have hkey : (GenerationCall.bump s c).retires scope cls = true <->
        classKey scope (defaultClass cls) = classKey s (defaultClass c) := by
      rw [classKey_inj (hfree s rfl) hscope]
      simp [GenerationCall.retires, hempty]
    refine adds_of_total (by simp) rfl ?_
    unfold total
    rw [counter_count _ _ (by omega)]
    simp only [hkey]
    omega
  | bumpScope s =>
    by_cases hempty : s = []
    · rw [call, if_pos hempty] at hcall
      cases hcall
      refine adds_of_total (by simp) rfl ?_
      simp [GenerationCall.retires, hempty]
    rw [call, if_neg hempty] at hcall
    cases hcall
    have hkey : (GenerationCall.bumpScope s).retires scope cls = true <-> scope = s := by
      rw [@eq_comm _ scope]
      simp [GenerationCall.retires, hempty]
    refine adds_of_total (by simp) rfl ?_
    unfold total
    rw [counter_count _ _ (by omega)]
    simp only [hkey]
    omega
  | bumpServerClass c =>
    by_cases hempty : c = []
    · rw [call, if_pos hempty] at hcall
      cases hcall
      refine adds_of_total (by simp) rfl ?_
      simp [GenerationCall.retires, hempty]
    rw [call, if_neg hempty] at hcall
    cases hcall
    have hkey : (GenerationCall.bumpServerClass c).retires scope cls = true <->
        defaultClass cls = c := by
      rw [@eq_comm _ (defaultClass cls)]
      simp [GenerationCall.retires, hempty]
    refine adds_of_total (by simp) rfl ?_
    unfold total
    rw [counter_count _ _ (by omega)]
    simp only [hkey]
    omega
  | bumpAll =>
    have hglobal : m.global < maxGeneration := hbelow.right
    cases hcall
    rw [increment_eq hglobal]
    rfl

theorem counts {scope : GoString} (hscope : (0 : UInt8) ∉ scope) (cls : GoString) :
    Counts call (fun m c => Below (get m scope cls) ∧ NulFree c)
      (fun m => get m scope cls) (fun c => c.gain scope cls) := by
  intro m c n hcond hcall
  have hlt := total_lt hcond.left.left
  have hadds := call_adds hcond.left hscope hcond.right hcall
  have hone := PostgresGenerations.gain_fst_le_one c scope cls
  have hsum : total n scope cls = total m scope cls + (c.gain scope cls).1 :=
    congrArg Prod.fst hadds
  change get n scope cls = get m scope cls + c.gain scope cls
  rw [get_eq (by omega), get_eq (by omega)]
  exact hadds

end MemoryGenerations

/-!
## Sequences of calls
-/

/-- Along a sequence of calls the shown pair of a scope and class grows strictly with
each call that retires it, stays with every other call, and never comes back to a value
it has left. -/
structure GenerationStore.Exact (store : GenerationStore) (s : store.State)
    (calls : List GenerationCall) (scope cls : GoString) : Prop where
  each : forall past call future before after, calls = past ++ call :: future ->
    run store.call s past = some before -> store.call before call = some after ->
      if call.retires scope cls then store.get before scope cls < store.get after scope cls
      else store.get after scope cls = store.get before scope cls
  no_return : forall past next future before middle after, calls = past ++ next ++ future ->
    run store.call s past = some before -> run store.call before next = some middle ->
      run store.call middle future = some after ->
        store.get middle scope cls ≠ store.get before scope cls ->
          store.get after scope cls ≠ store.get before scope cls

theorem GenerationStore.exact_of_counts (store : GenerationStore) {scope cls : GoString}
    {cond : store.State -> GenerationCall -> Prop}
    (hcounts : Counts store.call cond (fun s => store.get s scope cls) (fun c => c.gain scope cls))
    {s : store.State} {calls : List GenerationCall} (hcond : Along store.call cond s calls) :
    store.Exact s calls scope cls := by
  constructor
  · intro past call future before after hcalls hpast hcall
    rw [hcalls] at hcond
    have hfuture := (hcond.append hpast).right
    rw [← along_cons_some hcall] at hfuture
    split
    · rename_i hretires
      exact hcounts.lt_step hfuture.left hcall
        ((GenerationCall.gain_ne_zero_iff call scope cls).mpr hretires)
    rename_i hkept
    have hzero : call.gain scope cls = 0 := by
      by_contra hne
      exact hkept ((GenerationCall.gain_ne_zero_iff call scope cls).mp hne)
    calc store.get after scope cls
        = store.get before scope cls + call.gain scope cls :=
          hcounts before call after hfuture.left hcall
      _ = store.get before scope cls := by rw [hzero, add_zero]
  intro past next future before middle after hcalls hpast hnext hfuture hchanged
  rw [hcalls, List.append_assoc] at hcond
  exact hcounts.no_return (hcond.append hpast).right hnext hfuture hchanged

/-- Below saturation both stores are exact on every sequence of calls, and a sequence that
both accept changes what they show by the same amount. -/
theorem generations_exact (g : GenerationTable) (m : MemoryGenerations)
    (calls : List GenerationCall) (scope cls : GoString) (hscope : (0 : UInt8) ∉ scope)
    (hfree : forall call, call ∈ calls -> MemoryGenerations.NulFree call)
    (hseparate : forall call, call ∈ calls -> call.Separate scope)
    (hrows : Along PostgresGenerations.call
      (fun s _ => Below (PostgresGenerations.get s scope cls)) g calls)
    (hmaps : Along MemoryGenerations.call
      (fun s _ => Below (MemoryGenerations.get s scope cls)) m calls) :
    postgresGenerations.Exact g calls scope cls ∧ memoryGenerations.Exact m calls scope cls ∧
      forall g' m', run PostgresGenerations.call g calls = some g' ->
        run MemoryGenerations.call m calls = some m' ->
        exists change, PostgresGenerations.get g' scope cls =
            PostgresGenerations.get g scope cls + change ∧
          MemoryGenerations.get m' scope cls = MemoryGenerations.get m scope cls + change := by
  have hrows' := hrows.and_mem hseparate
  have hmaps' := hmaps.and_mem hfree
  have hcountsRows := PostgresGenerations.counts scope cls
  have hcountsMaps := MemoryGenerations.counts hscope cls
  constructor
  · exact postgresGenerations.exact_of_counts hcountsRows hrows'
  constructor
  · exact memoryGenerations.exact_of_counts hcountsMaps hmaps'
  intro g' m' hpostgres hmemory
  exists (calls.map fun c => c.gain scope cls).sum
  constructor
  · exact hcountsRows.run hrows' hpostgres
  · exact hcountsMaps.run hmaps' hmemory

def mixedCalls : List GenerationCall :=
  [.bump (str "user:7") (str "metadata"),
    .bumpScope (str "user:8"),
    .bumpScope (str "user:7"),
    .bumpServerClass (str "collections"),
    .bump [] [], .bumpAll]

theorem generations_exact_mixed :
    exists g' m', run PostgresGenerations.call Table.empty mixedCalls = some g' ∧
      run MemoryGenerations.call MemoryGenerations.empty mixedCalls = some m' ∧
      postgresGenerations.Exact Table.empty mixedCalls (str "user:7") (str "metadata") ∧
      memoryGenerations.Exact MemoryGenerations.empty mixedCalls (str "user:7")
        (str "metadata") ∧
      exists change, PostgresGenerations.get g' (str "user:7") (str "metadata") =
          PostgresGenerations.get Table.empty (str "user:7") (str "metadata") + change ∧
        MemoryGenerations.get m' (str "user:7") (str "metadata") =
          MemoryGenerations.get MemoryGenerations.empty (str "user:7") (str "metadata") +
            change := by
  have hrows : exists g', run PostgresGenerations.call Table.empty mixedCalls = some g' :=
    Option.isSome_iff_exists.mp (by decide +kernel)
  have hmaps : exists m', run MemoryGenerations.call MemoryGenerations.empty mixedCalls =
      some m' :=
    Option.isSome_iff_exists.mp (by decide +kernel)
  rcases hrows with ⟨g', hg⟩
  rcases hmaps with ⟨m', hm⟩
  have hscopes : forall call, call ∈ mixedCalls -> forall s, call.scope? = some s ->
      s = str "user:7" ∨ s = str "user:8" ∨ s = [] := by
    decide
  have hdistinct : generationScopeHash (str "user:8") ≠ generationScopeHash (str "user:7") ∧
      generationScopeHash [] ≠ generationScopeHash (str "user:7") := by
    decide +kernel
  have hexact := generations_exact Table.empty MemoryGenerations.empty mixedCalls (str "user:7")
    (str "metadata") (by decide) ?_ ?_ (by decide +kernel) (by decide +kernel)
  · exact ⟨g', m', hg, hm, hexact.left, hexact.right.left, hexact.right.right g' m' hg hm⟩
  · intro call hcall s hs
    rcases hscopes call hcall s hs with rfl | rfl | rfl
    · decide
    · decide
    · decide
  intro call hcall s hs hsame
  rcases hscopes call hcall s hs with rfl | rfl | rfl
  · rfl
  · exact absurd hsame hdistinct.left
  · exact absurd hsame hdistinct.right

/-- The pair that the arguments of a bump name, whatever they are. -/
def GenerationCall.names (call : GenerationCall) (scope cls : GoString) : Bool :=
  match call with
  | bump s c => s == scope && defaultClass c == defaultClass cls
  | bumpScope s => s == scope
  | bumpServerClass c => c == defaultClass cls
  | bumpAll => true

/-- Both stores accept a bump of the empty scope, and what they show for that scope stays
as it was. -/
theorem bump_empty_scope_accepted :
    (GenerationCall.bump [] (str "browse")).names [] (str "browse") = true ∧
      classPattern (str "browse") = true ∧
      PostgresGenerations.call Table.empty (.bump [] (str "browse")) =
        some Table.empty ∧
      MemoryGenerations.call MemoryGenerations.empty (.bump [] (str "browse")) =
        some MemoryGenerations.empty ∧
      Below (PostgresGenerations.get Table.empty [] (str "browse")) ∧
      Below (MemoryGenerations.get MemoryGenerations.empty [] (str "browse")) ∧
      ¬ PostgresGenerations.get Table.empty [] (str "browse") <
        PostgresGenerations.get Table.empty [] (str "browse") ∧
      ¬ MemoryGenerations.get MemoryGenerations.empty [] (str "browse") <
        MemoryGenerations.get MemoryGenerations.empty [] (str "browse") := by
  refine ⟨by decide, by decide, rfl, rfl, by decide +kernel, by decide +kernel, ?_, ?_⟩
  · exact lt_irrefl _
  · exact lt_irrefl _

end ReplxEdge.Cache
