import ReplxEdge.Sync.Collections

/-!
# What a scan stages

The statements of a scan write rows of one generation that nobody has published yet. When
the scan is complete, that generation is what the origin has, collection by collection and
member by member, and its content hashes tell different contents apart as far as their
texts do.
-/

namespace ReplxEdge.Collections

open Foundation

variable {position : Nat} {members : List CollectionMember} {s : CollectionSnapshot} {w v : World}
variable {P : Statement -> Prop} {library : GoString} {ratingKey : Text}

/-!
## Contents and their texts
-/

variable {a b : Text}

theorem Text.eq_of_bytes (h : a.bytes = b.bytes) : a = b := by
  cases a with
  | mk bytes valid =>
    cases b with
    | mk bytes' valid' =>
      cases h
      rfl

variable {label : GoString}

theorem field_inj {x y : GoString}
    (h : label ++ (quoteText a.bytes ++ x) = label ++ (quoteText b.bytes ++ y)) :
    a = b ∧ x = y := by
  rcases quoteText_append_inj a.valid b.valid (List.append_cancel_left h) with ⟨hbytes, hrest⟩
  exact ⟨Text.eq_of_bytes hbytes, hrest⟩

theorem marshalBool_inj : forall a b, marshalBool a = marshalBool b -> a = b := by
  decide

theorem CollectionMetadata.marshal_inj {a b : CollectionMetadata}
    (h : a.marshal = b.marshal) : a = b := by
  unfold CollectionMetadata.marshal at h
  rcases field_inj h with ⟨hkey, h⟩
  rcases field_inj h with ⟨htitle, h⟩
  rcases field_inj h with ⟨htitleSort, h⟩
  rcases field_inj h with ⟨hsummary, h⟩
  rcases field_inj h with ⟨hthumb, h⟩
  rcases field_inj h with ⟨hart, h⟩
  have hsmart := marshalBool_inj _ _ (List.append_cancel_right (List.append_cancel_left h))
  cases a
  cases b
  rw [CollectionMetadata.mk.injEq]
  exact ⟨hkey, htitle, htitleSort, hsummary, hthumb, hart, hsmart⟩

theorem CollectionMember.marshal_inj {a b : CollectionMember} (h : a.marshal = b.marshal) :
    a = b := by
  unfold CollectionMember.marshal at h
  rcases field_inj h with ⟨hratingKey, h⟩
  rcases field_inj h with ⟨hitemType, h⟩
  rcases field_inj h with ⟨htitle, h⟩
  rcases field_inj h with ⟨hthumb, h⟩
  rcases field_inj h with ⟨hart, _⟩
  cases a
  cases b
  rw [CollectionMember.mk.injEq]
  exact ⟨hratingKey, hitemType, htitle, hthumb, hart⟩

theorem newline_not_mem_field {rest : GoString}
    (hlabel : (10 : UInt8) ∉ label) (hrest : (10 : UInt8) ∉ rest) :
    (10 : UInt8) ∉ label ++ (quoteText a.bytes ++ rest) := by
  rw [List.mem_append, List.mem_append, not_or, not_or]
  exact ⟨hlabel, newline_not_mem_quoteText a.valid, hrest⟩

theorem CollectionMetadata.newline_not_mem_marshal (m : CollectionMetadata) :
    (10 : UInt8) ∉ m.marshal := by
  have hflag : (10 : UInt8) ∉ str ",\"smart\":" ++ (marshalBool m.smart ++ str "\x7d") := by
    cases m.smart with
    | false | true => decide
  exact newline_not_mem_field (by decide) (newline_not_mem_field (by decide)
    (newline_not_mem_field (by decide) (newline_not_mem_field (by decide)
      (newline_not_mem_field (by decide) (newline_not_mem_field (by decide) hflag)))))

theorem CollectionMember.newline_not_mem_marshal (m : CollectionMember) :
    (10 : UInt8) ∉ m.marshal :=
  newline_not_mem_field (by decide) (newline_not_mem_field (by decide)
    (newline_not_mem_field (by decide) (newline_not_mem_field (by decide)
      (newline_not_mem_field (by decide) (by decide)))))

theorem lines_inj {xs ys : List GoString} (hx : forall x, x ∈ xs -> (10 : UInt8) ∉ x)
    (hy : forall y, y ∈ ys -> (10 : UInt8) ∉ y)
    (h : (xs.flatMap fun line => line ++ [10]) = ys.flatMap fun line => line ++ [10]) :
    xs = ys := by
  induction xs generalizing ys with
  | nil =>
    cases ys with
    | nil => rfl
    | cons y ys => simp at h
  | cons x xs ih =>
    cases ys with
    | nil => simp at h
    | cons y ys =>
      simp only [List.flatMap_cons, List.append_assoc, List.cons_append, List.nil_append] at h
      rcases append_separator_inj (hx x List.mem_cons_self) (hy y List.mem_cons_self) h with
        ⟨hline, hrest⟩
      rw [hline, ih (fun line hmem => hx line (List.mem_cons_of_mem x hmem))
        (fun line hmem => hy line (List.mem_cons_of_mem y hmem)) hrest]

theorem contentText_inj {a b : CollectionMetadata} {xs ys : List CollectionMember}
    (h : contentText a xs = contentText b ys) : a = b ∧ xs = ys := by
  have hlines : forall (m : CollectionMetadata) (members : List CollectionMember),
      forall line, line ∈ m.marshal :: members.map CollectionMember.marshal ->
        (10 : UInt8) ∉ line := by
    intro m members line hmem
    rcases List.mem_cons.mp hmem with hfirst | hrest
    · rw [hfirst]
      exact m.newline_not_mem_marshal
    rcases List.mem_map.mp hrest with ⟨member, _, hmarshal⟩
    rw [← hmarshal]
    exact member.newline_not_mem_marshal
  rcases List.cons.inj (lines_inj (hlines a xs) (hlines b ys) h) with ⟨hfirst, hrest⟩
  exact ⟨CollectionMetadata.marshal_inj hfirst,
    (List.map_injective_iff.mpr fun _ _ => CollectionMember.marshal_inj) hrest⟩

/-!
## Complete snapshots
-/

def numbered : Nat -> List CollectionMember -> List (Nat × MemberRow)
  | _, [] => []
  | position, m :: rest => (position, m.row) :: numbered (position + 1) rest

theorem numbered_concat (position : Nat) (members : List CollectionMember) (m : CollectionMember) :
    numbered position (members ++ [m]) =
      numbered position members ++ [(position + members.length, m.row)] := by
  induction members generalizing position with
  | nil => rfl
  | cons first rest ih =>
    rw [List.cons_append, numbered, ih, numbered, List.length_cons, List.cons_append,
      Nat.add_right_comm, Nat.add_assoc]

theorem le_of_mem_numbered {entry : Nat × MemberRow} (h : entry ∈ numbered position members) :
    position ≤ entry.1 := by
  induction members generalizing position with
  | nil => cases h
  | cons first rest ih =>
    rcases List.mem_cons.mp h with hfirst | hrest
    · rw [hfirst]
    · exact Nat.le_of_succ_le (ih hrest)

theorem pairwise_numbered (position : Nat) (members : List CollectionMember) :
    (numbered position members).Pairwise fun a b => a.1 ≤ b.1 := by
  induction members generalizing position with
  | nil => exact List.Pairwise.nil
  | cons first rest ih =>
    refine List.Pairwise.cons ?_ (ih (position + 1))
    intro entry hentry
    exact Nat.le_of_succ_le (le_of_mem_numbered hentry)

theorem numbered_rows (position : Nat) (members : List CollectionMember) :
    (numbered position members).map Prod.snd = members.map CollectionMember.row := by
  induction members generalizing position with
  | nil => rfl
  | cons first rest ih =>
    rw [numbered, List.map_cons, List.map_cons, ih]

structure CollectionSnapshot.Whole (s : CollectionSnapshot)
    (members : List CollectionMember) : Prop where
  completed : s.completed = true
  hash : s.contentHash = some (Collections.contentHash s.metadata members)
  members : s.members = numbered 0 members

theorem CollectionSnapshot.Whole.ordered (h : s.Whole members) :
    s.ordered = members.map CollectionMember.row := by
  unfold CollectionSnapshot.ordered
  rw [h.members, (pairwise_numbered 0 members).insertionSort_eq, numbered_rows]

def Scanned.snapshot (x : Scanned) : CollectionSnapshot where
  metadata := x.metadata
  completed := true
  contentHash := some (contentHash x.metadata x.members)
  members := numbered 0 x.members

theorem Scanned.whole (x : Scanned) : x.snapshot.Whole x.members :=
  ⟨rfl, rfl, rfl⟩

def Scanned.published (x : Scanned) : Published :=
  ⟨x.metadata.columns, x.members.map CollectionMember.row⟩

/-!
## Scripts that run to their end
-/

namespace Script

variable {alpha beta : Type}

def Runs (x : Script alpha) (w v : World) (a : alpha) : Prop :=
  x.result = some a ∧ run World.apply w x.statements = some v

theorem runs_pure {a b : alpha} (h : (pure a : Script alpha).Runs w v b) :
    b = a ∧ v = w := by
  rcases h with ⟨hresult, hrun⟩
  cases hresult
  cases hrun
  exact ⟨rfl, rfl⟩

theorem runs_stop {a : alpha} (h : (stop : Script alpha).Runs w v a) : False := by
  cases h.left

theorem runs_emit {s : Statement} {u : Unit} (h : (emit s).Runs w v u) :
    w.apply s = some v := by
  rcases run_cons h.right with ⟨next, happly, hrun⟩
  cases hrun
  exact happly

theorem runs_bind {x : Script alpha} {next : alpha -> Script beta} {b : beta}
    (h : (x >>= next).Runs w v b) :
    exists a u, x.Runs w u a ∧ (next a).Runs u v b := by
  have hthen : (x.andThen next).Runs w v b := h
  unfold andThen at hthen
  cases hresult : x.result with
  | none =>
    rw [hresult] at hthen
    cases hthen.left
  | some a =>
    rw [hresult] at hthen
    have hrun := hthen.right
    simp only [run_append] at hrun
    rcases Option.bind_eq_some_iff.mp hrun with ⟨u, hfirst, hrest⟩
    exact ⟨a, u, ⟨hresult, hfirst⟩, hthen.left, hrest⟩

theorem forall_bind {x : Script alpha} {next : alpha -> Script beta}
    (hx : forall s, s ∈ x.statements -> P s)
    (hnext : forall a, forall s, s ∈ (next a).statements -> P s) :
    forall s, s ∈ (x >>= next).statements -> P s := by
  intro s hs
  have hmem : s ∈ (x.andThen next).statements := hs
  unfold andThen at hmem
  cases hresult : x.result with
  | none =>
    rw [hresult] at hmem
    exact hx s hmem
  | some a =>
    rw [hresult] at hmem
    rcases List.mem_append.mp hmem with hfirst | hrest
    · exact hx s hfirst
    · exact hnext a s hrest

theorem forall_emit {s : Statement} (h : P s) :
    forall t, t ∈ (emit s).statements -> P t := by
  intro t ht
  rw [List.mem_singleton.mp ht]
  exact h

theorem forall_pure {a : alpha} :
    forall t, t ∈ (pure a : Script alpha).statements -> P t := by
  intro t ht
  cases ht

theorem forall_stop :
    forall t, t ∈ (stop : Script alpha).statements -> P t := by
  intro t ht
  cases ht

end Script

/-!
## Statements that stage
-/

section Staging

variable {gen : Nat} {key : GoString × Text} {row : CollectionRow} {s : CollectionSnapshot}

def Stages (library : GoString) (gen : Nat) : Statement -> Prop
  | .insertCollection _ other _ _ => other = library
  | .insertSnapshot other _ number _ => other = library ∧ number = gen
  | .insertMember other _ number _ _ => other = library ∧ number = gen
  | .completeSnapshot other _ number _ => other = library ∧ number = gen
  | _ => False

structure Restaged (gen : Nat) (old row : CollectionRow) : Prop where
  serverID : row.serverID = old.serverID
  columns : row.columns = old.columns
  catalogGeneration : row.catalogGeneration = old.catalogGeneration
  publishedGeneration : row.publishedGeneration = old.publishedGeneration
  snapshots : forall other, other ≠ gen ->
    row.snapshots.lookup other = old.snapshots.lookup other

structure Unpublished (gen : Nat) (row : CollectionRow) : Prop where
  catalogGeneration : row.catalogGeneration = 0
  publishedGeneration : row.publishedGeneration = none
  snapshots : forall other, other ≠ gen -> row.snapshots.lookup other = none

inductive RowStaged (gen : Nat) (home : Prop) :
    Option CollectionRow -> Option CollectionRow -> Prop where
  | absent : RowStaged gen home none none
  | kept {old row : CollectionRow} (h : Restaged gen old row) :
      RowStaged gen home (some old) (some row)
  | inserted {row : CollectionRow} (h : Unpublished gen row) (hhome : home) :
      RowStaged gen home none (some row)

structure Staged (gen : Nat) (start w : World) : Prop where
  known : w.known = start.known
  journal : w.journal = start.journal
  libraries : w.db.libraries = start.db.libraries
  syncs : w.db.syncs = start.db.syncs
  sequence : w.db.sequence = start.db.sequence
  rows : forall key, RowStaged gen (key.1 ∈ start.db.libraries)
    (start.db.collections.lookup key) (w.db.collections.lookup key)

theorem Restaged.refl (gen : Nat) (row : CollectionRow) : Restaged gen row row :=
  ⟨rfl, rfl, rfl, rfl, fun _ _ => rfl⟩

theorem Staged.refl (gen : Nat) (w : World) : Staged gen w w := by
  refine ⟨rfl, rfl, rfl, rfl, rfl, ?_⟩
  intro key
  cases w.db.collections.lookup key with
  | none => exact .absent
  | some row => exact .kept (Restaged.refl gen row)

variable {start : World}

theorem Staged.setSnapshot (h : Staged gen start w)
    (hrow : w.db.collections.lookup key = some row) :
    Staged gen start (w.store (w.db.setSnapshot key row gen s)) := by
  refine ⟨h.known, h.journal, h.libraries, h.syncs, h.sequence, ?_⟩
  intro other
  have hother := h.rows other
  show RowStaged gen _ _ ((w.db.collections.set key _).lookup other)
  rw [Table.lookup_set]
  split
  · rename_i hkey
    rw [hkey, hrow] at hother
    rw [hkey]
    have hset : forall number, number ≠ gen ->
        (row.snapshots.set gen s).lookup number = row.snapshots.lookup number := by
      intro number hnumber
      rw [Table.lookup_set, if_neg hnumber]
    cases hstart : start.db.collections.lookup key with
    | none =>
      rw [hstart] at hother
      cases hother with
      | inserted hnew hhome =>
        exact .inserted ⟨hnew.catalogGeneration, hnew.publishedGeneration,
          fun number hnumber => (hset number hnumber).trans (hnew.snapshots number hnumber)⟩ hhome
    | some old =>
      rw [hstart] at hother
      cases hother with
      | kept hkept =>
        exact .kept ⟨hkept.serverID, hkept.columns, hkept.catalogGeneration,
          hkept.publishedGeneration, fun number hnumber => (hset number hnumber).trans
            (hkept.snapshots number hnumber)⟩
  · exact hother

/-!
### What the statements do
-/

theorem apply_insertCollection {server : GoString} {title : Text}
    (h : w.apply (.insertCollection server library ratingKey title) = some v) :
    v = w ∨ (w.db.collections.lookup (library, ratingKey) = none ∧ library ∈ w.db.libraries ∧
      v = w.store { w.db with
        collections := w.db.collections.set (library, ratingKey)
          (Database.newCollection server title) }) := by
  rcases Option.map_eq_some_iff.mp h with ⟨db, hdb, rfl⟩
  unfold Database.insertCollection at hdb
  split at hdb
  · cases hdb
    exact Or.inl rfl
  rename_i hfree
  split at hdb
  · cases hdb
  rename_i hhome
  cases hdb
  exact Or.inr ⟨by simpa using hfree, by simpa using hhome, rfl⟩

theorem apply_insertSnapshot {metadata : CollectionMetadata}
    (h : w.apply (.insertSnapshot library ratingKey gen metadata) = some v) :
    exists row, w.db.collections.lookup (library, ratingKey) = some row ∧
      row.snapshots.lookup gen = none ∧ v = w.store (w.db.setSnapshot (library, ratingKey) row gen
        ⟨metadata, false, none, []⟩) := by
  rcases Option.map_eq_some_iff.mp h with ⟨db, hdb, rfl⟩
  unfold Database.insertSnapshot at hdb
  split at hdb
  · cases hdb
  rename_i row hrow
  split at hdb
  · cases hdb
  rename_i hfree
  cases hdb
  exact ⟨row, hrow, by simpa using hfree, rfl⟩

theorem apply_insertMember {m : CollectionMember}
    (h : w.apply (.insertMember library ratingKey gen position m) = some v) :
    exists row s, w.db.collections.lookup (library, ratingKey) = some row ∧
      row.snapshots.lookup gen = some s ∧ v = w.store (w.db.setSnapshot (library, ratingKey) row gen
        { s with members := s.members ++ [(position, m.row)] }) := by
  rcases Option.map_eq_some_iff.mp h with ⟨db, hdb, rfl⟩
  unfold Database.insertMember at hdb
  split at hdb
  · cases hdb
  rename_i row hrow
  split at hdb
  · cases hdb
  rename_i s hs
  split at hdb
  · cases hdb
  cases hdb
  exact ⟨row, s, hrow, hs, rfl⟩

theorem apply_completeSnapshot {hash : GoString}
    (h : w.apply (.completeSnapshot library ratingKey gen hash) = some v) :
    (v = w ∧ (w.db.collections.lookup (library, ratingKey)).bind
        (fun row => row.snapshots.lookup gen) = none) ∨
      exists row s, w.db.collections.lookup (library, ratingKey) = some row ∧
        row.snapshots.lookup gen = some s ∧
        v = w.store (w.db.setSnapshot (library, ratingKey) row gen
          { s with completed := true, contentHash := some hash }) := by
  have hv := Option.some.inj h
  unfold Database.completeSnapshot at hv
  split at hv
  · rename_i hrow
    rw [hrow]
    exact Or.inl ⟨hv.symm, rfl⟩
  rename_i row hrow
  split at hv
  · rename_i hs
    rw [hrow]
    exact Or.inl ⟨hv.symm, hs⟩
  rename_i s hs
  exact Or.inr ⟨row, s, hrow, hs, hv.symm⟩

theorem Staged.apply {st : Statement} (h : Staged gen start w) (hstages : Stages library gen st)
    (happly : w.apply st = some v) : Staged gen start v := by
  cases st with
  | insertCollection server other ratingKey title =>
    rcases apply_insertCollection happly with hsame | ⟨hfree, hhome, hv⟩
    · rw [hsame]
      exact h
    rw [hv]
    refine ⟨h.known, h.journal, h.libraries, h.syncs, h.sequence, ?_⟩
    intro key
    have hkey := h.rows key
    show RowStaged gen _ _ ((w.db.collections.set _ _).lookup key)
    rw [Table.lookup_set]
    split
    · rename_i hsame
      rw [hsame, hfree] at hkey
      rw [hsame]
      cases hstart : start.db.collections.lookup (other, ratingKey) with
      | none => exact .inserted ⟨rfl, rfl, fun _ _ => rfl⟩ (h.libraries ▸ hhome)
      | some old =>
        rw [hstart] at hkey
        cases hkey
    · exact hkey
  | insertSnapshot other ratingKey number metadata =>
    rcases hstages with ⟨_, rfl⟩
    rcases apply_insertSnapshot happly with ⟨row, hrow, _, rfl⟩
    exact h.setSnapshot hrow
  | insertMember other ratingKey number position m =>
    rcases hstages with ⟨_, rfl⟩
    rcases apply_insertMember happly with ⟨row, s, hrow, _, rfl⟩
    exact h.setSnapshot hrow
  | completeSnapshot other ratingKey number hash =>
    rcases hstages with ⟨_, rfl⟩
    rcases apply_completeSnapshot happly with ⟨rfl, _⟩ | ⟨row, s, hrow, _, rfl⟩
    · exact h
    · exact h.setSnapshot hrow
  | ensureSync | nextGeneration | publishCollections | publishOneCollection | invalidate
  | clearPending | pruneSnapshots => exact hstages.elim

theorem Staged.row_cases (h : Staged gen start w) (hrow : w.db.collections.lookup key = some row) :
    (exists old, start.db.collections.lookup key = some old ∧ Restaged gen old row) ∨
    (start.db.collections.lookup key = none ∧ Unpublished gen row ∧
        key.1 ∈ start.db.libraries) := by
  have hkey := h.rows key
  rw [hrow] at hkey
  cases hstart : start.db.collections.lookup key with
  | none =>
    rw [hstart] at hkey
    cases hkey with
    | inserted hnew hhome => exact Or.inr ⟨rfl, hnew, hhome⟩
  | some old =>
    rw [hstart] at hkey
    cases hkey with
    | kept hkept => exact Or.inl ⟨old, rfl, hkept⟩

theorem Staged.run {statements : List Statement}
    (h : Staged gen start w) (hstages : forall st, st ∈ statements -> Stages library gen st)
    (hrun : run World.apply w statements = some v) : Staged gen start v := by
  induction statements generalizing w with
  | nil =>
    cases hrun
    exact h
  | cons st rest ih =>
    rcases run_cons hrun with ⟨next, happly, hrest⟩
    exact ih (h.apply (hstages st List.mem_cons_self) happly)
      (fun other hother => hstages other (List.mem_cons_of_mem st hother)) hrest

end Staging

/-!
## Scans write one generation
-/

section Scans

variable (pageSize : Nat) (server library : GoString) (ratingKey : Text) (gen : Nat)

theorem stageMembers_stages (position : Nat) (seen : List Text) (items : List CollectionMember) :
    forall s, s ∈ (stageMembers library ratingKey gen position seen items).statements ->
      Stages library gen s := by
  induction items generalizing position seen with
  | nil => exact Script.forall_pure
  | cons m rest ih =>
    unfold stageMembers
    split
    · exact Script.forall_stop
    exact Script.forall_bind (Script.forall_emit ⟨rfl, rfl⟩)
      fun _ => ih (position + 1) (m.ratingKey :: seen)

theorem scanMembers_stages (pages start : Nat) (expectedTotal : Int) (seen : List Text)
    (responses : List (Option (Page CollectionMember))) :
    forall s, s ∈ (scanMembers pageSize library ratingKey gen pages start expectedTotal seen
      responses).statements -> Stages library gen s := by
  induction responses generalizing pages start expectedTotal seen with
  | nil => exact Script.forall_stop
  | cons response rest ih =>
    cases response with
    | none => exact Script.forall_stop
    | some p =>
      unfold scanMembers
      split
      · exact Script.forall_stop
      split
      · exact Script.forall_stop
      rename_i done total _
      refine Script.forall_bind (stageMembers_stages library ratingKey gen start seen
        p.items) ?_
      intro nowSeen
      cases done with
      | true => exact Script.forall_pure
      | false =>
        exact Script.forall_bind (ih (pages + 1) (start + p.items.length) total
          nowSeen) fun _ => Script.forall_pure

theorem stageCollection_stages (children : List (Option (Page CollectionMember)))
    (c : CollectionJSON) :
    forall s, s ∈ (stageCollection pageSize server library gen children c).statements ->
      Stages library gen s := by
  unfold stageCollection
  split
  · exact Script.forall_stop
  refine Script.forall_bind (Script.forall_emit rfl) fun _ => ?_
  refine Script.forall_bind (Script.forall_emit ⟨rfl, rfl⟩) fun _ => ?_
  refine Script.forall_bind (scanMembers_stages pageSize library c.ratingKey gen 0 0 (-1) []
    children) fun _ => ?_
  exact Script.forall_bind (Script.forall_emit ⟨rfl, rfl⟩) fun _ => Script.forall_pure

theorem stageCollections_stages (origin : Origin) (scanned : List Scanned)
    (items : List CollectionJSON) :
    forall s, s ∈ (stageCollections pageSize server library gen origin scanned
      items).statements -> Stages library gen s := by
  induction items generalizing scanned with
  | nil => exact Script.forall_pure
  | cons c rest ih =>
    unfold stageCollections
    split
    · exact Script.forall_stop
    exact Script.forall_bind (stageCollection_stages pageSize server library gen _ c)
      fun x => ih (scanned ++ [x])

theorem scanCatalog_stages (origin : Origin) (pages start : Nat) (expectedTotal : Int)
    (scanned : List Scanned) (responses : List (Option (Page CollectionJSON))) :
    forall s, s ∈ (scanCatalog pageSize server library gen origin pages start expectedTotal
      scanned responses).statements -> Stages library gen s := by
  induction responses generalizing pages start expectedTotal scanned with
  | nil => exact Script.forall_stop
  | cons response rest ih =>
    cases response with
    | none => exact Script.forall_stop
    | some p =>
      unfold scanCatalog
      split
      · exact Script.forall_stop
      split
      · exact Script.forall_stop
      rename_i done total _
      refine Script.forall_bind (stageCollections_stages pageSize server library gen
        origin scanned p.items) ?_
      intro more
      cases done with
      | true => exact Script.forall_pure
      | false => exact ih (pages + 1) (start + p.items.length) total more

end Scans

/-!
## A complete scan stages what it has read
-/

def Database.staged (db : Database) (gen : Nat) (key : GoString × Text) :
    Option CollectionSnapshot :=
  (db.collections.lookup key).bind fun row => row.snapshots.lookup gen

structure Wrote (gen : Nat) (key : GoString × Text) (s : CollectionSnapshot)
    (w v : World) : Prop where
  here : v.db.staged gen key = some s
  others : forall other, other ≠ key -> v.db.staged gen other = w.db.staged gen other

section Contents

variable {pageSize : Nat} {server library : GoString} {ratingKey : Text} {gen : Nat}
variable {w v : World}

variable {t : CollectionSnapshot}

theorem Wrote.trans {key : GoString × Text} {u : World}
    (h : Wrote gen key s w u) (hnext : Wrote gen key t u v) : Wrote gen key t w v :=
  ⟨hnext.here, fun other hother => (hnext.others other hother).trans (h.others other hother)⟩

theorem wrote_setSnapshot (w : World) (gen : Nat) (key : GoString × Text)
    (row : CollectionRow) (s : CollectionSnapshot) :
    Wrote gen key s w (w.store (w.db.setSnapshot key row gen s)) := by
  have hrow : forall other, (w.store (w.db.setSnapshot key row gen s)).db.collections.lookup
      other = if other = key then some { row with snapshots := row.snapshots.set gen s }
        else w.db.collections.lookup other := fun other => Table.lookup_set _ _ _ _
  constructor
  · unfold Database.staged
    rw [hrow key, if_pos rfl]
    show (row.snapshots.set gen s).lookup gen = some s
    rw [Table.lookup_set, if_pos rfl]
  intro other hother
  unfold Database.staged
  rw [hrow other, if_neg hother]

theorem staged_of_row {key : GoString × Text} {row : CollectionRow}
    (hs : w.db.staged gen key = some s) (hrow : w.db.collections.lookup key = some row)
    (ht : row.snapshots.lookup gen = some t) : t = s := by
  unfold Database.staged at hs
  rw [hrow] at hs
  exact Option.some.inj (ht.symm.trans hs)

variable {seen : List Text}

theorem stageMembers_runs {nowSeen : List Text} {items before : List CollectionMember}
    (hruns : (stageMembers library ratingKey gen position seen items).Runs w v nowSeen)
    (hs : w.db.staged gen (library, ratingKey) = some s)
    (hmembers : s.members = numbered 0 before) (hposition : position = before.length) :
    Wrote gen (library, ratingKey) { s with members := numbered 0 (before ++ items) } w v := by
  induction items generalizing position seen w s before with
  | nil =>
    rcases Script.runs_pure hruns with ⟨_, rfl⟩
    rw [List.append_nil, ← hmembers]
    exact ⟨hs, fun _ _ => rfl⟩
  | cons m rest ih =>
    unfold stageMembers at hruns
    split at hruns
    · exact (Script.runs_stop hruns).elim
    rcases Script.runs_bind hruns with ⟨_, u, hemit, hrest⟩
    rcases apply_insertMember (Script.runs_emit hemit) with ⟨row, found, hrow, hfound, rfl⟩
    cases staged_of_row hs hrow hfound
    have hwrote := wrote_setSnapshot w gen (library, ratingKey) row
      { s with members := s.members ++ [(position, m.row)] }
    have hnext : s.members ++ [(position, m.row)] = numbered 0 (before ++ [m]) := by
      rw [numbered_concat, hmembers, hposition, Nat.zero_add]
    have hlater := ih hrest hwrote.here hnext (by simp [hposition])
    rw [List.append_assoc] at hlater
    exact hwrote.trans hlater

variable {pages : Nat} {expectedTotal : Int}

theorem scanMembers_runs {start : Nat}
    {responses : List (Option (Page CollectionMember))} {found : List CollectionMember}
    (before : List CollectionMember)
    (hruns : (scanMembers pageSize library ratingKey gen pages start expectedTotal seen
      responses).Runs w v found) (hs : w.db.staged gen (library, ratingKey) = some s)
    (hmembers : s.members = numbered 0 before) (hstart : start = before.length) :
    Wrote gen (library, ratingKey) { s with members := numbered 0 (before ++ found) } w v := by
  induction responses generalizing pages start expectedTotal seen w s before found with
  | nil => exact (Script.runs_stop hruns).elim
  | cons response rest ih =>
    cases response with
    | none => exact (Script.runs_stop hruns).elim
    | some p =>
      unfold scanMembers at hruns
      split at hruns
      · exact (Script.runs_stop hruns).elim
      split at hruns
      · exact (Script.runs_stop hruns).elim
      rename_i done total _
      rcases Script.runs_bind hruns with ⟨nowSeen, u, hpage, hafter⟩
      have hwrote := stageMembers_runs hpage hs hmembers hstart
      cases done with
      | true =>
        rcases Script.runs_pure hafter with ⟨rfl, rfl⟩
        exact hwrote
      | false =>
        rcases Script.runs_bind hafter with ⟨more, u', hmore, hpure⟩
        rcases Script.runs_pure hpure with ⟨rfl, rfl⟩
        have hlater := ih (before ++ p.items) hmore hwrote.here rfl
          (by simp [hstart])
        rw [List.append_assoc] at hlater
        exact hwrote.trans hlater

theorem stageCollection_runs {children : List (Option (Page CollectionMember))}
    {c : CollectionJSON} {x : Scanned}
    (hruns : (stageCollection pageSize server library gen children c).Runs w v x) :
    x.ratingKey = c.ratingKey ∧ collectionDisplayMetadata c = some x.metadata ∧
      Wrote gen (library, c.ratingKey) x.snapshot w v := by
  unfold stageCollection at hruns
  split at hruns
  · exact (Script.runs_stop hruns).elim
  rename_i metadata hmetadata
  rcases Script.runs_bind hruns with ⟨_, u1, hrow, hruns⟩
  rcases Script.runs_bind hruns with ⟨_, u2, hsnapshot, hruns⟩
  rcases Script.runs_bind hruns with ⟨members, u3, hmembers, hruns⟩
  rcases Script.runs_bind hruns with ⟨_, u4, hcomplete, hpure⟩
  rcases Script.runs_pure hpure with ⟨rfl, rfl⟩
  -- a new row has no snapshots
  have hsame : forall key, u1.db.staged gen key = w.db.staged gen key := by
    intro key
    rcases apply_insertCollection (Script.runs_emit hrow) with rfl | ⟨hfree, _, rfl⟩
    · rfl
    unfold Database.staged
    show ((w.db.collections.set _ _).lookup key).bind _ = _
    rw [Table.lookup_set]
    split
    · rename_i hkey
      rw [hkey, hfree]
      rfl
    · rfl
  rcases apply_insertSnapshot (Script.runs_emit hsnapshot) with ⟨row, _, _, rfl⟩
  have hinserted := wrote_setSnapshot u1 gen (library, c.ratingKey) row
    ⟨metadata, false, none, []⟩
  have hscanned := hinserted.trans (scanMembers_runs [] hmembers hinserted.here rfl rfl)
  refine ⟨rfl, hmetadata, ?_⟩
  rcases apply_completeSnapshot (Script.runs_emit hcomplete) with ⟨_, hnone⟩ |
    ⟨row', s, hrow', hs, rfl⟩
  · have hthere := hscanned.here
    unfold Database.staged at hthere
    rw [hnone] at hthere
    cases hthere
  cases staged_of_row hscanned.here hrow' hs
  have hcompleted := hscanned.trans (wrote_setSnapshot u3 gen (library, c.ratingKey) row'
    (Scanned.snapshot ⟨c.ratingKey, metadata, members⟩))
  exact ⟨hcompleted.here, fun other hother =>
    (hcompleted.others other hother).trans (hsame other)⟩

def Catalogued (library : GoString) (gen : Nat) (scanned : List Scanned) (w : World) : Prop :=
  forall key, w.db.staged gen key =
    if key.1 = library then
      (scanned.find? fun x => decide (x.ratingKey = key.2)).map Scanned.snapshot
    else none

variable {origin : Origin} {scanned found : List Scanned}

theorem stageCollections_runs {items : List CollectionJSON}
    (hruns : (stageCollections pageSize server library gen origin scanned items).Runs w v found)
    (h : Catalogued library gen scanned w) : Catalogued library gen found v := by
  induction items generalizing scanned w with
  | nil =>
    rcases Script.runs_pure hruns with ⟨rfl, rfl⟩
    exact h
  | cons c rest ih =>
    unfold stageCollections at hruns
    split at hruns
    · exact (Script.runs_stop hruns).elim
    rename_i hseen
    rw [not_or] at hseen
    rcases Script.runs_bind hruns with ⟨x, u, hcollection, hrest⟩
    rcases stageCollection_runs hcollection with ⟨hkey, _, hwrote⟩
    refine ih hrest ?_
    intro key
    rw [List.find?_append]
    by_cases hsame : key = (library, c.ratingKey)
    · have hnone : scanned.find? (fun y => decide (y.ratingKey = key.2)) = none := by
        rw [List.find?_eq_none]
        intro y hy heq
        rw [decide_eq_true_eq] at heq
        refine hseen.right (List.mem_map.mpr ⟨y, hy, ?_⟩)
        rw [heq, hsame]
      rw [hnone, hsame, hwrote.here, if_pos rfl]
      simp [hkey]
    rw [hwrote.others key hsame, h key]
    split
    · rename_i hlibrary
      have hother : x.ratingKey ≠ key.2 := by
        intro heq
        apply hsame
        rw [← hlibrary, ← hkey, heq]
      simp [hother]
    · rfl

theorem scanCatalog_runs {start : Nat} {responses : List (Option (Page CollectionJSON))}
    (hruns : (scanCatalog pageSize server library gen origin pages start expectedTotal scanned
      responses).Runs w v found)
    (h : Catalogued library gen scanned w) : Catalogued library gen found v := by
  induction responses generalizing pages start expectedTotal scanned w with
  | nil => exact (Script.runs_stop hruns).elim
  | cons response rest ih =>
    cases response with
    | none => exact (Script.runs_stop hruns).elim
    | some p =>
      unfold scanCatalog at hruns
      split at hruns
      · exact (Script.runs_stop hruns).elim
      split at hruns
      · exact (Script.runs_stop hruns).elim
      rename_i done total _
      rcases Script.runs_bind hruns with ⟨more, u, hpage, hafter⟩
      have hmore := stageCollections_runs hpage h
      cases done with
      | true =>
        rcases Script.runs_pure hafter with ⟨rfl, rfl⟩
        exact hmore
      | false => exact ih hafter hmore

end Contents

end ReplxEdge.Collections
