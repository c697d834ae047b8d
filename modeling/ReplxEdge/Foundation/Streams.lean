import Mathlib.Data.List.Basic

/-!
# Copying a stream

A reader that delivers chunks until it ends or fails, a writer that takes items
until it fails, and the loop that copies one into the other while it keeps what was
written. A copy of bounded length leaves the rest of the reader for the next one.
-/

namespace ReplxEdge.Foundation

variable {limit : Option Nat}

variable {item : Type}

def clip (limit : Option Nat) (items : List item) : List item :=
  match limit with
  | none => items
  | some k => items.take k

@[simp] theorem clip_nil (limit : Option Nat) : clip limit ([] : List item) = [] := by
  cases limit with
  | none => rfl
  | some k => exact List.take_nil

theorem clip_append (limit : Option Nat) (a b : List item) :
    clip limit (a ++ b) = clip limit a ++ clip (limit.map (· - a.length)) b := by
  cases limit with
  | none => rfl
  | some k => exact List.take_append

theorem length_clip_le (limit : Option Nat) (items : List item) :
    (clip limit items).length ≤ items.length := by
  cases limit with
  | none => exact Nat.le_refl _
  | some k => exact List.length_take_le' _ _

theorem clip_of_le {items : List item}
    (h : forall k, limit = some k -> items.length ≤ k) : clip limit items = items := by
  cases limit with
  | none => rfl
  | some k => exact List.take_of_length_le (h k rfl)

/-!
## Writers
-/

/-- What a writer received and how much it still takes, `none` for a writer that does
not fail. The write that passes the limit fails; an eager writer fails already when it
is full. -/
structure Sink (item : Type) where
  received : List item
  room : Option Nat
  eager : Bool

namespace Sink

/-- The writer takes the items without an error. Nothing is not written at all. -/
def takes (s : Sink item) (items : List item) : Bool :=
  match s.room with
  | none => true
  | some k =>
    items.isEmpty || decide (items.length < k) || (items.length == k && !s.eager)

/-- The writer after a write: it keeps what it has room for, also when it fails. -/
def write (s : Sink item) (items : List item) : Sink item :=
  { s with
    received := s.received ++ clip s.room items
    room := s.room.map (· - items.length) }

@[simp] theorem write_nil (s : Sink item) : s.write [] = s := by
  cases s with
  | mk received room eager =>
    cases room with
    | none | some =>
      simp [write]

theorem write_append (s : Sink item) (a b : List item) :
    s.write (a ++ b) = (s.write a).write b := by
  unfold write
  simp only [clip_append, List.append_assoc, Option.map_map, List.length_append, Sink.mk.injEq,
    true_and, and_true]
  congr 1
  funext k
  exact Nat.sub_add_eq k a.length b.length

theorem takes_append (s : Sink item) (a b : List item) :
    s.takes (a ++ b) = (s.takes a && (s.write a).takes b) := by
  cases hroom : s.room with
  | none =>
    simp [takes, write, hroom]
  | some k =>
    cases a with
    | nil =>
      simp [takes, hroom]
    | cons x a =>
      rw [Bool.eq_iff_iff]
      cases b with
      | nil =>
        simp [takes, write, hroom]
      | cons y b =>
        cases heager : s.eager with
        | true | false =>
          simp [takes, write, hroom, heager]
          omega

theorem write_of_not_takes {s : Sink item} {items : List item} (h : s.takes items = false)
    (more : List item) : (s.write items).write more = s.write items := by
  cases hroom : s.room with
  | none =>
    simp [takes, hroom] at h
  | some k =>
    have hfull : k - items.length = 0 := by
      simp [takes, hroom] at h
      omega
    simp [write, hroom, hfull, clip]

theorem clip_room_of_not_takes {s : Sink item} {items : List item}
    (h : s.takes items = false) (more : List item) :
    clip s.room (items ++ more) = clip s.room items := by
  cases hroom : s.room with
  | none =>
    simp [takes, hroom] at h
  | some k =>
    have hfull : k ≤ items.length := by
      simp [takes, hroom] at h
      omega
    exact List.take_append_of_le_length hfull

theorem clip_room_of_takes {s : Sink item} {items : List item} (h : s.takes items = true) :
    clip s.room items = items := by
  apply clip_of_le
  intro k hk
  simp [takes, hk] at h
  rcases h with (h | h) | h
  · simp [h]
  · omega
  · omega

end Sink

/-!
## Readers
-/

inductive Ending where
  | clean
  | failed
deriving DecidableEq

/-- What the reads deliver one after the other, and how reading ends. The end may be
reported together with the last chunk, and is reported again by every later read. -/
structure Feed (item : Type) where
  chunks : List (List item)
  ending : Ending
  joined : Bool

def Feed.items (f : Feed item) : List item :=
  f.chunks.flatten

/-!
## Copying
-/

inductive CopyError where
  | eof
  | read
  | write
deriving DecidableEq

def Ending.err : Ending -> Option CopyError
  | .clean => none
  | .failed => some .read

/-- The state of a copy when it stops. `kept` are the items that were written without
an error, `rest` is what the reader still has. -/
structure Copied (item : Type) where
  sink : Sink item
  kept : List item
  written : Nat
  err : Option CopyError
  rest : List (List item)

section Loop

variable (ending : Ending) (joined : Bool)

/-- Read up to the limit, write, and go on until a read or a write fails or the reader
ends. A chunk that the limit cuts stays with the reader. -/
def copyLoop : List (List item) -> Option Nat -> Sink item -> List item -> Nat -> Copied item
  | [], limit, s, kept, n =>
    ⟨s, kept, n, if limit = some 0 then none else ending.err, []⟩
  | chunk :: rest, limit, s, kept, n =>
    if limit = some 0 then ⟨s, kept, n, none, chunk :: rest⟩
    else
      let got := clip limit chunk
      let left := chunk.drop got.length
      if s.takes got then
        if left.isEmpty then
          if rest.isEmpty && joined then
            ⟨s.write got, kept ++ got, n + got.length, ending.err, []⟩
          else
            copyLoop rest (limit.map (· - got.length)) (s.write got) (kept ++ got)
              (n + got.length)
        else ⟨s.write got, kept ++ got, n + got.length, none, left :: rest⟩
      else
        ⟨s.write got, kept, n + (clip s.room got).length, some .write,
          if left.isEmpty then rest else left :: rest⟩

/-- What a copy does: the writer has received the items up to the limit as far as it
takes them; without an error of the writer they are all kept and the rest is left, and
a copy that does not reach its limit reports the end of the reader. -/
structure CopySpec (items : List item) (limit : Option Nat) (s : Sink item)
    (kept : List item) (n : Nat) (r : Copied item) : Prop where
  sink : r.sink = s.write (clip limit items)
  whole : s.takes (clip limit items) = true ->
    r.kept = kept ++ clip limit items ∧ r.written = n + (clip limit items).length ∧
      r.rest.flatten = items.drop (clip limit items).length
  ended : s.takes (clip limit items) = true ->
    (forall k, limit = some k -> items.length < k) -> r.err = ending.err
  broken : s.takes (clip limit items) = false ->
    r.err = some .write ∧ r.written = n + (clip s.room (clip limit items)).length

theorem drop_clip_eq_nil {chunk : List item}
    (h : (chunk.drop (clip limit chunk).length).isEmpty = true) :
    clip limit chunk = chunk := by
  cases limit with
  | none => rfl
  | some k =>
    rw [List.isEmpty_iff, List.drop_eq_nil_iff] at h
    unfold clip at h ⊢
    simp only [List.length_take] at h ⊢
    exact List.take_of_length_le (by omega)

theorem clip_of_cut {chunk : List item} (rest : List item)
    (h : (chunk.drop (clip limit chunk).length).isEmpty = false) :
    exists k, limit = some k ∧ k < chunk.length ∧ clip limit (chunk ++ rest) = chunk.take k := by
  cases limit with
  | none =>
    simp [clip] at h
  | some k =>
    have hcut : k < chunk.length := by
      rw [Bool.eq_false_iff, ne_eq, List.isEmpty_iff, List.drop_eq_nil_iff] at h
      simp only [clip, List.length_take] at h
      omega
    exact ⟨k, rfl, hcut, List.take_append_of_le_length (Nat.le_of_lt hcut)⟩

variable {n : Nat}

theorem CopySpec.of_not_takes {got more : List item} {items : List item} {s : Sink item}
    {kept : List item} {rest : List (List item)} (hclip : clip limit items = got ++ more)
    (h : s.takes got = false) :
    CopySpec ending items limit s kept n
      ⟨s.write got, kept, n + (clip s.room got).length, some .write, rest⟩ := by
  have hfails : s.takes (clip limit items) = false := by
    rw [hclip, Sink.takes_append, h, Bool.false_and]
  constructor
  · rw [hclip, Sink.write_append, Sink.write_of_not_takes h]
  · intro htakes
    rw [hfails] at htakes
    cases htakes
  · intro htakes
    rw [hfails] at htakes
    cases htakes
  intro _
  rw [hclip, Sink.clip_room_of_not_takes h]
  exact ⟨rfl, rfl⟩

/-- A chunk that is written whole goes in front of what the copy does next. -/
theorem CopySpec.cons {chunk items : List item} {s : Sink item}
    {kept : List item} {r : Copied item} (hclip : clip limit chunk = chunk)
    (htakes : s.takes chunk = true)
    (h : CopySpec ending items (limit.map (· - chunk.length)) (s.write chunk)
    (kept ++ chunk) (n + chunk.length) r) :
    CopySpec ending (chunk ++ items) limit s kept n r := by
  have happend : clip limit (chunk ++ items) =
      chunk ++ clip (limit.map (· - chunk.length)) items := by
    rw [clip_append, hclip]
  have hsplit : s.takes (clip limit (chunk ++ items)) =
      (s.write chunk).takes (clip (limit.map (· - chunk.length)) items) := by
    rw [happend, Sink.takes_append, htakes, Bool.true_and]
  constructor
  · rw [happend, Sink.write_append]
    exact h.sink
  · intro hall
    rw [hsplit] at hall
    rcases h.whole hall with ⟨hkept, hwritten, hrest⟩
    rw [happend]
    refine ⟨?_, ?_, ?_⟩
    · rw [hkept, List.append_assoc]
    · rw [hwritten, List.length_append, Nat.add_assoc]
    · rw [hrest, List.length_append, ← List.drop_drop, List.drop_left]
  · intro hall hlimit
    rw [hsplit] at hall
    apply h.ended hall
    intro k hk
    rcases Option.map_eq_some_iff.mp hk with ⟨bound, hbound, hk⟩
    have hlength := hlimit bound hbound
    rw [List.length_append] at hlength
    omega
  intro hfails
  rw [hsplit] at hfails
  rcases h.broken hfails with ⟨herr, hwritten⟩
  refine ⟨herr, ?_⟩
  rw [hwritten, happend, clip_append, Sink.clip_room_of_takes htakes, List.length_append,
    Nat.add_assoc]
  rfl

theorem CopySpec.stop {items : List item} {s : Sink item}
    {kept : List item} {err : Option CopyError} {rest : List (List item)}
    (hclip : clip limit items = []) (hrest : rest.flatten = items)
    (herr : (forall k, limit = some k -> items.length < k) -> err = ending.err) :
    CopySpec ending items limit s kept n ⟨s, kept, n, err, rest⟩ := by
  have htakes : s.takes [] = true := by
    unfold Sink.takes
    cases s.room with
    | none | some => rfl
  constructor
  · rw [hclip, Sink.write_nil]
  · intro _
    rw [hclip, List.append_nil]
    exact ⟨rfl, rfl, hrest⟩
  · intro _
    exact herr
  intro hfails
  rw [hclip, htakes] at hfails
  cases hfails

theorem copyLoop_spec (chunks : List (List item)) (limit : Option Nat) (s : Sink item)
    (kept : List item) (n : Nat) :
    CopySpec ending chunks.flatten limit s kept n
      (copyLoop ending joined chunks limit s kept n) := by
  induction chunks generalizing limit s kept n with
  | nil =>
    unfold copyLoop
    apply CopySpec.stop ending (clip_nil limit) rfl
    intro hlimit
    rw [if_neg]
    intro hzero
    exact absurd (hlimit 0 hzero) (Nat.lt_irrefl 0)
  | cons chunk rest ih =>
    unfold copyLoop
    split
    · rename_i hzero
      apply CopySpec.stop ending
      · rw [hzero]
        rfl
      · rfl
      intro hlimit
      exact absurd (hlimit 0 hzero) (Nat.not_lt_zero _)
    simp only
    split
    · rename_i htakes
      split
      · rename_i hempty
        have hclip := drop_clip_eq_nil hempty
        rw [hclip] at htakes ⊢
        split
        · rename_i hlast
          rw [Bool.and_eq_true, List.isEmpty_iff] at hlast
          apply CopySpec.cons ending hclip htakes
          rw [hlast.left]
          apply CopySpec.stop ending (clip_nil _) rfl
          intro _
          rfl
        · exact CopySpec.cons ending hclip htakes (ih _ _ _ _)
      rename_i hcut
      rcases clip_of_cut rest.flatten (Bool.eq_false_iff.mpr hcut) with
        ⟨k, rfl, hlength, hclip⟩
      have hfull : (chunk.take k).length = k := by
        rw [List.length_take]
        omega
      constructor
      · change s.write (chunk.take k) = _
        rw [List.flatten_cons, hclip]
      · intro _
        rw [List.flatten_cons, hclip]
        refine ⟨rfl, rfl, ?_⟩
        change chunk.drop (chunk.take k).length ++ rest.flatten = _
        rw [hfull, List.drop_append_of_le_length (Nat.le_of_lt hlength)]
      · intro _ hlimit
        have hshort := hlimit k rfl
        rw [List.flatten_cons, List.length_append] at hshort
        omega
      intro hfails
      rw [List.flatten_cons, hclip] at hfails
      exact absurd htakes (by
        change ¬ s.takes (chunk.take k) = true
        rw [hfails]
        exact Bool.false_ne_true)
    rename_i hfails
    apply CopySpec.of_not_takes ending
    · rw [List.flatten_cons]
      exact clip_append limit chunk rest.flatten
    · exact Bool.eq_false_iff.mpr hfails

end Loop

/-!
## Whole and bounded copies
-/

def copyAll (s : Sink item) (f : Feed item) : Copied item :=
  copyLoop f.ending f.joined f.chunks none s [] 0

/-- Copy a number of items. A copy that gets there has no error, and a shorter one
without an error has met the end. -/
def copyN (s : Sink item) (f : Feed item) (n : Nat) : Copied item :=
  let copied := copyLoop f.ending f.joined f.chunks (some n) s [] 0
  if copied.written = n then { copied with err := none }
  else if copied.written < n ∧ copied.err = none then
    { copied with err := some .eof }
  else copied

def Feed.after (f : Feed item) (copied : Copied item) : Feed item :=
  { f with chunks := copied.rest }

theorem copyAll_sink (s : Sink item) (f : Feed item) :
    (copyAll s f).sink = s.write f.items :=
  (copyLoop_spec f.ending f.joined f.chunks none s [] 0).sink

def Ending.met : Ending -> CopyError
  | .clean => .eof
  | .failed => .read

structure MetEnd (s : Sink item) (f : Feed item) (n : Nat) (r : Copied item) : Prop where
  takes : s.takes f.items = true
  short : f.items.length < n
  kept : r.kept = f.items
  written : r.written = f.items.length
  err : r.err = some f.ending.met

/-- The copy got to the bound. The writer may have failed with the last item. -/
structure GotThere (s : Sink item) (f : Feed item) (n : Nat) (r : Copied item) : Prop where
  long : n ≤ f.items.length
  written : r.written = n
  err : r.err = none
  rest : s.takes (f.items.take n) = true -> r.rest.flatten = f.items.drop n

structure Broke (s : Sink item) (f : Feed item) (n : Nat) (r : Copied item) : Prop where
  fails : s.takes (f.items.take n) = false
  err : r.err = some .write

theorem copyN_sink (s : Sink item) (f : Feed item) (n : Nat) :
    (copyN s f n).sink = s.write (f.items.take n) := by
  have hsink := (copyLoop_spec f.ending f.joined f.chunks (some n) s [] 0).sink
  unfold copyN
  simp only
  split
  · exact hsink
  split
  · exact hsink
  · exact hsink

theorem copyN_cases (s : Sink item) (f : Feed item) (n : Nat) :
    MetEnd s f n (copyN s f n) ∨ GotThere s f n (copyN s f n) ∨ Broke s f n (copyN s f n) := by
  have hspec := copyLoop_spec f.ending f.joined f.chunks (some n) s [] 0
  have hbound : (f.items.take n).length = min n f.items.length := List.length_take
  cases htakes : s.takes (f.items.take n) with
  | true =>
    rcases hspec.whole htakes with ⟨hkept, hwritten, hrest⟩
    change _ = 0 + (f.items.take n).length at hwritten
    by_cases hshort : f.items.length < n
    · have hall : f.items.take n = f.items := List.take_of_length_le (Nat.le_of_lt hshort)
      have hended := hspec.ended htakes (by
        intro k hk
        cases hk
        exact hshort)
      change _ = [] ++ f.items.take n at hkept
      rw [hall] at hkept hwritten htakes
      left
      unfold copyN
      simp only
      rw [if_neg (by omega)]
      cases hending : f.ending with
      | clean =>
        rw [hending] at hkept hwritten hended
        rw [if_pos ⟨by omega, hended⟩]
        exact ⟨htakes, hshort, hkept, hwritten.trans (Nat.zero_add _), by rw [hending]; rfl⟩
      | failed =>
        rw [hending] at hkept hwritten hended
        rw [if_neg (by
          rw [hended]
          simp [Ending.err])]
        exact ⟨htakes, hshort, hkept, hwritten.trans (Nat.zero_add _),
          by rw [hended, hending]; rfl⟩
    have hfull : (copyLoop f.ending f.joined f.chunks (some n) s [] 0).written = n := by omega
    right
    left
    unfold copyN
    simp only
    rw [if_pos hfull]
    refine ⟨Nat.not_lt.mp hshort, hfull, rfl, ?_⟩
    intro _
    change _ = f.items.drop (f.items.take n).length at hrest
    rw [hbound, Nat.min_eq_left (Nat.not_lt.mp hshort)] at hrest
    exact hrest
  | false =>
    rcases hspec.broken htakes with ⟨herr, hwritten⟩
    change _ = 0 + (clip s.room (f.items.take n)).length at hwritten
    have hle := length_clip_le s.room (f.items.take n)
    right
    unfold copyN
    simp only
    by_cases hfull : (copyLoop f.ending f.joined f.chunks (some n) s [] 0).written = n
    · left
      rw [if_pos hfull]
      refine ⟨by omega, hfull, rfl, ?_⟩
      intro h
      rw [htakes] at h
      cases h
    right
    rw [if_neg hfull, if_neg (by
      rw [herr]
      simp)]
    exact ⟨htakes, herr⟩

end ReplxEdge.Foundation
