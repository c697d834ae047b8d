import ReplxEdge.Foundation.Base64
import ReplxEdge.Foundation.Digest
import ReplxEdge.Foundation.Runes
import ReplxEdge.Foundation.Table
import Mathlib.Algebra.Group.Nat.Defs

/-!
# Password records

A record names the cost parameters that its hash was made with. It is read back
with exactly these, so that a change of the current parameters locks nobody out.
-/

namespace ReplxEdge.Admin

open Foundation

structure ArgonParams where
  version : Nat
  memory : Nat
  time : Nat
  threads : Nat
  salt : GoString
  hash : GoString

def formatCosts (memory time threads : Nat) : GoString :=
  join 44 [str "m=" ++ decimal memory, str "t=" ++ decimal time, str "p=" ++ decimal threads]

/-- The text of `$argon2id$v=%d$m=%d,t=%d,p=%d$%s$%s`. -/
def formatPHC (version memory time threads : Nat) (salt hash : GoString) : GoString :=
  join 36 [[], str "argon2id", str "v=" ++ decimal version,
    formatCosts memory time threads, Base64.encode salt, Base64.encode hash]

/-- `strconv.ParseUint` in base ten with 32 bits. -/
def parseUint32 (s : GoString) : Option Nat :=
  if s = [] ∨ !s.all (fun b => decide (48 ≤ b ∧ b ≤ 57)) then none
  else
    let n : Int := s.foldl (fun n b => 10 * n + (b.toNat - 48 : Nat)) 0
    if n < 2 ^ 32 then some n.toNat else none

def readParam (params : Table GoString Nat) (kv : GoString) : Option (Table GoString Nat) :=
  if 61 ∈ kv then (parseUint32 (after kv 61)).map (params.set (before kv 61)) else none

def bounded (params : Table GoString Nat) (name : GoString) (low high : Nat) : Option Nat :=
  (params.lookup name).filter fun n => decide (low ≤ n ∧ n ≤ high)

/-- `fmt.Sscanf` with `v=%d` for a `uint32`. White space before the number is passed over, but
a line feed is an error; what follows the digits is not read. -/
def scanVersion (text : GoString) : Option Nat :=
  if hasPrefix text (str "v=") then
    let rest := (runeChunks (text.drop 2)).dropWhile fun chunk =>
      isSpaceRune chunk.1 && chunk.1 != 10
    parseUint32 ((rest.flatMap fun chunk => chunk.2).takeWhile fun b => decide (48 ≤ b ∧ b ≤ 57))
  else none

def parsePHC (encoded : GoString) : Option ArgonParams :=
  match split encoded 36 with
  | [_, algorithm, version, costs, salt, hash] =>
    if algorithm = str "argon2id" ∧ scanVersion version = some 19 then
      ((split costs 44).foldlM readParam Table.empty).bind fun params =>
      (bounded params (str "m") (8 * 1024) (2 ^ 22)).bind fun memory =>
      (bounded params (str "t") 1 16).bind fun time =>
      (bounded params (str "p") 1 16).bind fun threads =>
      ((Base64.decode salt).filter fun salt => 8 ≤ salt.length).bind fun salt =>
      ((Base64.decode hash).filter fun hash => 16 ≤ hash.length).map fun hash =>
        ⟨19, memory, time, threads, salt, hash⟩
    else none
  | _ => none

/-- `idKey` is `argon2.IDKey`, with its arguments in order. -/
def verifyPassword (idKey : GoString -> GoString -> Nat -> Nat -> Nat -> Nat -> GoString)
    (encoded password : GoString) : Bool :=
  match parsePHC encoded with
  | none => false
  | some p => idKey password p.salt p.time p.memory p.threads (p.hash.length % 2 ^ 32) == p.hash

def needsRehash (encoded : GoString) : Bool :=
  match parsePHC encoded with
  | none => false
  | some p => p.version != 19 || p.memory != 64 * 1024 || p.time != 1 || p.threads != 4

structure Sane (memory time threads : Nat) : Prop where
  memory : 8 * 1024 ≤ memory ∧ memory ≤ 2 ^ 22
  time : 1 ≤ time ∧ time ≤ 16
  threads : 1 ≤ threads ∧ threads ≤ 16

/-!
## Fields
-/

variable {n low high : Nat} {params : Table GoString Nat} {name : GoString}

theorem split_join {sep : UInt8} {fields : List GoString} (hne : fields ≠ [])
    (h : forall field, field ∈ fields -> sep ∉ field) : split (join sep fields) sep = fields :=
  List.splitOn_intercalate sep h hne

theorem not_mem_decimal {b : UInt8} (h : b.toNat < 48 ∨ 57 < b.toNat) : b ∉ decimal n := by
  intro hmem
  have hdigit := digit_of_mem_decimal hmem
  omega

theorem parseUint32_decimal (h : n < 2 ^ 32) : parseUint32 (decimal n) = some n := by
  have hall : (decimal n).all (fun b => decide (48 ≤ b ∧ b ≤ 57)) = true := by
    rw [List.all_eq_true]
    intro b hb
    exact decide_eq_true (digit_of_mem_decimal hb)
  unfold parseUint32
  rw [hall, if_neg (by simp [decimal_ne_nil]), decimal_value]
  exact if_pos (by exact_mod_cast h)

theorem readParam_named (name : GoString) (hname : 61 ∉ name) (h : n < 2 ^ 32)
    (params : Table GoString Nat) :
    readParam params (name ++ 61 :: decimal n) = some (params.set name n) := by
  unfold readParam
  rw [if_pos (by simp), after_append hname, after_cons_self, before_append hname,
    before_cons_self, List.append_nil, parseUint32_decimal h]
  rfl

theorem bounded_of_lookup (hfound : params.lookup name = some n) (h : low ≤ n ∧ n ≤ high) :
    bounded params name low high = some n := by
  unfold bounded
  rw [hfound, Option.filter_some, if_pos (decide_eq_true h)]

theorem of_bounded (h : bounded params name low high = some n) : low ≤ n ∧ n ≤ high :=
  of_decide_eq_true (Option.filter_eq_some_iff.mp h).right

/-!
## Records
-/

variable {memory time threads : Nat} {salt hash : GoString}

theorem readCosts (h : Sane memory time threads) :
    exists params,
      (split (formatCosts memory time threads) 44).foldlM readParam Table.empty = some params ∧
      bounded params (str "m") (8 * 1024) (2 ^ 22) = some memory ∧
      bounded params (str "t") 1 16 = some time ∧ bounded params (str "p") 1 16 = some threads := by
  have hcomma : forall n label, 44 ∉ label -> 44 ∉ label ++ decimal n := by
    intro n label hlabel
    rw [List.mem_append, not_or]
    exact ⟨hlabel, not_mem_decimal (by decide)⟩
  have hmemory := readParam_named (str "m") (by decide) (h.memory.right.trans_lt (by decide))
  have htime := readParam_named (str "t") (by decide) (h.time.right.trans_lt (by decide))
  have hthreads := readParam_named (str "p") (by decide) (h.threads.right.trans_lt (by decide))
  refine ⟨((Table.empty.set (str "m") memory).set (str "t") time).set (str "p") threads, ?_,
    bounded_of_lookup rfl h.memory, bounded_of_lookup rfl h.time,
    bounded_of_lookup rfl h.threads⟩
  rw [formatCosts, split_join (by simp)]
  · change (readParam Table.empty (str "m" ++ 61 :: decimal memory)).bind _ = _
    rw [hmemory]
    change (readParam _ (str "t" ++ 61 :: decimal time)).bind _ = _
    rw [htime]
    change (readParam _ (str "p" ++ 61 :: decimal threads)).bind _ = _
    rw [hthreads]
    rfl
  simp only [List.forall_mem_cons]
  exact ⟨hcomma _ _ (by decide), hcomma _ _ (by decide), hcomma _ _ (by decide), by simp⟩

theorem split_formatPHC :
    split (formatPHC n memory time threads salt hash) 36 = [[], str "argon2id",
      str "v=" ++ decimal n, formatCosts memory time threads, Base64.encode salt,
      Base64.encode hash] := by
  have hdecimal : forall n, 36 ∉ decimal n := fun _ => not_mem_decimal (by decide)
  have hlabels : 36 ∉ str "v=" ∧ 36 ∉ str "m=" ∧ 36 ∉ str "t=" ∧ 36 ∉ str "p=" := by decide
  refine split_join (by simp) ?_
  simp only [List.forall_mem_cons]
  refine ⟨by simp, by decide, ?_, ?_, Base64.dollar_not_mem_encode salt,
    Base64.dollar_not_mem_encode hash, by simp⟩
  · simp [hdecimal, hlabels]
  · simp [formatCosts, join, List.intercalate, hdecimal, hlabels]

theorem parsePHC_formatPHC (h : Sane memory time threads) (hsalt : 8 ≤ salt.length)
    (hhash : 16 ≤ hash.length) :
    parsePHC (formatPHC 19 memory time threads salt hash) =
      some ⟨19, memory, time, threads, salt, hash⟩ := by
  have hversion : scanVersion (str "v=" ++ decimal 19) = some 19 := by decide
  rcases readCosts h with ⟨params, hparams, hmemory, htime, hthreads⟩
  unfold parsePHC
  rw [split_formatPHC]
  simp only [hversion, hparams, hmemory, htime, hthreads, Base64.decode_encode, Option.bind_some,
    Option.filter_some, decide_eq_true hsalt, decide_eq_true hhash, and_self, if_true,
    Option.map_some]

theorem sane_of_parsePHC {encoded : GoString} {p : ArgonParams}
    (h : parsePHC encoded = some p) : Sane p.memory p.time p.threads := by
  unfold parsePHC at h
  split at h
  · split at h
    · rcases Option.bind_eq_some_iff.mp h with ⟨params, _, h⟩
      rcases Option.bind_eq_some_iff.mp h with ⟨memory, hmemory, h⟩
      rcases Option.bind_eq_some_iff.mp h with ⟨time, htime, h⟩
      rcases Option.bind_eq_some_iff.mp h with ⟨threads, hthreads, h⟩
      rcases Option.bind_eq_some_iff.mp h with ⟨salt, _, h⟩
      rcases Option.map_eq_some_iff.mp h with ⟨hash, _, rfl⟩
      exact ⟨of_bounded hmemory, of_bounded htime, of_bounded hthreads⟩
    · cases h
  · cases h

/-- A record is read back as it was written, and so is checked with its own parameters and
replaced when they are not the current ones; no record is read with others than sane ones. -/
theorem record_survives
    (idKey : GoString -> GoString -> Nat -> Nat -> Nat -> Nat -> GoString)
    (memory time threads : Nat) (salt hash : GoString) (hsane : Sane memory time threads)
    (hsalt : 8 ≤ salt.length) (hhash : 16 ≤ hash.length) :
    parsePHC (formatPHC 19 memory time threads salt hash) =
      some ⟨19, memory, time, threads, salt, hash⟩ ∧
    (forall password,
      verifyPassword idKey (formatPHC 19 memory time threads salt hash) password =
        (idKey password salt time memory threads (hash.length % 2 ^ 32) == hash)) ∧
    (needsRehash (formatPHC 19 memory time threads salt hash) = true <->
      memory ≠ 64 * 1024 ∨ time ≠ 1 ∨ threads ≠ 4) ∧
    forall encoded p, parsePHC encoded = some p -> Sane p.memory p.time p.threads := by
  have hparse := parsePHC_formatPHC hsane hsalt hhash
  refine ⟨hparse, ?_, ?_, fun _ _ => sane_of_parsePHC⟩
  · intro password
    unfold verifyPassword
    rw [hparse]
  unfold needsRehash
  rw [hparse]
  simp [or_assoc]

/-- A record with the current costs. -/
def currentRecord : GoString :=
  formatPHC 19 (64 * 1024) 1 4 (str "0123456789abcdef") (List.replicate 32 7)

theorem record_survives_current :
    Sane (64 * 1024) 1 4 ∧ needsRehash currentRecord = false ∧
      forall idKey password, verifyPassword idKey currentRecord password =
        (idKey password (str "0123456789abcdef") 1 (64 * 1024) 4 32 ==
          List.replicate 32 7) := by
  have hsane : Sane (64 * 1024) 1 4 := ⟨by decide, by decide, by decide⟩
  have h := fun idKey => record_survives idKey (64 * 1024) 1 4 (str "0123456789abcdef")
    (List.replicate 32 7) hsane (by decide) (by decide)
  refine ⟨hsane, Bool.eq_false_iff.mpr ?_, fun idKey => (h idKey).right.left⟩
  rw [ne_eq, currentRecord, (h fun _ _ _ _ _ _ => []).right.right.left]
  decide

end ReplxEdge.Admin
