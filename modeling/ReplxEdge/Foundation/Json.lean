import ReplxEdge.Foundation.Digest
import ReplxEdge.Foundation.Runes
import Mathlib.Algebra.Group.Int.Defs
import Mathlib.Data.List.Lex
import Mathlib.Data.List.Sort

/-!
# JSON

Documents as they are written, with the members of an object in their order and
possibly repeated; the reading of members into the fields of a Go struct; the form
in which a PostgreSQL `jsonb` column keeps a document; and how texts are written.
-/

namespace ReplxEdge.Foundation

/-- A number literal: the digits, how many of them follow the point, and the exponent if
one is written. -/
structure Number where
  negative : Bool
  coefficient : Nat
  fraction : Nat
  exponent : Option Int
deriving DecidableEq

inductive Json where
  | null
  | bool (value : Bool)
  | number (value : Number)
  | string (value : GoString)
  | array (items : List Json)
  | object (members : List (GoString × Json))

namespace Number

def literal (n : Number) : Int :=
  if n.negative then -(n.coefficient : Int) else n.coefficient

/-- What Go reads into an `int`: only plain literals in range. -/
def int (n : Number) : Option Int :=
  if n.fraction = 0 ∧ n.exponent = none ∧ -2 ^ 63 ≤ n.literal ∧ n.literal < 2 ^ 63 then
    some n.literal
  else none

/-- A `numeric`: no exponent, no negative zero. -/
def numeric (n : Number) : Number :=
  let e := n.exponent.getD 0
  { negative := n.negative && n.coefficient != 0
    coefficient := n.coefficient * 10 ^ (e - n.fraction).toNat
    fraction := (n.fraction - e).toNat
    exponent := none }

theorem int_numeric {n : Number} {v : Int} (h : n.int = some v) : n.numeric.int = some v := by
  unfold int at h
  split at h
  · rename_i hplain
    rcases hplain with ⟨hfraction, hexponent, hlow, hhigh⟩
    have hliteral : n.numeric.literal = n.literal := by
      unfold literal numeric
      rw [hexponent, hfraction]
      cases n.negative with
      | false =>
        simp
      | true =>
        by_cases hzero : n.coefficient = 0
        · simp [hzero]
        · simp [hzero]
    have hpoint : n.numeric.fraction = 0 := by simp [numeric, hfraction, hexponent]
    unfold int
    rw [hliteral, if_pos ⟨hpoint, rfl, hlow, hhigh⟩]
    exact h
  · cases h

end Number

/-!
## Fields of a struct

A member is read into the field whose name it folds to. Members of one field are
read one after the other, a null leaving a text as it is and clearing a pointer; a
member of another type fails the whole document.
-/

inductive FieldKind where
  | pointer
  | text
  | labels
deriving DecidableEq

/-- A member that can be read into a text, or into an entry of a map of texts. -/
def textual : Json -> Bool
  | .null => true
  | .string _ => true
  | _ => false

def FieldKind.accepts : FieldKind -> Json -> Bool
  | .pointer, .null => true
  | .pointer, .number n => n.int.isSome
  | .text, j => textual j
  | .labels, .null => true
  | .labels, .object members => members.all fun member => textual member.2
  | _, _ => false

def valuesOf (members : List (GoString × Json)) (name : GoString) : List Json :=
  (members.filter fun member => equalFold member.1 name).map Prod.snd

def readText (old : GoString) : Json -> GoString
  | .string s => s
  | _ => old

def readPointer : Json -> Option Int
  | .number n => n.int
  | _ => none

def textField (members : List (GoString × Json)) (name : GoString) : GoString :=
  (valuesOf members name).foldl readText []

def pointerField (members : List (GoString × Json)) (name : GoString) : Option Int :=
  ((valuesOf members name).getLast?.map readPointer).getD none

/-!
## Documents in a column
-/

/-- Members in a column are ordered by the length of their name, then by its bytes. -/
def keyBefore (a b : GoString) : Prop :=
  a.length < b.length ∨ a.length = b.length ∧ a.map UInt8.toNat ≤ b.map UInt8.toNat

instance : DecidableRel keyBefore := fun _ _ =>
  inferInstanceAs (Decidable (_ ∨ _ ∧ _))

def lastMembers : List (GoString × Json) -> List (GoString × Json)
  | [] => []
  | member :: rest =>
    if rest.any fun other => other.1 == member.1 then lastMembers rest
    else member :: lastMembers rest

mutual

def Json.stored : Json -> Json
  | .null => .null
  | .bool value => .bool value
  | .number value => .number value.numeric
  | .string value => .string value
  | .array items => .array (storedItems items)
  | .object members =>
    .object ((lastMembers (storedMembers members)).insertionSort fun a b => keyBefore a.1 b.1)

def storedItems : List Json -> List Json
  | [] => []
  | item :: rest => item.stored :: storedItems rest

def storedMembers : List (GoString × Json) -> List (GoString × Json)
  | [] => []
  | (name, value) :: rest => (name, value.stored) :: storedMembers rest

end

variable {members : List (GoString × Json)} {name : GoString}

theorem storedMembers_eq (members : List (GoString × Json)) :
    storedMembers members = members.map fun member => (member.1, member.2.stored) := by
  induction members with
  | nil => rfl
  | cons member rest ih =>
    simp only [storedMembers, List.map_cons, ih]

theorem lastMembers_sublist (members : List (GoString × Json)) :
    (lastMembers members).Sublist members := by
  induction members with
  | nil => exact List.Sublist.refl _
  | cons member rest ih =>
    unfold lastMembers
    split
    · exact ih.cons member
    · exact ih.cons_cons member

def columnMembers (members : List (GoString × Json)) : List (GoString × Json) :=
  (lastMembers (storedMembers members)).insertionSort fun a b => keyBefore a.1 b.1

theorem stored_object (members : List (GoString × Json)) :
    (Json.object members).stored = .object (columnMembers members) := by
  rw [Json.stored, columnMembers]

theorem mem_columnMembers {member : GoString × Json} (h : member ∈ columnMembers members) :
    exists value, (member.1, value) ∈ members ∧ member.2 = value.stored := by
  have hlast := (List.perm_insertionSort _ _).mem_iff.mp h
  have hstored := (lastMembers_sublist _).subset hlast
  rw [storedMembers_eq] at hstored
  rcases List.mem_map.mp hstored with ⟨source, hsource, rfl⟩
  exact ⟨source.2, hsource, rfl⟩

/-!
### Fields of a stored document

A column reorders members, so a field that several names fold to may be read
differently from it.
-/

def OneName (members : List (GoString × Json)) (name : GoString) : Prop :=
  forall a, a ∈ members -> forall b, b ∈ members -> equalFold a.1 name = true ->
    equalFold b.1 name = true -> a.1 = b.1

instance (members : List (GoString × Json)) (name : GoString) :
    Decidable (OneName members name) :=
  inferInstanceAs (Decidable (forall a, a ∈ members -> _))

theorem filter_lastMembers (hone : OneName members name) :
    (lastMembers members).filter (fun member => equalFold member.1 name) =
      (members.filter fun member => equalFold member.1 name).getLast?.toList := by
  induction members with
  | nil => rfl
  | cons member rest ih =>
    have hrest : OneName rest name := fun a ha b hb =>
      hone a (List.mem_cons_of_mem _ ha) b (List.mem_cons_of_mem _ hb)
    cases hfold : equalFold member.1 name with
    | false =>
      rw [List.filter_cons_of_neg (by simp [hfold])]
      unfold lastMembers
      split
      · exact ih hrest
      rw [List.filter_cons_of_neg (by simp [hfold])]
      exact ih hrest
    | true =>
      rw [List.filter_cons_of_pos (by simp [hfold])]
      unfold lastMembers
      split
      · rename_i hagain
        rcases List.any_eq_true.mp hagain with ⟨other, hother, hkey⟩
        have hkept : other ∈ rest.filter fun member => equalFold member.1 name := by
          refine List.mem_filter.mpr ⟨hother, ?_⟩
          rw [beq_iff_eq.mp hkey]
          exact hfold
        rw [ih hrest, List.getLast?_cons_of_ne_nil (List.ne_nil_of_mem hkept)]
      rename_i hlast
      have hnone : rest.filter (fun member => equalFold member.1 name) = [] := by
        refine List.filter_eq_nil_iff.mpr ?_
        intro other hother hsame
        apply hlast
        refine List.any_eq_true.mpr ⟨other, hother, ?_⟩
        exact beq_iff_eq.mpr (hone other (List.mem_cons_of_mem _ hother) member
          List.mem_cons_self hsame hfold)
      rw [List.filter_cons_of_pos (by simp [hfold]), ih hrest, hnone]
      rfl

theorem oneName_stored (hone : OneName members name) : OneName (storedMembers members) name := by
  rw [storedMembers_eq]
  intro a ha b hb
  rcases List.mem_map.mp ha with ⟨x, hx, rfl⟩
  rcases List.mem_map.mp hb with ⟨y, hy, rfl⟩
  exact hone x hx y hy

theorem valuesOf_columnMembers (hone : OneName members name) :
    valuesOf (columnMembers members) name =
      (valuesOf members name).getLast?.toList.map Json.stored := by
  have hfilter : (columnMembers members).filter (fun member => equalFold member.1 name) =
      ((storedMembers members).filter fun member =>
        equalFold member.1 name).getLast?.toList := by
    have hperm := (List.perm_insertionSort (fun a b => keyBefore a.1 b.1)
      (lastMembers (storedMembers members))).filter fun member => equalFold member.1 name
    rw [filter_lastMembers (oneName_stored hone)] at hperm
    unfold columnMembers
    cases hlast : ((storedMembers members).filter fun member =>
        equalFold member.1 name).getLast? with
    | none =>
      rw [hlast] at hperm
      exact hperm.eq_nil
    | some member =>
      rw [hlast] at hperm
      exact List.perm_singleton.mp hperm
  have hnames : ((fun member : GoString × Json => equalFold member.1 name) ∘
      fun member : GoString × Json => (member.1, member.2.stored)) =
      fun member : GoString × Json => equalFold member.1 name := rfl
  unfold valuesOf
  rw [hfilter, storedMembers_eq, List.filter_map, List.getLast?_map, List.getLast?_map, hnames]
  cases (members.filter fun member => equalFold member.1 name).getLast? with
  | none | some => rfl

variable {j : Json}

theorem textual_stored (h : textual j = true) : textual j.stored = true := by
  cases j with
  | null | string => rfl
  | bool value | number value | array items | object members => cases h

theorem FieldKind.accepts_stored {kind : FieldKind} (h : kind.accepts j = true) :
    kind.accepts j.stored = true := by
  cases kind with
  | text => exact textual_stored h
  | pointer =>
    cases j with
    | null => rfl
    | number value =>
      rcases Option.isSome_iff_exists.mp h with ⟨v, hv⟩
      change value.numeric.int.isSome = true
      rw [Number.int_numeric hv]
      rfl
    | bool value | string value | array items | object members => cases h
  | labels =>
    cases j with
    | null => rfl
    | object members =>
      rw [stored_object]
      refine List.all_eq_true.mpr fun member hmember => ?_
      rcases mem_columnMembers hmember with ⟨value, hvalue, heq⟩
      rw [heq]
      exact textual_stored (List.all_eq_true.mp h _ hvalue)
    | bool value | number value | string value | array items => cases h

theorem foldl_readText_concat (values : List Json) (s : GoString) :
    (values ++ [Json.string s]).foldl readText [] = s := by
  rw [List.foldl_append]
  rfl

theorem textField_columnMembers (hone : OneName members name)
    (htyped : forall j, j ∈ valuesOf members name -> textual j = true) :
    textField (columnMembers members) name = textField members name ∨
      textField (columnMembers members) name = [] := by
  unfold textField
  rw [valuesOf_columnMembers hone]
  rcases List.eq_nil_or_concat (valuesOf members name) with hnil | ⟨front, last, hconcat⟩
  · rw [hnil]
    exact Or.inl rfl
  rw [List.concat_eq_append] at hconcat
  have hlast : textual last = true := htyped last (by simp [hconcat])
  rw [hconcat, List.getLast?_concat]
  cases last with
  | string s =>
    left
    rw [foldl_readText_concat]
    rfl
  | null => exact Or.inr rfl
  | bool value | number value | array items | object inner => cases hlast

/-!
## Writing texts
-/

def quoteRune (rune : Nat) (bytes : GoString) : GoString :=
  if rune = 34 ∨ rune = 92 then 92 :: bytes
  else if rune = 8 then str "\\b"
  else if rune = 9 then str "\\t"
  else if rune = 10 then str "\\n"
  else if rune = 12 then str "\\f"
  else if rune = 13 then str "\\r"
  else if rune < 32 ∨ rune = 38 ∨ rune = 60 ∨ rune = 62 then str "\\u00" ++ hexEncode bytes
  else if rune = runeError ∧ bytes.length = 1 then str "\\ufffd"
  else if rune = 0x2028 then str "\\u2028"
  else if rune = 0x2029 then str "\\u2029"
  else bytes

def quoteText (text : GoString) : GoString :=
  34 :: ((runeChunks text).flatMap fun chunk => quoteRune chunk.1 chunk.2) ++ [34]

/-- An array of texts, as `json.Marshal` writes it. -/
def marshalTexts (texts : List GoString) : GoString :=
  91 :: join 44 (texts.map quoteText) ++ [93]

end ReplxEdge.Foundation
