import ReplxEdge.Foundation.Bytes
import Mathlib.Algebra.Group.Nat.Defs

/-!
# Framed fields

Big-endian words of four bytes, slices of a buffer, and texts that end in a
terminator: what a layout of length-prefixed and terminated fields is made of.
-/

namespace ReplxEdge.Foundation

/-!
## Words
-/

/-- Four bytes, the most significant first; larger numbers lose their upper part. -/
def putUint32 (n : Nat) : GoString :=
  [UInt8.ofNat (n / 2 ^ 24), UInt8.ofNat (n / 2 ^ 16), UInt8.ofNat (n / 2 ^ 8), UInt8.ofNat n]

def uint32 (bytes : GoString) : Nat :=
  bytes.foldl (fun n b => 256 * n + b.toNat) 0

@[simp] theorem length_putUint32 (n : Nat) : (putUint32 n).length = 4 :=
  rfl

@[simp] theorem uint32_putUint32 (n : Nat) : uint32 (putUint32 n) = n % 2 ^ 32 := by
  simp only [putUint32, uint32, List.foldl_cons, List.foldl_nil, UInt8.toNat_ofNat']
  omega

/-!
## Slices
-/

def slice (b : GoString) (low high : Nat) : GoString :=
  (b.take high).drop low

theorem slice_append {head field tail : GoString} {low high : Nat}
    (hlow : head.length = low) (hhigh : low + field.length = high) :
    slice (head ++ (field ++ tail)) low high = field := by
  unfold slice
  rw [← hhigh, ← hlow, ← List.append_assoc, ← List.length_append, List.take_left, List.drop_left]

/-!
## Terminated texts
-/

def terminated (sep : UInt8) (fields : List GoString) : GoString :=
  fields.flatMap fun field => field ++ [sep]

theorem split_terminated {sep : UInt8} {fields : List GoString}
    (h : forall field, field ∈ fields -> sep ∉ field) :
    split (terminated sep fields) sep = fields ++ [[]] := by
  unfold split terminated
  induction fields with
  | nil => rfl
  | cons field fields ih =>
    have hrest := ih fun other hother => h other (List.mem_cons_of_mem field hother)
    have hfield : field.splitOn sep = [field] :=
      List.splitOn_eq_singleton (h field List.mem_cons_self)
    rw [List.flatMap_cons, List.append_assoc, List.singleton_append,
      List.splitOn_append_cons_self, hrest, hfield]
    rfl

end ReplxEdge.Foundation
