/-!
# FileTail.Bytes

Contents of files are lists of bytes, so that cutting them is list induction.

* `bigEndian` — a byte list read as a base-256 numeral, first byte most significant.
* `bigEndian_append` — appending shifts the numeral left by the appended length.
* `bigEndian_lt` — `n` bytes have a numeral below the weight of position `n`.
-/

namespace FileTail

abbrev Bytes := List UInt8

namespace Bytes

/-- What one unit counts `n` positions from the right. -/
def weight : Nat → Nat
  | 0 => 1
  | n + 1 => weight n * 256

theorem weight_pos (n : Nat) : 0 < weight n := by
  induction n with
  | zero => simp [weight]
  | succ n ih => simp only [weight]; omega

theorem weight_add (m n : Nat) : weight (m + n) = weight m * weight n := by
  induction n with
  | zero => simp [weight]
  | succ n ih => rw [Nat.add_succ, weight, weight, ih, Nat.mul_assoc]

def bigEndian (bytes : Bytes) : Nat :=
  bytes.foldl (fun v b => v * 256 + b.toNat) 0

theorem bigEndian_foldl (bytes : Bytes) :
    ∀ v : Nat, bytes.foldl (fun v b => v * 256 + b.toNat) v =
      v * weight bytes.length + bigEndian bytes := by
  induction bytes with
  | nil => intro v; simp [bigEndian, weight]
  | cons b r ih =>
    intro v
    simp only [bigEndian, List.foldl_cons, List.length_cons]
    rw [ih, ih (0 * 256 + b.toNat), weight, Nat.add_mul, Nat.add_mul]
    simp [Nat.mul_assoc, Nat.mul_comm, Nat.add_assoc]

theorem bigEndian_append (a b : Bytes) :
    bigEndian (a ++ b) = bigEndian a * weight b.length + bigEndian b := by
  rw [bigEndian, List.foldl_append, bigEndian_foldl]; rfl

theorem bigEndian_cons (b : UInt8) (r : Bytes) :
    bigEndian (b :: r) = b.toNat * weight r.length + bigEndian r := by
  have h := bigEndian_append [b] r
  simpa [bigEndian] using h

theorem bigEndian_lt (bytes : Bytes) : bigEndian bytes < weight bytes.length := by
  induction bytes with
  | nil => simp [bigEndian, weight]
  | cons b r ih =>
    have hb : b.toNat < 256 := b.toNat_lt
    have hle : b.toNat * weight r.length ≤ 255 * weight r.length :=
      Nat.mul_le_mul_right _ (by omega)
    rw [bigEndian_cons, List.length_cons, weight]
    omega

end Bytes
end FileTail
