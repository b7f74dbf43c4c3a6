/-!
# FileTail.Word

Sizes and counters are natural numbers. Where an operation is bounded it stops at the largest
64-bit value instead of wrapping, and says so by its name.
-/

namespace FileTail
namespace Word

/-- The largest size a file system reports and the largest count a counter holds. -/
def limit : Nat := 0xFFFFFFFFFFFFFFFF

def satAdd (a b : Nat) : Nat := min (a + b) limit

def satMul (a b : Nat) : Nat := min (a * b) limit

theorem satAdd_le (a b : Nat) : satAdd a b ≤ limit := Nat.min_le_right _ _

theorem satMul_le (a b : Nat) : satMul a b ≤ limit := Nat.min_le_right _ _

theorem satAdd_of_le {a b : Nat} (h : a + b ≤ limit) : satAdd a b = a + b := Nat.min_eq_left h

theorem satMul_of_le {a b : Nat} (h : a * b ≤ limit) : satMul a b = a * b := Nat.min_eq_left h

end Word
end FileTail
