/-!
# FileTail.Text.Ranges

Sets of characters as closed ranges of code points, in ascending order.

* `Ranges.contains` — whether a code point lies in one of the ranges.
-/

namespace FileTail
namespace Text

abbrev Ranges := List (Nat × Nat)

namespace Ranges

def contains (rs : Ranges) (n : Nat) : Bool := rs.any fun r => r.1 ≤ n && n ≤ r.2

theorem contains_of_mem {rs : Ranges} {r : Nat × Nat} (h : r ∈ rs) {n : Nat} (hlo : r.1 ≤ n)
    (hhi : n ≤ r.2) : rs.contains n = true := by
  simp only [contains, List.any_eq_true]
  exact ⟨r, h, by simp [hlo, hhi]⟩

end Ranges
end Text
end FileTail
