import FileTail.Bytes

/-!
# FileTail.Head

The first eight bytes of a file, packed into one 64-bit number with the first byte most
significant and zeros where the file is shorter. The length is kept beside the number, so a head
that ends in zero bytes differs from a shorter one.

* `Head.follows` — whether a later head can come from the same file after content was appended.
-/

namespace FileTail

structure Head where
  value : Nat
  length : Nat
deriving Repr, DecidableEq, Inhabited

namespace Head

/-- How many leading bytes a head holds at most. -/
def capacity : Nat := 8

def ofBytes (bytes : Bytes) : Head :=
  let lead := bytes.take capacity
  { value := Bytes.bigEndian lead * Bytes.weight (capacity - lead.length), length := lead.length }

def isEmpty (h : Head) : Bool := h.length == 0

/-- The number formed by the first `n` bytes. -/
def leading (h : Head) (n : Nat) : Nat := h.value / Bytes.weight (capacity - n)

/-- A head that lost bytes, or whose bytes differ where the earlier one had any, belongs to other
content. -/
def follows (later earlier : Head) : Bool :=
  earlier.length ≤ later.length && later.leading earlier.length == earlier.leading earlier.length

theorem length_ofBytes (bytes : Bytes) : (ofBytes bytes).length = min capacity bytes.length := by
  simp [ofBytes]

theorem ofBytes_take (bytes : Bytes) : ofBytes (bytes.take capacity) = ofBytes bytes := by
  simp [ofBytes, List.take_take]

end Head
end FileTail
