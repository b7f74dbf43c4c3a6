import FileTail.Bytes

/-!
# FileTail.Encoding.Utf8

UTF-8 written and read. Reading never fails: each longest run of bytes that could have started a
character, but does not make one, is a malformed unit of its own, and so is each byte that starts
nothing.

* `encodeChar` — one to four bytes per character.
* `Scan.feed` — the reader, one byte at a time, with what it still expects of the next byte.
* `units` — what a byte list holds: characters, and `none` for each malformed unit.
* `decode?` — the text of a byte list without malformed units.
-/

namespace FileTail
namespace Utf8

def encodeChar (c : Char) : Bytes :=
  let n := c.toNat
  if n < 0x80 then
    [UInt8.ofNat n]
  else if n < 0x800 then
    [UInt8.ofNat (0xC0 + n / 64), UInt8.ofNat (0x80 + n % 64)]
  else if n < 0x10000 then
    [UInt8.ofNat (0xE0 + n / 4096), UInt8.ofNat (0x80 + n / 64 % 64), UInt8.ofNat (0x80 + n % 64)]
  else
    [UInt8.ofNat (0xF0 + n / 262144), UInt8.ofNat (0x80 + n / 4096 % 64),
     UInt8.ofNat (0x80 + n / 64 % 64), UInt8.ofNat (0x80 + n % 64)]

def encode (s : String) : Bytes := s.toList.flatMap encodeChar

theorem encode_append (a b : List Char) :
    encode (String.ofList (a ++ b)) = encode (String.ofList a) ++ encode (String.ofList b) := by
  simp [encode]

theorem encodeChar_ne_nil (c : Char) : encodeChar c ≠ [] := by
  simp only [encodeChar]
  split
  · simp
  · split
    · simp
    · split <;> simp

theorem encode_ne_nil {s : String} (h : s ≠ "") : encode s ≠ [] := by
  obtain ⟨c, r, hs⟩ := List.exists_cons_of_ne_nil (mt String.toList_eq_nil_iff.1 h)
  simp [encode, hs, encodeChar_ne_nil]

/-- A character whose first bytes were read: the bits so far, how many bytes are missing, and
between which bounds the next one has to lie. -/
structure Pending where
  code : Nat
  missing : Nat
  low : Nat
  high : Nat
deriving Repr, DecidableEq

structure Scan where
  pending : Option Pending
  /-- What was read so far, the last unit first. -/
  out : List (Option Char)
deriving Repr, DecidableEq

namespace Scan

def start : Scan := ⟨none, []⟩

/-- Read a byte where a character has to start. The bounds on the second byte shut out long forms,
surrogates and numbers above the last code point. -/
def first (out : List (Option Char)) (b : Nat) : Scan :=
  if b < 0x80 then ⟨none, some (Char.ofNat b) :: out⟩
  else if b < 0xC2 then ⟨none, none :: out⟩
  else if b < 0xE0 then ⟨some ⟨b % 32, 1, 0x80, 0xBF⟩, out⟩
  else if b = 0xE0 then ⟨some ⟨0, 2, 0xA0, 0xBF⟩, out⟩
  else if b = 0xED then ⟨some ⟨13, 2, 0x80, 0x9F⟩, out⟩
  else if b < 0xF0 then ⟨some ⟨b % 16, 2, 0x80, 0xBF⟩, out⟩
  else if b = 0xF0 then ⟨some ⟨0, 3, 0x90, 0xBF⟩, out⟩
  else if b < 0xF4 then ⟨some ⟨b % 8, 3, 0x80, 0xBF⟩, out⟩
  else if b = 0xF4 then ⟨some ⟨4, 3, 0x80, 0x8F⟩, out⟩
  else ⟨none, none :: out⟩

def feed (s : Scan) (byte : UInt8) : Scan :=
  let b := byte.toNat
  match s.pending with
  | none => first s.out b
  | some p =>
    if p.low ≤ b ∧ b ≤ p.high then
      let code := p.code * 64 + b % 64
      if p.missing ≤ 1 then ⟨none, some (Char.ofNat code) :: s.out⟩
      else ⟨some ⟨code, p.missing - 1, 0x80, 0xBF⟩, s.out⟩
    else
      -- the byte is not part of the character: it starts the next one
      first (none :: s.out) b

/-- The units read, when no byte follows. -/
def finish (s : Scan) : List (Option Char) :=
  match s.pending with
  | none => s.out.reverse
  | some _ => (none :: s.out).reverse

end Scan

def units (bytes : Bytes) : List (Option Char) := (bytes.foldl Scan.feed Scan.start).finish

/-- The characters, if no unit is malformed. -/
def allChars? : List (Option Char) → Option (List Char)
  | [] => some []
  | none :: _ => none
  | some c :: r => (allChars? r).map (c :: ·)

def decode? (bytes : Bytes) : Option String := (allChars? (units bytes)).map String.ofList

end Utf8
end FileTail
