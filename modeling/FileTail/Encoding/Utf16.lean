import FileTail.Encoding.Basic

/-!
# FileTail.Encoding.Utf16

UTF-16 in either byte order, written and read. Reading never fails: a surrogate without its
partner is a malformed unit, and so is what is left when the bytes end within a character.

* `encodeChar` — one or two units of two bytes.
* `Scan.feed` — the reader, one byte at a time.
* `units` — what a byte list holds: characters, and `none` for each malformed unit.
-/

namespace FileTail
namespace Utf16

/-- The two bytes of a code unit. -/
def unitBytes (order : ByteOrder) (u : Nat) : Bytes :=
  match order with
  | .little => [UInt8.ofNat (u % 256), UInt8.ofNat (u / 256)]
  | .big => [UInt8.ofNat (u / 256), UInt8.ofNat (u % 256)]

def encodeChar (order : ByteOrder) (c : Char) : Bytes :=
  let n := c.toNat
  if n < 0x10000 then unitBytes order n
  else
    let m := n - 0x10000
    unitBytes order (0xD800 + m / 0x400) ++ unitBytes order (0xDC00 + m % 0x400)

def encode (order : ByteOrder) (s : String) : Bytes := s.toList.flatMap (encodeChar order)

def isHigh (u : Nat) : Bool := 0xD800 ≤ u && u < 0xDC00

def isLow (u : Nat) : Bool := 0xDC00 ≤ u && u < 0xE000

structure Scan where
  /-- The first byte of a code unit whose second one is still to come. -/
  half : Option UInt8
  /-- A high surrogate that waits for its partner. -/
  high : Option Nat
  /-- What was read so far, the last unit first. -/
  out : List (Option Char)
deriving Repr, DecidableEq

namespace Scan

def start : Scan := ⟨none, none, []⟩

/-- Read a code unit where a character has to start. -/
def first (out : List (Option Char)) (u : Nat) : Scan :=
  if isHigh u then ⟨none, some u, out⟩
  else if isLow u then ⟨none, none, none :: out⟩
  else ⟨none, none, some (Char.ofNat u) :: out⟩

def feedUnit (s : Scan) (u : Nat) : Scan :=
  match s.high with
  | none => first s.out u
  | some h =>
    if isLow u then
      ⟨none, none, some (Char.ofNat (0x10000 + (h - 0xD800) * 0x400 + (u - 0xDC00))) :: s.out⟩
    else first (none :: s.out) u

def feed (order : ByteOrder) (s : Scan) (b : UInt8) : Scan :=
  match s.half with
  | none => { s with half := some b }
  | some a =>
    match order with
    | .little => s.feedUnit (a.toNat + b.toNat * 256)
    | .big => s.feedUnit (a.toNat * 256 + b.toNat)

/-- The units read, when no byte follows. A lone surrogate and a lone byte after it are one unit. -/
def finish (s : Scan) : List (Option Char) :=
  if s.half.isSome || s.high.isSome then (none :: s.out).reverse else s.out.reverse

end Scan

def units (order : ByteOrder) (bytes : Bytes) : List (Option Char) :=
  (bytes.foldl (Scan.feed order) Scan.start).finish

end Utf16
end FileTail
