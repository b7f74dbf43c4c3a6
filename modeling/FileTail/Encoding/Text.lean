import FileTail.Encoding.Basic
import FileTail.Encoding.Utf8
import FileTail.Encoding.Utf16

/-!
# FileTail.Encoding.Text

Text in any of the encodings. Reading replaces what is malformed by the replacement character and
says that it did; writing replaces what the encoding lacks by a numeric character reference.

* `Encoding.units` — the characters of a byte list, `none` for each malformed unit.
* `Encoding.decode` — the text and whether anything was replaced.
* `Encoding.encode` — the bytes of a text.
* `Codec.ascii` — the part that all East Asian sets have in common, which is what the program knows of
  them.
-/

namespace FileTail

/-- Text read from bytes. -/
structure Reading where
  text : String
  malformed : Bool
deriving Repr, DecidableEq, Inhabited

def replacementChar : Char := '\uFFFD'

namespace Encoding

def units : Encoding → Bytes → List (Option Char)
  | .utf8, bytes => Utf8.units bytes
  | .utf16 order, bytes => Utf16.units order bytes
  | .singleByte set, bytes => bytes.map set.decode?
  | .eastAsian _ codec, bytes => codec.units bytes
  | .replacement, [] => []
  | .replacement, _ :: _ => [none]

/-- The text of a list of units. -/
def readUnits (us : List (Option Char)) : Reading :=
  { text := String.ofList (us.map (·.getD replacementChar)), malformed := us.any (·.isNone) }

def decode (e : Encoding) (bytes : Bytes) : Reading := readUnits (e.units bytes)

/-- The numeric character reference of a character, in ASCII. -/
def reference (c : Char) : Bytes :=
  Utf8.encode ("&#" ++ Nat.repr c.toNat ++ ";")

def encodeChar : Encoding → Char → Bytes
  | .utf8, c => Utf8.encodeChar c
  | .replacement, c => Utf8.encodeChar c
  | .utf16 order, c => Utf16.encodeChar order c
  | .singleByte set, c =>
    match set.encode? c with
    | some b => [b]
    | none => reference c
  | .eastAsian _ codec, c => codec.encode (String.singleton c)

def encode (e : Encoding) (s : String) : Bytes :=
  match e with
  | .eastAsian _ codec => codec.encode s
  | e => s.toList.flatMap e.encodeChar

/-- In an encoding with a mark, text is written one character after the other. -/
theorem encode_of_mark {e : Encoding} (h : e.mark ≠ []) (s : String) :
    e.encode s = s.toList.flatMap e.encodeChar := by
  cases e with
  | eastAsian set codec => exact absurd rfl h
  | _ => rfl

theorem reference_ne_nil (c : Char) : reference c ≠ [] := by
  apply Utf8.encode_ne_nil
  intro h
  have := congrArg String.toList h
  simp at this

theorem readUnits_some (cs : List Char) :
    readUnits (cs.map some) = ⟨String.ofList cs, false⟩ := by
  simp [readUnits, Function.comp_def]

end Encoding

namespace Codec

def asciiChar? (b : UInt8) : Option Char :=
  if b < 0x80 then some (Char.ofNat b.toNat) else none

/-- An ASCII character is its own byte, and every other one is written as its reference. -/
def encodeAscii (c : Char) : Bytes :=
  if c.toNat < 0x80 then [UInt8.ofNat c.toNat] else Encoding.reference c

theorem encodeAscii_ne_nil (c : Char) : encodeAscii c ≠ [] := by
  unfold encodeAscii
  split
  · simp
  · exact Encoding.reference_ne_nil c

/-- The ASCII part of a set. -/
def ascii : Codec where
  units bytes := bytes.map asciiChar?
  encode s := s.toList.flatMap encodeAscii
  encode_ne_nil {s} h := by
    obtain ⟨c, r, hs⟩ := List.exists_cons_of_ne_nil (mt String.toList_eq_nil_iff.1 h)
    simp [hs, encodeAscii_ne_nil]

end Codec
end FileTail
