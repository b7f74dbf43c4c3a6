import FileTail.Bytes
import FileTail.Encoding.SingleByte

/-!
# FileTail.Encoding

The text encodings that files can be in, their registered names, the width of their code units,
and the mark that may stand at the start of a file.

The tables of the East Asian sets, which have several bytes per character, are not part of the
library. How such a set is read and written is left open (`Codec`), and what is proved of files in one
holds for every codec.
-/

namespace FileTail

inductive ByteOrder where
  | little
  | big
deriving Repr, DecidableEq, Inhabited

inductive EastAsian where
  | big5
  | eucJp
  | eucKr
  | gbk
  | gb18030
  | iso2022Jp
  | shiftJis
deriving Repr, DecidableEq, Inhabited

/-- How text of an East Asian set is read and written. Text is written as a whole, since a set may
switch between several tables. -/
structure Codec where
  /-- The characters of a byte list, `none` for each malformed part. -/
  units : Bytes → List (Option Char)
  encode : String → Bytes
  encode_ne_nil : ∀ {s : String}, s ≠ "" → encode s ≠ []

inductive Encoding where
  | utf8
  | utf16 (order : ByteOrder)
  | singleByte (set : SingleByte)
  | eastAsian (set : EastAsian) (codec : Codec)
  /-- Stands for encodings that are refused for safety: all text is one malformed character. -/
  | replacement
deriving Inhabited

namespace EastAsian

def name : EastAsian → String
  | .big5 => "Big5"
  | .eucJp => "EUC-JP"
  | .eucKr => "EUC-KR"
  | .gbk => "GBK"
  | .gb18030 => "gb18030"
  | .iso2022Jp => "ISO-2022-JP"
  | .shiftJis => "Shift_JIS"

end EastAsian

namespace Encoding

def name : Encoding → String
  | .utf8 => "UTF-8"
  | .utf16 .little => "UTF-16LE"
  | .utf16 .big => "UTF-16BE"
  | .singleByte set => set.name
  | .eastAsian set _ => set.name
  | .replacement => "replacement"

instance : Repr Encoding := ⟨fun e _ => e.name⟩

/-- The width of a code unit in bytes. Text starts on a multiple of it. -/
def width : Encoding → Nat
  | .utf16 _ => 2
  | _ => 1

/-- The byte order mark of the encoding; empty where there is none. -/
def mark : Encoding → Bytes
  | .utf8 => [0xEF, 0xBB, 0xBF]
  | .utf16 .little => [0xFF, 0xFE]
  | .utf16 .big => [0xFE, 0xFF]
  | _ => []

/-- How many bytes at the start of a file belong to its mark. -/
def markLength (e : Encoding) (bytes : Bytes) : Nat :=
  if e.mark.isPrefixOf bytes then e.mark.length else 0

theorem width_pos (e : Encoding) : 0 < e.width := by
  cases e <;> simp [width]

theorem markLength_le (e : Encoding) (bytes : Bytes) : e.markLength bytes ≤ bytes.length := by
  unfold markLength
  split
  · rename_i h
    exact (List.isPrefixOf_iff_prefix.1 h).length_le
  · exact Nat.zero_le _

end Encoding
end FileTail
