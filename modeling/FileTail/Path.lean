import FileTail.Encoding.Utf8
import FileTail.Text.Printable

/-!
# FileTail.Path

Paths of files are byte strings. Two spellings name the same watched file when their components
agree: empty parts and dots count for nothing, except for a dot at the start of a relative path.

* `Path.components` — the parts that matter; `Path.key` is what paths are compared by.
* `Path.fileName?` — the last component, if it is a name.
* `Path.quoted` — the path as it stands in a log message.
-/

namespace FileTail

structure Path where
  bytes : Bytes
deriving Repr, DecidableEq, Inhabited

inductive Component where
  | root
  | here
  | parent
  | name (bytes : Bytes)
deriving Repr, DecidableEq, Inhabited

namespace Path

def slash : UInt8 := 0x2F

def dot : UInt8 := 0x2E

def ofString (s : String) : Path := ⟨Utf8.encode s⟩

/-- The path as text, if it is valid UTF-8. -/
def toText? (p : Path) : Option String := Utf8.decode? p.bytes

/-- The parts between slashes, empty ones included. -/
def parts : Bytes → List Bytes
  | [] => [[]]
  | b :: r =>
    if b = slash then [] :: parts r
    else
      match parts r with
      | [] => [[b]]
      | p :: ps => (b :: p) :: ps

/-- The component that a part within a path stands for. -/
def component? (part : Bytes) : Option Component :=
  if part = [] ∨ part = [dot] then none
  else if part = [dot, dot] then some .parent
  else some (.name part)

def components (p : Path) : List Component :=
  match parts p.bytes with
  | [] => []
  | first :: rest =>
    let start :=
      if first = [] ∧ rest ≠ [] then [.root]
      else if first = [dot] then [.here]
      else (component? first).toList
    start ++ rest.filterMap component?

/-- Paths with equal keys name the same file. -/
abbrev Key := List Component

abbrev key (p : Path) : Key := p.components

def fileName? (p : Path) : Option Bytes :=
  match p.components.getLast? with
  | some (.name bytes) => some bytes
  | _ => none

/-- The file name as text: the last component, if it is a name and valid UTF-8. -/
def fileNameText? (p : Path) : Option String := p.fileName?.bind Utf8.decode?

/-! ## Quoting -/

/-- The character that starts a byte list and its length in bytes. -/
def leadingChar? (bytes : Bytes) : Option (Char × Nat) :=
  [1, 2, 3, 4].findSome? fun n =>
    match Utf8.units (bytes.take n) with
    | [some c] => some (c, n)
    | _ => none

def hexDigit (n : Nat) : Char := if n < 10 then Char.ofNat (48 + n) else Char.ofNat (87 + n)

def quoteChar (c : Char) : List Char :=
  match c with
  | '\x00' => ['\\', '0']
  | '\t' => ['\\', 't']
  | '\r' => ['\\', 'r']
  | '\n' => ['\\', 'n']
  | '\\' => ['\\', '\\']
  | '"' => ['\\', '"']
  | c => if Text.isPrintable c then [c]
    else ['\\', 'u', '\x7b'] ++ Nat.toDigits 16 c.toNat ++ ['\x7d']

/-- A byte that is no part of a character. -/
def quoteByte (b : UInt8) : List Char :=
  ['\\', 'x', (hexDigit (b.toNat / 16)).toUpper, (hexDigit (b.toNat % 16)).toUpper]

/-- Quote what follows the next `skip` bytes, which belong to a character shown before. -/
def quoteBytes : (skip : Nat) → Bytes → List Char
  | _, [] => []
  | skip + 1, _ :: r => quoteBytes skip r
  | 0, b :: r =>
    match leadingChar? (b :: r) with
    | some (c, n) => quoteChar c ++ quoteBytes (n - 1) r
    | none => quoteByte b ++ quoteBytes 0 r

def quoted (p : Path) : String := String.ofList (['"'] ++ quoteBytes 0 p.bytes ++ ['"'])

end Path
end FileTail
