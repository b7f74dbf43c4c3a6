/-!
# FileTail.Escape

Delimiters are typed on a command line, where a newline cannot be. A backslash followed by `n`,
`r`, `t`, `0` or a backslash stands for newline, carriage return, tab, NUL and backslash; any
other backslash stands for itself.

* `expand` reads the escapes, `escape` writes them.
* `expand_escape` — every text can be typed.
-/

namespace FileTail
namespace Escape

/-- The character that a letter after a backslash stands for. -/
def letter? : Char → Option Char
  | 'n' => some '\n'
  | 'r' => some '\r'
  | 't' => some '\t'
  | '0' => some '\x00'
  | '\\' => some '\\'
  | _ => none

def expandChars : List Char → List Char
  | [] => []
  | [c] => [c]
  | c :: d :: r =>
    if c = '\\' then
      match letter? d with
      | some e => e :: expandChars r
      | none => c :: expandChars (d :: r)
    else c :: expandChars (d :: r)

def escapeChar : Char → List Char
  | '\n' => ['\\', 'n']
  | '\r' => ['\\', 'r']
  | '\t' => ['\\', 't']
  | '\x00' => ['\\', '0']
  | '\\' => ['\\', '\\']
  | c => [c]

def escapeChars (s : List Char) : List Char := s.flatMap escapeChar

def expand (raw : String) : String := String.ofList (expandChars raw.toList)

def escape (s : String) : String := String.ofList (escapeChars s.toList)

theorem expandChars_cons {c : Char} (h : c ≠ '\\') (r : List Char) :
    expandChars (c :: r) = c :: expandChars r := by
  cases r with
  | nil => rfl
  | cons d r => simp [expandChars, h]

theorem expandChars_escape {d e : Char} (h : letter? d = some e) (r : List Char) :
    expandChars ('\\' :: d :: r) = e :: expandChars r := by
  simp [expandChars, h]

theorem expandChars_escapeChar (c : Char) (r : List Char) :
    expandChars (escapeChar c ++ r) = c :: expandChars r := by
  unfold escapeChar
  split
  · exact expandChars_escape rfl r
  · exact expandChars_escape rfl r
  · exact expandChars_escape rfl r
  · exact expandChars_escape rfl r
  · exact expandChars_escape rfl r
  · exact expandChars_cons ‹_› r

theorem expandChars_escapeChars (s : List Char) : expandChars (escapeChars s) = s := by
  induction s with
  | nil => rfl
  | cons c r ih =>
    show expandChars (escapeChar c ++ escapeChars r) = c :: r
    rw [expandChars_escapeChar, ih]

theorem expand_escape (s : String) : expand (escape s) = s := by
  simp [expand, escape, expandChars_escapeChars]

end Escape
end FileTail
