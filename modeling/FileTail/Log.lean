/-!
# FileTail.Log

Messages of the program as data. Whoever runs it decides where they go. A message names the part of
the program that it comes from, so that a filter can tell the parts apart.

* `LogEntry.toLine` — a message as one line of text, on which no character can command a terminal.
-/

namespace FileTail

/-- The part of the program that a message comes from. -/
inductive LogSource where
  | program
  | agent
  | follower
  | watcher
  | reader
deriving Repr, DecidableEq, Inhabited

inductive Severity where
  | info
  | warn
  | error
deriving Repr, DecidableEq, Inhabited

inductive LogValue where
  | number (n : Nat)
  | text (s : String)
deriving Repr, DecidableEq, Inhabited

structure LogEntry where
  source : LogSource
  severity : Severity
  message : String
  fields : List (String × LogValue)
deriving Repr, DecidableEq, Inhabited

/-- How messages are written. -/
inductive LogFormat where
  | text
  | json
deriving Repr, DecidableEq, Inhabited

namespace LogSource

/-- The name that a filter knows the part by. -/
def name : LogSource → String
  | .program => "hostlog"
  | .agent => "hostlog::init::agent"
  | .follower => "hostlog::receivers::tail::receiver"
  | .watcher => "hostlog::receivers::tail::detector"
  | .reader => "hostlog::receivers::tail::reader"

end LogSource

namespace Severity

def label : Severity → String
  | .info => "INFO"
  | .warn => "WARN"
  | .error => "ERROR"

/-- The severity in messages written as JSON. -/
def number : Severity → Nat
  | .info => 30
  | .warn => 40
  | .error => 50

end Severity

namespace LogValue

def toText : LogValue → String
  | .number n => toString n
  | .text s => s

end LogValue

namespace LogEntry

def info (source : LogSource) (message : String) : LogEntry := ⟨source, .info, message, []⟩

def warn (source : LogSource) (message : String) (fields : List (String × LogValue)) : LogEntry :=
  ⟨source, .warn, message, fields⟩

def error (source : LogSource) (message : String) (fields : List (String × LogValue)) : LogEntry :=
  ⟨source, .error, message, fields⟩

/-- The names of the fields; the message itself is one. -/
def names (e : LogEntry) : List String := "message" :: e.fields.map (·.1)

/-- A character as a line of text shows it: those that a terminal would take as a command or as the
start of one are shown by their numbers. -/
def showChar (c : Char) : List Char :=
  match c with
  | '\x07' => "\\x07".toList
  | '\x08' => "\\x08".toList
  | '\x0c' => "\\x0c".toList
  | '\x1b' => "\\x1b".toList
  | '\x7f' => "\\x7f".toList
  | c =>
    if 0x80 ≤ c.toNat ∧ c.toNat ≤ 0x9F then
      ['\\', 'u', '\x7b'] ++ Nat.toDigits 16 c.toNat ++ ['\x7d']
    else [c]

theorem showChar_of_plain {c : Char} (h : 0x20 ≤ c.toNat) (h' : c.toNat < 0x7F) :
    showChar c = [c] := by
  unfold showChar
  split
  · exact absurd h (by decide)
  · exact absurd h (by decide)
  · exact absurd h (by decide)
  · exact absurd h (by decide)
  · exact absurd h' (by decide)
  · rw [if_neg (by omega)]

def showText (s : String) : String := String.ofList (s.toList.flatMap showChar)

def toLine (e : LogEntry) : String :=
  String.intercalate " "
    ([e.severity.label, showText e.message] ++
      e.fields.map fun f => f.1 ++ "=" ++ showText f.2.toText)

end LogEntry
end FileTail
