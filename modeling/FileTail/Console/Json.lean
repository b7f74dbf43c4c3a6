import FileTail.Read.Reader

/-!
# FileTail.Console.Json

A line as a JSON object on one line of output: its path, its file name if there is one, its text,
and when it was read. Quotes, backslashes and control characters are escaped, nothing else is.

* `Json.quote` — a text as a JSON string.
* `Line.toJson` — the object of a line; a path that is not text has none.
* `LogEntry.toJson` — the object of a message.
-/

namespace FileTail
namespace Json

def escapeChar (c : Char) : List Char :=
  match c with
  | '"' => ['\\', '"']
  | '\\' => ['\\', '\\']
  | '\x08' => ['\\', 'b']
  | '\x0c' => ['\\', 'f']
  | '\n' => ['\\', 'n']
  | '\r' => ['\\', 'r']
  | '\t' => ['\\', 't']
  | c =>
    if c.toNat < 0x20 then
      ['\\', 'u', '0', '0', Path.hexDigit (c.toNat / 16), Path.hexDigit (c.toNat % 16)]
    else [c]

def quote (s : String) : List Char := ['"'] ++ s.toList.flatMap escapeChar ++ ['"']

/-- The members of an object, with commas between them. -/
def members : List (String × List Char) → List Char
  | [] => []
  | [(k, v)] => quote k ++ [':'] ++ v
  | (k, v) :: r => quote k ++ [':'] ++ v ++ [','] ++ members r

def object (ms : List (String × List Char)) : List Char := ['\x7b'] ++ members ms ++ ['\x7d']

end Json

/-- Why exporting stopped. -/
inductive ExportFault where
  | io (why : String)
  | encode (why : String)
deriving Repr, DecidableEq, Inhabited

namespace ExportFault

def message : ExportFault → String
  | .io why => "IO error: " ++ why
  | .encode why => "Failed to encode event: " ++ why

end ExportFault

namespace Line

/-- The JSON object of a line. -/
def toJson (l : Line) : Except ExportFault (List Char) :=
  match l.path.toText? with
  | none => .error (.encode "path contains invalid UTF-8 characters")
  | some path =>
    .ok (Json.object (
      [("path", Json.quote path)] ++
      (l.fileName.toList.map fun n => ("file_name", Json.quote n)) ++
      [("line", Json.quote l.text), ("observed_time_unix_nano", Nat.toDigits 10 l.readAt)]))

/-- The objects of a batch, each followed by a newline. -/
def batchToJson : List Line → Except ExportFault (List Char)
  | [] => .ok []
  | l :: r =>
    match l.toJson with
    | .error e => .error e
    | .ok text =>
      match batchToJson r with
      | .error e => .error e
      | .ok rest => .ok (text ++ ['\n'] ++ rest)

theorem toJson_ok {l : Line} (h : l.path.toText?.isSome) : ∃ text, l.toJson = .ok text := by
  obtain ⟨path, hpath⟩ := Option.isSome_iff_exists.1 h
  exact ⟨_, by simp only [toJson, hpath]; rfl⟩

theorem batchToJson_ok {batch : List Line} (h : ∀ l ∈ batch, l.path.toText?.isSome) :
    ∃ text, batchToJson batch = .ok text := by
  induction batch with
  | nil => exact ⟨[], rfl⟩
  | cons l batch ih =>
    obtain ⟨text, htext⟩ := toJson_ok (h l List.mem_cons_self)
    obtain ⟨rest, hrest⟩ := ih fun other hother => h other (List.mem_cons_of_mem _ hother)
    exact ⟨text ++ ['\n'] ++ rest, by simp only [batchToJson, htext, hrest]⟩

theorem batchToJson_append {a b : List Line} {left right : List Char}
    (ha : batchToJson a = .ok left) (hb : batchToJson b = .ok right) :
    batchToJson (a ++ b) = .ok (left ++ right) := by
  induction a generalizing left with
  | nil =>
    cases ha
    exact hb
  | cons l a ih =>
    unfold batchToJson at ha
    split at ha
    · cases ha
    · rename_i text htext
      split at ha
      · cases ha
      · rename_i rest hrest
        cases ha
        simp only [List.cons_append, batchToJson, htext, ih hrest, List.append_assoc]

end Line

namespace LogValue

def toJson : LogValue → List Char
  | .number n => Nat.toDigits 10 n
  | .text s => Json.quote s

end LogValue

namespace LogEntry

def toJson (e : LogEntry) : List Char :=
  Json.object (
    [("msg", Json.quote e.message), ("level", Nat.toDigits 10 e.severity.number),
     ("target", Json.quote e.source.name)] ++
    e.fields.map fun f => (f.1, f.2.toJson))

end LogEntry
end FileTail
