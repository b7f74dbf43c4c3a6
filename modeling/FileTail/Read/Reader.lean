import FileTail.Log
import FileTail.Path
import FileTail.Read.Plan
import FileTail.Table
import FileTail.Throttle

/-!
# FileTail.Read.Reader

The reading side of all watched files: up to where each was read, and which failures are due a
message.

* `Reader.plan` — what to read after a change.
* `Reader.absorb` — the lines of what was read, or a failure; a failed read moves no offset.
-/

namespace FileTail

/-- The time since the start in milliseconds, and the time of day in nanoseconds since 1970. -/
structure Clock where
  now : Nat
  wall : Nat
deriving Repr, DecidableEq, Inhabited

/-- A complete line of a watched file. -/
structure Line where
  path : Path
  fileName : Option String
  text : String
  /-- When it was read, in nanoseconds since 1970. -/
  readAt : Nat
deriving Repr, DecidableEq, Inhabited

structure Request where
  path : Path
  window : Window
deriving Repr, DecidableEq, Inhabited

/-- Why a read failed. -/
inductive ReadFailure where
  | opening (why : String)
  | reading (why : String)
deriving Repr, DecidableEq, Inhabited

inductive ReadFault where
  | opening
  | reading
  | oversize
deriving Repr, DecidableEq, Inhabited

/-- What a finished read gives. -/
structure Yield where
  lines : List Line
  skipped : Nat
  verdict : Verdict
deriving Repr, DecidableEq, Inhabited

structure Reader where
  limits : Limits
  format : LineFormat
  includeFileName : Bool
  offsets : Table Path.Key Nat
  throttle : Throttle (ReadFault × Path.Key)
deriving Repr

namespace ReadFailure

def fault : ReadFailure → ReadFault
  | .opening _ => .opening
  | .reading _ => .reading

def message : ReadFailure → String
  | .opening why => "failed to open file: " ++ why
  | .reading why => "failed to read file: " ++ why

end ReadFailure

namespace Reader

def new (s : Settings) (format : LineFormat) : Reader :=
  { limits := .ofSettings s
    format := format
    includeFileName := s.includeFileName
    offsets := .empty
    throttle := .new s.reportThreshold s.reportCooldown }

/-- A reader for settings whose encoding is known. -/
def ofSettings (s : Settings) (codecs : EastAsian → Codec := fun _ => .ascii) :
    Except StartFault Reader :=
  match s.lineFormat? codecs with
  | none => .error (.unknownEncoding s.encodingLabel)
  | some format => .ok (new s format)

def offset? (r : Reader) (p : Path) : Option Nat := r.offsets.get? p.key

def width (r : Reader) : Nat := r.format.width

/-- Count a window that gives up content, and put it into a message, if one is due. -/
def noteOversize (r : Reader) (now : Nat) (p : Path) (unread skipped : Nat) :
    Reader × List LogEntry :=
  let category := (ReadFault.oversize, p.key)
  let (due, throttle) := r.throttle.fail now category
  let entry := LogEntry.warn .reader "File is growing faster than it can be read, skipping input"
    [("path", .text p.quoted), ("unread", .number unread), ("skipped", .number skipped),
     ("occurrences", .number (throttle.failures category))]
  ({ r with throttle := throttle }, if due then [entry] else [])

/-- Decide what to read after a change of the file at `p`. -/
def plan (r : Reader) (now : Nat) (p : Path) (c : Change) : Reader × Plan × List LogEntry :=
  let (offset, plan) := r.limits.plan r.width (r.offset? p) c
  let r := { r with offsets := r.offsets.put p.key offset }
  match plan with
  | .skip _ => (r, plan, [])
  | .read w =>
    if w.midLine then
      let (r, entries) := r.noteOversize now p (c.size - offset) (w.position - offset)
      (r, plan, entries)
    else if w.backlog then (r, plan, [])
    else ({ r with throttle := r.throttle.clear (.oversize, p.key) }, plan, [])

/-- Count a failed read and put it into a message, if one is due. -/
def readFailed (r : Reader) (now : Nat) (q : Request) (e : ReadFailure) :
    Reader × List LogEntry :=
  let category := (e.fault, q.path.key)
  let (due, throttle) := r.throttle.fail now category
  let entry := LogEntry.warn .reader ("Failed to read file: " ++ e.message)
    [("path", .text q.path.quoted), ("position", .number q.window.position),
     ("len", .number q.window.length), ("failures", .number (throttle.failures category))]
  ({ r with throttle := throttle }, if due then [entry] else [])

def readSucceeded (r : Reader) (p : Path) : Reader :=
  { r with throttle := (r.throttle.clear (.opening, p.key)).clear (.reading, p.key) }

def lineOf (r : Reader) (clock : Clock) (p : Path) (text : String) : Line :=
  ⟨p, if r.includeFileName then p.fileNameText? else none, text, clock.wall⟩

/-- Take in what a read gave. A read of a file that has no offset gives nothing. -/
def absorb (r : Reader) (clock : Clock) (q : Request) (result : Except ReadFailure Bytes) :
    Reader × Yield × List LogEntry :=
  match result with
  | .error e =>
    -- the offset stays, so that the same range is asked for again
    let (r, entries) := r.readFailed clock.now q e
    (r, ⟨[], 0, .revisit⟩, entries)
  | .ok bytes =>
    let r := r.readSucceeded q.path
    match r.offset? q.path with
    | none => (r, ⟨[], 0, .settled⟩, [])
    | some offset =>
      let h := r.limits.harvest r.format offset q.window bytes
      ({ r with offsets := r.offsets.put q.path.key h.offset },
       ⟨h.lines.map (r.lineOf clock q.path), h.skipped, h.verdict⟩, [])

end Reader
end FileTail
