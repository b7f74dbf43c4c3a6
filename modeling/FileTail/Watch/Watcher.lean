import FileTail.Log
import FileTail.Path
import FileTail.Table
import FileTail.Throttle
import FileTail.Watch.Record

/-!
# FileTail.Watch.Watcher

All watched files together. A file is looked at by one cycle at a time: a round reserves every
file that is idle, and a file stays reserved until its cycle is released.

* `Watcher.startRound` — reserve the idle files, in watch order.
* `Watcher.look` — what a look at one file means: a change, nothing, or a failure that may be worth
  a message.
* `Watcher.release` — the end of a cycle.
-/

namespace FileTail

/-- The outcome of looking at a path. -/
inductive Sighting where
  | missing
  | metadataFailed (why : String)
  | headFailed (why : String)
  | seen (fingerprint : Fingerprint)
deriving Repr, DecidableEq, Inhabited

inductive LookFault where
  | metadata
  | head
deriving Repr, DecidableEq, Inhabited

structure Watched where
  /-- The path as it was first written. -/
  path : Path
  record : FileRecord
  reserved : Bool
deriving Repr, DecidableEq, Inhabited

structure Watcher where
  /-- In watch order. -/
  files : Table Path.Key Watched
  chunk? : Option Nat
  throttle : Throttle (LookFault × Path.Key)
deriving Repr

namespace LookFault

def message (why : String) : LookFault → String
  | .metadata => "Failed to read file metadata: " ++ why
  | .head => "Failed to read file head: " ++ why

end LookFault

namespace Watcher

/-- Watch a path unless it is watched already, under this or another spelling. -/
def watch (files : Table Path.Key Watched) (p : Path) : Table Path.Key Watched :=
  if files.contains p.key then files else files.put p.key ⟨p, .fresh, false⟩

def new (paths : List Path) (chunk? : Option Nat) (threshold cooldown : Nat) : Watcher :=
  ⟨paths.foldl watch .empty, chunk?, .new threshold cooldown⟩

def paths (w : Watcher) : List Path := w.files.values.map (·.path)

def idlePaths (w : Watcher) : List Path :=
  (w.files.values.filter (!·.reserved)).map (·.path)

/-- Reserve every idle file for a new cycle. -/
def startRound (w : Watcher) : List Path × Watcher :=
  (w.idlePaths,
   { w with files := ⟨w.files.entries.map fun e => (e.1, { e.2 with reserved := true })⟩ })

def isReserved (w : Watcher) (p : Path) : Bool :=
  match w.files.get? p.key with
  | none => false
  | some f => f.reserved

def record? (w : Watcher) (p : Path) : Option FileRecord := (w.files.get? p.key).map (·.record)

/-- Count a failed look and put it into a message, if one is due. -/
def lookFailed (w : Watcher) (now : Nat) (p : Path) (fault : LookFault) (why : String) :
    Watcher × List LogEntry :=
  let category := (fault, p.key)
  let (due, throttle) := w.throttle.fail now category
  let entry := LogEntry.warn .watcher (fault.message why)
    [("path", .text p.quoted), ("failures", .number (throttle.failures category))]
  ({ w with throttle := throttle }, if due then [entry] else [])

/-- A look that succeeded: the failures of the path are over. -/
def lookSucceeded (w : Watcher) (p : Path) : Watcher :=
  { w with throttle := (w.throttle.clear (.metadata, p.key)).clear (.head, p.key) }

def setRecord (w : Watcher) (p : Path) (r : FileRecord) : Watcher :=
  { w with files := w.files.adjust p.key fun f => { f with record := r } }

/-- Compare what was seen at a path with what is remembered. The path stays reserved. -/
def look (w : Watcher) (now : Nat) (p : Path) (sighting : Sighting) :
    Watcher × Option Change × List LogEntry :=
  match w.record? p with
  | none => (w, none, [])
  | some record =>
    match sighting with
    | .missing => (w, none, [])
    | .metadataFailed why =>
      let (w, entries) := w.lookFailed now p .metadata why
      (w, none, entries)
    | .headFailed why =>
      let (w, entries) := w.lookFailed now p .head why
      (w, none, entries)
    | .seen fingerprint =>
      let (record, change) := record.look w.chunk? fingerprint
      ((w.lookSucceeded p).setRecord p record, change, [])

/-- End the cycle of a path. -/
def release (w : Watcher) (p : Path) (v : Verdict) : Watcher :=
  { w with
    files := w.files.adjust p.key fun f =>
      { f with record := f.record.conclude v, reserved := false } }

/-- A round changes nothing about a file but that it is reserved. -/
theorem get?_startRound (w : Watcher) (k : Path.Key) :
    w.startRound.2.files.get? k = (w.files.get? k).map fun f => { f with reserved := true } :=
  w.files.get?_map_values k fun f => { f with reserved := true }

end Watcher
end FileTail
