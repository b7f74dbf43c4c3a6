import FileTail.Read.Reader
import FileTail.Watch.Watcher

/-!
# FileTail.Follow.Follower

The loop that follows the watched files. One state owns what is remembered of every file; what
happens comes in as events, one at a time, and what is to be done goes out as actions. Probes and
reads are under way between an action and the event that ends it, at most one per file. Lines are
sent as one batch per read, and while a send is under way no other event is taken but its end and
cancellation.

* `Follower.step` — what an event does.
* `Follower.run` — a list of events.
-/

namespace FileTail

/-- What is under way for a file. -/
inductive Stage where
  | probing (path : Path)
  | reading (request : Request)
deriving Repr, DecidableEq, Inhabited

inductive Phase where
  | polling
  /-- A batch is being sent; its file's cycle ends with `verdict` when the send has ended. -/
  | sending (path : Path) (verdict : Verdict) (batch : List Line)
  | stopped
deriving Repr, DecidableEq, Inhabited

/-- Counts over the whole life of the follower. -/
structure Counters where
  /-- Lines that were sent. -/
  accepted : Nat
  /-- Lines whose send failed. -/
  refused : Nat
  /-- Bytes that were given up. -/
  skipped : Nat
deriving Repr, DecidableEq, Inhabited

inductive Event where
  | cancelled
  | ticked
  | probed (path : Path) (sighting : Sighting)
  | fetched (request : Request) (result : Except ReadFailure Bytes)
  | sent
  | refused
deriving Inhabited

inductive Action where
  | probe (path : Path)
  | read (request : Request)
  | send (batch : List Line)
  | log (entry : LogEntry)
deriving Repr, DecidableEq, Inhabited

structure Follower where
  watcher : Watcher
  reader : Reader
  /-- Without an output lines are dropped. -/
  hasOutput : Bool
  underWay : List Stage
  counters : Counters
  phase : Phase
deriving Repr

namespace Stage

def path : Stage → Path
  | .probing p => p
  | .reading q => q.path

end Stage

namespace Follower

def new (s : Settings) (format : LineFormat) (hasOutput : Bool) : Follower :=
  { watcher := .new s.paths s.chunk? s.reportThreshold s.reportCooldown
    reader := .new s format
    hasOutput := hasOutput
    underWay := []
    counters := ⟨0, 0, 0⟩
    phase := .polling }

/-- A follower for settings without a fault. -/
def ofSettings (s : Settings) (hasOutput : Bool) (codecs : EastAsian → Codec := fun _ => .ascii) :
    Except StartFault Follower :=
  match s.fault? with
  | some fault => .error (.settings fault)
  | none =>
    match s.lineFormat? codecs with
    | none => .error (.unknownEncoding s.encodingLabel)
    | some format => .ok (new s format hasOutput)

/-- Said when a follower was made. -/
def made : LogEntry := .info .follower "Tail receiver initialized"

/-- Said when a follower starts. -/
def starting : LogEntry := .info .follower "Tail receiver starting"

def stopping : Action := .log (.info .follower "Tail receiver stopped")

def release (f : Follower) (p : Path) (v : Verdict) : Follower :=
  { f with watcher := f.watcher.release p v }

/-- Start a cycle for every idle file. -/
def onTick (f : Follower) : Follower × List Action :=
  let (paths, watcher) := f.watcher.startRound
  ({ f with watcher := watcher, underWay := f.underWay ++ paths.map .probing }, paths.map .probe)

def onProbed (f : Follower) (now : Nat) (p : Path) (s : Sighting) : Follower × List Action :=
  let f := { f with underWay := f.underWay.erase (.probing p) }
  let (watcher, change, entries) := f.watcher.look now p s
  let f := { f with watcher := watcher }
  match change with
  | none => (f.release p .settled, entries.map .log)
  | some c =>
    let (reader, plan, more) := f.reader.plan now p c
    let f := { f with reader := reader }
    let logs := (entries ++ more).map Action.log
    match plan with
    | .skip v => (f.release p v, logs)
    | .read w =>
      let q : Request := ⟨p, w⟩
      ({ f with underWay := f.underWay ++ [.reading q] }, logs ++ [.read q])

def onFetched (f : Follower) (clock : Clock) (q : Request) (result : Except ReadFailure Bytes) :
    Follower × List Action :=
  let f := { f with underWay := f.underWay.erase (.reading q) }
  let (reader, y, entries) := f.reader.absorb clock q result
  let counters := { f.counters with skipped := f.counters.skipped + y.skipped }
  let f := { f with reader := reader, counters := counters }
  let logs := entries.map Action.log
  if y.lines = [] ∨ f.hasOutput = false then (f.release q.path y.verdict, logs)
  else ({ f with phase := .sending q.path y.verdict y.lines }, logs ++ [.send y.lines])

/-- A send has ended well. -/
def onSent (f : Follower) (p : Path) (v : Verdict) (batch : List Line) : Follower × List Action :=
  let counters := { f.counters with accepted := f.counters.accepted + batch.length }
  ({ f with counters := counters, phase := .polling }.release p v, [])

/-- A send has failed, which is the end of the follower. -/
def onRefused (f : Follower) (p : Path) (v : Verdict) (batch : List Line) : Follower :=
  let counters := { f.counters with refused := f.counters.refused + batch.length }
  { f with counters := counters, phase := .stopped }.release p v

/-- What an event does. An event that the phase does not wait for does nothing. -/
def step (f : Follower) (clock : Clock) (e : Event) : Follower × List Action :=
  match f.phase with
  | .stopped => (f, [])
  | .sending p v batch =>
    match e with
    | .sent => f.onSent p v batch
    | .refused =>
      (f.onRefused p v batch,
       [.log (.error .follower "Output channel closed, stopping tail receiver" []), stopping])
    | .cancelled => (f.onRefused p v batch, [stopping])
    | _ => (f, [])
  | .polling =>
    match e with
    | .cancelled =>
      ({ f with phase := .stopped },
       [.log (.info .follower "Tail receiver cancelled, shutting down"), stopping])
    | .ticked => f.onTick
    | .probed p s => if .probing p ∈ f.underWay then f.onProbed clock.now p s else (f, [])
    | .fetched q result =>
      if .reading q ∈ f.underWay then f.onFetched clock q result else (f, [])
    | _ => (f, [])

/-- A list of events, each with its time, and the actions they lead to. -/
def run (f : Follower) : List (Clock × Event) → Follower × List Action
  | [] => (f, [])
  | (clock, e) :: r =>
    let (f, actions) := f.step clock e
    let (f, more) := f.run r
    (f, actions ++ more)

end Follower
end FileTail
