import FileTail.Follow.Schedule

/-!
# FileTail.Follow.Rehearsal

A follower rehearsed over files that exist only in a script: their contents and times, how long a
probe or a read of them takes, how much one read returns, and how they fail. A probe or a read finds
the file as it is when the delay has passed.

* `Script` — the files; `Script.files` — what probes and reads find.
* `Rehearsal.act` — one step of a script, followed by all that the follower does then.
-/

namespace FileTail

/-- How a scripted file fails. -/
inductive ScriptedFault where
  | metadata (why : String)
  | head (why : String)
  | opening (why : String)
  | reading (why : String)
deriving Repr, DecidableEq, Inhabited

structure ScriptedFile where
  content : Option Bytes
  modified : Option Int
  probeDelay : Nat
  readDelay : Nat
  /-- The most bytes that one read returns. -/
  readLimit : Option Nat
  fault : Option ScriptedFault
deriving Repr, DecidableEq, Inhabited

abbrev Script := Table Path.Key ScriptedFile

namespace ScriptedFile

/-- A file that does not exist. -/
def absent : ScriptedFile := ⟨none, some 0, 0, 0, none, none⟩

def look (f : ScriptedFile) : Sighting :=
  match f.fault, f.content with
  | some (.metadata why), _ => .metadataFailed why
  | some (.head why), _ => .headFailed why
  | _, none => .missing
  | _, some bytes => .seen ⟨f.modified, bytes.length, .ofBytes bytes⟩

def fetch (f : ScriptedFile) (w : Window) : Except ReadFailure Bytes :=
  match f.fault, f.content with
  | some (.opening why), _ => .error (.opening why)
  | some (.reading why), _ => .error (.reading why)
  | _, none => .error (.opening "missing")
  | _, some bytes =>
    let length := match f.readLimit with | none => w.length | some n => min n w.length
    .ok ((bytes.drop w.position).take length)

end ScriptedFile

namespace Script

def file (s : Script) (p : Path) : ScriptedFile := (s.get? p.key).getD .absent

def change (s : Script) (p : Path) (g : ScriptedFile → ScriptedFile) : Script :=
  s.put p.key (g (s.file p))

def files (s : Script) : Files :=
  { look := fun p => (s.file p).look
    fetch := fun q => (s.file q.path).fetch q.window
    lookDelay := fun p => (s.file p).probeDelay
    fetchDelay := fun p => (s.file p).readDelay }

end Script

/-- A step of a script. -/
inductive Cue where
  | write (p : Path) (bytes : Bytes)
  | append (p : Path) (bytes : Bytes)
  | truncate (p : Path) (length : Nat)
  | remove (p : Path)
  | setModified (p : Path) (time : Option Int)
  | setProbeDelay (p : Path) (ms : Nat)
  | setReadDelay (p : Path) (ms : Nat)
  | setReadLimit (p : Path) (limit : Option Nat)
  | setFault (p : Path) (fault : Option ScriptedFault)
  | advance (ms : Nat)
  /-- Take all batches that can be taken. -/
  | drain
  /-- Drop the receiving end. -/
  | close
  | cancel
deriving Repr, Inhabited

/-- What a step shows. -/
structure Report where
  marks : List Mark
  /-- How many batches wait in the channel; none once the receiving end is gone. -/
  queued : Option Nat
  batches : List (List Line)
  /-- The follower stopped in this step. -/
  stopped : Bool
deriving Repr, Inhabited

structure Rehearsal where
  script : Script
  schedule : Schedule

namespace Rehearsal

def new (script : Script) (f : Follower) (period capacity : Nat) : Rehearsal :=
  ⟨script, .new f period capacity⟩

def isStopped (r : Rehearsal) : Bool := r.schedule.follower.phase == .stopped

/-- Take batches until there is none; `fuel` bounds how many. -/
def takeAll : (fuel : Nat) → Channel (List Line) → Channel (List Line) × List (List Line)
  | 0, c => (c, [])
  | fuel + 1, c =>
    match c.receive with
    | (c, .item batch) =>
      let (c, rest) := takeAll fuel c
      (c, batch :: rest)
    | (c, _) => (c, [])

def settle (r : Rehearsal) : Rehearsal :=
  { r with schedule := r.schedule.settle r.script.files }

/-- The marks made since the last report. -/
def report (before : Bool) (batches : List (List Line)) (r : Rehearsal) : Rehearsal × Report :=
  ({ r with schedule := { r.schedule with marks := [] } },
   { marks := r.schedule.marks.reverse
     queued := if r.schedule.channel.receiving then some r.schedule.channel.queue.length else none
     batches := batches
     stopped := r.isStopped && !before })

/-- The start of the follower. -/
def start (r : Rehearsal) : Rehearsal × Report :=
  let schedule := (r.schedule.mark (.log Follower.made)).mark (.log Follower.starting)
  { r with schedule := schedule }.settle.report false []

def onScript (r : Rehearsal) (p : Path) (g : ScriptedFile → ScriptedFile) : Rehearsal :=
  { r with script := r.script.change p g }

def onChannel (r : Rehearsal) (g : Channel (List Line) → Channel (List Line)) : Rehearsal :=
  { r with schedule := { r.schedule with channel := g r.schedule.channel } }

/-- What a step does by itself, and the batches it takes. -/
def play (r : Rehearsal) : Cue → Rehearsal × List (List Line)
  | .write p bytes => (r.onScript p fun f => { f with content := some bytes }, [])
  | .append p bytes =>
    (r.onScript p fun f => { f with content := some (f.content.getD [] ++ bytes) }, [])
  | .truncate p n =>
    (r.onScript p fun f => { f with content := some ((f.content.getD []).take n) }, [])
  | .remove p => (r.onScript p fun f => { f with content := none }, [])
  | .setModified p t => (r.onScript p fun f => { f with modified := t }, [])
  | .setProbeDelay p ms => (r.onScript p fun f => { f with probeDelay := ms }, [])
  | .setReadDelay p ms => (r.onScript p fun f => { f with readDelay := ms }, [])
  | .setReadLimit p n => (r.onScript p fun f => { f with readLimit := n }, [])
  | .setFault p fault => (r.onScript p fun f => { f with fault := fault }, [])
  | .advance ms => ({ r with schedule := r.schedule.advance r.script.files ms }, [])
  | .drain =>
    let (channel, batches) := takeAll r.schedule.channel.items.length r.schedule.channel
    (r.onChannel fun _ => channel, batches)
  | .close => (r.onChannel .dropReceiver, [])
  | .cancel => ({ r with schedule := { r.schedule with cancelled := true } }, [])

def act (r : Rehearsal) (cue : Cue) : Rehearsal × Report :=
  let (played, batches) := r.play cue
  played.settle.report r.isStopped batches

end Rehearsal
end FileTail
