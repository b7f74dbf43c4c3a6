import FileTail.Agent.Basic
import FileTail.Disk

/-!
# FileTail.Agent.Session

An agent over files in memory, from its start to its end: files change, time passes, and the agent
is told to stop. After each of these the agent does all that it can do at that instant.

* `Session.start` — an agent at its start, or why it cannot start.
* `Session.act` — what one occurrence leads to.
* `Session.awaitLines` — let time pass until so many lines were printed.
-/

namespace FileTail

/-- A change of files or directories. -/
inductive DiskChange where
  | write (p : Path) (bytes : Bytes)
  | append (p : Path) (bytes : Bytes)
  | remove (p : Path)
  | rename (source target : Path)
  | makeDirectory (p : Path)
deriving Repr, DecidableEq, Inhabited

inductive Occurrence where
  | change (c : DiskChange)
  | advance (ms : Nat)
  | cancel
  /-- The program is told by the system to end. -/
  | signal
deriving Repr, DecidableEq, Inhabited

structure Session where
  disk : Disk
  agent : Agent

/-- What an occurrence shows. -/
structure SessionReport where
  /-- What was printed. -/
  printed : Bytes
  log : List LogEntry
deriving Repr, Inhabited

namespace Disk

def change (d : Disk) : DiskChange → Disk
  | .write p bytes => d.write p bytes
  | .append p bytes => d.append p bytes
  | .remove p => d.remove p
  | .rename source target => d.rename source target
  | .makeDirectory p => d.makeDirectory p

end Disk

namespace Session

/-- Said when the system tells the program to end. -/
def signalled : LogEntry := .info .program "Shutdown signal received."

def settle (s : Session) : Session := { s with agent := s.agent.settle s.disk.files }

/-- What was printed since `before` bytes were, and the messages since the last report. -/
def report (before : Nat) (s : Session) : Session × SessionReport :=
  ({ s with agent := { s.agent with schedule := { s.agent.schedule with marks := [] } } },
   ⟨s.agent.printed.drop before, s.agent.schedule.marks.reverse.filterMap Mark.entry?⟩)

def start (options : RunOptions) (disk : Disk) (output : Output) :
    Except StartFault (Session × SessionReport) :=
  match Follower.ofSettings options.settings true with
  | .error e => .error e
  | .ok f =>
    let agent := Agent.new options f output
    let agent := ((agent.say Opening.starting).say Follower.made).say Follower.starting
    .ok ((Session.mk disk agent).settle.report output.written.length)

/-- What an occurrence does by itself. -/
def play (s : Session) : Occurrence → Session
  | .change c => { s with disk := s.disk.change c }
  | .advance ms => { s with agent := s.agent.advance s.disk.files ms }
  | .cancel => { s with agent := s.agent.step .cancel }
  | .signal => { s with agent := (s.agent.say signalled).step .cancel }

def act (s : Session) (o : Occurrence) : Session × SessionReport :=
  (s.play o).settle.report s.agent.printed.length

/-- How many lines were printed. -/
def lineCount (r : SessionReport) : Nat := r.printed.count 0x0A

/-- Let polls happen, at least one and at most `fuel + 1`, until so many lines were printed. -/
def awaitLines (period : Nat) : (fuel lines : Nat) → Session → Session × SessionReport
  | 0, _, s => s.act (.advance period)
  | fuel + 1, lines, s =>
    let (s, r) := s.act (.advance period)
    if lines ≤ lineCount r then (s, r)
    else
      let (s, more) := awaitLines period fuel (lines - lineCount r) s
      (s, ⟨r.printed ++ more.printed, r.log ++ more.log⟩)

end Session
end FileTail
