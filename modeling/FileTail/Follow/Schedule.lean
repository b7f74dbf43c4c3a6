import FileTail.Channel
import FileTail.Follow.Follower

/-!
# FileTail.Follow.Schedule

A follower run in virtual time. The schedule holds the clock, the probes and reads that are under
way, the next poll, and the channel the batches go to. At one instant the follower takes, in this
order, its cancellation, then what is finished, then a poll that is due. While a send waits for room
nothing else is taken, so that polls can be late.

* `Schedule.turn` — the one thing the follower does next at the present instant, if any.
* `Schedule.settle` — all it does at the present instant.
* `Schedule.advance` — all it does until a time.
-/

namespace FileTail

/-- How long probes and reads take, and what they find when that time has passed. -/
structure Files where
  look : Path → Sighting
  fetch : Request → Except ReadFailure Bytes
  lookDelay : Path → Nat
  fetchDelay : Path → Nat

/-- A probe or read under way. -/
structure Job where
  stage : Stage
  /-- How long it still has to wait once it has begun. -/
  delay : Nat
deriving Repr, DecidableEq, Inhabited

/-- A job that waits until a time. -/
structure Sleeper where
  due : Nat
  job : Job
deriving Repr, DecidableEq, Inhabited

/-- What can be seen of a run from outside. -/
inductive Mark where
  | call (now : Nat) (stage : Stage)
  | log (entry : LogEntry)
deriving Repr, DecidableEq, Inhabited

structure Schedule where
  now : Nat
  period : Nat
  nextTick : Nat
  follower : Follower
  channel : Channel (List Line)
  /-- Jobs that can go on, the first one first. -/
  ready : List Job
  /-- Jobs that wait, ordered by their times; those of one time in the order in which they came. -/
  sleeping : List Sleeper
  cancelled : Bool
  /-- The number of the send that is under way. -/
  ticket : Nat
  /-- How the send under way fares. -/
  sending : SendState
  /-- The latest mark first. -/
  marks : List Mark

namespace Mark

def entry? : Mark → Option LogEntry
  | .log e => some e
  | .call _ _ => none

end Mark

namespace Schedule

def new (f : Follower) (period capacity : Nat) : Schedule :=
  { now := 0, period := period, nextTick := 0, follower := f, channel := .new capacity,
    ready := [], sleeping := [], cancelled := false, ticket := 0, sending := .unknown, marks := [] }

def mark (s : Schedule) (m : Mark) : Schedule := { s with marks := m :: s.marks }

/-- Begin a job. -/
def start (s : Schedule) (job : Job) : Schedule :=
  { s with ready := s.ready ++ [job], marks := .call s.now job.stage :: s.marks }

/-- Begin what the follower asks for. -/
def perform (files : Files) (s : Schedule) (a : Action) : Schedule :=
  match a with
  | .probe p => s.start ⟨.probing p, files.lookDelay p⟩
  | .read q => s.start ⟨.reading q, files.fetchDelay q.path⟩
  | .send batch =>
    let (channel, state) := s.channel.send 0 (s.ticket + 1) batch
    { s with channel := channel, ticket := s.ticket + 1, sending := state }
  | .log e => s.mark (.log e)

/-- Hand an event to the follower. -/
def apply (files : Files) (s : Schedule) (e : Event) : Schedule :=
  let (follower, actions) := s.follower.step ⟨s.now, 0⟩ e
  actions.foldl (perform files) { s with follower := follower }

/-- Keep a job waiting behind those that are due no later. -/
def insertSleeper (x : Sleeper) : List Sleeper → List Sleeper
  | [] => [x]
  | y :: r => if y.due ≤ x.due then y :: insertSleeper x r else x :: y :: r

/-- Go on with a job: it begins to wait, or it looks at its file. -/
def resume (files : Files) (s : Schedule) (job : Job) : Schedule :=
  if job.delay = 0 then
    match job.stage with
    | .probing p => s.apply files (.probed p (files.look p))
    | .reading q => s.apply files (.fetched q (files.fetch q))
  else
    let sleeper : Sleeper := ⟨s.now + job.delay, ⟨job.stage, 0⟩⟩
    { s with sleeping := insertSleeper sleeper s.sleeping }

/-- A poll that is up to this many milliseconds late does not move the polls after it. -/
def tickTolerance : Nat := 5

/-- When to poll after a poll that was due at `due` and came at `now`. -/
def tickAfter (period due now : Nat) : Nat :=
  if due + tickTolerance < now then now + period - (now - due) % period else due + period

/-- How the send under way fares now. -/
def checkSend (s : Schedule) : Schedule :=
  match s.sending with
  | .waiting =>
    let (channel, state) := s.channel.poll s.ticket
    { s with channel := channel, sending := state }
  | _ => s

/-- Give up the send under way. -/
def giveUpSend (s : Schedule) : Schedule :=
  { s with channel := s.channel.abandon s.ticket, sending := .unknown }

def turn (files : Files) (s : Schedule) : Option Schedule :=
  match s.follower.phase with
  | .stopped => none
  | .sending _ _ _ =>
    let s := s.checkSend
    match s.sending with
    | .sent => some (s.apply files .sent)
    | .waiting => if s.cancelled then some (s.giveUpSend.apply files .cancelled) else none
    | _ => some (s.apply files .refused)
  | .polling =>
    if s.cancelled then some (s.apply files .cancelled)
    else
      match s.ready with
      | job :: r => some ({ s with ready := r }.resume files job)
      | [] =>
        if s.nextTick ≤ s.now then
          some ({ s with nextTick := tickAfter s.period s.nextTick s.now }.apply files .ticked)
        else none

/-- At most `fuel` turns. -/
def turns (files : Files) : (fuel : Nat) → Schedule → Schedule
  | 0, s => s
  | fuel + 1, s =>
    match s.turn files with
    | none => s
    | some s => turns files fuel s

/-- Enough turns for one instant: each file has one cycle per poll, of at most five turns, and at
most as many polls as the tolerance allows for are due at once. -/
def turnBound (s : Schedule) : Nat :=
  5 * (s.follower.watcher.files.entries.length + 1) * (tickTolerance + 3) +
    5 * (s.ready.length + 1)

def settle (files : Files) (s : Schedule) : Schedule := turns files s.turnBound s

/-- Let the time be `t`: jobs whose time has come can go on. -/
def wake (s : Schedule) (t : Nat) : Schedule :=
  let due := s.sleeping.takeWhile (·.due ≤ t)
  { s with
    now := t
    ready := s.ready ++ due.map (·.job)
    sleeping := s.sleeping.dropWhile (·.due ≤ t) }

/-- The next time after now at which something is due. -/
def nextTime? (s : Schedule) : Option Nat :=
  let sleeper := (s.sleeping.head?).map (·.due)
  match s.follower.phase with
  | .stopped => none
  | .sending _ _ _ => sleeper
  | .polling =>
    match sleeper with
    | none => some s.nextTick
    | some t => some (min t s.nextTick)

/-- At most `fuel` instants up to time `t`. -/
def instants (files : Files) (t : Nat) : (fuel : Nat) → Schedule → Schedule
  | 0, s => s.wake t
  | fuel + 1, s =>
    match s.nextTime? with
    | none => s.wake t
    | some next =>
      if next ≤ t then instants files t fuel ((s.wake (max next s.now)).settle files)
      else s.wake t

/-- Let `ms` milliseconds pass. -/
def advance (files : Files) (ms : Nat) (s : Schedule) : Schedule :=
  instants files (s.now + ms) (2 * ms + s.sleeping.length + 1) s

end Schedule
end FileTail
