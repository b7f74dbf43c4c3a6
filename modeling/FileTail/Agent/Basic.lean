import FileTail.CommandLine.Program
import FileTail.Exporter
import FileTail.Follow.Schedule

/-!
# FileTail.Agent.Basic

A follower and an exporter with a channel between them, and the supervision of both. The agent runs
until it is told to stop or until one of the two ends. Then it stops the follower first; the end of
the follower closes the channel, and the exporter ends when it has written what is left in it.

What happens is a list of moves, of which each is made by one of the parts; a move that its part
cannot make does nothing. The moves may come in any order.

* `Agent.step` — one move; `Agent.run` — a list of them.
* `Agent.settle` — all that can happen at the present instant, in one order.
-/

namespace FileTail

inductive AgentPhase where
  | running
  /-- The follower was told to stop. -/
  | stoppingFollower
  /-- The follower has ended, and the exporter is to end. -/
  | stoppingExporter
  | ended
deriving Repr, DecidableEq, Inhabited

structure Agent where
  schedule : Schedule
  exporter : Exporter
  phase : AgentPhase

/-- What a part of the agent can do next. -/
inductive AgentMove where
  /-- The follower takes its next turn, among these files. -/
  | follow (files : Files)
  /-- The exporter takes the next batch, or sees that the channel is closed. -/
  | deliver
  /-- The agent sees which part has ended. -/
  | attend
  /-- The exporter is told to end with what is left in the channel. -/
  | hurry
  /-- The agent is told to stop. -/
  | cancel
  /-- Time passes. -/
  | wake (time : Nat)

namespace Destination

/-- What a destination makes of an output. -/
def sink (d : Destination) (output : Output) : Sink :=
  match d with
  | .console => .console output
  | .blackhole => .blackhole 0

end Destination

namespace Agent

/-- The room in the channel for batches that wait to be written. -/
def capacity (options : RunOptions) : Nat := max 1 options.queueSize

def new (options : RunOptions) (f : Follower) (output : Output) : Agent :=
  { schedule := .new f options.settings.pollInterval (capacity options)
    exporter := .new (options.destination.sink output)
    phase := .running }

def say (a : Agent) (e : LogEntry) : Agent := { a with schedule := a.schedule.mark (.log e) }

def isEnded (a : Agent) : Bool := a.phase == .ended

/-- The lines that were printed, as bytes. -/
def printed (a : Agent) : Bytes := a.exporter.sink.printed

def counters (a : Agent) : Counters := a.schedule.follower.counters

/-! ## Messages -/

def exportFailed (e : ExportFault) : LogEntry :=
  .error .agent "Console exporter returned from run loop with error."
    [("error", .text e.message), ("exporter_type", .text "console")]

def followerGone : LogEntry := .info .agent "Unexpected early exit of receiver."

def exporterGone : LogEntry := .warn .agent "Unexpected early exit of exporter." []

def exporterSlow : LogEntry :=
  .warn .agent "Exporters did not exit on channel close, cancelling." []

def stopped : LogEntry := .info .agent "hostlog stopped."

/-! ## Moves -/

/-- A follower that has stopped sends no more. -/
def hangUp (a : Agent) : Agent :=
  if a.schedule.follower.phase = .stopped then
    { a with schedule := { a.schedule with channel := a.schedule.channel.dropSender 0 } }
  else a

def follow? (files : Files) (a : Agent) : Option Agent :=
  (a.schedule.turn files).map fun s => { a with schedule := s }.hangUp

/-- Take over what a delivery has led to. -/
def withDelivery (a : Agent) (d : Delivery) : Agent :=
  let a := { a with exporter := d.exporter, schedule := { a.schedule with channel := d.channel } }
  match d.fault with
  | none => a
  | some e => a.say (exportFailed e)

def deliver? (a : Agent) : Option Agent :=
  (a.exporter.deliver? a.schedule.channel).map a.withDelivery

/-- Tell the follower to stop. -/
def stopFollower (a : Agent) : Agent :=
  { a with phase := .stoppingFollower, schedule := { a.schedule with cancelled := true } }

def attend? (a : Agent) : Option Agent :=
  match a.phase with
  | .running =>
    if a.exporter.ended then some (a.say exporterGone).stopFollower
    else if a.schedule.follower.phase = .stopped then some (a.say followerGone).stopFollower
    else none
  | .stoppingFollower =>
    if a.schedule.follower.phase = .stopped then some { a with phase := .stoppingExporter }
    else none
  | .stoppingExporter =>
    if a.exporter.ended then some { a.say stopped with phase := .ended } else none
  | .ended => none

def cancel? (a : Agent) : Option Agent :=
  if a.phase = .running then some a.stopFollower else none

/-- Have the exporter end with what is in the channel. -/
def hurry? (a : Agent) : Option Agent :=
  if a.phase = .stoppingExporter ∧ a.exporter.ended = false then
    some ((a.say exporterSlow).withDelivery (a.exporter.hurry a.schedule.channel))
  else none

/-- What a move leads to, if it can be made. -/
def move? (a : Agent) : AgentMove → Option Agent
  | .follow files => a.follow? files
  | .deliver => a.deliver?
  | .attend => a.attend?
  | .hurry => a.hurry?
  | .cancel => a.cancel?
  | .wake time => some { a with schedule := a.schedule.wake (max a.schedule.now time) }

def step (a : Agent) (m : AgentMove) : Agent := (a.move? m).getD a

def run (a : Agent) (ms : List AgentMove) : Agent := ms.foldl step a

/-! ## One order of moves -/

/-- What happens next at the present instant, if anything. -/
def next? (files : Files) (a : Agent) : Option AgentMove :=
  [.attend, .deliver, .follow files].find? fun m => (a.move? m).isSome

/-- At most `fuel` moves. -/
def moves (files : Files) : (fuel : Nat) → Agent → Agent
  | 0, a => a
  | fuel + 1, a =>
    match a.next? files with
    | none => a
    | some m => moves files fuel (a.step m)

/-- Enough moves for one instant: each turn of the follower sends at most one batch. -/
def moveBound (a : Agent) : Nat :=
  2 * a.schedule.turnBound + a.schedule.channel.items.length + 5

def settle (files : Files) (a : Agent) : Agent := moves files a.moveBound a

/-- At most `fuel` instants up to time `t`. -/
def instants (files : Files) (t : Nat) : (fuel : Nat) → Agent → Agent
  | 0, a => a.step (.wake t)
  | fuel + 1, a =>
    match a.schedule.nextTime? with
    | none => a.step (.wake t)
    | some next =>
      if next ≤ t then instants files t fuel ((a.step (.wake next)).settle files)
      else a.step (.wake t)

/-- Let `ms` milliseconds pass. -/
def advance (files : Files) (ms : Nat) (a : Agent) : Agent :=
  instants files (a.schedule.now + ms) (2 * ms + a.schedule.sleeping.length + 1) a

end Agent
end FileTail
