import FileTail.Channel
import FileTail.Console.Output

/-!
# FileTail.Exporter

The receiving end of the channel: batches are printed, or counted and dropped. An exporter ends when
the channel is closed and empty, when its output fails, or when it is told to end; one that prints
then still takes what is in the channel.

* `Exporter.deliver?` — take one batch, or see that there will be none.
* `Exporter.hurry` — end now.
-/

namespace FileTail

/-- Where batches end up. -/
inductive Sink where
  | console (output : Output)
  | blackhole (dropped : Nat)
deriving Repr, DecidableEq

structure Exporter where
  sink : Sink
  ended : Bool
deriving Repr, DecidableEq

/-- An exporter and its channel after something was done, and what went wrong with it. -/
structure Delivery where
  exporter : Exporter
  channel : Channel (List Line)
  fault : Option ExportFault

namespace Sink

def take (s : Sink) (batch : List Line) : Sink × Option ExportFault :=
  match s with
  | .blackhole dropped => (.blackhole (dropped + batch.length), none)
  | .console output =>
    let (output, fault) := output.exportBatch batch
    (.console output, fault)

def flush : Sink → Option ExportFault
  | .blackhole _ => none
  | .console output => output.flush

/-- The bytes that were printed. -/
def printed : Sink → Bytes
  | .blackhole _ => []
  | .console output => output.written

/-- How many lines were dropped. -/
def dropped : Sink → Nat
  | .blackhole n => n
  | .console _ => 0

/-- Whether the channel is emptied before an early end. -/
def empties : Sink → Bool
  | .blackhole _ => false
  | .console _ => true

end Sink

namespace Exporter

def new (sink : Sink) : Exporter := ⟨sink, false⟩

/-- End after a last flush. -/
def conclude (x : Exporter) (c : Channel (List Line)) : Delivery :=
  ⟨⟨x.sink, true⟩, c.dropReceiver, x.sink.flush⟩

/-- Take in a batch that came from the channel. -/
def take (x : Exporter) (c : Channel (List Line)) (batch : List Line) : Delivery :=
  match x.sink.take batch with
  | (sink, none) => ⟨⟨sink, false⟩, c, none⟩
  | (sink, some fault) => ⟨⟨sink, true⟩, c.dropReceiver, some fault⟩

/-- Take the next batch, or see that the channel is closed; nothing if there is neither. -/
def deliver? (x : Exporter) (c : Channel (List Line)) : Option Delivery :=
  if x.ended then none
  else
    match c.receive with
    | (c, .item batch) => some (x.take c batch)
    | (c, .closed) => some (x.conclude c)
    | _ => none

/-- Deliver as long as that is possible; `fuel` bounds how often. -/
def deliverAll : (fuel : Nat) → Delivery → Delivery
  | 0, d => d
  | fuel + 1, d =>
    match d.exporter.deliver? d.channel with
    | none => d
    | some d => deliverAll fuel d

/-- End now, after what is in the channel if the sink empties it. -/
def hurry (x : Exporter) (c : Channel (List Line)) : Delivery :=
  let d : Delivery :=
    if x.sink.empties then deliverAll (c.items.length + 1) ⟨x, c, none⟩ else ⟨x, c, none⟩
  if d.exporter.ended then d else d.exporter.conclude d.channel

end Exporter
end FileTail
