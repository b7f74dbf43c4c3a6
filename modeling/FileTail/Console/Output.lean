import FileTail.Console.Json

/-!
# FileTail.Console.Output

Batches of lines written to an output. A batch is encoded as a whole, written, and flushed; the
first fault ends the exporting. The output is modelled with what can be wrong with one: it may take
a few bytes at a time, have room for so many bytes, and fail to flush.

* `Output.writeAll` — write until all is taken or the output fails.
* `Output.exportAll` — a list of batches, and a last flush.
-/

namespace FileTail

structure Output where
  written : Bytes
  /-- How many more bytes it takes. -/
  room : Option Nat
  /-- How many bytes it takes at a time. -/
  piece : Option Nat
  /-- How a write fails that can take nothing; without a reason it takes nothing. -/
  writeFault : Option String
  flushFault : Option String
deriving Repr, DecidableEq, Inhabited

namespace Output

/-- An output without limits. -/
def unlimited : Output := ⟨[], none, none, none, none⟩

/-- How much of `n` bytes one write takes. -/
def share (o : Output) (n : Nat) : Nat :=
  let n := match o.piece with | none => n | some k => min k n
  match o.room with | none => n | some k => min k n

/-- Take the first `n` bytes. -/
def take (o : Output) (bytes : Bytes) (n : Nat) : Output :=
  { o with written := o.written ++ bytes.take n, room := o.room.map (· - n) }

/-- The fault of a write that can take nothing. -/
def fullFault (o : Output) : String := o.writeFault.getD "write zero"

def writeAll (o : Output) (bytes : Bytes) : Output × Option ExportFault :=
  if bytes.length = 0 then (o, none)
  else
    let n := o.share bytes.length
    if _h : n = 0 then (o, some (.io o.fullFault))
    else (o.take bytes n).writeAll (bytes.drop n)
termination_by bytes.length
decreasing_by simp only [List.length_drop]; omega

def flush (o : Output) : Option ExportFault := o.flushFault.map .io

/-- Write one batch and flush. -/
def exportBatch (o : Output) (batch : List Line) : Output × Option ExportFault :=
  match Line.batchToJson batch with
  | .error e => (o, some e)
  | .ok text =>
    match o.writeAll (Utf8.encode (String.ofList text)) with
    | (o, some e) => (o, some e)
    | (o, none) => (o, o.flush)

def exportAll (o : Output) : List (List Line) → Output × Option ExportFault
  | [] => (o, o.flush)
  | batch :: r =>
    match o.exportBatch batch with
    | (o, some e) => (o, some e)
    | (o, none) => o.exportAll r

end Output
end FileTail
