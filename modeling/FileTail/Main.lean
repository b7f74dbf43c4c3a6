import FileTail.Agent.Basic
import FileTail.Disk
import Std.Time.DateTime

/-!
# FileTail.Main

The program itself: arguments and environment in, lines on standard output, messages on standard
error. It polls the files one after another, and prints a batch before it looks at the next file, so
that no batch ever waits. What the follower asks for is done here; what it means is decided in
`FileTail.Follow.Follower`.
-/

namespace FileTail

/-- What a run needs from its surroundings. -/
structure Host where
  format : LogFormat
  filter : LogFilter
  destination : Destination
  period : Nat
  /-- The reading of the clock at the start, in milliseconds. -/
  startedAt : Nat

namespace Host

def clock (h : Host) : IO Clock := do
  let now ← IO.monoMsNow
  let wall ← Std.Time.Timestamp.now
  return ⟨now - h.startedAt, wall.toNanosecondsSinceUnixEpoch.toInt.toNat⟩

def say (h : Host) (e : LogEntry) : IO Unit := do
  if h.filter.allows e then
    match h.format with
    | .text => IO.eprintln e.toLine
    | .json => IO.eprintln (String.ofList e.toJson)

end Host

/-! ## Files -/

def errorNumber? : IO.Error → Option Nat
  | .noFileOrDirectory _ n _ => some n.toNat
  | .inappropriateType _ n _ | .invalidArgument _ n _ => some n.toNat
  | .noSuchThing _ n _ | .permissionDenied _ n _ | .resourceExhausted _ n _ => some n.toNat
  | _ => none

def diskFault? (e : IO.Error) : Option DiskFault := (errorNumber? e).bind DiskFault.ofNumber?

def errorText (e : IO.Error) : String := ((diskFault? e).map DiskFault.message).getD (toString e)

/-- Read until `n` bytes were read or the file ends. -/
partial def readBytes (h : IO.FS.Handle) (n : Nat) (sofar : ByteArray) : IO ByteArray := do
  if n ≤ sofar.size then return sofar
  let more ← h.read (min 65536 (n - sofar.size)).toUSize
  if more.isEmpty then return sofar
  readBytes h n (sofar ++ more)

/-- Pass over `n` bytes. -/
partial def passOver (h : IO.FS.Handle) (n : Nat) : IO Unit := do
  if n = 0 then return
  let bytes ← h.read (min 65536 n).toUSize
  if bytes.isEmpty then return
  passOver h (n - bytes.size)

def readRange (name : String) (position length : Nat) : IO Bytes := do
  let h ← IO.FS.Handle.mk name .read
  passOver h position
  return (← readBytes h length .empty).toList

/-- Look at the head of a file whose time and size are known. -/
def probeHead (name : String) (modified : Int) (size : Nat) : IO Sighting := do
  try
    let head ← readRange name 0 Head.capacity
    return .seen ⟨some modified, size, .ofBytes head⟩
  catch e => return .headFailed (errorText e)

def probe (p : Path) : IO Sighting := do
  let some name := p.toText? | return .metadataFailed DiskFault.nulInPath.message
  try
    let file ← IO.FS.realPath name
    let seen ← file.metadata
    let modified := seen.modified.sec * 1000000000 + seen.modified.nsec.toNat
    probeHead name modified seen.byteSize.toNat
  catch e =>
    if diskFault? e = some .notFound then return .missing
    return .metadataFailed (errorText e)

def fetch (q : Request) : IO (Except ReadFailure Bytes) := do
  let some name := q.path.toText? | return .error (.opening DiskFault.nulInPath.message)
  try
    return .ok (← readRange name q.window.position q.window.length)
  catch e => return .error (.reading (errorText e))

/-! ## The run -/

/-- Print a batch, unless it is to be dropped. -/
def Host.deliver (h : Host) (batch : List Line) : IO (Option ExportFault) := do
  match h.destination, Line.batchToJson batch with
  | .blackhole, _ => return none
  | .console, .error e => return some e
  | .console, .ok text =>
    try
      let out ← IO.getStdout
      out.putStr (String.ofList text)
      out.flush
      return none
    catch e => return some (.io (errorText e))

/-- Hand an event to the follower and do what it asks for. -/
partial def Host.handle (h : Host) (f : Follower) (e : Event) : IO Follower := do
  let (f, actions) := f.step (← h.clock) e
  actions.foldlM (fun f a => do
    match a with
    | .log e => h.say e; return f
    | .probe p => h.handle f (.probed p (← probe p))
    | .read q => h.handle f (.fetched q (← fetch q))
    | .send batch =>
      let f ← h.handle f .sent
      match ← h.deliver batch with
      | none => return f
      | some fault =>
        h.say (Agent.exportFailed fault)
        h.say Agent.exporterGone
        h.handle f .cancelled) f

/-- Poll until the follower has stopped. -/
partial def Host.poll (h : Host) (f : Follower) (due : Nat) : IO Unit := do
  if f.phase == .stopped then return
  let late ← h.clock
  let f ← h.handle f .ticked
  let due := Schedule.tickAfter h.period due late.now
  let early ← h.clock
  IO.sleep (due - early.now).toUInt32
  h.poll f due

def Host.run (h : Host) (f : Follower) : IO Unit := do
  h.say Opening.starting
  h.say Follower.made
  h.say Follower.starting
  h.poll f 0
  h.say Agent.stopped
  h.say Opening.earlyExit

/-- The variables that mean something to the program. -/
def readEnvironment : IO Environment := do
  let names := Opening.filterName :: Invocation.startGrammar.flags.map Flag.envName
  let known ← names.filterMapM fun name => do
    return (← IO.getEnv name).map fun value => (name, value)
  return fun name => known.lookup name

/-- Say why nothing is started. -/
def refuse (format : LogFormat) (log : List LogEntry) : IO Unit :=
  log.forM fun e => IO.eprintln (match format with
    | .text => e.toLine
    | .json => String.ofList e.toJson)

end FileTail

open FileTail in
def main (args : List String) : IO UInt32 := do
  let opening := Opening.ofArguments args (← readEnvironment)
  match opening with
  | .answer text => IO.print text
  | .help => IO.println Opening.usage
  | .refused fault => IO.eprintln ("error: " ++ fault.message)
  | .badFilter why => IO.eprintln (Opening.filterComplaint why)
  | .failed format log => refuse format log
  | .run format filter options f =>
    let host : Host :=
      ⟨format, filter, options.destination, options.settings.pollInterval, ← IO.monoMsNow⟩
    host.run f
  return (opening.exitCode?.getD 0).toUInt32
