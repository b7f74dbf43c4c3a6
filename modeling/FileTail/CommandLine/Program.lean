import FileTail.CommandLine.Scan
import FileTail.Escape
import FileTail.Follow.Follower
import FileTail.Log.Filter

/-!
# FileTail.CommandLine.Program

What the arguments and the environment ask the program to do. There are two commands, one that
follows files and one that tells the version; how messages are written can be said before the
command and after it.

* `RunOptions.ofArguments` — how to follow files.
* `Invocation.ofArguments` — what the program is asked to do.
* `Opening.ofArguments` — what it does first: answer, refuse, or start.
-/

namespace FileTail

structure RunOptions where
  settings : Settings
  destination : Destination
  /-- How many batches may wait to be written. -/
  queueSize : Nat
deriving Repr, DecidableEq, Inhabited

inductive Command where
  | start (options : RunOptions)
  | version
deriving Repr, DecidableEq, Inhabited

structure Invocation where
  logFormat : LogFormat
  command : Command
deriving Repr, DecidableEq, Inhabited

/-- The environment: the values of variables that are set. -/
abbrev Environment := String → Option String

namespace RunOptions

/-- The flags of a run, in the order in which the environment is looked at. -/
def flags : List Flag :=
  [.tailPaths, .pollInterval, .minFileSize, .minReadSize, .maxReadSize, .inChunks, .startAt,
   .encoding, .delimiter, .reportThreshold, .reportCooldown, .includeFileName, .destination,
   .queueSize]

/-- The options that the values of the flags stand for, with defaults for those without one. -/
def ofValues (v : Values) : RunOptions :=
  let d := Settings.default
  { settings :=
      { paths := (v.get? .tailPaths).getD d.paths
        pollInterval := (v.get? .pollInterval).getD d.pollInterval
        minFileSize := (v.get? .minFileSize).getD d.minFileSize
        minReadSize := (v.get? .minReadSize).getD d.minReadSize
        maxReadSize := (v.get? .maxReadSize).getD d.maxReadSize
        inChunks := (v.get? .inChunks).getD d.inChunks
        startAt := (v.get? .startAt).getD d.startAt
        encodingLabel := (v.get? .encoding).getD d.encodingLabel
        delimiter := ((v.get? .delimiter).map Escape.expand).getD d.delimiter
        reportThreshold := (v.get? .reportThreshold).getD d.reportThreshold
        reportCooldown := ((v.get? .reportCooldown).map (· * 1000)).getD d.reportCooldown
        includeFileName := (v.get? .includeFileName).getD d.includeFileName }
    destination := (v.get? .destination).getD .console
    queueSize := (v.get? .queueSize).getD 1000 }

/-- Options cannot do without paths. -/
def ofValues? (v : Values) : Except Halt RunOptions :=
  if v.has .tailPaths then .ok (ofValues v) else .error (.fault .noPaths)

/-- The options of a run when the arguments hold nothing else. -/
def ofArguments (args : List String) (env : Environment) : Except Halt RunOptions := do
  let g : Grammar := ⟨flags, false, []⟩
  let (s, _) ← g.scan .fresh args
  ofValues? (← g.complete env (← s.settled))

end RunOptions

namespace Invocation

/-- What stands before the command. -/
def grammar : Grammar := ⟨[.logFormat], true, ["start", "version", "help"]⟩

def startGrammar : Grammar := ⟨RunOptions.flags ++ [.logFormat], false, []⟩

def versionGrammar : Grammar := ⟨[.logFormat], false, []⟩

/-- Help is for the program or for one command. -/
def onHelp (rest : List String) : Halt :=
  match rest with
  | [] => .help
  | [name] => if grammar.commands.contains name then .help else .fault .unknownArgument
  | _ => .fault .unknownArgument

/-- The values given after the command, and those with the environment. -/
def onCommand (g : Grammar) (rest : List String) (env : Environment) :
    Except Halt (Values × Values) := do
  let (s, _) ← g.scan .fresh rest
  let given ← s.settled
  return (given, ← g.complete env given)

def ofArguments (args : List String) (env : Environment) : Except Halt Invocation := do
  let (s, call?) ← grammar.scan .fresh args
  -- what is kept back before a command is looked at after the command's own arguments
  let finish (inner : Values) (command : Command) : Except Halt Invocation := do
    let outer ← s.settled
    let all ← grammar.complete env outer
    let format? := inner.get? .logFormat <|> outer.get? .logFormat <|> all.get? .logFormat
    return ⟨format?.getD .text, command⟩
  match call? with
  | none =>
    let _ ← s.settled
    .error (.fault .noCommand)
  | some ⟨"start", rest⟩ =>
    let (given, all) ← onCommand startGrammar rest env
    finish given (.start (← RunOptions.ofValues? all))
  | some ⟨"version", rest⟩ =>
    let (given, _) ← onCommand versionGrammar rest env
    finish given .version
  | some ⟨_, rest⟩ => .error (onHelp rest)

end Invocation

/-- What the program does first. -/
inductive Opening where
  /-- Print a text; that is all. -/
  | answer (text : String)
  | help
  | refused (fault : UsageFault)
  /-- The filter for messages is none. -/
  | badFilter (why : FilterFault)
  /-- The settings are at fault, which the messages tell. -/
  | failed (format : LogFormat) (log : List LogEntry)
  | run (format : LogFormat) (filter : LogFilter) (options : RunOptions) (follower : Follower)

namespace Opening

/-- The version as the first line of help would tell it. -/
def versionLine : String := "hostlog 0.1.0\n"

/-- The version with its build. -/
def buildLine : String := "0.1.0-dev\n"

/-- Said when a run begins. -/
def starting : LogEntry := .info .agent "Starting hostlog."

/-- Said when a run could not begin or failed. -/
def failure (why : String) : LogEntry :=
  .error .program "Failed to run agent." [("error", .text why)]

/-- Said when the filter for messages is none. -/
def filterComplaint (why : FilterFault) : String :=
  "ERROR: failed to setup logging: " ++ why.message

/-- Said when a run ends by itself. -/
def earlyExit : LogEntry := .warn .program "Unexpected early exit of agent." []

/-- A short help. -/
def usage : String :=
  "Usage: hostlog [--log-format text|json] <start|version|help>\n\nFlags of start:\n" ++
    String.intercalate "\n" (RunOptions.flags.map fun f =>
      "  --" ++ f.name ++ (if f.isSwitch then "" else " <VALUE>") ++ "  [env: " ++ f.envName ++ "]")

/-- The variable of the environment that holds the filter. -/
def filterName : String := "RUST_LOG"

def filter (env : Environment) : Except FilterFault LogFilter :=
  LogFilter.ofText ((env filterName).getD "")

def start (format : LogFormat) (options : RunOptions) (env : Environment) : Opening :=
  match filter env with
  | .error why => .badFilter why
  | .ok filter =>
    match Follower.ofSettings options.settings true with
    | .error e => .failed format (filter.keep [starting, failure e.message])
    | .ok follower => .run format filter options follower

def ofArguments (args : List String) (env : Environment) : Opening :=
  match Invocation.ofArguments args env with
  | .error (.fault e) => .refused e
  | .error .help => .help
  | .error .version => .answer versionLine
  | .ok ⟨_, .version⟩ => .answer buildLine
  | .ok ⟨format, .start options⟩ => start format options env

/-- How the program ends if it ends at once. A directive that cannot even be cut into its pieces
ends it harder than one that is wrong. -/
def exitCode? : Opening → Option Nat
  | .answer _ | .help => some 0
  | .refused _ => some 2
  | .badFilter .torn => some 101
  | .badFilter _ | .failed _ _ => some 1
  | .run _ _ _ _ => none

end Opening
end FileTail
