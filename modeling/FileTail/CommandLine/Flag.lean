import FileTail.Log
import FileTail.Settings
import FileTail.Word

/-!
# FileTail.CommandLine.Flag

The options that the program knows: how each is written on the command line and in the environment,
and what a value of it looks like. The type of a value depends on its flag, so that what was read
for a flag needs no second look.

* `Flag.read` — the value that a text stands for.
* `Values` — what is known of the flags.
-/

namespace FileTail

/-- Where lines go. -/
inductive Destination where
  | console
  | blackhole
deriving Repr, DecidableEq, Inhabited

/-- Why a command line is refused. -/
inductive UsageFault where
  | unknownArgument
  | missingValue
  /-- The value is none of those that there are. -/
  | badValue
  | badNumber
  /-- A value for a flag that takes none. -/
  | surplusValue
  | repeated
  | noPaths
  | noCommand
deriving Repr, DecidableEq, Inhabited

inductive Flag where
  | tailPaths
  | pollInterval
  | minFileSize
  | minReadSize
  | maxReadSize
  | inChunks
  | startAt
  | encoding
  | delimiter
  | reportThreshold
  | reportCooldown
  | includeFileName
  | destination
  | queueSize
  | logFormat
deriving Repr, DecidableEq, Inhabited

namespace UsageFault

def message : UsageFault → String
  | .unknownArgument => "unexpected argument"
  | .missingValue => "a value is required"
  | .badValue | .badNumber => "invalid value"
  | .surplusValue => "unexpected value"
  | .repeated => "a flag cannot be used more than once"
  | .noPaths => "required arguments were not provided"
  | .noCommand => "a command is required"

end UsageFault

namespace Flag

/-- What a value of the flag is. -/
@[reducible] def Carrier : Flag → Type
  | .tailPaths => List Path
  | .pollInterval | .minFileSize | .minReadSize | .maxReadSize => Nat
  | .inChunks | .includeFileName => Bool
  | .startAt => StartAt
  | .encoding | .delimiter => String
  | .reportThreshold | .reportCooldown | .queueSize => Nat
  | .destination => Destination
  | .logFormat => LogFormat

/-- The name after two dashes. -/
def name : Flag → String
  | .tailPaths => "tail-paths"
  | .pollInterval => "tail-poll-interval-ms"
  | .minFileSize => "tail-min-file-size"
  | .minReadSize => "tail-min-read-size"
  | .maxReadSize => "tail-max-read-size"
  | .inChunks => "tail-read-in-chunks"
  | .startAt => "tail-start-at"
  | .encoding => "tail-encoding"
  | .delimiter => "tail-delimiter"
  | .reportThreshold => "tail-report-threshold"
  | .reportCooldown => "tail-report-cooldown-secs"
  | .includeFileName => "tail-include-file-name"
  | .destination => "exporter"
  | .queueSize => "output-queue-size"
  | .logFormat => "log-format"

/-- The variable of the environment that stands in for the flag. -/
def envName (f : Flag) : String :=
  "HOSTLOG_" ++ f.name.map fun c => if c = '-' then '_' else c.toUpper

/-- A flag that is set by being there and takes no value. -/
def isSwitch : Flag → Bool
  | .inChunks => true
  | _ => false

/-- Values of a repeated flag are joined. -/
def isList : Flag → Bool
  | .tailPaths => true
  | _ => false

/-! ## Values -/

/-- A number in decimal digits, with a plus sign or without, that fits in 64 bits. -/
def number? (s : String) : Option Nat :=
  let digits := match s.toList with | '+' :: r => r | r => r
  if digits ≠ [] ∧ digits.all Char.isDigit then
    let n := digits.foldl (fun n c => n * 10 + (c.toNat - '0'.toNat)) 0
    if n ≤ Word.limit then some n else none
  else none

/-- Paths between commas. An empty path is no path. -/
def paths? (s : String) : Option (List Path) :=
  let ps := s.toList.splitOn ','
  if [] ∈ ps then none else some (ps.map fun p => .ofString (String.ofList p))

def truth? : String → Option Bool
  | "true" => some true
  | "false" => some false
  | _ => none

def startAt? : String → Option StartAt
  | "beginning" => some .beginning
  | "end" => some .fileEnd
  | _ => none

def destination? : String → Option Destination
  | "console" => some .console
  | "blackhole" => some .blackhole
  | _ => none

def logFormat? : String → Option LogFormat
  | "text" => some .text
  | "json" => some .json
  | _ => none

def orFault {α : Type} (fault : UsageFault) : Option α → Except UsageFault α
  | some a => .ok a
  | none => .error fault

def read (f : Flag) (s : String) : Except UsageFault f.Carrier :=
  match f with
  | .tailPaths => orFault .badValue (paths? s)
  | .pollInterval | .minFileSize | .minReadSize | .maxReadSize => orFault .badNumber (number? s)
  | .inChunks | .includeFileName => orFault .badValue (truth? s)
  | .startAt => orFault .badValue (startAt? s)
  | .encoding | .delimiter => .ok s
  | .reportThreshold | .reportCooldown | .queueSize => orFault .badNumber (number? s)
  | .destination => orFault .badValue (destination? s)
  | .logFormat => orFault .badValue (logFormat? s)

/-- A later value beside an earlier one. -/
def join (f : Flag) (earlier later : f.Carrier) : f.Carrier :=
  match f with
  | .tailPaths => List.append earlier later
  | _ => later

end Flag

/-- The flags that have a value, and their values. -/
structure Values where
  get? : (f : Flag) → Option f.Carrier

namespace Values

def empty : Values := ⟨fun _ => none⟩

def has (v : Values) (f : Flag) : Bool := (v.get? f).isSome

def put (v : Values) (f : Flag) (x : f.Carrier) : Values :=
  ⟨fun g => if h : f = g then some (h ▸ x) else v.get? g⟩

/-- Put a value beside those that are there. -/
def add (v : Values) (f : Flag) (x : f.Carrier) : Values :=
  v.put f (match v.get? f with | none => x | some earlier => f.join earlier x)

/-- Take in a value that was written for a flag. Only lists can be given twice. -/
def give (v : Values) (f : Flag) (s : String) : Except UsageFault Values :=
  if v.has f && !f.isList then .error .repeated
  else (f.read s).map (v.add f)

theorem get?_put_same (v : Values) (f : Flag) (x : f.Carrier) : (v.put f x).get? f = some x := by
  simp [put]

theorem get?_put_other (v : Values) {f g : Flag} (x : f.Carrier) (h : f ≠ g) :
    (v.put f x).get? g = v.get? g := by
  simp [put, h]

end Values
end FileTail
