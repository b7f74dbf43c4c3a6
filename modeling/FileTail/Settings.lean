import FileTail.Encoding.Label
import FileTail.Lines
import FileTail.Path

/-!
# FileTail.Settings

What a user can set about watching and reading files, the defaults, and what makes settings
unusable. Times are in milliseconds and sizes in bytes.

* `Settings.fault?` — the first fault of the settings, in the order in which they are checked.
* `Settings.lineFormat?` — encoding and delimiter, if the encoding is known.
-/

namespace FileTail

/-- Where to start in a file that is seen for the first time. -/
inductive StartAt where
  | beginning
  | fileEnd
deriving Repr, DecidableEq, Inhabited

structure Settings where
  paths : List Path
  pollInterval : Nat
  /-- Smaller files are not read. -/
  minFileSize : Nat
  /-- Less unread content is left to grow. -/
  minReadSize : Nat
  /-- The most bytes that one read asks for. -/
  maxReadSize : Nat
  /-- Report growth in steps of `maxReadSize`. -/
  inChunks : Bool
  startAt : StartAt
  encodingLabel : String
  delimiter : String
  /-- Failures in a row that are not worth a message. -/
  reportThreshold : Nat
  reportCooldown : Nat
  includeFileName : Bool
deriving Repr, DecidableEq

inductive SettingsFault where
  | noPaths
  | zeroPollInterval
  | zeroMaxRead
  | minAboveMax (min max : Nat)
  | emptyDelimiter
  | unknownEncoding (label : String)
deriving Repr, DecidableEq

/-- Why watching cannot start. -/
inductive StartFault where
  | settings (fault : SettingsFault)
  | unknownEncoding (label : String)
deriving Repr, DecidableEq

namespace SettingsFault

def message : SettingsFault → String
  | .noPaths => "At least one path must be specified"
  | .zeroPollInterval => "poll_interval must be positive"
  | .zeroMaxRead => "max_read_size must be positive"
  | .minAboveMax min max =>
    "min_read_size (" ++ toString min ++ ") cannot exceed max_read_size (" ++ toString max ++ ")"
  | .emptyDelimiter => "delimiter cannot be empty"
  | .unknownEncoding label => "Unknown encoding '" ++ label ++ "'"

end SettingsFault

namespace StartFault

def message : StartFault → String
  | .settings fault => "Configuration error: " ++ fault.message
  | .unknownEncoding label => "Unknown text encoding: " ++ label

end StartFault

namespace Settings

def default : Settings where
  paths := []
  pollInterval := 1000
  minFileSize := 1
  minReadSize := 1
  maxReadSize := 1024 * 1024
  inChunks := false
  startAt := .fileEnd
  encodingLabel := "utf-8"
  delimiter := "\n"
  reportThreshold := 25
  reportCooldown := 5 * 60 * 1000
  includeFileName := true

instance : Inhabited Settings := ⟨default⟩

def encoding? (s : Settings) (codecs : EastAsian → Codec := fun _ => .ascii) : Option Encoding :=
  Encoding.ofLabel? s.encodingLabel codecs

/-- The step in which growth is reported, if it is. -/
def chunk? (s : Settings) : Option Nat := if s.inChunks then some s.maxReadSize else none

def lineFormat? (s : Settings) (codecs : EastAsian → Codec := fun _ => .ascii) :
    Option LineFormat :=
  (s.encoding? codecs).map fun e => .ofText e s.delimiter

def fault? (s : Settings) : Option SettingsFault :=
  if s.paths = [] then some .noPaths
  else if s.pollInterval = 0 then some .zeroPollInterval
  else if s.maxReadSize = 0 then some .zeroMaxRead
  else if s.maxReadSize < s.minReadSize then some (.minAboveMax s.minReadSize s.maxReadSize)
  else if s.delimiter = "" then some .emptyDelimiter
  else if s.encoding? = none then some (.unknownEncoding s.encodingLabel)
  else none

theorem lineFormat?_of_encoding {s : Settings} {codecs : EastAsian → Codec} {e : Encoding}
    (h : s.encoding? codecs = some e) : s.lineFormat? codecs = some (.ofText e s.delimiter) := by
  rw [lineFormat?, h, Option.map_some]

/-- Settings without a fault have a line format. -/
theorem lineFormat?_isSome {s : Settings} (h : s.fault? = none) (codecs : EastAsian → Codec) :
    (s.lineFormat? codecs).isSome := by
  have hknown : s.encoding?.isSome := by
    refine Option.isSome_iff_ne_none.2 fun hnone => ?_
    simp only [fault?, hnone, if_true] at h
    repeat' split at h
    all_goals cases h
  rw [lineFormat?, Option.isSome_map, encoding?, Encoding.ofLabel?_isSome codecs fun _ => .ascii]
  exact hknown

end Settings
end FileTail
