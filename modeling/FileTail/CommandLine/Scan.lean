import FileTail.CommandLine.Flag

/-!
# FileTail.CommandLine.Scan

Arguments read from left to right; the first fault is the answer. A value that stands as an argument
of its own is kept back until the next known flag or the end of the arguments, and is looked at only
then; one after an equals sign is looked at where it stands.

* `Grammar.scan` — the flags up to the end of the arguments or up to the name of a command.
* `Scan.settled` — what is known of the flags then.
* `Grammar.complete` — the environment stands in for flags that were not given.
-/

namespace FileTail

/-- Why the arguments do not say what to do. -/
inductive Halt where
  | fault (f : UsageFault)
  /-- The user asks for help. -/
  | help
  /-- The user asks for the version. -/
  | version
deriving Repr, DecidableEq, Inhabited

/-- What a command understands. -/
structure Grammar where
  flags : List Flag
  hasVersion : Bool
  commands : List String
deriving Repr

structure Scan where
  values : Values
  /-- The last flag, with its value once that was met. -/
  kept : Option (Flag × Option String)
  /-- After two dashes nothing is a flag any more. -/
  trailing : Bool

/-- What an argument looks like. -/
inductive Shape where
  | dashes
  | long (name : String) (value : Option String)
  | short (letters : List Char)
  | plain

/-- A command that was met, and the arguments after it. -/
structure CommandCall where
  name : String
  rest : List String
deriving Repr, DecidableEq, Inhabited

namespace Shape

/-- The name of a long flag and what follows its equals sign. -/
def ofLong (cs : List Char) : Shape :=
  let name := String.ofList (cs.takeWhile (· != '='))
  match cs.dropWhile (· != '=') with
  | [] => .long name none
  | _ :: value => .long name (some (String.ofList value))

def ofArgument (s : String) : Shape :=
  match s.toList with
  | ['-', '-'] => .dashes
  | '-' :: '-' :: r => ofLong r
  | '-' :: c :: r => .short (c :: r)
  | _ => .plain

end Shape

namespace Scan

def fresh : Scan := ⟨.empty, none, false⟩

def isAwaiting (s : Scan) : Bool :=
  match s.kept with
  | some (_, none) => true
  | _ => false

def give (s : Scan) (f : Flag) (text : String) : Except Halt Scan :=
  match s.values.give f text with
  | .error e => .error (.fault e)
  | .ok values => .ok { s with values := values, kept := none }

/-- Look at what is kept back. -/
def resolve (s : Scan) : Except Halt Scan :=
  match s.kept with
  | none => .ok s
  | some (_, none) => .error (.fault .missingValue)
  | some (f, some text) => s.give f text

/-- What is known of the flags at the end. -/
def settled (s : Scan) : Except Halt Values := (s.resolve).map (·.values)

/-- Stop for help or the version, unless what is kept back is wrong. -/
def stopFor (s : Scan) (h : Halt) : Except Halt Scan :=
  match s.resolve with
  | .error e => .error e
  | .ok _ => .error h

/-- A known flag, with what follows its equals sign. -/
def onFlag (s : Scan) (f : Flag) (value : Option String) : Except Halt Scan :=
  match f.isSwitch, value with
  | true, some _ => .error (.fault .surplusValue)
  | true, none => s.resolve.bind fun s => s.give f "true"
  | false, some text => s.resolve.bind fun s => s.give f text
  | false, none => s.resolve.map fun s => { s with kept := some (f, none) }

end Scan

namespace Grammar

/-- Help and version by their letters. -/
def onLetters (g : Grammar) (s : Scan) : List Char → Except Halt Scan
  | 'h' :: _ => s.stopFor .help
  | 'V' :: _ => if g.hasVersion then s.stopFor .version else .error (.fault .unknownArgument)
  | _ => .error (.fault .unknownArgument)

def onLong (g : Grammar) (s : Scan) (name : String) (value : Option String) : Except Halt Scan :=
  match g.flags.find? (·.name == name) with
  | some f => s.onFlag f value
  | none =>
    let halt? : Option Halt :=
      if name = "help" then some .help
      else if name = "version" ∧ g.hasVersion then some .version
      else none
    match halt?, value with
    | none, _ => .error (.fault .unknownArgument)
    | some _, some _ => .error (.fault .surplusValue)
    | some h, none => s.stopFor h

/-- One argument that is no command. -/
def onArgument (g : Grammar) (s : Scan) (arg : String) : Except Halt Scan :=
  if s.trailing then .error (.fault .unknownArgument)
  else
    match Shape.ofArgument arg with
    | .dashes => .ok { s with trailing := true }
    | .long name value => g.onLong s name value
    | .short letters => g.onLetters s letters
    | .plain =>
      match s.kept with
      | some (f, none) => .ok { s with kept := some (f, some arg) }
      | _ => .error (.fault .unknownArgument)

/-- A command is not looked for where a value is awaited. -/
def isCommand (g : Grammar) (s : Scan) (arg : String) : Bool :=
  !s.trailing && !s.isAwaiting && g.commands.contains arg

def scan (g : Grammar) (s : Scan) : List String → Except Halt (Scan × Option CommandCall)
  | [] => .ok (s, none)
  | arg :: rest =>
    if g.isCommand s arg then .ok (s, some ⟨arg, rest⟩)
    else
      match g.onArgument s arg with
      | .error h => .error h
      | .ok s => g.scan s rest

/-- Take the values of flags that were not given from the environment. -/
def complete (g : Grammar) (env : String → Option String) (v : Values) : Except Halt Values :=
  g.flags.foldlM (fun v f =>
    if v.has f then .ok v
    else
      match env f.envName with
      | none => .ok v
      | some text =>
        match v.give f text with
        | .ok v => .ok v
        | .error e => .error (.fault e)) v

end Grammar
end FileTail
