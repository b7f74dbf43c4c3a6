import FileTail.Text.Blank
import FileTail.Text.Letter

/-!
# FileTail.Log.Pattern

Patterns for the values of fields, as a filter for messages can hold them. A pattern is only checked
for being one that a finite automaton can be built for: values stand in spans, and messages of this
program stand in none, so that no pattern is ever matched. Classes of characters that need a table
of the character set (digits, blanks and letters of all scripts, letters of either case) are not
offered, and neither are word boundaries between such letters.

A pattern stands between braces, so that it holds no closing brace: a counted repetition is never
complete.

* `Pattern.fault?` — what is wrong with a pattern.
-/

namespace FileTail

inductive PatternFault where
  /-- It is no pattern. -/
  | malformed
  /-- It asks for the boundaries of words of all scripts. -/
  | wordBoundary
deriving Repr, DecidableEq, Inhabited

namespace PatternFault

def message : PatternFault → String
  | .malformed => "error building NFA"
  | .wordBoundary => "unsupported regex feature for DFAs: cannot build DFAs for regexes with " ++
    "Unicode word boundaries; switch to ASCII word boundaries, or heuristically enable " ++
    "Unicode word boundaries or use a different regex engine"

end PatternFault

namespace Pattern

/-- How the text that follows is read. -/
structure Modes where
  ignoreCase : Bool
  /-- Characters are those of all scripts, not bytes. -/
  unicode : Bool
  /-- Blanks and comments are passed over. -/
  spaced : Bool
deriving Repr, DecidableEq, Inhabited

namespace Modes

def default : Modes := ⟨false, true, false⟩

/-- Whether a character of the pattern can be told apart from others: letters of either case cannot,
as there is no table of them. -/
def foldsCase (m : Modes) : Bool := m.ignoreCase && m.unicode

def set (m : Modes) (flag : Char) (value : Bool) : Modes :=
  match flag with
  | 'i' => { m with ignoreCase := value }
  | 'u' => { m with unicode := value }
  | 'x' => { m with spaced := value }
  | _ => m

end Modes

/-! ## Blanks and comments -/

/-- Pass over blanks and comments; a comment goes from a number sign to the end of the line. -/
def dropBlanks (inComment : Bool) : List Char → List Char
  | [] => []
  | c :: r =>
    if inComment then dropBlanks (c != '\n') r
    else if Text.isBlank c then dropBlanks false r
    else if c = '#' then dropBlanks true r
    else c :: r

def skip (m : Modes) (cs : List Char) : List Char := if m.spaced then dropBlanks false cs else cs

/-- The first character that counts, and what follows. -/
def next (m : Modes) (cs : List Char) : Except PatternFault (Char × List Char) :=
  match skip m cs with
  | [] => .error .malformed
  | c :: r => .ok (c, r)

/-! ## Single characters -/

/-- What stands for one place in the text. -/
inductive Item where
  | literal (c : Char)
  /-- A character given by the number of a byte. -/
  | byte (c : Char)
  | charClass
  /-- A place between characters. -/
  | boundary (ofWords : Bool)
deriving Repr, DecidableEq, Inhabited

namespace Item

/-- The character that an item is. -/
def literal? : Item → Option Char
  | .literal c | .byte c => some c
  | _ => none

/-- A byte that is no character of its own cannot stand in a text. -/
def isText (m : Modes) : Item → Bool
  | .byte c => m.unicode || c.toNat < 0x80
  | _ => true

end Item

def hexDigits : List Char := "0123456789abcdefABCDEF".toList

def hexValue (cs : List Char) : Nat :=
  cs.foldl (fun n c =>
    let i := hexDigits.idxOf c
    16 * n + if i < 16 then i else i - 6) 0

/-- Read `n` hexadecimal digits. -/
def takeHex (m : Modes) : (n : Nat) → List Char → Except PatternFault (List Char × List Char)
  | 0, cs => .ok ([], cs)
  | n + 1, cs => do
    let (c, r) ← next m cs
    if hexDigits.contains c then
      let (digits, r) ← takeHex m n r
      return (c :: digits, r)
    else .error .malformed

/-- A character given by its number. -/
def numbered (m : Modes) (digits : Nat) (cs : List Char) :
    Except PatternFault (Item × List Char) := do
  let (hex, r) ← takeHex m digits cs
  let n := hexValue hex
  let r := skip m r
  if n.isValidChar then
    return (if digits = 2 then .byte (Char.ofNat n) else .literal (Char.ofNat n), r)
  else .error .malformed

/-- Whether a character stands for itself behind a backslash. -/
def isEscapable (c : Char) : Bool :=
  c.toNat < 0x80 && !(c.isAlphanum || c == '<' || c == '>')

/-- What stands behind a backslash. -/
def escape (m : Modes) : List Char → Except PatternFault (Item × List Char)
  | [] => .error .malformed
  | c :: r =>
    match c with
    | 'x' => numbered m 2 r
    | 'u' => numbered m 4 r
    | 'U' => numbered m 8 r
    | 'd' | 's' | 'w' => if m.unicode then .error .malformed else .ok (.charClass, r)
    | 'a' => .ok (.literal '\x07', r)
    | 'f' => .ok (.literal '\x0c', r)
    | 't' => .ok (.literal '\t', r)
    | 'n' => .ok (.literal '\n', r)
    | 'r' => .ok (.literal '\r', r)
    | 'v' => .ok (.literal '\x0b', r)
    | 'A' | 'z' => .ok (.boundary false, r)
    | 'b' | 'B' | '<' | '>' => .ok (.boundary m.unicode, r)
    | c => if isEscapable c then .ok (.literal c, r) else .error .malformed

/-! ## Classes -/

/-- What follows a named class such as `[:alpha:]` after its first bracket, and whether it is
negated. -/
def namedClass (cs : List Char) : Option (Bool × List Char) :=
  match cs with
  | ':' :: r =>
    let (negated, r) := match r with
      | '^' :: r => (true, r)
      | r => (false, r)
    match r.dropWhile (· != ':') with
    | ':' :: ']' :: rest =>
      if ["alnum", "alpha", "ascii", "blank", "cntrl", "digit", "graph", "lower", "print", "punct",
          "space", "upper", "word", "xdigit"].contains (String.ofList (r.takeWhile (· != ':'))) then
        some (negated, rest)
      else none
    | _ => none
  | _ => none

/-- Pass over the hyphens at the start of a class. -/
def dropHyphens (m : Modes) : (fuel : Nat) → List Char → List Char
  | 0, cs => cs
  | fuel + 1, cs =>
    match cs with
    | '-' :: r => dropHyphens m fuel (skip m r)
    | cs => cs

/-- What follows the start of a class behind its bracket. A class has members: a closing bracket at
its start is one. -/
def enterClass (m : Modes) (cs : List Char) : Except PatternFault (List Char) := do
  let cs := skip m cs
  let (negated, cs) := match cs with
    | '^' :: r => (true, skip m r)
    | cs => (false, cs)
  if negated && !m.unicode then .error .malformed
  let rest := dropHyphens m cs.length cs
  let hyphens := rest.length < cs.length
  let bracket := !hyphens && rest.head? == some ']'
  if m.foldsCase && (hyphens || bracket) then .error .malformed
  return if bracket then skip m rest.tail else rest

/-- One member of a class: a character or a class behind a backslash. -/
def member (m : Modes) (cs : List Char) : Except PatternFault (Item × List Char) :=
  match cs with
  | [] => .error .malformed
  | '\\' :: r => escape m r
  | c :: r => .ok (.literal c, r)

/-- Whether an item can stand in a class. -/
def isMember (m : Modes) (i : Item) : Bool :=
  match i with
  | .boundary _ => false
  | .charClass => !m.foldsCase
  | .literal c | .byte c => !m.foldsCase && (m.unicode || c.toNat < 0x80)

/-- A member of a class, or two with a hyphen between them. -/
def memberRange (m : Modes) (cs : List Char) : Except PatternFault (List Char) := do
  let (first, r) ← member m cs
  if !isMember m first then .error .malformed
  let r := skip m r
  match r with
  | '-' :: behind =>
    let after := skip m behind
    if after.head? == some ']' || after.head? == some '-' then return r
    let (last, rest) ← member m after
    match first.literal?, last.literal? with
    | some a, some b =>
      if a.toNat ≤ b.toNat && isMember m last then return rest else .error .malformed
    | _, _ => .error .malformed
  | _ => return r

/-- What follows a class; `depth` brackets are open, and `fuel` bounds the number of members. -/
def finishClass (m : Modes) : (fuel depth : Nat) → List Char → Except PatternFault (List Char)
  | 0, _, _ => .error .malformed
  | fuel + 1, depth, cs =>
    match skip m cs with
    | [] => .error .malformed
    | '[' :: r =>
      match namedClass r with
      | some (negated, rest) =>
        if m.foldsCase || negated && !m.unicode then .error .malformed
        else finishClass m fuel depth rest
      | none =>
        match enterClass m r with
        | .error e => .error e
        | .ok rest => finishClass m fuel (depth + 1) rest
    | ']' :: r => if depth ≤ 1 then .ok r else finishClass m fuel (depth - 1) r
    | '&' :: '&' :: r | '-' :: '-' :: r | '~' :: '~' :: r => finishClass m fuel depth r
    | cs =>
      match memberRange m cs with
      | .error e => .error e
      | .ok rest => finishClass m fuel depth rest

/-! ## Groups -/

/-- How a group starts. -/
inductive GroupStart where
  | group (modes : Modes) (name : Option (List Char))
  /-- No group, but modes for the rest of the group around it. -/
  | modes (modes : Modes)
deriving Repr, DecidableEq, Inhabited

/-- The name of a group, up to its closing bracket. -/
def groupName (cs : List Char) : Except PatternFault (List Char × List Char) :=
  let name := cs.takeWhile (· != '>')
  match name, cs.dropWhile (· != '>') with
  | c :: more, _ :: rest =>
    let isInner (c : Char) : Bool :=
      c == '_' || c == '.' || c == '[' || c == ']' || Text.isAlphanumeric c
    if (c == '_' || Text.isLetter c) && more.all isInner then .ok (name, rest)
    else .error .malformed
  | _, _ => .error .malformed

/-- Modes to be set, each once, and after a hyphen those to be unset. -/
def groupModes (seen : List Char) (m : Modes) :
    List Char → Except PatternFault (GroupStart × List Char)
  | [] => .error .malformed
  | c :: r =>
    if c = ':' ∨ c = ')' then
      if seen.head? == some '-' || c == ')' && seen.isEmpty then .error .malformed
      else .ok (if c = ':' then .group m none else .modes m, r)
    else if "-imsUuRx".toList.contains c && !seen.contains c then
      groupModes (c :: seen) (m.set c (!seen.contains '-')) r
    else .error .malformed

/-- What stands behind the bracket that opens a group. -/
def groupStart (m : Modes) (cs : List Char) : Except PatternFault (GroupStart × List Char) :=
  match skip m cs with
  | '?' :: '=' :: _ | '?' :: '!' :: _ | '?' :: '<' :: '=' :: _ | '?' :: '<' :: '!' :: _ =>
    .error .malformed
  | '?' :: 'P' :: '<' :: r | '?' :: '<' :: r =>
    (groupName r).map fun (name, rest) => (.group m (some name), rest)
  | '?' :: r => groupModes [] m r
  | r => .ok (.group m none, r)

/-! ## The whole pattern -/

structure Reader where
  modes : Modes
  /-- Whether there is something that a repetition can repeat. -/
  repeatable : Bool
  /-- The modes around each open group, the innermost first. -/
  outer : List Modes
  names : List (List Char)
  wordBoundary : Bool
deriving Repr, DecidableEq, Inhabited

namespace Reader

def start : Reader := ⟨.default, false, [], [], false⟩

/-- One thing more that can be repeated. -/
def place (s : Reader) : Reader := { s with repeatable := true }

def item (s : Reader) (i : Item) : Except PatternFault Reader :=
  match i with
  | .literal _ | .byte _ =>
    if i.isText s.modes && !s.modes.foldsCase then .ok s.place else .error .malformed
  | .charClass => .ok s.place
  | .boundary ofWords => .ok { s.place with wordBoundary := s.wordBoundary || ofWords }

def openGroup (s : Reader) : GroupStart → Except PatternFault Reader
  | .modes m => .ok { s with modes := m, repeatable := false }
  | .group m name? =>
    let inner := { s with modes := m, repeatable := false, outer := s.modes :: s.outer }
    match name? with
    | none => .ok inner
    | some name =>
      if s.names.contains name then .error .malformed
      else .ok { inner with names := name :: s.names }

def closeGroup (s : Reader) : Except PatternFault Reader :=
  match s.outer with
  | [] => .error .malformed
  | m :: outer => .ok { s with modes := m, repeatable := true, outer := outer }

/-- Read the next part of a pattern that has not ended. -/
def step (s : Reader) (c : Char) (r : List Char) : Except PatternFault (Reader × List Char) :=
  match c with
  | '(' => do
    let (g, r) ← groupStart s.modes r
    return (← s.openGroup g, r)
  | ')' => return (← s.closeGroup, r)
  | '|' => .ok ({ s with repeatable := false }, r)
  | '[' => do
    let r ← enterClass s.modes r
    return (s.place, ← finishClass s.modes (r.length + 1) 1 r)
  | '?' | '*' | '+' =>
    if s.repeatable then .ok (s, match r with | '?' :: r => r | r => r) else .error .malformed
  | '\x7b' => .error .malformed
  | '\\' => do
    let (i, r) ← escape s.modes r
    return (← s.item i, r)
  | '.' => if s.modes.unicode then .ok (s.place, r) else .error .malformed
  | '^' | '$' => .ok (s.place, r)
  | c => return (← s.item (.literal c), r)

/-- Read to the end; `fuel` bounds the number of parts. -/
def run : (fuel : Nat) → Reader → List Char → Except PatternFault Reader
  | 0, _, _ => .error .malformed
  | fuel + 1, s, cs =>
    match skip s.modes cs with
    | [] => if s.outer.isEmpty then .ok s else .error .malformed
    | c :: r =>
      match s.step c r with
      | .error e => .error e
      | .ok (s, r) => run fuel s r

end Reader

def fault? (cs : List Char) : Option PatternFault :=
  match Reader.start.run (cs.length + 1) cs with
  | .error e => some e
  | .ok s => if s.wordBoundary then some .wordBoundary else none

end Pattern
end FileTail
