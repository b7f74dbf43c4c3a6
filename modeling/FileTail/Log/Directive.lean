import FileTail.Log
import FileTail.Log.Pattern

/-!
# FileTail.Log.Directive

One part of a filter for messages: a verbosity alone, or a target, a span in brackets, or both, with
`=` and a verbosity after them if not everything is wanted. A span has a name, a field in braces, or
both; a field has a name and may have a pattern for its value.

Blanks around a directive are passed over when it is read, but its pieces are cut from the text with
the blanks at the positions found without them. A directive with a blank in front of it is
therefore seldom what it seems to be.

* `Directive.ofChars` — the directive that a text stands for, or what is wrong with it.
* `Directive.covers` — whether a directive has a say about a message.
* `Directive.narrower` — which of two directives is the more specific one.
-/

namespace FileTail

inductive Verbosity where
  | off
  | error
  | warn
  | info
  | debug
  | trace
deriving Repr, DecidableEq, Inhabited

namespace Verbosity

def rank : Verbosity → Nat
  | .off => 0
  | .error => 1
  | .warn => 2
  | .info => 3
  | .debug => 4
  | .trace => 5

def ofRank? : Nat → Option Verbosity
  | 0 => some .off
  | 1 => some .error
  | 2 => some .warn
  | 3 => some .info
  | 4 => some .debug
  | 5 => some .trace
  | _ => none

theorem ofRank?_rank (v : Verbosity) : ofRank? v.rank = some v := by cases v <;> rfl

/-- The number that a text stands for: digits, with a plus in front or not. -/
def number? (cs : List Char) : Option Nat :=
  let digits := match cs with
    | '+' :: r => r
    | cs => cs
  if digits.isEmpty || !digits.all Char.isDigit then none
  else some (digits.foldl (fun n d => 10 * n + (d.toNat - '0'.toNat)) 0)

/-- A verbosity by its rank, or by its name in any case. -/
def ofChars? (cs : List Char) : Option Verbosity :=
  match number? cs with
  | some n => ofRank? n
  | none =>
    match String.ofList (cs.map Char.toLower) with
    | "off" => some .off
    | "error" => some .error
    | "warn" => some .warn
    | "info" => some .info
    | "debug" => some .debug
    | "trace" => some .trace
    | _ => none

end Verbosity

namespace Severity

def verbosity : Severity → Verbosity
  | .info => .info
  | .warn => .warn
  | .error => .error

end Severity

inductive FilterFault where
  | malformed
  /-- There is no such verbosity. -/
  | noVerbosity
  | badPattern (why : PatternFault)
  /-- A piece that was to be cut out starts or ends inside a character. -/
  | torn
deriving Repr, DecidableEq, Inhabited

namespace FilterFault

def message : FilterFault → String
  | .malformed => "invalid filter directive"
  | .noVerbosity => "error parsing level filter: expected one of \"off\", \"error\", \"warn\", " ++
    "\"info\", \"debug\", \"trace\", or a number 0-5"
  | .badPattern why => "invalid field filter: " ++ why.message
  | .torn => "a piece of a filter directive starts or ends inside a character"

end FilterFault

/-- A field that a span, or a message, is to have. -/
structure FieldTest where
  name : List Char
  /-- Whether its value is to match a pattern. -/
  hasValue : Bool
deriving Repr, DecidableEq, Inhabited

namespace FieldTest

def takeSign : List Char → List Char
  | '+' :: r | '-' :: r => r
  | cs => cs

/-- Whether a text is a decimal number, with a point and an exponent or not. -/
def isDecimal (cs : List Char) : Bool :=
  let whole := cs.takeWhile Char.isDigit
  let rest := cs.dropWhile Char.isDigit
  let (fraction, rest) := match rest with
    | '.' :: r => (r.takeWhile Char.isDigit, r.dropWhile Char.isDigit)
    | r => ([], r)
  !(whole.isEmpty && fraction.isEmpty) &&
    match rest with
    | [] => true
    | e :: r => (e == 'e' || e == 'E') && !(takeSign r).isEmpty && (takeSign r).all Char.isDigit

/-- Whether a text stands for a number, which is compared and is no pattern. -/
def isNumber (cs : List Char) : Bool :=
  let r := takeSign cs
  ["inf", "infinity", "nan"].contains (String.ofList (r.map Char.toLower)) || isDecimal r

/-- A name, and after an equals sign a value; what follows a second one is passed over. -/
def ofChars (cs : List Char) : Except FilterFault FieldTest :=
  let name := cs.takeWhile (· != '=')
  match cs.dropWhile (· != '=') with
  | [] => .ok ⟨name, false⟩
  | _ :: r =>
    let value := r.takeWhile (· != '=')
    if isNumber value then .ok ⟨name, true⟩
    else
      match Pattern.fault? value with
      | some why => .error (.badPattern why)
      | none => .ok ⟨name, true⟩

end FieldTest

structure Directive where
  /-- Every source starts with the empty target. -/
  target : List Char
  /-- Whether it asks for a span of some name. -/
  spanned : Bool
  field : Option FieldTest
  verbosity : Verbosity
deriving Repr, DecidableEq, Inhabited

namespace Directive

/-- All that there is. -/
def everything : Directive := ⟨[], false, none, .trace⟩

/-! ## Pieces of a text by their places in bytes -/

def dropBytes? : Nat → List Char → Option (List Char)
  | 0, cs => some cs
  | _ + 1, [] => none
  | n + 1, c :: r => if c.utf8Size ≤ n + 1 then dropBytes? (n + 1 - c.utf8Size) r else none

def takeBytes? : Nat → List Char → Option (List Char)
  | 0, _ => some []
  | _ + 1, [] => none
  | n + 1, c :: r =>
    if c.utf8Size ≤ n + 1 then (takeBytes? (n + 1 - c.utf8Size) r).map (c :: ·) else none

/-- What was taken and what was dropped make up the text. -/
theorem takeBytes?_append_dropBytes? {n : Nat} {cs piece rest : List Char}
    (hp : takeBytes? n cs = some piece) (hr : dropBytes? n cs = some rest) :
    piece ++ rest = cs := by
  induction cs generalizing n piece with
  | nil =>
    cases n with
    | zero => cases hp; cases hr; rfl
    | succ n => cases hp
  | cons c r ih =>
    cases n with
    | zero => cases hp; cases hr; rfl
    | succ n =>
      by_cases h : c.utf8Size ≤ n + 1
      · simp only [takeBytes?, h, if_true, Option.map_eq_some_iff] at hp
        simp only [dropBytes?, h, if_true] at hr
        obtain ⟨q, hq, rfl⟩ := hp
        rw [List.cons_append, ih hq hr]
      · simp [takeBytes?, h] at hp

def cut (text : List Char) (start stop : Nat) : Except FilterFault (List Char) :=
  match (dropBytes? start text).bind (takeBytes? (stop - start)) with
  | some piece => .ok piece
  | none => .error .torn

def cutFrom (text : List Char) (start : Nat) : Except FilterFault (List Char) :=
  match dropBytes? start text with
  | some piece => .ok piece
  | none => .error .torn

/-! ## Reading -/

/-- Where the reading of a directive stands, with the place where the piece being read starts. -/
inductive Place where
  | start
  /-- In a target, or a verbosity. -/
  | name
  | span (start : Nat)
  | field (start : Nat)
  | afterField
  | afterSpan
  | verbosity (start : Nat)
deriving Repr, DecidableEq, Inhabited

/-- Whether a directive can start with a character. -/
def isStart (c : Char) : Bool := c == '-' || c == ':' || c == '_' || Text.isAlphanumeric c

/-- Read the character at place `i`. The name of a span does not matter, only whether there is one:
brackets without braces always hold a name, if only an empty one. -/
def step (text : List Char) (d : Directive) (p : Place) (i : Nat) (c : Char) :
    Except FilterFault (Directive × Place) :=
  match p with
  | .start =>
    if c = '[' then .ok (d, .span (i + 1))
    else if isStart c then .ok (d, .name)
    else .error .malformed
  | .name => do
    if c = '=' then return ({ d with target := ← cut text 0 i }, .verbosity (i + 1))
    else if c = '[' then return ({ d with target := ← cut text 0 i }, .span (i + 1))
    else return (d, p)
  | .span start => do
    if c = ']' then
      let _ ← cut text start i
      return ({ d with spanned := true }, .afterSpan)
    else if c = '\x7b' then
      return ({ d with spanned := (← cut text start i) != [] }, .field (i + 1))
    else return (d, p)
  | .field start => do
    if c = '\x7d' then
      let piece ← cut text start i
      if piece = [] then .error .malformed
      return ({ d with field := some (← FieldTest.ofChars piece) }, .afterField)
    else return (d, p)
  | .afterField => if c = ']' then .ok (d, .afterSpan) else .error .malformed
  | .afterSpan => if c = '=' then .ok (d, .verbosity (i + 1)) else .error .malformed
  | .verbosity _ => .ok (d, p)

/-- The end of a directive. A target that is the name of a verbosity is one. -/
def finish (text : List Char) (d : Directive) : Place → Except FilterFault Directive
  | .name =>
    match Verbosity.ofChars? text with
    | some v => .ok { d with verbosity := v }
    | none => .ok { d with target := text }
  | .verbosity start => do
    let piece ← cutFrom text start
    if piece = [] then return d
    match Verbosity.ofChars? piece with
    | some v => return { d with verbosity := v }
    | none => .error .noVerbosity
  | .afterSpan => .ok d
  | _ => .error .malformed

/-- Read what is left of a directive, which starts at place `i`. -/
def run (text : List Char) (d : Directive) (p : Place) (i : Nat) :
    List Char → Except FilterFault Directive
  | [] => finish text d p
  | c :: r =>
    match step text d p i c with
    | .error e => .error e
    | .ok (d, p) => run text d p (i + c.utf8Size) r

def ofChars (text : List Char) : Except FilterFault Directive :=
  run text everything .start 0 (Text.trimBlanks text)

/-! ## What a directive says -/

/-- Whether a directive speaks of messages outside spans, as all messages of this program are. -/
def isOpen (d : Directive) : Bool := !d.spanned && !(d.field.any (·.hasValue))

/-- Whether a directive has a say about a message. -/
def covers (d : Directive) (e : LogEntry) : Bool :=
  d.isOpen && d.target.isPrefixOf e.source.name.toList &&
    d.field.all fun f => e.names.contains (String.ofList f.name)

/-- Whether a directive is more specific than another that covers the same message: by the longer
target, then by a field, then by the field with the name that comes last. -/
def narrower (a b : Directive) : Bool :=
  if a.target.length != b.target.length then b.target.length < a.target.length
  else
    match a.field, b.field with
    | some f, some g => g.name < f.name
    | some _, none => true
    | none, _ => false

/-- The more specific of two directives, the second one of equal ones. -/
def moreSpecific (a : Option Directive) (b : Directive) : Option Directive :=
  match a with
  | none => some b
  | some a => if a.narrower b then some a else some b

end Directive
end FileTail
