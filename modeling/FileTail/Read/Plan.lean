import FileTail.Lines
import FileTail.Settings
import FileTail.Watch.Record

/-!
# FileTail.Read.Plan

Which bytes of a changed file to read next, and what the bytes that were read amount to. Both are
functions of the limits, the offset up to which the file was read, and the change or the bytes.

A file that was replaced is read from its start, but only after a further look, because the size
that came with the change may be that of the old content. Unread content of more than twice the
largest read is given up but for its end, which is read from where a code unit starts; between one
and two reads of it are a backlog that is worked off read by read.

* `Limits.plan` — the offset to go on from and the window to read, if any.
* `Limits.harvest` — lines, lost bytes and the new offset from the bytes of a window.
-/

namespace FileTail

/-- The part of the settings that says what to read. -/
structure Limits where
  startAt : StartAt
  minFile : Nat
  minRead : Nat
  maxRead : Nat
deriving Repr, DecidableEq, Inhabited

/-- A range of a file to read. -/
structure Window where
  position : Nat
  length : Nat
  /-- The range starts within a line, whose end is left out. -/
  midLine : Bool
  /-- Unread content remains behind the range. -/
  backlog : Bool
deriving Repr, DecidableEq, Inhabited

inductive Plan where
  | skip (verdict : Verdict)
  | read (window : Window)
deriving Repr, DecidableEq, Inhabited

/-- What a window of a file amounts to. -/
structure Harvest where
  lines : List String
  /-- Bytes that were given up. -/
  skipped : Nat
  /-- Where to go on reading. -/
  offset : Nat
  verdict : Verdict
deriving Repr, DecidableEq, Inhabited

/-- The smallest multiple of `width` that is not below `n`. -/
def alignUp (width n : Nat) : Nat := (n + width - 1) / width * width

namespace Limits

def ofSettings (s : Settings) : Limits := ⟨s.startAt, s.minFileSize, s.minReadSize, s.maxReadSize⟩

/-- Where reading starts in a file that was not read before. -/
def anchor (l : Limits) (c : Change) : Nat :=
  match l.startAt with
  | .beginning => 0
  | .fileEnd => c.before

/-- More unread content than this is given up but for its end. -/
def patience (l : Limits) : Nat := Word.satMul l.maxRead 2

/-- The end of the unread content, for code units of `width` bytes. -/
def tailWindow (l : Limits) (width size : Nat) : Window :=
  let position := alignUp width (size - l.maxRead)
  ⟨position, size - position, true, false⟩

/-- The window to read when `offset` bytes of `size` were read, and there is something to read. -/
def window (l : Limits) (width offset size : Nat) : Window :=
  let unread := size - offset
  if l.patience < unread then l.tailWindow width size
  else if l.maxRead < unread then ⟨offset, l.maxRead, false, true⟩
  else ⟨offset, unread, false, false⟩

/-- Where to go on in a file of which `offset?` bytes were read: a file that became smaller than
that is read from its start. -/
def resume (l : Limits) (offset? : Option Nat) (c : Change) : Nat :=
  let offset := offset?.getD (l.anchor c)
  if c.replaced ∨ c.size < offset then 0 else offset

def plan (l : Limits) (width : Nat) (offset? : Option Nat) (c : Change) : Nat × Plan :=
  let offset := l.resume offset? c
  let unread := c.size - offset
  if c.replaced then (offset, .skip .revisit)
  else if c.size < l.minFile ∨ unread = 0 ∨ unread < l.minRead then (offset, .skip .settled)
  else (offset, .read (l.window width offset c.size))

/-- The bytes of a window without the mark at the start of the file. -/
def body (f : LineFormat) (w : Window) (bytes : Bytes) : Bytes :=
  if w.position = 0 then bytes.drop (f.encoding.markLength bytes) else bytes

/-- A full read without any delimiter is part of one line that is too long to wait for. -/
def isOverlong (l : Limits) (bytes body : Bytes) (cut : Split) : Bool :=
  decide (0 < cut.remainder) && cut.remainder == body.length && decide (l.maxRead ≤ bytes.length)

def harvest (l : Limits) (f : LineFormat) (offset : Nat) (w : Window) (bytes : Bytes) : Harvest :=
  let body := body f w bytes
  let cut := f.split body w.midLine
  let overlong := l.isOverlong bytes body cut
  let jumped := if w.midLine then w.position - offset else 0
  { lines := if overlong then cut.lines ++ [(f.encoding.decode body).text] else cut.lines
    skipped := jumped + cut.dropped
    offset := w.position + bytes.length - (if overlong then 0 else cut.remainder)
    verdict := if w.backlog ∨ bytes.length < w.length then .revisit else .settled }

end Limits
end FileTail
