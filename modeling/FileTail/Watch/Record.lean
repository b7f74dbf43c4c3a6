import FileTail.Head
import FileTail.Word

/-!
# FileTail.Watch.Record

What is remembered about one watched file, and how a new look at it is compared with that.

The first look only sets the baseline. Later a file has changed when its time, size or head
differs from what was recorded, and it holds other content when its head does not follow the
recorded one. Growth can be reported in steps: then the size handed out moves by one step per look
until it has caught up with the file.

* `FileRecord.look` — compare and record; gives the change, if there is one.
* `FileRecord.stepTo_le` — no more is handed out than there is.
-/

namespace FileTail

/-- What a look at a file sees. The time is in nanoseconds, where the system tells one. -/
structure Fingerprint where
  modified : Option Int
  size : Nat
  head : Head
deriving Repr, DecidableEq, Inhabited

structure Change where
  /-- The file holds other content than before. -/
  replaced : Bool
  /-- How far the file may be read. -/
  size : Nat
  /-- How far it could be read before. -/
  before : Nat
deriving Repr, DecidableEq, Inhabited

/-- How the reading of a change went. -/
inductive Verdict where
  | settled
  /-- Report a change at the next look, even if nothing changed. -/
  | revisit
deriving Repr, DecidableEq, Inhabited

structure FileRecord where
  last : Option Fingerprint
  /-- The size handed out so far, where growth is reported in steps. -/
  handedOut : Option Nat
  revisit : Bool
deriving Repr, DecidableEq, Inhabited

namespace FileRecord

def fresh : FileRecord := ⟨none, none, false⟩

/-- The size to hand out next for a file of size `size`. A file that was replaced or became smaller
than what was handed out starts over. -/
def stepTo (r : FileRecord) (size chunk : Nat) (replaced : Bool) : Nat :=
  let handed := r.handedOut.getD 0
  let start := if replaced ∨ size < handed then 0 else handed
  min (Word.satAdd start chunk) size

def look (r : FileRecord) (chunk? : Option Nat) (seen : Fingerprint) :
    FileRecord × Option Change :=
  match r.last with
  | none =>
    let handedOut := if chunk?.isSome then some seen.size else r.handedOut
    ({ r with last := some seen, handedOut := handedOut }, none)
  | some last =>
    let replaced := !seen.head.follows last.head
    let size :=
      match chunk? with
      | some chunk => r.stepTo seen.size chunk replaced
      | none => seen.size
    let handedOut := if chunk?.isSome then some size else r.handedOut
    if seen.modified = last.modified ∧ size = last.size ∧ replaced = false ∧ r.revisit = false then
      (⟨some last, handedOut, false⟩, none)
    else
      (⟨some { seen with size := size }, handedOut, false⟩, some ⟨replaced, size, last.size⟩)

/-- Note how the reading went. -/
def conclude (r : FileRecord) (v : Verdict) : FileRecord :=
  match v with
  | .settled => r
  | .revisit => { r with revisit := true }

theorem stepTo_le (r : FileRecord) (size chunk : Nat) (replaced : Bool) :
    r.stepTo size chunk replaced ≤ size := Nat.min_le_right _ _

end FileRecord
end FileTail
