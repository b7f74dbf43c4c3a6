import FileTail.Table
import FileTail.Word

/-!
# FileTail.Throttle

Keeps repeated failures from flooding the log. Failures are counted per category. A failure is
worth a message once its category has failed more than `threshold` times in a row and the last
message of the category is at least `cooldown` old. A success clears the count but not the time of
the last message.

* `fail` — count a failure and say whether to report it.
* `clear` — a success.
* `failures_fail_other`, `failures_clear_other` — categories do not see each other.
-/

namespace FileTail

structure Tally where
  failures : Nat
  lastReport : Option Nat
deriving Repr, DecidableEq, Inhabited

structure Throttle (κ : Type) where
  threshold : Nat
  cooldown : Nat
  tallies : Table κ Tally
deriving Repr, DecidableEq

namespace Tally

def fresh : Tally := ⟨0, none⟩

/-- Whether the last message is old enough, at time `now`, for another one. -/
def cooled (t : Tally) (cooldown now : Nat) : Bool :=
  match t.lastReport with
  | none => true
  | some last => cooldown ≤ now - last

/-- One more failure at time `now`. The flag says whether it is to be reported. -/
def fail (t : Tally) (threshold cooldown now : Nat) : Bool × Tally :=
  let failures := Word.satAdd t.failures 1
  if threshold < failures ∧ t.cooled cooldown now then
    (true, ⟨failures, some now⟩)
  else
    (false, ⟨failures, t.lastReport⟩)

def clear (t : Tally) : Tally := { t with failures := 0 }

theorem failures_fail (t : Tally) (threshold cooldown now : Nat) :
    (t.fail threshold cooldown now).2.failures = Word.satAdd t.failures 1 := by
  unfold fail
  dsimp only
  split <;> rfl

end Tally

namespace Throttle

variable {κ : Type} [DecidableEq κ]

def new (threshold cooldown : Nat) : Throttle κ := ⟨threshold, cooldown, .empty⟩

def tally (t : Throttle κ) (c : κ) : Tally := (t.tallies.get? c).getD .fresh

def fail (t : Throttle κ) (now : Nat) (c : κ) : Bool × Throttle κ :=
  let r := (t.tally c).fail t.threshold t.cooldown now
  (r.1, { t with tallies := t.tallies.put c r.2 })

def clear (t : Throttle κ) (c : κ) : Throttle κ :=
  { t with tallies := t.tallies.adjust c Tally.clear }

/-- Failures in a row, as far as the counter goes. -/
def failures (t : Throttle κ) (c : κ) : Nat := (t.tally c).failures

theorem failures_fail_same (t : Throttle κ) (now : Nat) (c : κ) :
    (t.fail now c).2.failures c = Word.satAdd (t.failures c) 1 := by
  simp [failures, tally, fail, Table.get?_put_same, Tally.failures_fail]

theorem failures_fail_other (t : Throttle κ) (now : Nat) {c d : κ} (h : c ≠ d) :
    (t.fail now c).2.failures d = t.failures d := by
  simp [failures, tally, fail, Table.get?_put_other _ _ h]

theorem failures_clear_same (t : Throttle κ) (c : κ) : (t.clear c).failures c = 0 := by
  simp only [failures, tally, clear, Table.get?_adjust_same]
  cases t.tallies.get? c <;> rfl

theorem failures_clear_other (t : Throttle κ) {c d : κ} (h : c ≠ d) :
    (t.clear c).failures d = t.failures d := by
  simp [failures, tally, clear, Table.get?_adjust_other _ _ h]

end Throttle
end FileTail
