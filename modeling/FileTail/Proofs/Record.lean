import FileTail.Watch.Record

/-!
# FileTail.Proofs.Record

What a look at a file says and what it records, one lemma for each of its outcomes.

* `Head.follows_of_prefix`: the head of a file that grew follows its earlier head.
* `FileRecord.look_change`, `FileRecord.look_quiet`: everything known after a look with a change and
  after one without.
* `FileRecord.look_of_revisit`: a file that is to be revisited is reported by the next look.
* `FileRecord.InStep.look`, `FileRecord.InStep.look_quiet`: what was handed out is what was recorded, and
  a look without a change leaves both as they are.
-/

namespace FileTail

namespace Bytes

theorem bigEndian_take (bytes : Bytes) (n : Nat) :
    bigEndian bytes / weight (bytes.length - n) = bigEndian (bytes.take n) := by
  have happ := bigEndian_append (bytes.take n) (bytes.drop n)
  have hlt := bigEndian_lt (bytes.drop n)
  rw [List.take_append_drop] at happ
  rw [List.length_drop] at happ hlt
  rw [happ, Nat.mul_comm, Nat.mul_add_div (weight_pos _), Nat.div_eq_of_lt hlt, Nat.add_zero]

end Bytes

namespace Head

/-- The leading number of a head is the numeral of that many bytes. -/
theorem leading_ofBytes (bytes : Bytes) {n : Nat} (hn : n ≤ (ofBytes bytes).length) :
    (ofBytes bytes).leading n = Bytes.bigEndian (bytes.take n) := by
  rw [length_ofBytes] at hn
  have hl : (bytes.take capacity).length = min capacity bytes.length := List.length_take
  have hw : Bytes.weight (capacity - n) =
      Bytes.weight (capacity - (bytes.take capacity).length) *
        Bytes.weight ((bytes.take capacity).length - n) := by
    rw [← Bytes.weight_add]; congr 1; omega
  simp only [leading, ofBytes]
  rw [hw, ← Nat.div_div_eq_div_mul, Nat.mul_div_cancel _ (Bytes.weight_pos _),
    Bytes.bigEndian_take, List.take_take]
  congr 2; omega

theorem follows_self (h : Head) : h.follows h = true := by
  simp [follows]

theorem follows_of_prefix {a b : Bytes} (h : a <+: b) : (ofBytes b).follows (ofBytes a) = true := by
  have hle : (ofBytes a).length ≤ (ofBytes b).length := by
    rw [length_ofBytes, length_ofBytes]
    have := h.length_le
    omega
  have hcut : b.take (ofBytes a).length = a.take (ofBytes a).length := by
    obtain ⟨more, rfl⟩ := h
    exact List.take_append_of_le_length (by rw [length_ofBytes]; omega)
  simp [follows, hle, leading_ofBytes b hle, leading_ofBytes a (Nat.le_refl _), hcut]

end Head

namespace FileRecord

variable {r r' : FileRecord} {chunk? : Option Nat} {seen : Fingerprint}

@[simp] theorem conclude_last (r : FileRecord) (v : Verdict) : (r.conclude v).last = r.last := by
  cases v <;> rfl

@[simp] theorem conclude_handedOut (r : FileRecord) (v : Verdict) :
    (r.conclude v).handedOut = r.handedOut := by
  cases v <;> rfl

/-- The size that is reported of a file of size `size`. -/
def reported (r : FileRecord) (chunk? : Option Nat) (size : Nat) (replaced : Bool) : Nat :=
  match chunk? with
  | some chunk => r.stepTo size chunk replaced
  | none => size

/-- The size handed out once `size` was reported. -/
def handed (r : FileRecord) (chunk? : Option Nat) (size : Nat) : Option Nat :=
  if chunk?.isSome then some size else r.handedOut

/-- Of a file that grew the next step is reported, up to its end. -/
theorem reported_grown {handed size : Nat} (chunk : Nat) (h : r.handedOut = some handed)
    (hle : handed ≤ size) (hsize : size ≤ Word.limit) :
    r.reported (some chunk) size false = min (handed + chunk) size := by
  have hlt : ¬ size < handed := Nat.not_lt.2 hle
  simp only [reported, stepTo, h, Option.getD_some, Bool.false_eq_true, false_or, hlt, if_false,
    Word.satAdd]
  omega

theorem reported_le (r : FileRecord) (chunk? : Option Nat) (size : Nat) (replaced : Bool) :
    r.reported chunk? size replaced ≤ size := by
  cases chunk? with
  | none => exact Nat.le_refl _
  | some chunk => exact r.stepTo_le _ _ _

/-- What was handed out stays handed out while the file grows. -/
theorem le_reported {before size : Nat} (hh : chunk?.isSome → r.handedOut = some before)
    (hle : before ≤ size) (hsize : size ≤ Word.limit) :
    before ≤ r.reported chunk? size false := by
  cases chunk? with
  | none => exact hle
  | some chunk =>
    rw [reported_grown chunk (hh rfl) hle hsize]
    omega

theorem handed_of_isSome (h : chunk?.isSome) (r : FileRecord) (size : Nat) :
    r.handed chunk? size = some size := if_pos h

theorem look_first (h : r.last = none) :
    r.look chunk? seen =
      ({ r with last := some seen, handedOut := r.handed chunk? seen.size }, none) := by
  simp [look, h, handed]

theorem look_later {last : Fingerprint} (h : r.last = some last) (chunk? : Option Nat)
    (seen : Fingerprint) :
    r.look chunk? seen =
      let replaced := !seen.head.follows last.head
      let size := r.reported chunk? seen.size replaced
      if seen.modified = last.modified ∧ size = last.size ∧ replaced = false ∧ r.revisit = false then
        (⟨some last, r.handed chunk? size, false⟩, none)
      else
        (⟨some { seen with size := size }, r.handed chunk? size, false⟩,
          some ⟨replaced, size, last.size⟩) := by
  cases chunk? <;> simp [look, h, handed, reported]

theorem look_change {c : Change} (h : r.look chunk? seen = (r', some c)) :
    ∃ last, r.last = some last ∧ c.replaced = (!seen.head.follows last.head) ∧
      c.size = r.reported chunk? seen.size c.replaced ∧ c.before = last.size ∧
      r' = ⟨some { seen with size := c.size }, r.handed chunk? c.size, false⟩ := by
  cases hl : r.last with
  | none => rw [look_first hl] at h; simp at h
  | some last =>
    rw [look_later hl] at h
    dsimp only at h
    split at h
    · simp at h
    · simp only [Prod.mk.injEq, Option.some.injEq] at h
      obtain ⟨rfl, rfl⟩ := h
      exact ⟨last, rfl, rfl, rfl, rfl, rfl⟩

theorem look_quiet (h : r.look chunk? seen = (r', none)) :
    (r.last = none ∧
      r' = { r with last := some seen, handedOut := r.handed chunk? seen.size }) ∨
    ∃ last, r.last = some last ∧ seen.head.follows last.head = true ∧
      r.reported chunk? seen.size false = last.size ∧ r.revisit = false ∧
      r' = ⟨some last, r.handed chunk? last.size, false⟩ := by
  cases hl : r.last with
  | none =>
    rw [look_first hl] at h
    simp only [Prod.mk.injEq, and_true] at h
    exact .inl ⟨rfl, h.symm⟩
  | some last =>
    rw [look_later hl] at h
    dsimp only at h
    split at h
    · rename_i hc
      obtain ⟨-, hsize, hrep, hrev⟩ := hc
      simp only [Prod.mk.injEq, and_true] at h
      rw [hrep] at hsize h
      rw [hsize] at h
      exact .inr ⟨last, rfl, by simpa using hrep, hsize, hrev, h.symm⟩
    · simp at h

/-- A change is reported for its time, its size or its head, or because the file is to be revisited. -/
theorem look_change_cause {c : Change} {last : Fingerprint} (hl : r.last = some last)
    (h : r.look chunk? seen = (r', some c)) :
    seen.modified ≠ last.modified ∨ c.size ≠ last.size ∨ c.replaced = true ∨ r.revisit = true := by
  rw [look_later hl] at h
  dsimp only at h
  split at h
  · simp at h
  · rename_i hc
    simp only [Prod.mk.injEq, Option.some.injEq] at h
    obtain ⟨-, rfl⟩ := h
    exact Classical.byContradiction fun hno => hc (by simpa [not_or] using hno)

/-- No look at a file that is to be revisited passes without a report. -/
theorem look_of_revisit {last : Fingerprint} (h : r.last = some last) (hr : r.revisit = true)
    (chunk? : Option Nat) (seen : Fingerprint) :
    ∃ c, r.look chunk? seen = (⟨some { seen with size := c.size }, r.handed chunk? c.size, false⟩,
      some c) ∧ c.replaced = (!seen.head.follows last.head) ∧
      c.size = r.reported chunk? seen.size c.replaced := by
  rw [look_later h]
  dsimp only
  exact ⟨⟨!seen.head.follows last.head, _, last.size⟩, if_neg (by simp [hr]), rfl, rfl⟩

/-! ## Steps -/

/-- What was handed out is what was recorded. -/
def InStep (chunk? : Option Nat) (r : FileRecord) : Prop :=
  chunk?.isSome → ∀ last, r.last = some last → r.handedOut = some last.size

namespace InStep

theorem conclude (h : r.InStep chunk?) (v : Verdict) : (r.conclude v).InStep chunk? := by
  intro hchunk last hlast
  rw [conclude_last] at hlast
  rw [conclude_handedOut]
  exact h hchunk last hlast

/-- Each look brings both in step, whatever was recorded before. -/
theorem look (r : FileRecord) (chunk? : Option Nat) (seen : Fingerprint) :
    (r.look chunk? seen).1.InStep chunk? := by
  rcases hlook : r.look chunk? seen with ⟨r', _ | c⟩
  · obtain ⟨-, rfl⟩ | ⟨before, -, -, -, -, rfl⟩ := look_quiet hlook
    all_goals
      intro hchunk last hlast
      cases hlast
      exact handed_of_isSome hchunk _ _
  · obtain ⟨before, -, -, -, -, rfl⟩ := look_change hlook
    intro hchunk last hlast
    cases hlast
    exact handed_of_isSome hchunk _ _

/-- A look that finds a file unchanged leaves its record as it is. -/
theorem look_quiet (h : r.InStep chunk?) {last : Fingerprint} (hlast : r.last = some last)
    (hlook : r.look chunk? seen = (r', none)) :
    r' = r ∧ seen.head.follows last.head = true ∧ r.reported chunk? seen.size false = last.size ∧
      r.revisit = false := by
  obtain ⟨hnone, -⟩ | ⟨last', hlast', hfollows, hsize, hrevisit, rfl⟩ := FileRecord.look_quiet hlook
  · rw [hlast] at hnone
    cases hnone
  · obtain rfl : last = last' := Option.some.inj (hlast.symm.trans hlast')
    refine ⟨?_, hfollows, hsize, hrevisit⟩
    have hhanded : r.handed chunk? last.size = r.handedOut := by
      by_cases hchunk : chunk?.isSome
      · rw [handed_of_isSome hchunk, h hchunk last hlast]
      · exact if_neg hchunk
    rw [hhanded, ← hlast, ← hrevisit]

end InStep
end FileRecord
end FileTail
