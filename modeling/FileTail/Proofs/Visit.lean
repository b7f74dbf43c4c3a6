import FileTail.Proofs.Growth

/-!
# FileTail.Proofs.Visit

A cycle without faults as one step: a probe that sees the file and, where it leads to one, a read
that gets all that the file holds of its window.

* `Visit`: how much of the file is there at each part of the cycle.
* `Visited`: all that a visit can do to an idle file, one constructor for each outcome.
* `Track.visit`: every visit is one of these.
-/

namespace FileTail

structure Visit where
  modified : Option Int
  /-- How much of the file is there when its size is taken. -/
  size : Nat
  /-- How much is there when its head is read. -/
  head : Nat
  /-- How much is there when the window is read. -/
  read : Nat

namespace Visit

def seen (full : Bytes) (v : Visit) : Fingerprint := ⟨v.modified, v.size, .ofBytes (full.take v.head)⟩

def answer (full : Bytes) (v : Visit) (w : Window) : Bytes :=
  ((full.take v.read).drop w.position).take w.length

/-- What comes from outside in a visit. The answer is passed over where no read is under way. -/
def moments (full : Bytes) (v : Visit) : List Moment :=
  [.probed (.seen (v.seen full)), .fetched fun w => .ok (v.answer full w)]

/-- The file, which is `full` in the end, does not shrink during the visit. -/
structure Within (full : Bytes) (v : Visit) : Prop where
  size_le : v.size ≤ v.head
  head_le : v.head ≤ v.read
  read_le : v.read ≤ full.length

theorem Within.head_le_length {full : Bytes} {v : Visit} (h : v.Within full) :
    v.head ≤ full.length := Nat.le_trans h.head_le h.read_le

theorem Within.size_le_length {full : Bytes} {v : Visit} (h : v.Within full) :
    v.size ≤ full.length := Nat.le_trans h.size_le h.head_le_length

theorem length_answer {full : Bytes} {v : Visit} (h : v.Within full) {w : Window}
    (hw : w.position + w.length ≤ v.size) : (v.answer full w).length = w.length := by
  have h₁ := h.size_le
  have h₂ := h.head_le
  have h₃ := h.read_le
  simp only [answer, List.length_take, List.length_drop]
  omega

/-- A visit of a file that does not change. -/
def still (modified : Option Int) (full : Bytes) : Visit :=
  ⟨modified, full.length, full.length, full.length⟩

theorem still_within (modified : Option Int) (full : Bytes) : (still modified full).Within full :=
  ⟨Nat.le_refl _, Nat.le_refl _, Nat.le_refl _⟩

theorem seen_still (modified : Option Int) (full : Bytes) :
    (still modified full).seen full = ⟨modified, full.length, .ofBytes full⟩ := by
  simp [seen, still]

end Visit

/-- What a visit can do to an idle track, with the news it gives. -/
inductive Visited (r : Rules) (full : Bytes) (t : Track) (v : Visit) : Track → List News → Prop where
  | unchanged {record : FileRecord} :
      t.record.look r.chunk? (v.seen full) = (record, none) →
      Visited r full t v ⟨record, t.offset?, none⟩ [.quiet, .quiet]
  | skipped {record : FileRecord} {c : Change} {o : Nat} {verdict : Verdict} :
      t.record.look r.chunk? (v.seen full) = (record, some c) →
      r.limits.plan r.format.width t.offset? c = (o, .skip verdict) →
      Visited r full t v ⟨record.conclude verdict, some o, none⟩
        [.planned c o (.skip verdict), .quiet]
  | taken {record : FileRecord} {c : Change} {o : Nat} {w : Window} {y : Harvest} :
      t.record.look r.chunk? (v.seen full) = (record, some c) →
      r.limits.plan r.format.width t.offset? c = (o, .read w) →
      r.limits.harvest r.format o w (v.answer full w) = y →
      Visited r full t v ⟨record.conclude y.verdict, some y.offset, none⟩
        [.planned c o (.read w), .taken w (v.answer full w) y.lines y.skipped y.offset]

namespace Track

theorem visit (r : Rules) {t : Track} (h : t.reading? = none) (full : Bytes) (v : Visit) :
    Visited r full t v (t.run r (v.moments full)).1 (t.run r (v.moments full)).2 := by
  simp only [Visit.moments, run, step, h]
  rcases hl : t.record.look r.chunk? (v.seen full) with ⟨record, _ | c⟩
  · simp only [see, hl, h]
    exact .unchanged hl
  · rcases hp : r.limits.plan r.format.width t.offset? c with ⟨o, verdict | w⟩
    · simp only [see, hl, hp]
      exact .skipped hl hp
    · simp only [see, hl, hp]
      exact .taken hl hp rfl

end Track
end FileTail
