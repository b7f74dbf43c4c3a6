import Mathlib.Algebra.Order.Floor.Div
import Mathlib.Data.List.Chain
import FileTail.Proofs.Reservation
import FileTail.Proofs.Tailing

/-!
# FileTail.Proofs.Succession

The changes of a file follow on one another: each begins where the one before it ended, the first at
the size of the first look, and none goes further than the file does. Reported in steps, a file that
stays as it is has been reported to its end after as many looks as it has steps.

A step is taken before it is known whether there is a change, the fingerprint is written only if there
is one. The two agree in every state (`InStep`), and that is why a look without a change is no look at all.

* `FileRecord.notes`: looks at a file and ends of its cycles, with the changes they report.
* `FileRecord.notes_chain`: each change begins where the one before it ended.
* `FileRecord.Due`: how many changes a file still takes; `Due.notes`: each look takes one of them.
* `FileRecord.exists_due`: there are not more than steps to the end, and one.
* `Call.run_record`: of all calls on watcher and reader a record sees its own looks and cycle ends.
* `changes_unbroken`: all of that for every file of a watcher in every state.
-/

namespace FileTail

/-- Where the step to a change went from: where the change before it ended, or the start of the file, if
the file was replaced or has become smaller. -/
def Change.base (c : Change) (size : Nat) : Nat :=
  if c.replaced ∨ size < c.before then 0 else c.before

/-- How many changes it takes at most until a file of size `size` is reported to its end. -/
def changesToEnd (chunk? : Option Nat) (base size : Nat) : Nat :=
  match chunk? with
  | none => 1
  | some chunk => (size - base) ⌈/⌉ chunk + 1

namespace FileRecord

variable {chunk? : Option Nat} {seen : Fingerprint} {r r' : FileRecord} {wait due : Nat}

/-! ## What happens to a record -/

inductive Note where
  | seen (fingerprint : Fingerprint)
  | concluded (v : Verdict)
deriving DecidableEq

def Note.size? : Note → Option Nat
  | .seen fingerprint => some fingerprint.size
  | .concluded _ => none

def note (chunk? : Option Nat) (r : FileRecord) : Note → FileRecord × Option Change
  | .seen fingerprint => r.look chunk? fingerprint
  | .concluded v => (r.conclude v, none)

def notes (chunk? : Option Nat) (r : FileRecord) : List Note → FileRecord × List Change
  | [] => (r, [])
  | n :: ns =>
    let (r, change?) := r.note chunk? n
    let (r, changes) := r.notes chunk? ns
    (r, change?.toList ++ changes)

theorem notes_cons (chunk? : Option Nat) (r : FileRecord) (n : Note) (ns : List Note) :
    r.notes chunk? (n :: ns) =
      (((r.note chunk? n).1.notes chunk? ns).1,
        (r.note chunk? n).2.toList ++ ((r.note chunk? n).1.notes chunk? ns).2) := rfl

theorem notes_append (chunk? : Option Nat) (r : FileRecord) (ns more : List Note) :
    r.notes chunk? (ns ++ more) =
      (((r.notes chunk? ns).1.notes chunk? more).1,
        (r.notes chunk? ns).2 ++ ((r.notes chunk? ns).1.notes chunk? more).2) := by
  induction ns generalizing r with
  | nil => rfl
  | cons n ns ih =>
    rw [List.cons_append, notes_cons, notes_cons, ih, List.append_assoc]

theorem InStep.notes (h : r.InStep chunk?) (ns : List Note) :
    (r.notes chunk? ns).1.InStep chunk? := by
  induction ns generalizing r with
  | nil => exact h
  | cons n ns ih =>
    cases n with
    | seen fingerprint => exact ih (InStep.look r chunk? fingerprint)
    | concluded v => exact ih (h.conclude v)

/-- The size at the first look. -/
def baseline? (r : FileRecord) (ns : List Note) : Option Nat :=
  (r.last.map (·.size)).or (ns.findSome? Note.size?)

/-- Each change begins where the one before it ended, and the first at the baseline. -/
theorem notes_chain (chunk? : Option Nat) (r : FileRecord) (ns : List Note) :
    (∀ c ∈ (r.notes chunk? ns).2.head?, r.baseline? ns = some c.before) ∧
      (r.notes chunk? ns).2.IsChain fun earlier later => earlier.size = later.before := by
  induction ns generalizing r with
  | nil => exact ⟨by simp [notes], .nil⟩
  | cons n ns ih =>
    obtain ⟨hfirst, hchain⟩ := ih (r.note chunk? n).1
    rw [notes_cons]
    rcases hnote : r.note chunk? n with ⟨r', _ | c⟩
    · -- no change, and the baseline is that of the rest
      rw [hnote] at hfirst hchain
      have hbaseline : r.baseline? (n :: ns) = r'.baseline? ns := by
        cases n with
        | seen fingerprint =>
          obtain ⟨hlast, rfl⟩ | ⟨last, hlast, -, -, -, rfl⟩ := look_quiet hnote
          · simp [baseline?, hlast, Note.size?, List.findSome?_cons]
          · simp [baseline?, hlast]
        | concluded v =>
          obtain rfl : r.conclude v = r' := (Prod.mk.inj hnote).1
          simp [baseline?, Note.size?, List.findSome?_cons]
      rw [hbaseline]
      exact ⟨hfirst, hchain⟩
    · rw [hnote] at hfirst hchain
      cases n with
      | seen fingerprint =>
        obtain ⟨last, hlast, -, -, hbefore, rfl⟩ := look_change hnote
        refine ⟨fun d hd => ?_, ?_⟩
        · obtain rfl : c = d := by simpa using hd
          simp [baseline?, hlast, hbefore]
        · refine List.isChain_cons.2 ⟨fun d hd => ?_, hchain⟩
          exact Option.some.inj (hfirst d hd)
      | concluded v => cases (Prod.mk.inj hnote).2

/-! ## Steps -/

/-- Where the next step goes from. -/
def base (r : FileRecord) (seen : Fingerprint) : Nat :=
  match r.last with
  | none => seen.size
  | some last => if !seen.head.follows last.head ∨ seen.size < last.size then 0 else last.size

theorem base_le (r : FileRecord) (seen : Fingerprint) : r.base seen ≤ seen.size := by
  unfold base
  split
  · exact Nat.le_refl _
  · split
    · exact Nat.zero_le _
    · rename_i h
      exact Nat.le_of_not_lt (not_or.1 h).2

theorem base_of_last {last : Fingerprint} (h : r.last = some last)
    (hfollows : seen.head.follows last.head = true) (hle : last.size ≤ seen.size) :
    r.base seen = last.size := by
  simp [base, h, hfollows, Nat.not_lt.2 hle]

theorem base_of_change {c : Change} (h : r.look chunk? seen = (r', some c)) :
    c.base seen.size = r.base seen := by
  obtain ⟨last, hlast, hreplaced, -, hbefore, -⟩ := look_change h
  simp only [Change.base, base, hlast, hreplaced, hbefore]

/-- A step goes on from what was recorded, as far as the file does. -/
theorem InStep.reported {chunk : Nat} (h : r.InStep (some chunk)) {last : Fingerprint}
    (hlast : r.last = some last) (hsize : seen.size ≤ Word.limit) :
    r.reported (some chunk) seen.size (!seen.head.follows last.head) =
      min (r.base seen + chunk) seen.size := by
  have hhanded : r.handedOut = some last.size := h rfl last hlast
  have hstep : r.reported (some chunk) seen.size (!seen.head.follows last.head) =
      min (Word.satAdd (r.base seen) chunk) seen.size := by
    simp only [FileRecord.reported, stepTo, hhanded, Option.getD_some, base, hlast]
  rw [hstep, Word.satAdd]
  omega

/-- What a change says of a file in step. -/
theorem InStep.change (h : r.InStep chunk?) (hsize : seen.size ≤ Word.limit) {c : Change}
    (hlook : r.look chunk? seen = (r', some c)) :
    c.size ≤ seen.size ∧ (chunk? = none → c.size = seen.size) ∧
      ∀ chunk, chunk? = some chunk → c.size = min (c.base seen.size + chunk) seen.size := by
  obtain ⟨last, hlast, hreplaced, hreported, -, -⟩ := look_change hlook
  refine ⟨hreported ▸ r.reported_le _ _ _, ?_, ?_⟩
  · rintro rfl
    exact hreported
  · rintro chunk rfl
    rw [base_of_change hlook, hreported, hreplaced]
    exact h.reported hlast hsize

/-- A file without a change is reported to its end. -/
theorem InStep.quiet_size (h : r.InStep chunk?) (hchunk : ∀ chunk, chunk? = some chunk → 0 < chunk)
    (hsize : seen.size ≤ Word.limit) {last : Fingerprint} (hlast : r.last = some last)
    (hlook : r.look chunk? seen = (r', none)) : last.size = seen.size := by
  obtain ⟨-, hfollows, hreported, -⟩ := h.look_quiet hlast hlook
  cases chunk? with
  | none => exact hreported.symm
  | some chunk =>
    have hpos := hchunk chunk rfl
    have hstep := h.reported hlast hsize
    rw [hfollows, Bool.not_true, hreported] at hstep
    have hbase := r.base_le seen
    by_cases hle : last.size ≤ seen.size
    · rw [base_of_last hlast hfollows hle] at hstep
      omega
    · omega

/-! ## The same look again -/

/-- Looks at what is seen report `due` changes one after the other, and then no more. A file that has not
been seen before takes `wait` looks until the first of them. -/
inductive Due (chunk? : Option Nat) (seen : Fingerprint) : FileRecord → Nat → Nat → Prop where
  | settled {r : FileRecord} {last : Fingerprint} :
      r.last = some last → last.size = seen.size → r.look chunk? seen = (r, none) →
      Due chunk? seen r 0 0
  | change {r r' : FileRecord} {c : Change} {due : Nat} :
      r.look chunk? seen = (r', some c) → Due chunk? seen r' 0 due → Due chunk? seen r 0 (due + 1)
  | baseline {r r' : FileRecord} {due : Nat} :
      r.look chunk? seen = (r', none) → Due chunk? seen r' 0 due → Due chunk? seen r 1 due

/-- Nothing but looks at what is seen, and cycles that settled. -/
def Note.Again (seen : Fingerprint) (n : Note) : Prop := n = .seen seen ∨ n = .concluded .settled

instance (seen : Fingerprint) (n : Note) : Decidable (n.Again seen) :=
  inferInstanceAs (Decidable (_ ∨ _))

theorem Due.over (h : Due chunk? seen r 0 0) :
    ∃ last, r.last = some last ∧ last.size = seen.size ∧ r.look chunk? seen = (r, none) := by
  cases h with
  | settled hlast hsize hlook => exact ⟨_, hlast, hsize, hlook⟩

/-- Each look takes one of the changes that are due. -/
theorem Due.notes (h : Due chunk? seen r wait due) {ns : List Note} (hns : ∀ n ∈ ns, n.Again seen) :
    (r.notes chunk? ns).2.length = min due (ns.count (.seen seen) - wait) ∧
      Due chunk? seen (r.notes chunk? ns).1 (wait - ns.count (.seen seen))
        (due - (ns.count (.seen seen) - wait)) := by
  induction ns generalizing r wait due with
  | nil =>
    simp only [FileRecord.notes, List.count_nil, Nat.zero_sub, Nat.sub_zero, List.length_nil,
      Nat.min_zero, true_and]
    exact h
  | cons n ns ih =>
    have hrest : ∀ n ∈ ns, n.Again seen := fun n hn => hns n (List.mem_cons_of_mem _ hn)
    rw [notes_cons]
    rcases hns n List.mem_cons_self with rfl | rfl
    · rw [List.count_cons_self]
      cases h with
      | settled hlast hsize hlook =>
        obtain ⟨hlength, hdue⟩ := ih (.settled hlast hsize hlook) hrest
        simp only [note, hlook]
        refine ⟨by simpa using hlength, by simpa using hdue⟩
      | change hlook hmore =>
        obtain ⟨hlength, hdue⟩ := ih hmore hrest
        simp only [note, hlook, Option.toList_some, List.length_append, List.length_singleton,
          hlength]
        refine ⟨by omega, ?_⟩
        simpa only [Nat.zero_sub, Nat.sub_zero, Nat.add_sub_add_right] using hdue
      | baseline hlook hmore =>
        obtain ⟨hlength, hdue⟩ := ih hmore hrest
        have hwaited : 1 - (ns.count (.seen seen) + 1) = 0 := by omega
        simp only [note, hlook, Option.toList_none, List.nil_append, hlength, hwaited,
          Nat.add_sub_cancel]
        refine ⟨by omega, ?_⟩
        simpa only [Nat.zero_sub, Nat.sub_zero] using hdue
    · have hcount : (Note.concluded .settled :: ns).count (.seen seen) = ns.count (.seen seen) :=
        List.count_cons_of_ne (by simp)
      rw [hcount]
      exact ih h hrest

/-- What is seen has been recorded, up to some size. -/
structure Partway (chunk? : Option Nat) (seen : Fingerprint) (r : FileRecord) (size : Nat) : Prop where
  last : r.last = some { seen with size := size }
  le : size ≤ seen.size
  inStep : r.InStep chunk?
  revisit : r.revisit = false

namespace Partway

variable {size : Nat}

theorem of_change (h : r.InStep chunk?) (hsize : seen.size ≤ Word.limit) {c : Change}
    (hlook : r.look chunk? seen = (r', some c)) : Partway chunk? seen r' c.size := by
  have hstep := InStep.look r chunk? seen
  rw [hlook] at hstep
  obtain ⟨-, -, -, -, -, rfl⟩ := look_change hlook
  exact ⟨rfl, (h.change hsize hlook).1, hstep, rfl⟩

theorem base_eq (h : Partway chunk? seen r size) : r.base seen = size :=
  base_of_last h.last (Head.follows_self _) h.le

/-- A look at a file that was reported to its end changes nothing. -/
theorem ended (h : Partway chunk? seen r seen.size) (hsize : seen.size ≤ Word.limit) :
    r.look chunk? seen = (r, none) := by
  rcases hlook : r.look chunk? seen with ⟨r', _ | c⟩
  · rw [(h.inStep.look_quiet h.last hlook).1]
  · obtain ⟨last, hlast, hreplaced, -⟩ := look_change hlook
    obtain rfl : { seen with size := seen.size } = last := Option.some.inj (h.last.symm.trans hlast)
    have hfollows : c.replaced = false := by rw [hreplaced, Head.follows_self, Bool.not_true]
    have hend : c.size = seen.size := by
      obtain ⟨-, hwhole, hsteps⟩ := h.inStep.change hsize hlook
      cases chunk? with
      | none => exact hwhole rfl
      | some chunk =>
        rw [hsteps chunk rfl, base_of_change hlook, h.base_eq]
        omega
    rcases look_change_cause hlast hlook with hcause | hcause | hcause | hcause
    · exact absurd rfl hcause
    · exact absurd hend hcause
    · rw [hfollows] at hcause
      cases hcause
    · rw [h.revisit] at hcause
      cases hcause

theorem due_ended (h : Partway chunk? seen r seen.size) (hsize : seen.size ≤ Word.limit) :
    Due chunk? seen r 0 0 := .settled h.last rfl (h.ended hsize)

/-- There are not more changes than steps to the end. -/
theorem exists_due {chunk : Nat} (h : Partway (some chunk) seen r size) (hpos : 0 < chunk)
    (hsize : seen.size ≤ Word.limit) (steps : Nat) (hsteps : seen.size ≤ size + chunk * steps) :
    ∃ due ≤ steps, Due (some chunk) seen r 0 due := by
  induction steps generalizing r size with
  | zero =>
    have hle := h.le
    obtain rfl : size = seen.size := by
      rw [Nat.mul_zero] at hsteps
      omega
    exact ⟨0, Nat.le_refl _, h.due_ended hsize⟩
  | succ steps ih =>
    rcases hlook : r.look (some chunk) seen with ⟨r', _ | c⟩
    · obtain rfl := (h.inStep.look_quiet h.last hlook).1
      have hend := h.inStep.quiet_size (fun _ heq => Option.some.inj heq ▸ hpos) hsize h.last hlook
      exact ⟨0, Nat.zero_le _, .settled h.last hend hlook⟩
    · have hnext : c.size = min (size + chunk) seen.size := by
        rw [(h.inStep.change hsize hlook).2.2 chunk rfl, base_of_change hlook, h.base_eq]
      have hrest : seen.size ≤ c.size + chunk * steps := by
        rw [Nat.mul_succ] at hsteps
        omega
      obtain ⟨due, hdue, hrest⟩ := ih (of_change h.inStep hsize hlook) hrest
      exact ⟨due + 1, Nat.succ_le_succ hdue, .change hlook hrest⟩

end Partway

theorem exists_due_of_last (h : r.InStep chunk?) (hchunk : ∀ chunk, chunk? = some chunk → 0 < chunk)
    (hsize : seen.size ≤ Word.limit) {last : Fingerprint} (hlast : r.last = some last) :
    ∃ due ≤ changesToEnd chunk? (r.base seen) seen.size, Due chunk? seen r 0 due := by
  rcases hlook : r.look chunk? seen with ⟨r', _ | c⟩
  · obtain rfl := (h.look_quiet hlast hlook).1
    exact ⟨0, Nat.zero_le _, .settled hlast (h.quiet_size hchunk hsize hlast hlook) hlook⟩
  · obtain ⟨-, hwhole, hsteps⟩ := h.change hsize hlook
    have hpart := Partway.of_change h hsize hlook
    cases chunk? with
    | none =>
      rw [hwhole rfl] at hpart
      exact ⟨1, Nat.le_refl _, .change hlook (hpart.due_ended hsize)⟩
    | some chunk =>
      have hnext := hsteps chunk rfl
      have hceil : seen.size - r.base seen ≤ chunk * ((seen.size - r.base seen) ⌈/⌉ chunk) :=
        le_smul_ceilDiv (hchunk chunk rfl)
      have hbase := r.base_le seen
      rw [base_of_change hlook] at hnext
      obtain ⟨due, hdue, hrest⟩ := hpart.exists_due (hchunk chunk rfl) hsize
        ((seen.size - r.base seen) ⌈/⌉ chunk) (by omega)
      exact ⟨due + 1, Nat.succ_le_succ hdue, .change hlook hrest⟩

/-- There are not more changes than steps to the end, and one. -/
theorem exists_due (h : r.InStep chunk?) (hchunk : ∀ chunk, chunk? = some chunk → 0 < chunk)
    (hsize : seen.size ≤ Word.limit) :
    ∃ due ≤ changesToEnd chunk? (r.base seen) seen.size,
      Due chunk? seen r (if r.last.isNone then 1 else 0) due := by
  cases hlast : r.last with
  | some last => exact exists_due_of_last h hchunk hsize hlast
  | none =>
    have hlook : r.look chunk? seen = (_, none) := look_first hlast
    have hstep := InStep.look r chunk? seen
    rw [hlook] at hstep
    obtain ⟨due, hdue, hrest⟩ := exists_due_of_last hstep hchunk hsize rfl
    rw [base_of_last rfl (Head.follows_self _) (Nat.le_refl _)] at hdue
    refine ⟨due, ?_, .baseline hlook hrest⟩
    simpa only [base, hlast] using hdue

/-- A look without a change does not move the next step. -/
theorem base_of_quiet (h : r.look chunk? seen = (r', none)) : r'.base seen = r.base seen := by
  obtain ⟨hlast, rfl⟩ | ⟨last, hlast, -, -, -, rfl⟩ := look_quiet h
  · rw [base_of_last rfl (Head.follows_self _) (Nat.le_refl _), base, hlast]
  · rw [base, base, hlast]

/-- The first change goes from where the next step goes from. -/
theorem base_of_first {ns : List Note} (hns : ∀ n ∈ ns, n.Again seen) :
    ∀ c ∈ (r.notes chunk? ns).2.head?, c.base seen.size = r.base seen := by
  induction ns generalizing r with
  | nil => simp [notes]
  | cons n ns ih =>
    have hrest : ∀ n ∈ ns, n.Again seen := fun n hn => hns n (List.mem_cons_of_mem _ hn)
    rw [notes_cons]
    rcases hns n List.mem_cons_self with rfl | rfl
    · rcases hlook : r.look chunk? seen with ⟨r', _ | c⟩
      · rw [← base_of_quiet hlook]
        simpa [note, hlook] using ih hrest
      · intro d hd
        obtain rfl : c = d := by simpa [note, hlook] using hd
        exact base_of_change hlook
    · exact ih hrest

end FileRecord

/-! ## Calls -/

namespace Call

open FileRecord (Note)

/-- What a call does to the record of a file. -/
def note? (k : Path.Key) : Call → Option Note
  | look p _ (.seen fingerprint) => if p.key = k then some (.seen fingerprint) else none
  | release p v => if p.key = k then some (.concluded v) else none
  | _ => none

/-- The change that a call reports of a file. -/
def change? (k : Path.Key) (parts : Watcher × Reader) : Call → Option Change
  | look p now s => if p.key = k then (parts.1.look now p s).2.1 else none
  | _ => none

/-- The size at the first look at a file. -/
def baseline? (k : Path.Key) (calls : List Call) : Option Nat :=
  (calls.filterMap (note? k)).findSome? Note.size?

/-- The changes that calls report of a file. -/
def changes (k : Path.Key) (parts : Watcher × Reader) : List Call → List Change
  | [] => []
  | c :: calls => (c.change? k parts).toList ++ changes k (c.apply parts) calls

variable {x : Watcher × Reader} {p : Path}

theorem note?_eq_some {k : Path.Key} {c : Call} {n : Note} (h : c.note? k = some n) :
    ∃ q : Path, q.key = k ∧
      ((∃ now seen, c = look q now (.seen seen) ∧ n = .seen seen) ∨
        ∃ v, c = release q v ∧ n = .concluded v) := by
  cases c with
  | look q now s =>
    cases s with
    | seen seen =>
      simp only [note?, Option.ite_none_right_eq_some, Option.some.injEq] at h
      exact ⟨q, h.1, .inl ⟨now, seen, rfl, h.2.symm⟩⟩
    | _ => cases h
  | release q v =>
    simp only [note?, Option.ite_none_right_eq_some, Option.some.injEq] at h
    exact ⟨q, h.1, .inr ⟨v, rfl, h.2.symm⟩⟩
  | _ => cases h

theorem apply_chunk? (x : Watcher × Reader) (c : Call) : (c.apply x).1.chunk? = x.1.chunk? := by
  cases c with
  | look q now s => exact x.1.look_chunk? now q s
  | _ => rfl

theorem run_chunk? (x : Watcher × Reader) (calls : List Call) :
    (calls.foldl apply x).1.chunk? = x.1.chunk? := by
  induction calls generalizing x with
  | nil => rfl
  | cons c calls ih => exact (ih _).trans (apply_chunk? x c)

/-- What a look at a file makes of its record. -/
theorem look_record {w : Watcher} {r : FileRecord} (h : w.record? p = some r) (now : Nat)
    (fingerprint : Fingerprint) :
    (w.look now p (.seen fingerprint)).1.record? p = some (r.look w.chunk? fingerprint).1 ∧
      (w.look now p (.seen fingerprint)).2.1 = (r.look w.chunk? fingerprint).2 := by
  have hrecord : (w.lookSucceeded p).record? p = some r := h
  rw [Watcher.look_seen now h]
  exact ⟨by rw [Watcher.record?_setRecord_same, hrecord]; rfl, rfl⟩

/-- Any other call leaves the record of a file alone and reports nothing of it. -/
theorem apply_other {c : Call} (h : c.note? p.key = none) (x : Watcher × Reader) :
    (c.apply x).1.record? p = x.1.record? p ∧ c.change? p.key x = none := by
  cases c with
  | round => exact ⟨x.1.record?_startRound p, rfl⟩
  | plan q now change => exact ⟨rfl, rfl⟩
  | absorb clock q result => exact ⟨rfl, rfl⟩
  | release q v =>
    have hq : q.key ≠ p.key := by simpa [note?] using h
    exact ⟨x.1.record?_release_other v hq, rfl⟩
  | look q now s =>
    by_cases hq : q.key = p.key
    · have hunseen : ∀ seen, s ≠ .seen seen := by
        rintro seen rfl
        simp [note?, hq] at h
      obtain ⟨hnone, hfiles⟩ := x.1.look_unseen now q hunseen
      rw [apply, change?, if_pos hq, Watcher.record?, hfiles]
      exact ⟨rfl, hnone⟩
    · rw [change?, if_neg hq]
      exact ⟨x.1.record?_look_other now s hq, rfl⟩

/-- A call changes the record of a file, and reports a change of it, by what it does to the record. -/
theorem apply_record {r : FileRecord} (h : x.1.record? p = some r) (c : Call) :
    let after := r.notes x.1.chunk? (c.note? p.key).toList
    (c.apply x).1.record? p = some after.1 ∧ (c.change? p.key x).toList = after.2 := by
  intro after
  cases hn : c.note? p.key with
  | none =>
    obtain ⟨hrecord, hchange⟩ := apply_other hn x
    simp only [after, hn, hchange]
    exact ⟨hrecord.trans h, rfl⟩
  | some n =>
    obtain ⟨q, hq, ⟨now, seen, rfl, rfl⟩ | ⟨v, rfl, rfl⟩⟩ := note?_eq_some hn
    all_goals
      rw [← Watcher.record?_of_key _ hq] at h ⊢
      simp only [after, hn]
    · obtain ⟨hrecord, hchange⟩ := look_record h now seen
      refine ⟨hrecord, ?_⟩
      rw [change?, if_pos hq, hchange]
      exact (List.append_nil _).symm
    · refine ⟨?_, rfl⟩
      rw [apply, Watcher.record?_release_same, h]
      rfl

/-- Of all calls a record sees those that are about its file. -/
theorem run_record {r : FileRecord} (h : x.1.record? p = some r) (calls : List Call) :
    let after := r.notes x.1.chunk? (calls.filterMap (note? p.key))
    (calls.foldl apply x).1.record? p = some after.1 ∧ changes p.key x calls = after.2 := by
  intro after
  induction calls generalizing x r with
  | nil => exact ⟨h, rfl⟩
  | cons c calls ih =>
    obtain ⟨hrecord, hchange⟩ := apply_record h c
    obtain ⟨hend, hchanges⟩ := ih hrecord
    have hafter : after = r.notes x.1.chunk? ((c.note? p.key).toList ++ calls.filterMap (note? p.key)) := by
      simp only [after]
      cases hn : c.note? p.key with
      | none => rw [List.filterMap_cons_none hn]; rfl
      | some n => rw [List.filterMap_cons_some hn]; rfl
    rw [hafter, FileRecord.notes_append]
    rw [apply_chunk?] at hend hchanges
    refine ⟨hend, ?_⟩
    rw [changes, hchange, hchanges]

/-- Of a file that is not watched nothing is reported. -/
theorem run_unwatched (h : x.1.record? p = none) (calls : List Call) :
    (calls.foldl apply x).1.record? p = none ∧ changes p.key x calls = [] := by
  induction calls generalizing x with
  | nil => exact ⟨h, rfl⟩
  | cons c calls ih =>
    have hstep : (c.apply x).1.record? p = none ∧ c.change? p.key x = none := by
      cases hn : c.note? p.key with
      | none =>
        obtain ⟨hrecord, hchange⟩ := apply_other hn x
        exact ⟨hrecord.trans h, hchange⟩
      | some n =>
        obtain ⟨q, hq, ⟨now, seen, rfl, rfl⟩ | ⟨v, rfl, rfl⟩⟩ := note?_eq_some hn
        all_goals rw [← Watcher.record?_of_key _ hq] at h ⊢
        · have hlook : x.1.look now q (.seen seen) = (x.1, none, []) := by simp only [Watcher.look, h]
          rw [apply, change?, if_pos hq, hlook]
          exact ⟨h, rfl⟩
        · refine ⟨?_, rfl⟩
          rw [apply, Watcher.record?_release_same, h]
          rfl
    obtain ⟨hend, hchanges⟩ := ih hstep.1
    exact ⟨hend, by rw [changes, hstep.2, hchanges]; rfl⟩

/-- From the first look on the changes of a file are unbroken, and its record is in step. -/
theorem run_new {w : Watcher} (hnew : ∀ r, w.record? p = some r → r = .fresh) (reader : Reader)
    (calls : List Call) :
    ((∀ c ∈ (changes p.key (w, reader) calls).head?, baseline? p.key calls = some c.before) ∧
      (changes p.key (w, reader) calls).IsChain fun earlier later => earlier.size = later.before) ∧
    ∀ record, (calls.foldl apply (w, reader)).1.record? p = some record → record.InStep w.chunk? := by
  cases hstart : w.record? p with
  | none =>
    obtain ⟨hend, hchanges⟩ := run_unwatched (x := (w, reader)) hstart calls
    rw [hchanges]
    refine ⟨⟨by simp, .nil⟩, fun record hrecord => ?_⟩
    rw [hend] at hrecord
    cases hrecord
  | some fresh =>
    obtain rfl := hnew fresh hstart
    obtain ⟨hend, hchanges⟩ := run_record (x := (w, reader)) hstart calls
    rw [hchanges]
    refine ⟨FileRecord.notes_chain _ _ _, fun record hrecord => ?_⟩
    rw [hend] at hrecord
    obtain rfl := Option.some.inj hrecord
    exact FileRecord.InStep.notes (fun _ _ hlast => by cases hlast) _

/-- The same look again and again, and cycles that settle. -/
theorem run_again {r : FileRecord} (h : x.1.record? p = some r) (hstep : r.InStep x.1.chunk?)
    (hchunk : ∀ chunk, x.1.chunk? = some chunk → 0 < chunk) {seen : Fingerprint}
    (hsize : seen.size ≤ Word.limit) :
    let wait := if r.last.isNone then 1 else 0
    ∃ due, ∀ again, (∀ n ∈ again.filterMap (note? p.key), n.Again seen) →
      let looks := (again.filterMap (note? p.key)).count (.seen seen)
      let more := changes p.key x again
      let y := again.foldl apply x
      more.length = min due (looks - wait) ∧
        (∀ c ∈ more.head?, due ≤ changesToEnd x.1.chunk? (c.base seen.size) seen.size) ∧
        (wait + due ≤ looks →
          (∃ after last, y.1.record? p = some after ∧ after.last = some last ∧
            last.size = seen.size) ∧
          ∀ now, (y.1.look now p (.seen seen)).2.1 = none) := by
  intro wait
  obtain ⟨due, hmost, hdue⟩ := FileRecord.exists_due hstep hchunk hsize
  refine ⟨due, fun again hagain => ?_⟩
  intro looks more y
  have hmore : more = (r.notes x.1.chunk? (again.filterMap (note? p.key))).2 := (run_record h again).2
  have hend := (run_record h again).1
  have hlength : _ = min due (looks - wait) := (hdue.notes hagain).1
  have hrest : FileRecord.Due _ _ _ (wait - looks) (due - (looks - wait)) := (hdue.notes hagain).2
  refine ⟨hmore ▸ hlength, fun c hc => ?_, fun henough => ?_⟩
  · rw [hmore] at hc
    rw [FileRecord.base_of_first hagain c hc]
    exact hmost
  · have hover : wait - looks = 0 ∧ due - (looks - wait) = 0 := by omega
    rw [hover.1, hover.2] at hrest
    obtain ⟨last, hlast, hlastSize, hlook⟩ := hrest.over
    refine ⟨⟨_, last, hend, hlast, hlastSize⟩, fun now => ?_⟩
    rw [(look_record hend now seen).2, run_chunk?, hlook]

end Call

namespace Watcher

variable {w : Watcher} {p : Path} {r : FileRecord} {last : Fingerprint}

/-- A look without a change leaves everything that is known of all files as it is. -/
theorem look_files_of_quiet (h : w.record? p = some r) (hstep : r.InStep w.chunk?)
    (hlast : r.last = some last) (now : Nat) {s : Sighting} (hquiet : (w.look now p s).2.1 = none) :
    (w.look now p s).1.files = w.files := by
  by_cases hs : ∃ seen, s = .seen seen
  · obtain ⟨seen, rfl⟩ := hs
    obtain ⟨f, hf, rfl⟩ := Option.map_eq_some_iff.1 h
    rw [look_seen now h] at hquiet ⊢
    have hkept : (f.record.look w.chunk? seen).1 = f.record :=
      (hstep.look_quiet hlast (Prod.ext rfl hquiet)).1
    simp only [hkept]
    refine Table.adjust_self fun v hv => ?_
    obtain rfl : f = v := Option.some.inj (hf.symm.trans hv)
    rfl
  · exact (w.look_unseen now p fun seen hseen => hs ⟨seen, hseen⟩).2

/-- What a look with a change says. -/
theorem look_change (h : w.record? p = some r) (hstep : r.InStep w.chunk?) (hlast : r.last = some last)
    {now : Nat} {seen : Fingerprint} (hsize : seen.size ≤ Word.limit) {c : Change}
    (hchange : (w.look now p (.seen seen)).2.1 = some c) :
    c.replaced = (!seen.head.follows last.head) ∧ c.before = last.size ∧
      c.size ≤ seen.size ∧ (w.chunk? = none → c.size = seen.size) ∧
      ∀ chunk, w.chunk? = some chunk → c.size = min (c.base seen.size + chunk) seen.size := by
  have hlook : r.look w.chunk? seen = (_, some c) :=
    Prod.ext rfl ((Call.look_record h now seen).2.symm.trans hchange)
  obtain ⟨last', hlast', hreplaced, -, hbefore, -⟩ := FileRecord.look_change hlook
  obtain rfl : last = last' := Option.some.inj (hlast.symm.trans hlast')
  exact ⟨hreplaced, hbefore, hstep.change hsize hlook⟩

end Watcher

/-- After any calls on watcher and reader, for files that come and go, grow, shrink and are replaced:

The first change of a file begins at the size of the first look, each later one where the one before it
ended. What was handed out is what was recorded. A look without a change, also one that fails, leaves all
records as they are, and a change goes as far as the file, or one step, and never further than the file.

If nothing comes of the file but the same look again and again, and cycles that settle, each look reports
a change until all of the file has been reported, a file that was never seen after one look for its
baseline. That takes no more changes than there are steps from where the first one goes from, and one.
From then on the recorded size is the size of the file, and no further look reports a change. -/
theorem changes_unbroken (paths : List Path) (chunk? : Option Nat) (threshold cooldown : Nat)
    (reader : Reader) (calls : List Call) (p : Path)
    (hchunk : ∀ chunk, chunk? = some chunk → 0 < chunk) :
    let start : Watcher × Reader := (.new paths chunk? threshold cooldown, reader)
    let x := calls.foldl Call.apply start
    let changes := Call.changes p.key start calls
    ((∀ c ∈ changes.head?, Call.baseline? p.key calls = some c.before) ∧
      changes.IsChain fun earlier later => earlier.size = later.before) ∧
    ∀ record, x.1.record? p = some record →
      (∀ last, record.last = some last →
        (chunk?.isSome → record.handedOut = some last.size) ∧
        (∀ now s, (x.1.look now p s).2.1 = none → (x.1.look now p s).1.files = x.1.files) ∧
        ∀ now seen c, seen.size ≤ Word.limit → (x.1.look now p (.seen seen)).2.1 = some c →
          c.replaced = (!seen.head.follows last.head) ∧ c.before = last.size ∧
            c.size ≤ seen.size ∧ (chunk? = none → c.size = seen.size) ∧
            ∀ chunk, chunk? = some chunk → c.size = min (c.base seen.size + chunk) seen.size) ∧
      ∀ seen, seen.size ≤ Word.limit →
        let wait := if record.last.isNone then 1 else 0
        ∃ due, ∀ again, (∀ n ∈ again.filterMap (Call.note? p.key), n.Again seen) →
          let looks := (again.filterMap (Call.note? p.key)).count (.seen seen)
          let more := Call.changes p.key x again
          let y := again.foldl Call.apply x
          more.length = min due (looks - wait) ∧
            (∀ c ∈ more.head?, due ≤ changesToEnd chunk? (c.base seen.size) seen.size) ∧
            (wait + due ≤ looks →
              (∃ after last, y.1.record? p = some after ∧ after.last = some last ∧
                last.size = seen.size) ∧
              ∀ now, (y.1.look now p (.seen seen)).2.1 = none) := by
  intro start x changes
  have hx : x.1.chunk? = chunk? := Call.run_chunk? start calls
  obtain ⟨hunbroken, hinStep⟩ := Call.run_new (fun r => Watcher.new_record (p := p)) reader calls
  refine ⟨hunbroken, fun record hrecord => ?_⟩
  have hstep : record.InStep x.1.chunk? := hx ▸ hinStep record hrecord
  rw [← hx] at hchunk
  rw [← hx]
  refine ⟨fun last hlast => ⟨fun hsteps => hstep hsteps last hlast, fun now s hquiet => ?_,
    fun now seen c hsize hchange => ?_⟩, fun seen hsize => ?_⟩
  · exact x.1.look_files_of_quiet hrecord hstep hlast now hquiet
  · exact x.1.look_change hrecord hstep hlast hsize hchange
  · exact Call.run_again hrecord hstep hchunk hsize

/-- Reported in steps of 100 a file of 50 bytes grows to 400, and is replaced by one of 250 after the
first step. Then three looks report all of it, though it is missing for a while, and a fourth nothing. -/
theorem changes_unbroken_replaced :
    let a : Path := .ofString "/a"
    let grown : Fingerprint := ⟨some 2, 400, .ofBytes (Utf8.encode "hello\n")⟩
    let other : Fingerprint := ⟨some 3, 250, .ofBytes (Utf8.encode "other\n")⟩
    let start : Watcher × Reader :=
      (.new [a] (some 100) 0 0, .new Settings.default (.ofText .utf8 "\n"))
    let calls : List Call :=
      [.round, .look a 0 (.seen { grown with size := 50 }), .release a .settled, .round,
       .look a 1 (.seen grown), .release a .revisit]
    let again : List Call :=
      [.look a 2 (.seen other), .look a 3 .missing, .look a 4 (.seen other), .release a .settled,
       .look a 5 (.seen other), .look a 6 (.seen other)]
    let x := calls.foldl Call.apply start
    let y := again.foldl Call.apply x
    Call.changes a.key start calls = [⟨false, 150, 50⟩] ∧
      Call.changes a.key x again = [⟨true, 100, 150⟩, ⟨false, 200, 100⟩, ⟨false, 250, 200⟩] ∧
      ∀ now, (y.1.look now a (.seen other)).2.1 = none := by
  intro a grown other start calls again x y
  have hmore : Call.changes a.key x again =
      [⟨true, 100, 150⟩, ⟨false, 200, 100⟩, ⟨false, 250, 200⟩] := by decide +kernel
  have hagain : ∀ n ∈ again.filterMap (Call.note? a.key), n.Again other := by decide +kernel
  have hlooks : (again.filterMap (Call.note? a.key)).count (.seen other) = 4 := by decide +kernel
  have hrecord : x.1.record? a = some ⟨some { grown with size := 150 }, some 150, true⟩ := by
    decide +kernel
  obtain ⟨-, hreached⟩ := changes_unbroken [a] (some 100) 0 0 (.new Settings.default (.ofText .utf8 "\n"))
    calls a (by rintro _ ⟨⟩; decide)
  obtain ⟨-, hdue⟩ := hreached _ hrecord
  obtain ⟨due, hnotes⟩ := hdue other (by decide)
  obtain ⟨hlength, -, hend⟩ := hnotes again hagain
  rw [hmore, hlooks] at hlength
  rw [hlooks] at hend
  have hthree : 3 = min due 4 := hlength
  have henough : 0 + due ≤ 4 := by omega
  refine ⟨by decide +kernel, hmore, fun now => ?_⟩
  -- with the runs written out there is nothing left to evaluate
  dsimp only [y, x, start]
  exact (hend henough).2 now

end FileTail
