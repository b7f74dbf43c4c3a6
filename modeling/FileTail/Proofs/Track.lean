import FileTail.Proofs.Delimiter
import FileTail.Proofs.Plan
import FileTail.Proofs.Record
import FileTail.Read.Reader
import FileTail.Watch.Watcher

/-!
# FileTail.Proofs.Track

One file on its own: what is recorded of it, up to where it was read and the read under way, and
how the cycles of the file change that.

A cycle starts with a probe. If it shows a change, a read is planned; the read ends the cycle, and
so does a plan that reads nothing.

* `Track.step`, `Track.run`: one moment, and a list of them with a piece of news for each.
* `Turn`: all that a moment can do, one constructor for each outcome.
* `Track.step_turn`: every step is such a turn.
-/

namespace FileTail

/-- How a file is followed. Made from settings without a fault, see `Settings.rules`. -/
structure Rules where
  chunk? : Option Nat
  limits : Limits
  format : LineFormat
  chunk_eq : ∀ chunk, chunk? = some chunk → chunk = limits.maxRead
  maxRead_pos : 0 < limits.maxRead
  minRead_le : limits.minRead ≤ limits.maxRead
  delimiter_ne : format.delimiter ≠ []
  mark_clear : ∀ k, k < format.encoding.mark.length →
    ¬ format.HasDelimiter (format.encoding.mark.take k)

theorem Settings.of_fault?_eq_none {s : Settings} (h : s.fault? = none) :
    0 < s.maxReadSize ∧ s.minReadSize ≤ s.maxReadSize ∧ s.delimiter ≠ "" := by
  simp only [fault?] at h
  repeat' split at h
  all_goals simp at h
  exact ⟨by omega, by omega, by assumption⟩

theorem Settings.of_lineFormat? {s : Settings} {f : LineFormat} {codecs : EastAsian → Codec}
    (h : s.lineFormat? codecs = some f) :
    ∃ e, f = .ofText e s.delimiter := by
  obtain ⟨e, -, he⟩ := Option.map_eq_some_iff.1 h
  exact ⟨e, he.symm⟩

/-- The rules that settings stand for. -/
def Settings.rules (s : Settings) (f : LineFormat) {codecs : EastAsian → Codec}
    (hs : s.fault? = none) (hf : s.lineFormat? codecs = some f) : Rules where
  chunk? := s.chunk?
  limits := .ofSettings s
  format := f
  chunk_eq chunk h := by
    simp only [chunk?] at h
    split at h
    · exact (Option.some.inj h).symm
    · cases h
  maxRead_pos := (of_fault?_eq_none hs).1
  minRead_le := (of_fault?_eq_none hs).2.1
  delimiter_ne := by
    obtain ⟨e, rfl⟩ := of_lineFormat? hf
    exact Encoding.encode_ne_nil e (of_fault?_eq_none hs).2.2
  mark_clear k hk := by
    obtain ⟨e, rfl⟩ := of_lineFormat? hf
    exact LineFormat.ofText_mark_clear e (of_fault?_eq_none hs).2.2 hk

/-- A code unit is no wider than a full read and one byte. -/
theorem Rules.width_le (r : Rules) : r.format.width ≤ r.limits.maxRead + 1 := by
  have hpos := r.maxRead_pos
  have htwo := r.format.width_le_two
  omega

/-- What is known of a file. A file with a read under way is not probed. -/
structure Track where
  record : FileRecord
  offset? : Option Nat
  reading? : Option Window

/-- What comes from outside: the end of a probe or of a read. -/
inductive Moment where
  | probed (sighting : Sighting)
  /-- A read has ended; `answer` says what the read of any window would have given. -/
  | fetched (answer : Window → Except ReadFailure Bytes)

/-- What a moment led to. -/
inductive News where
  | quiet
  /-- A change was reported. The plan counts from `offset`. -/
  | planned (change : Change) (offset : Nat) (plan : Plan)
  | failed (window : Window)
  /-- The bytes of a window were taken in, after which reading goes on at `offset`. -/
  | taken (window : Window) (bytes : Bytes) (lines : List String) (skipped : Nat) (offset : Nat)

namespace News

def lines : News → List String
  | taken _ _ lines _ _ => lines
  | _ => []

def skipped : News → Nat
  | taken _ _ _ skipped _ => skipped
  | _ => 0

/-- The unread content for which a read was planned. -/
def unread? : News → Option Nat
  | planned c offset (.read _) => some (c.size - offset)
  | _ => none

/-- All bytes that were given up. -/
def totalSkipped : List News → Nat
  | [] => 0
  | n :: news => n.skipped + totalSkipped news

theorem totalSkipped_eq_zero {news : List News} (h : ∀ n ∈ news, n.skipped = 0) :
    totalSkipped news = 0 := by
  induction news with
  | nil => rfl
  | cons n news ih =>
    rw [totalSkipped, h n List.mem_cons_self, ih fun n' hn' => h n' (List.mem_cons_of_mem _ hn')]

end News

namespace Track

def fresh : Track := ⟨.fresh, none, none⟩

/-- A probe that saw the file. -/
def see (r : Rules) (t : Track) (seen : Fingerprint) : Track × News :=
  match t.record.look r.chunk? seen with
  | (record, none) => ({ t with record := record }, .quiet)
  | (record, some c) =>
    match r.limits.plan r.format.width t.offset? c with
    | (offset, .skip v) => (⟨record.conclude v, some offset, none⟩, .planned c offset (.skip v))
    | (offset, .read w) => (⟨record, some offset, some w⟩, .planned c offset (.read w))

/-- The end of the read of `w`. -/
def fetch (r : Rules) (t : Track) (w : Window) : Except ReadFailure Bytes → Track × News
  | .error _ => (⟨t.record.conclude .revisit, t.offset?, none⟩, .failed w)
  | .ok bytes =>
    match t.offset? with
    | none => (⟨t.record, none, none⟩, .quiet)
    | some o =>
      let h := r.limits.harvest r.format o w bytes
      (⟨t.record.conclude h.verdict, some h.offset, none⟩,
        .taken w bytes h.lines h.skipped h.offset)

def step (r : Rules) (t : Track) (m : Moment) : Track × News :=
  match m, t.reading? with
  | .probed (.seen seen), none => t.see r seen
  | .fetched answer, some w => t.fetch r w (answer w)
  | _, _ => (t, .quiet)

def run (r : Rules) (t : Track) : List Moment → Track × List News
  | [] => (t, [])
  | m :: ms =>
    let (t, news) := t.step r m
    let (t, more) := t.run r ms
    (t, news :: more)

end Track

/-- What a moment can do to a track, with the news it gives. -/
inductive Turn (r : Rules) (t : Track) : Moment → Track → News → Prop where
  | ignored {m : Moment} : Turn r t m t .quiet
  | unchanged {seen : Fingerprint} {record : FileRecord} :
      t.reading? = none → t.record.look r.chunk? seen = (record, none) →
      Turn r t (.probed (.seen seen)) ⟨record, t.offset?, none⟩ .quiet
  | skipped {seen : Fingerprint} {record : FileRecord} {c : Change} {o : Nat} {v : Verdict} :
      t.reading? = none → t.record.look r.chunk? seen = (record, some c) →
      r.limits.plan r.format.width t.offset? c = (o, .skip v) →
      Turn r t (.probed (.seen seen)) ⟨record.conclude v, some o, none⟩ (.planned c o (.skip v))
  | started {seen : Fingerprint} {record : FileRecord} {c : Change} {o : Nat} {w : Window} :
      t.reading? = none → t.record.look r.chunk? seen = (record, some c) →
      r.limits.plan r.format.width t.offset? c = (o, .read w) →
      Turn r t (.probed (.seen seen)) ⟨record, some o, some w⟩ (.planned c o (.read w))
  | failed {answer : Window → Except ReadFailure Bytes} {w : Window} {e : ReadFailure} :
      t.reading? = some w → answer w = .error e →
      Turn r t (.fetched answer) ⟨t.record.conclude .revisit, t.offset?, none⟩ (.failed w)
  | lost {answer : Window → Except ReadFailure Bytes} {w : Window} {bytes : Bytes} :
      t.reading? = some w → answer w = .ok bytes → t.offset? = none →
      Turn r t (.fetched answer) ⟨t.record, none, none⟩ .quiet
  | taken {answer : Window → Except ReadFailure Bytes} {w : Window} {bytes : Bytes} {o : Nat}
      {h : Harvest} :
      t.reading? = some w → answer w = .ok bytes → t.offset? = some o →
      r.limits.harvest r.format o w bytes = h →
      Turn r t (.fetched answer) ⟨t.record.conclude h.verdict, some h.offset, none⟩
        (.taken w bytes h.lines h.skipped h.offset)

namespace Track

theorem see_turn (r : Rules) {t : Track} (h : t.reading? = none) (seen : Fingerprint) :
    Turn r t (.probed (.seen seen)) (t.see r seen).1 (t.see r seen).2 := by
  unfold see
  split
  · rename_i record hl
    have ht : ({ t with record := record } : Track) = ⟨record, t.offset?, none⟩ := by rw [← h]
    rw [ht]
    exact .unchanged h hl
  · rename_i record c hl
    split
    · rename_i o v hp; exact .skipped h hl hp
    · rename_i o w hp; exact .started h hl hp

theorem fetch_turn (r : Rules) {t : Track} {w : Window} (h : t.reading? = some w)
    (answer : Window → Except ReadFailure Bytes) :
    Turn r t (.fetched answer) (t.fetch r w (answer w)).1 (t.fetch r w (answer w)).2 := by
  cases ha : answer w with
  | error e => exact .failed h ha
  | ok bytes =>
    cases ho : t.offset? with
    | none => simp only [fetch, ho]; exact .lost h ha ho
    | some o => simp only [fetch, ho]; exact .taken h ha ho rfl

theorem step_turn (r : Rules) (t : Track) (m : Moment) :
    Turn r t m (t.step r m).1 (t.step r m).2 := by
  unfold step
  split
  · rename_i seen h; exact see_turn r h seen
  · rename_i answer w h; exact fetch_turn r h answer
  · exact .ignored

theorem run_append (r : Rules) (t : Track) (ms ms' : List Moment) :
    t.run r (ms ++ ms') =
      (((t.run r ms).1.run r ms').1, (t.run r ms).2 ++ ((t.run r ms).1.run r ms').2) := by
  induction ms generalizing t with
  | nil => rfl
  | cons m ms ih => simp only [List.cons_append, run, ih]

theorem fresh_seen (r : Rules) (seen : Fingerprint) :
    fresh.step r (.probed (.seen seen)) =
      (⟨⟨some seen, FileRecord.fresh.handed r.chunk? seen.size, false⟩, none, none⟩, .quiet) := by
  have hlook : FileRecord.fresh.look r.chunk? seen = _ := FileRecord.look_first rfl
  simp only [step, see, fresh, hlook]
  rfl

theorem step_unseen (r : Rules) (t : Track) {s : Sighting} (hs : ∀ seen, s ≠ .seen seen) :
    t.step r (.probed s) = (t, .quiet) := by
  cases s with
  | seen seen => exact absurd rfl (hs seen)
  | _ => rfl

/-- As long as a file is not seen and no read is under way, nothing comes to pass. -/
theorem run_unseen (r : Rules) {t : Track} (hidle : t.reading? = none) {ms : List Moment}
    (hms : ∀ m ∈ ms, ∀ seen, m ≠ .probed (.seen seen)) : (t.run r ms).1 = t := by
  induction ms with
  | nil => rfl
  | cons m ms ih =>
    have hstep : t.step r m = (t, .quiet) := by
      cases m with
      | probed s =>
        exact step_unseen r t fun seen hs => hms _ List.mem_cons_self seen (by rw [hs])
      | fetched answer => simp only [step, hidle]
    simp only [run, hstep]
    exact ih fun m hm => hms m (List.mem_cons_of_mem _ hm)

/-- What every turn keeps, every run keeps. -/
theorem run_induction {r : Rules} {p : Track → Prop}
    (keep : ∀ {t t' m n}, p t → Turn r t m t' n → p t') {t : Track} (ms : List Moment) (h : p t) :
    p (t.run r ms).1 := by
  induction ms generalizing t with
  | nil => exact h
  | cons m ms ih => exact ih (keep h (t.step_turn r m))

/-- An offset is never lost. -/
theorem run_offset (r : Rules) {t : Track} (h : t.offset?.isSome) (ms : List Moment) :
    (t.run r ms).1.offset?.isSome := by
  refine run_induction (p := fun t => t.offset?.isSome = true) ?_ ms h
  intro t t' m n h hturn
  cases hturn with
  | ignored => exact h
  | unchanged _ _ => exact h
  | skipped _ _ _ => rfl
  | started _ _ _ => rfl
  | failed _ _ => exact h
  | lost _ _ hnone => rw [hnone] at h; cases h
  | taken _ _ _ _ => rfl

end Track
end FileTail
