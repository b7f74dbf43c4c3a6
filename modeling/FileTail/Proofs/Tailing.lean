import FileTail.Proofs.Track
import FileTail.Read.Reader

/-!
# FileTail.Proofs.Tailing

The watcher and the reader at work together on all watched files, in the order in which the loop
calls them: a probe is looked at and, if it shows a change, a read is planned; what was read is
absorbed; at the end of the cycle the file is released. Cycles of different files may be interleaved
in any way.

* `Tailing.run`: a list of happenings, with a piece of news for each.
* `Tailing.run_track`: seen from one file, a run is the run of the file's own moments on its track.
* `Tailing.track?_start`: the track of a watched file at the start.
-/

namespace FileTail

/-! ## The watcher, seen from one file -/

namespace Watcher

variable {w : Watcher} {p q : Path}

theorem record?_of_key (w : Watcher) (h : q.key = p.key) : w.record? q = w.record? p := by
  simp only [record?, h]

theorem record?_startRound (w : Watcher) (p : Path) :
    w.startRound.2.record? p = w.record? p := by
  rw [Watcher.record?, get?_startRound, Option.map_map]
  rfl

theorem record?_setRecord_same (w : Watcher) (p : Path) (r : FileRecord) :
    (w.setRecord p r).record? p = (w.record? p).map fun _ => r := by
  simp [record?, setRecord, Table.get?_adjust_same]
  cases w.files.get? p.components <;> rfl

theorem record?_setRecord_other (w : Watcher) (r : FileRecord) (h : q.key ≠ p.key) :
    (w.setRecord q r).record? p = w.record? p := by
  simp only [record?, setRecord, Table.get?_adjust_other _ _ h]

theorem record?_release_same (w : Watcher) (p : Path) (v : Verdict) :
    (w.release p v).record? p = (w.record? p).map (·.conclude v) := by
  simp [record?, release, Table.get?_adjust_same]
  cases w.files.get? p.components <;> rfl

theorem record?_release_other (w : Watcher) (v : Verdict) (h : q.key ≠ p.key) :
    (w.release q v).record? p = w.record? p := by
  simp only [record?, release, Table.get?_adjust_other _ _ h]

theorem look_seen (now : Nat) {record : FileRecord} (h : w.record? p = some record)
    (seen : Fingerprint) :
    w.look now p (.seen seen) =
      ((w.lookSucceeded p).setRecord p (record.look w.chunk? seen).1,
        (record.look w.chunk? seen).2, []) := by
  simp [look, h]

/-- A look that did not see the file finds no change and leaves all records alone. -/
theorem look_unseen (w : Watcher) (now : Nat) (p : Path) {s : Sighting}
    (h : ∀ seen, s ≠ .seen seen) :
    (w.look now p s).2.1 = none ∧ (w.look now p s).1.files = w.files := by
  unfold look
  split
  · exact ⟨rfl, rfl⟩
  · cases s with
    | missing => exact ⟨rfl, rfl⟩
    | metadataFailed why => exact ⟨rfl, rfl⟩
    | headFailed why => exact ⟨rfl, rfl⟩
    | seen seen => exact absurd rfl (h seen)

theorem look_chunk? (w : Watcher) (now : Nat) (p : Path) (s : Sighting) :
    (w.look now p s).1.chunk? = w.chunk? := by
  unfold look
  split
  · rfl
  · cases s <;> rfl

theorem record?_look_other (w : Watcher) (now : Nat) (s : Sighting) (h : q.key ≠ p.key) :
    (w.look now q s).1.record? p = w.record? p := by
  unfold look
  split
  · rfl
  · cases s with
    | missing => rfl
    | metadataFailed why => rfl
    | headFailed why => rfl
    | seen seen => exact record?_setRecord_other _ _ h

end Watcher

/-! ## The reader, seen from one file -/

namespace Reader

theorem plan_spec (r : Reader) (now : Nat) (p : Path) (c : Change) :
    (r.plan now p c).2.1 = (r.limits.plan r.width (r.offset? p) c).2 ∧
      (r.plan now p c).1.offsets =
        r.offsets.put p.key (r.limits.plan r.width (r.offset? p) c).1 ∧
      (r.plan now p c).1.limits = r.limits ∧ (r.plan now p c).1.format = r.format := by
  unfold plan
  dsimp only
  cases hp : (r.limits.plan r.width (r.offset? p) c).2 with
  | skip v => exact ⟨rfl, rfl, rfl, rfl⟩
  | read w =>
    dsimp only
    split
    · exact ⟨rfl, rfl, rfl, rfl⟩
    · split <;> exact ⟨rfl, rfl, rfl, rfl⟩

theorem absorb_error (r : Reader) (clock : Clock) (q : Request) (e : ReadFailure) :
    (r.absorb clock q (.error e)).1.offsets = r.offsets ∧
      (r.absorb clock q (.error e)).1.limits = r.limits ∧
      (r.absorb clock q (.error e)).1.format = r.format ∧
      (r.absorb clock q (.error e)).2.1 = ⟨[], 0, .revisit⟩ := by
  simp [absorb, readFailed]

theorem absorb_ok (r : Reader) (clock : Clock) {q : Request} (bytes : Bytes) {o : Nat}
    (h : r.offset? q.path = some o) :
    r.absorb clock q (.ok bytes) =
      let y := r.limits.harvest r.format o q.window bytes
      ({ r.readSucceeded q.path with offsets := r.offsets.put q.path.key y.offset },
        ⟨y.lines.map (r.lineOf clock q.path), y.skipped, y.verdict⟩, []) := by
  have h' : (r.readSucceeded q.path).offset? q.path = some o := h
  simp only [absorb, h']
  rfl

theorem absorb_unknown (r : Reader) (clock : Clock) {q : Request} (bytes : Bytes)
    (h : r.offset? q.path = none) :
    r.absorb clock q (.ok bytes) = (r.readSucceeded q.path, ⟨[], 0, .settled⟩, []) := by
  have h' : (r.readSucceeded q.path).offset? q.path = none := h
  simp only [absorb, h']

end Reader

/-- The watcher, the reader and the reads under way. -/
structure Tailing where
  watcher : Watcher
  reader : Reader
  reading : Table Path.Key Window

/-- A moment in the cycle of one of the files. -/
structure Happening where
  clock : Clock
  path : Path
  moment : Moment

/-- The moments of one file. -/
def Happening.of (p : Path) (hs : List Happening) : List Moment :=
  (hs.filter (·.path.key = p.key)).map (·.moment)

theorem Happening.of_append (p : Path) (hs hs' : List Happening) :
    Happening.of p (hs ++ hs') = Happening.of p hs ++ Happening.of p hs' := by
  simp [of]

/-- Moments of a file with nothing in between. -/
def Happening.alone (p : Path) (ms : List Moment) : List Happening := ms.map fun m => ⟨default, p, m⟩

theorem Happening.of_alone (p : Path) (ms : List Moment) :
    Happening.of p (Happening.alone p ms) = ms := by
  simp [of, alone, List.filter_map, Function.comp_def]

/-- The news of one file. -/
def News.of (p : Path) (news : List (Path × News)) : List News :=
  (news.filter (·.1.key = p.key)).map (·.2)

namespace Tailing

def start (s : Settings) (f : LineFormat) : Tailing :=
  { watcher := .new s.paths s.chunk? s.reportThreshold s.reportCooldown
    reader := .new s f
    reading := .empty }

def probed (t : Tailing) (now : Nat) (p : Path) (s : Sighting) : Tailing × News :=
  let (watcher, change, _) := t.watcher.look now p s
  match change with
  | none => (⟨watcher.release p .settled, t.reader, t.reading⟩, .quiet)
  | some c =>
    let (reader, plan, _) := t.reader.plan now p c
    let news := News.planned c ((reader.offset? p).getD 0) plan
    match plan with
    | .skip v => (⟨watcher.release p v, reader, t.reading⟩, news)
    | .read w => (⟨watcher, reader, t.reading.put p.key w⟩, news)

def fetched (t : Tailing) (clock : Clock) (p : Path) (w : Window)
    (result : Except ReadFailure Bytes) : Tailing × News :=
  let (reader, y, _) := t.reader.absorb clock ⟨p, w⟩ result
  let news :=
    match result, reader.offset? p with
    | .error _, _ => News.failed w
    | .ok bytes, some o => .taken w bytes (y.lines.map (·.text)) y.skipped o
    | .ok _, none => .quiet
  (⟨t.watcher.release p y.verdict, reader, t.reading.erase p.key⟩, news)

/-- What a happening does. A file with a read under way is not probed, and a read that was not asked
for does not end. -/
def step (t : Tailing) (h : Happening) : Tailing × News :=
  match h.moment, t.reading.get? h.path.key with
  | .probed s, none => t.probed h.clock.now h.path s
  | .fetched answer, some w => t.fetched h.clock h.path w (answer w)
  | _, _ => (t, .quiet)

def run (t : Tailing) : List Happening → Tailing × List (Path × News)
  | [] => (t, [])
  | h :: hs =>
    let (t, news) := t.step h
    let (t, more) := t.run hs
    (t, (h.path, news) :: more)

/-- What is known of a watched file. -/
def track? (t : Tailing) (p : Path) : Option Track :=
  (t.watcher.record? p).map fun record => ⟨record, t.reader.offset? p, t.reading.get? p.key⟩

/-- The watcher and the reader go by the rules. -/
structure Follows (t : Tailing) (r : Rules) : Prop where
  chunk? : t.watcher.chunk? = r.chunk?
  limits : t.reader.limits = r.limits
  format : t.reader.format = r.format

variable {t : Tailing} {r : Rules} {p q : Path} {k : Track}

theorem track?_eq_some :
    t.track? p = some k ↔ t.watcher.record? p = some k.record ∧ t.reader.offset? p = k.offset? ∧
      t.reading.get? p.key = k.reading? := by
  simp only [track?, Option.map_eq_some_iff]
  constructor
  · rintro ⟨record, h, rfl⟩; exact ⟨h, rfl, rfl⟩
  · rintro ⟨h₁, h₂, h₃⟩; exact ⟨k.record, h₁, by rw [h₂, h₃]⟩

/-- How far a file was read, evaluated. -/
theorem offset?_of_track? {o? : Option Nat} (h : t.track? p = some k)
    (ho : (t.track? p).map (·.offset?) = some o?) : k.offset? = o? := by
  rw [h] at ho
  exact Option.some.inj ho

theorem track?_of_key (t : Tailing) (h : q.key = p.key) : t.track? q = t.track? p := by
  simp only [track?, Watcher.record?_of_key _ h, Reader.offset?, h]

/-! ## One step -/

/-- What the watcher and the reader were made with. -/
def setup (t : Tailing) : Option Nat × Limits × LineFormat :=
  (t.watcher.chunk?, t.reader.limits, t.reader.format)

theorem follows_iff : t.Follows r ↔ t.setup = (r.chunk?, r.limits, r.format) := by
  constructor
  · rintro ⟨hchunk, hlimits, hformat⟩
    rw [setup, hchunk, hlimits, hformat]
  · intro h
    obtain ⟨hchunk, hrest⟩ := Prod.mk.inj h
    obtain ⟨hlimits, hformat⟩ := Prod.mk.inj hrest
    exact ⟨hchunk, hlimits, hformat⟩

theorem probed_setup (t : Tailing) (now : Nat) (p : Path) (s : Sighting) :
    (t.probed now p s).1.setup = t.setup := by
  have hlook := t.watcher.look_chunk? now p s
  unfold probed
  dsimp only
  split
  · exact Prod.ext hlook rfl
  · rename_i c _
    obtain ⟨-, -, hlimits, hformat⟩ := t.reader.plan_spec now p c
    split <;> exact Prod.ext hlook (Prod.ext hlimits hformat)

theorem fetched_setup (t : Tailing) (clock : Clock) (p : Path) (w : Window)
    (result : Except ReadFailure Bytes) : (t.fetched clock p w result).1.setup = t.setup := by
  cases result with
  | error e =>
    obtain ⟨-, hlimits, hformat, -⟩ := t.reader.absorb_error clock ⟨p, w⟩ e
    exact Prod.ext rfl (Prod.ext hlimits hformat)
  | ok bytes =>
    cases ho : t.reader.offset? p with
    | none =>
      simp only [fetched, t.reader.absorb_unknown clock bytes (q := ⟨p, w⟩) ho]
      rfl
    | some o =>
      simp only [fetched, t.reader.absorb_ok clock bytes (q := ⟨p, w⟩) ho]
      rfl

theorem step_setup (t : Tailing) (h : Happening) : (t.step h).1.setup = t.setup := by
  unfold step
  split
  · exact t.probed_setup _ _ _
  · exact t.fetched_setup _ _ _ _
  · rfl

theorem step_follows (hr : t.Follows r) (h : Happening) : (t.step h).1.Follows r :=
  follows_iff.2 ((t.step_setup h).trans (follows_iff.1 hr))

theorem probed_track?_other (now : Nat) (s : Sighting) (hq : q.key ≠ p.key) :
    (t.probed now q s).1.track? p = t.track? p := by
  have hrec := t.watcher.record?_look_other now s hq
  unfold probed
  dsimp only
  split
  · simp only [track?, Watcher.record?_release_other _ _ hq, hrec]
  · rename_i c _
    obtain ⟨-, hoff, -, -⟩ := t.reader.plan_spec now q c
    split
    · simp only [track?, Watcher.record?_release_other _ _ hq, hrec, Reader.offset?, hoff,
        Table.get?_put_other _ _ hq]
    · simp only [track?, hrec, Reader.offset?, hoff, Table.get?_put_other _ _ hq]

theorem fetched_track?_other (clock : Clock) (w : Window) (result : Except ReadFailure Bytes)
    (hq : q.key ≠ p.key) : (t.fetched clock q w result).1.track? p = t.track? p := by
  cases result with
  | error e =>
    obtain ⟨hoff, -, -, -⟩ := t.reader.absorb_error clock ⟨q, w⟩ e
    simp only [fetched, track?, Watcher.record?_release_other _ _ hq, Reader.offset?, hoff,
      Table.get?_erase_other _ hq]
  | ok bytes =>
    cases ho : t.reader.offset? q with
    | none =>
      simp only [fetched, t.reader.absorb_unknown clock bytes (q := ⟨q, w⟩) ho, track?,
        Watcher.record?_release_other _ _ hq, Reader.offset?, Reader.readSucceeded,
        Table.get?_erase_other _ hq]
    | some o =>
      simp only [fetched, t.reader.absorb_ok clock bytes (q := ⟨q, w⟩) ho, track?,
        Watcher.record?_release_other _ _ hq, Reader.offset?, Reader.readSucceeded,
        Table.get?_erase_other _ hq, Table.get?_put_other _ _ hq]

/-- A happening of one file is not seen at another. -/
theorem step_track?_other (h : Happening) (hq : h.path.key ≠ p.key) :
    (t.step h).1.track? p = t.track? p := by
  unfold step
  split
  · exact probed_track?_other _ _ hq
  · exact fetched_track?_other _ _ _ hq
  · rfl

theorem probed_seen (hr : t.Follows r) (hk : t.track? p = some k) (hidle : k.reading? = none)
    (now : Nat) (seen : Fingerprint) :
    (t.probed now p (.seen seen)).1.track? p = some (k.see r seen).1 ∧
      (t.probed now p (.seen seen)).2 = (k.see r seen).2 := by
  obtain ⟨hrec, hoff, hread⟩ := track?_eq_some.1 hk
  have hset := Watcher.record?_setRecord_same (t.watcher.lookSucceeded p) p
  have hrec' : (t.watcher.lookSucceeded p).record? p = some k.record := hrec
  simp only [hrec', Option.map_some] at hset
  unfold probed
  rw [Watcher.look_seen now hrec, hr.chunk?]
  unfold Track.see
  dsimp only
  rcases hl : k.record.look r.chunk? seen with ⟨record, _ | c⟩
  · simp [track?_eq_some, Watcher.record?_release_same, hset, FileRecord.conclude, hoff, hread]
  · obtain ⟨hplan, hput, -, -⟩ := t.reader.plan_spec now p c
    rw [hr.limits, Reader.width, hr.format, hoff] at hplan hput
    have hoff' : (t.reader.plan now p c).1.offset? p =
        some (r.limits.plan r.format.width k.offset? c).1 := by
      simp only [Reader.offset?, hput, Table.get?_put_same]
    dsimp only
    rw [hplan]
    rcases hp : r.limits.plan r.format.width k.offset? c with ⟨o, v | w⟩
    · simp [track?_eq_some, Watcher.record?_release_same, hset, hoff', hp, hread, hidle]
    · simp [track?_eq_some, hset, hoff', hp, Table.get?_put_same]

theorem probed_unseen (hk : t.track? p = some k) (now : Nat) {s : Sighting}
    (hs : ∀ seen, s ≠ .seen seen) :
    (t.probed now p s).1.track? p = some k ∧ (t.probed now p s).2 = .quiet := by
  obtain ⟨hrec, hoff, hread⟩ := track?_eq_some.1 hk
  obtain ⟨hnone, hfiles⟩ := t.watcher.look_unseen now p hs
  have hrec' : (t.watcher.look now p s).1.record? p = some k.record := by
    simpa only [Watcher.record?, hfiles] using hrec
  unfold probed
  dsimp only
  rw [hnone]
  simp [track?_eq_some, Watcher.record?_release_same, hrec', FileRecord.conclude, hoff, hread]

theorem fetched_track? (hr : t.Follows r) (hk : t.track? p = some k) (clock : Clock) (w : Window)
    (result : Except ReadFailure Bytes) :
    (t.fetched clock p w result).1.track? p = some (k.fetch r w result).1 ∧
      (t.fetched clock p w result).2 = (k.fetch r w result).2 := by
  obtain ⟨hrec, hoff, hread⟩ := track?_eq_some.1 hk
  cases result with
  | error e =>
    obtain ⟨hoffs, -, -, hy⟩ := t.reader.absorb_error clock ⟨p, w⟩ e
    have hoff' : (t.reader.absorb clock ⟨p, w⟩ (.error e)).1.offset? p = k.offset? := by
      simpa only [Reader.offset?, hoffs] using hoff
    simp [fetched, Track.fetch, track?_eq_some, Watcher.record?_release_same, hrec, hoff', hy,
      Table.get?_erase_same]
  | ok bytes =>
    cases ho : k.offset? with
    | none =>
      rw [ho] at hoff
      have hoff' : (t.reader.readSucceeded p).offset? p = none := hoff
      simp [fetched, Track.fetch, t.reader.absorb_unknown clock bytes (q := ⟨p, w⟩) hoff,
        track?_eq_some, Watcher.record?_release_same, hrec, hoff', ho, FileRecord.conclude,
        Table.get?_erase_same]
    | some o =>
      rw [ho] at hoff
      simp [fetched, Track.fetch, t.reader.absorb_ok clock bytes (q := ⟨p, w⟩) hoff,
        track?_eq_some, Watcher.record?_release_same, hrec, ho, hr.limits, hr.format,
        Reader.offset?, Table.get?_put_same, Table.get?_erase_same, Reader.lineOf,
        Function.comp_def]

/-- A happening of a file does to the file's track what its moment does. -/
theorem step_track? (hr : t.Follows r) (hk : t.track? p = some k) {h : Happening}
    (hq : h.path.key = p.key) :
    (t.step h).1.track? p = some (k.step r h.moment).1 ∧
      (t.step h).2 = (k.step r h.moment).2 := by
  rw [← track?_of_key _ hq] at hk ⊢
  have hread : t.reading.get? h.path.key = k.reading? := (track?_eq_some.1 hk).2.2
  simp only [step, Track.step, hread]
  cases h.moment with
  | probed s =>
    cases hw : k.reading? with
    | some w => cases s <;> exact ⟨hk, rfl⟩
    | none =>
      cases s with
      | seen seen => exact probed_seen hr hk hw _ _
      | missing => exact probed_unseen hk _ (by simp)
      | metadataFailed why => exact probed_unseen hk _ (by simp)
      | headFailed why => exact probed_unseen hk _ (by simp)
  | fetched answer =>
    cases hw : k.reading? with
    | none => exact ⟨hk, rfl⟩
    | some w => exact fetched_track? hr hk _ _ _

/-! ## Runs -/

theorem run_setup (t : Tailing) (hs : List Happening) : (t.run hs).1.setup = t.setup := by
  induction hs generalizing t with
  | nil => rfl
  | cons h hs ih => exact (ih _).trans (t.step_setup h)

theorem run_follows (hr : t.Follows r) (hs : List Happening) : (t.run hs).1.Follows r :=
  follows_iff.2 ((t.run_setup hs).trans (follows_iff.1 hr))

/-- Seen from one file, a run is the run of the file's own moments on its track. -/
theorem run_track (hr : t.Follows r) (hk : t.track? p = some k) (hs : List Happening) :
    (t.run hs).1.track? p = some (k.run r (Happening.of p hs)).1 ∧
      News.of p (t.run hs).2 = (k.run r (Happening.of p hs)).2 := by
  induction hs generalizing t k with
  | nil => exact ⟨hk, rfl⟩
  | cons h hs ih =>
    by_cases hq : h.path.key = p.key
    · obtain ⟨hk', hn⟩ := step_track? hr hk hq
      obtain ⟨h₁, h₂⟩ := ih (step_follows hr h) hk'
      have hof : Happening.of p (h :: hs) = h.moment :: Happening.of p hs := by
        simp [Happening.of, hq]
      rw [hof]
      refine ⟨h₁, ?_⟩
      simp only [run, Track.run, ← h₂, ← hn]
      simp [News.of, hq]
    · obtain ⟨h₁, h₂⟩ := ih (step_follows hr h) ((step_track?_other h hq).trans hk)
      have hof : Happening.of p (h :: hs) = Happening.of p hs := by
        simp [Happening.of, hq]
      rw [hof]
      refine ⟨h₁, ?_⟩
      rw [← h₂]
      simp [run, News.of, hq]

/-! ## The start -/

theorem start_follows {s : Settings} {f : LineFormat} {codecs : EastAsian → Codec}
    (hs : s.fault? = none) (hf : s.lineFormat? codecs = some f) :
    (start s f).Follows (s.rules f hs hf) := ⟨rfl, rfl, rfl⟩

theorem watch_fresh {files : Table Path.Key Watched} (q : Path)
    (h : ∀ key w, files.get? key = some w → w.record = .fresh) :
    ∀ key w, (Watcher.watch files q).get? key = some w → w.record = .fresh := by
  intro key w hw
  simp only [Watcher.watch] at hw
  split at hw
  · exact h key w hw
  · by_cases hk : q.key = key
    · rw [hk, Table.get?_put_same] at hw
      cases hw; rfl
    · rw [Table.get?_put_other _ _ hk] at hw
      exact h key w hw

theorem watch_watched {files : Table Path.Key Watched} (q : Path) {key : Path.Key}
    (h : q.key = key ∨ (files.get? key).isSome) : ((Watcher.watch files q).get? key).isSome := by
  by_cases hc : (files.get? q.key).isSome = true
  · simp only [Watcher.watch, Table.contains, hc, if_true]
    rcases h with rfl | h
    · exact hc
    · exact h
  · simp only [Watcher.watch, Table.contains, hc, Bool.false_eq_true, if_false]
    by_cases hk : q.key = key
    · simp [hk, Table.get?_put_same]
    · rw [Table.get?_put_other _ _ hk]
      exact h.resolve_left hk

/-- A state that some order of happenings leads to. -/
def Reached (s : Settings) (f : LineFormat) (t : Tailing) : Prop :=
  ∃ hap, t = ((start s f).run hap).1

theorem Reached.follows {s : Settings} {f : LineFormat} {codecs : EastAsian → Codec}
    (ht : Reached s f t) (hs : s.fault? = none) (hf : s.lineFormat? codecs = some f) :
    t.Follows (s.rules f hs hf) := by
  obtain ⟨hap, rfl⟩ := ht
  exact run_follows (start_follows hs hf) hap

/-- Every watched file starts afresh. -/
theorem track?_start (s : Settings) (f : LineFormat) (hp : p ∈ s.paths) :
    (start s f).track? p = some .fresh := by
  have general : ∀ (paths : List Path) (files : Table Path.Key Watched),
      (∀ key w, files.get? key = some w → w.record = .fresh) →
      (p ∈ paths ∨ (files.get? p.key).isSome) →
      ∃ w, (paths.foldl Watcher.watch files).get? p.key = some w ∧ w.record = .fresh := by
    intro paths
    induction paths with
    | nil =>
      intro files hfresh hin
      obtain ⟨w, hw⟩ := Option.isSome_iff_exists.1 (hin.resolve_left (by simp))
      exact ⟨w, hw, hfresh _ _ hw⟩
    | cons q paths ih =>
      intro files hfresh hin
      refine ih _ (watch_fresh q hfresh) ?_
      rcases hin with hin | hin
      · rcases List.mem_cons.1 hin with rfl | hin
        · exact .inr (watch_watched _ (.inl rfl))
        · exact .inl hin
      · exact .inr (watch_watched _ (.inr hin))
  obtain ⟨w, hw, hfresh⟩ := general s.paths .empty (by simp [Table.get?, Table.empty, Table.find])
    (.inl hp)
  have hrec : (start s f).watcher.record? p = some .fresh := by
    simp only [start, Watcher.record?, Watcher.new, hw, Option.map_some, hfresh]
  exact track?_eq_some.2 ⟨hrec, rfl, rfl⟩

end Tailing
end FileTail
