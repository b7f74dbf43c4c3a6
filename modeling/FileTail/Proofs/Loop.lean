import FileTail.Proofs.Reservation
import FileTail.Proofs.Tailing

/-!
# FileTail.Proofs.Loop

The loop follows its files as `Tailing` does. Of the events of a run some are moments in the cycle of
a file; taken in their order they are happenings, and what these do to records, offsets and reads
under way is what the run does. The lines of its batches are the lines of their news.

* `Follower.history`: the happenings of a run.
* `Follower.Mirrors`: a state of the loop and a state of `Tailing` agree on all files.
* `Follower.Mirrors.move`: each move of the loop is mirrored.
* `run_mirrors`: so is each run, and all that holds of every run of `Tailing` holds of the loop.
-/

namespace FileTail

namespace Watcher

/-- The same is known of all files. Reservations and counted failures may differ. -/
structure Alike (w w' : Watcher) : Prop where
  chunk? : w.chunk? = w'.chunk?
  record? : ∀ p, w.record? p = w'.record? p

namespace Alike

variable {w w' : Watcher}

theorem release (h : w.Alike w') (p : Path) (v : Verdict) :
    (w.release p v).Alike (w'.release p v) where
  chunk? := h.chunk?
  record? q := by
    by_cases hk : q.key = p.key
    · rw [record?_of_key _ hk, record?_of_key _ hk, record?_release_same, record?_release_same,
        h.record?]
    · rw [record?_release_other _ _ (Ne.symm hk), record?_release_other _ _ (Ne.symm hk), h.record?]

theorem setRecord (h : w.Alike w') (p : Path) (record : FileRecord) :
    (w.setRecord p record).Alike (w'.setRecord p record) where
  chunk? := h.chunk?
  record? q := by
    by_cases hk : q.key = p.key
    · rw [record?_of_key _ hk, record?_of_key _ hk, record?_setRecord_same, record?_setRecord_same,
        h.record?]
    · rw [record?_setRecord_other _ _ (Ne.symm hk), record?_setRecord_other _ _ (Ne.symm hk),
        h.record?]

theorem look (h : w.Alike w') (now : Nat) (p : Path) (s : Sighting) :
    (w.look now p s).1.Alike (w'.look now p s).1 ∧
      (w.look now p s).2.1 = (w'.look now p s).2.1 := by
  by_cases hs : ∃ seen, s = .seen seen
  · obtain ⟨seen, rfl⟩ := hs
    cases hrecord : w.record? p with
    | none =>
      have hrecord' : w'.record? p = none := h.record? p ▸ hrecord
      simp only [Watcher.look, hrecord, hrecord']
      exact ⟨h, trivial⟩
    | some record =>
      have hrecord' : w'.record? p = some record := h.record? p ▸ hrecord
      have hcleared : (w.lookSucceeded p).Alike (w'.lookSucceeded p) := ⟨h.chunk?, h.record?⟩
      rw [look_seen now hrecord, look_seen now hrecord', h.chunk?]
      exact ⟨hcleared.setRecord p _, rfl⟩
  · have hs : ∀ seen, s ≠ .seen seen := fun seen hseen => hs ⟨seen, hseen⟩
    obtain ⟨hnone, hfiles⟩ := w.look_unseen now p hs
    obtain ⟨hnone', hfiles'⟩ := w'.look_unseen now p hs
    refine ⟨⟨?_, fun q => ?_⟩, hnone.trans hnone'.symm⟩
    · rw [look_chunk?, look_chunk?, h.chunk?]
    · have hq := h.record? q
      simp only [Watcher.record?, hfiles, hfiles'] at hq ⊢
      exact hq

end Alike
end Watcher

namespace Reader

theorem absorb_lines_path (r : Reader) (clock : Clock) (q : Request)
    (result : Except ReadFailure Bytes) :
    ∀ l ∈ (r.absorb clock q result).2.1.lines, l.path = q.path := by
  intro l hl
  cases result with
  | error e =>
    obtain ⟨-, -, -, hy⟩ := r.absorb_error clock q e
    rw [hy] at hl
    cases hl
  | ok bytes =>
    cases ho : r.offset? q.path with
    | none =>
      rw [r.absorb_unknown clock bytes ho] at hl
      cases hl
    | some o =>
      rw [r.absorb_ok clock bytes ho] at hl
      obtain ⟨text, -, rfl⟩ := List.mem_map.1 hl
      rfl

end Reader

theorem Tailing.run_append (t : Tailing) (hs hs' : List Happening) :
    t.run (hs ++ hs') =
      (((t.run hs).1.run hs').1, (t.run hs).2 ++ ((t.run hs).1.run hs').2) := by
  induction hs generalizing t with
  | nil => rfl
  | cons h hs ih => simp only [List.cons_append, run, ih]

/-- The news of a read has the text of its lines. -/
theorem Tailing.fetched_lines (t : Tailing) (clock : Clock) (p : Path) (w : Window)
    (result : Except ReadFailure Bytes) :
    (t.fetched clock p w result).2.lines =
      (t.reader.absorb clock ⟨p, w⟩ result).2.1.lines.map (·.text) := by
  cases result with
  | error e =>
    obtain ⟨-, -, -, hy⟩ := t.reader.absorb_error clock ⟨p, w⟩ e
    simp [fetched, hy, News.lines]
  | ok bytes =>
    cases ho : t.reader.offset? p with
    | none =>
      have hoff : (t.reader.readSucceeded p).offset? p = none := ho
      simp [fetched, t.reader.absorb_unknown clock bytes (q := ⟨p, w⟩) ho, hoff, News.lines]
    | some o =>
      simp [fetched, t.reader.absorb_ok clock bytes (q := ⟨p, w⟩) ho, Reader.offset?,
        Table.get?_put_same, News.lines]

namespace Action

def lines : Action → List Line
  | send batch => batch
  | _ => []

theorem lines_logs (entries : List LogEntry) : (entries.map log).flatMap lines = [] := by
  simp [lines, List.flatMap_map]

end Action

namespace Follower

/-- What the read of any window gives where the read of a request gave `result`. Other windows were not
asked for. -/
def answer (q : Request) (result : Except ReadFailure Bytes) (w : Window) :
    Except ReadFailure Bytes :=
  if w = q.window then result else .error (.reading "")

/-- What an event is for the files. -/
def happenings (f : Follower) (clock : Clock) (e : Event) : List Happening :=
  match f.phase with
  | .polling =>
    match e with
    | .probed p s => if .probing p ∈ f.underWay then [⟨clock, p, .probed s⟩] else []
    | .fetched q result =>
      if .reading q ∈ f.underWay then [⟨clock, q.path, .fetched (answer q result)⟩] else []
    | _ => []
  | _ => []

def history (f : Follower) : List (Clock × Event) → List Happening
  | [] => []
  | (clock, e) :: es => f.happenings clock e ++ (f.step clock e).1.history es

/-- What is known of the files once a send under way has ended. -/
def settled (f : Follower) : Watcher :=
  match f.phase with
  | .sending p v _ => f.watcher.release p v
  | _ => f.watcher

/-- The loop knows the same of all files and reads the same. -/
structure Mirrors (t : Tailing) (f : Follower) : Prop where
  watcher : t.watcher.Alike f.settled
  reader : t.reader = f.reader
  reading : ∀ k w, t.reading.get? k = some w ↔
    ∃ q, .reading q ∈ f.underWay ∧ q.path.key = k ∧ q.window = w

variable {f f' : Follower} {t : Tailing} {ps : List Path} {before calls : List Call}
  {clock : Clock} {e : Event} {actions : List Action}

theorem settled_of_not_sending (h : ∀ p v batch, f.phase ≠ .sending p v batch) :
    f.settled = f.watcher := by
  cases hphase : f.phase with
  | sending p v batch => exact absurd hphase (h p v batch)
  | _ => simp [settled, hphase]

theorem settled_polling (h : f.phase = .polling) : f.settled = f.watcher := by
  simp [settled, h]

theorem happenings_sending {p : Path} {v : Verdict} {batch : List Line}
    (h : f.phase = .sending p v batch) : f.happenings clock e = [] := by
  simp [happenings, h]

theorem happenings_ignored (h : ¬ f.Awaits e) : f.happenings clock e = [] := by
  cases hphase : f.phase with
  | polling =>
    cases e with
    | probed p s =>
      have hp : .probing p ∉ f.underWay := fun hp => h ⟨hphase, hp⟩
      simp [happenings, hphase, hp]
    | fetched q result =>
      have hq : .reading q ∉ f.underWay := fun hq => h ⟨hphase, hq⟩
      simp [happenings, hphase, hq]
    | _ => simp [happenings, hphase]
  | _ => simp [happenings, hphase]

def window? (f : Follower) (k : Path.Key) : Option Window :=
  f.underWay.findSome? fun
    | .reading q => if q.path.key = k then some q.window else none
    | .probing _ => none

/-- What is known of a file. -/
def track? (f : Follower) (p : Path) : Option Track :=
  (f.settled.record? p).map fun record => ⟨record, f.reader.offset? p, f.window? p.key⟩

theorem Orderly.window?_eq_some (h : Orderly ps before f) {k : Path.Key} {w : Window} :
    f.window? k = some w ↔ ∃ q, .reading q ∈ f.underWay ∧ q.path.key = k ∧ q.window = w := by
  have hfound : ∀ {w}, f.window? k = some w →
      ∃ q, .reading q ∈ f.underWay ∧ q.path.key = k ∧ q.window = w := by
    intro w hw
    obtain ⟨stage, hstage, hat⟩ := List.exists_of_findSome?_eq_some hw
    cases stage with
    | probing p => cases hat
    | reading q =>
      dsimp only at hat
      split at hat
      · exact ⟨q, hstage, ‹_›, Option.some.inj hat⟩
      · cases hat
  refine ⟨hfound, ?_⟩
  rintro ⟨q, hq, rfl, rfl⟩
  cases hw : f.window? q.path.key with
  | none =>
    have hno := List.findSome?_eq_none_iff.1 hw _ hq
    simp at hno
  | some w =>
    obtain ⟨q', hq', hkey, rfl⟩ := hfound hw
    cases h.stage_unique hq' hq hkey
    rfl

namespace Mirrors

theorem new (s : Settings) (format : LineFormat) (hasOutput : Bool) :
    Mirrors (Tailing.start s format) (Follower.new s format hasOutput) where
  watcher := ⟨rfl, fun _ => rfl⟩
  reader := rfl
  reading := fun k w => by simp [Tailing.start, Follower.new, Table.get?_empty]

theorem reading_none (h : Mirrors t f) (ho : Orderly ps before f) {p : Path}
    (hp : .probing p ∈ f.underWay) : t.reading.get? p.key = none := by
  cases hw : t.reading.get? p.key with
  | none => rfl
  | some w =>
    obtain ⟨q, hq, hkey, -⟩ := (h.reading _ _).1 hw
    cases ho.stage_unique hq hp hkey

theorem look (h : Mirrors t f) (hphase : f.phase = .polling) {now : Nat} {p : Path} {s : Sighting}
    {w : Watcher} {change? : Option Change} {entries : List LogEntry}
    (hlook : f.watcher.look now p s = (w, change?, entries)) :
    ∃ w' entries', t.watcher.look now p s = (w', change?, entries') ∧ w'.Alike w := by
  obtain ⟨halike, hchange⟩ := Watcher.Alike.look (settled_polling hphase ▸ h.watcher) now p s
  rcases hlook' : t.watcher.look now p s with ⟨w', change', entries'⟩
  rw [hlook, hlook'] at halike hchange
  exact ⟨w', entries', by rw [show change' = change? from hchange], halike⟩

/-- An event that is nothing for the files. -/
theorem kept (h : Mirrors t f) (hsettled : ∀ p, f'.settled.record? p = f.settled.record? p)
    (hchunk : f'.settled.chunk? = f.settled.chunk?) (hreader : f'.reader = f.reader)
    (hreading : ∀ q, .reading q ∈ f'.underWay ↔ .reading q ∈ f.underWay) : Mirrors t f' where
  watcher := ⟨h.watcher.chunk?.trans hchunk.symm, fun p => (h.watcher.record? p).trans (hsettled p).symm⟩
  reader := h.reader.trans hreader.symm
  reading := fun k w => by simp only [h.reading, hreading]

theorem probeEnded (h : Mirrors t f) {p : Path} {w w' : Watcher} {r : Reader} {v : Verdict}
    (hw : w'.Alike w) (hphase' : f'.phase = .polling) (hwatcher : f'.watcher = w.release p v)
    (hreader : f'.reader = r) (hstages : f'.underWay = f.underWay.erase (.probing p)) :
    Mirrors ⟨w'.release p v, r, t.reading⟩ f' where
  watcher := by
    rw [settled_polling hphase', hwatcher]
    exact hw.release p v
  reader := hreader.symm
  reading := fun k w => by
    simp only [h.reading, hstages, List.mem_erase_of_ne (a := Stage.reading _)
      (b := Stage.probing p) (by simp)]

theorem readStarted (h : Mirrors t f) (ho : Orderly ps before f) {p : Path}
    (hp : .probing p ∈ f.underWay) {w w' : Watcher} {r : Reader} {window : Window}
    (hw : w'.Alike w) (hphase' : f'.phase = .polling) (hwatcher : f'.watcher = w)
    (hreader : f'.reader = r)
    (hstages : f'.underWay = f.underWay.erase (.probing p) ++ [.reading ⟨p, window⟩]) :
    Mirrors ⟨w', r, t.reading.put p.key window⟩ f' where
  watcher := by
    rw [settled_polling hphase', hwatcher]
    exact hw
  reader := hreader.symm
  reading := fun k u => by
    rw [hstages]
    by_cases hk : p.key = k
    · rw [← hk, Table.get?_put_same]
      constructor
      · intro hu
        exact ⟨⟨p, window⟩, List.mem_append_right _ List.mem_cons_self, rfl, Option.some.inj hu⟩
      · rintro ⟨q, hq, hkey, rfl⟩
        rcases List.mem_append.1 hq with hq | hq
        -- the file was probed up to now, so it had no read before this one
        · cases ho.stage_unique (List.mem_of_mem_erase hq) hp hkey
        · cases List.mem_singleton.1 hq
          rfl
    · rw [Table.get?_put_other _ _ hk, h.reading]
      constructor
      · rintro ⟨q, hq, hkey, hu⟩
        exact ⟨q, List.mem_append_left _ ((List.mem_erase_of_ne (by simp)).2 hq), hkey, hu⟩
      · rintro ⟨q, hq, hkey, hu⟩
        rcases List.mem_append.1 hq with hq | hq
        · exact ⟨q, List.mem_of_mem_erase hq, hkey, hu⟩
        · cases List.mem_singleton.1 hq
          exact absurd hkey hk

theorem readEnded (h : Mirrors t f) (ho : Orderly ps before f) (hphase : f.phase = .polling)
    {q : Request} (hq : .reading q ∈ f.underWay) {r : Reader} {v : Verdict}
    (hsettled : f'.settled = f.watcher.release q.path v) (hreader : f'.reader = r)
    (hstages : f'.underWay = f.underWay.erase (.reading q)) :
    Mirrors ⟨t.watcher.release q.path v, r, t.reading.erase q.path.key⟩ f' where
  watcher := by
    rw [hsettled]
    exact (settled_polling hphase ▸ h.watcher).release q.path v
  reader := hreader.symm
  reading := fun k u => by
    simp only [hstages, ho.mem_erase hq, Stage.path_reading]
    by_cases hk : q.path.key = k
    · rw [← hk, Table.get?_erase_same]
      constructor
      · intro hu
        cases hu
      · rintro ⟨q', ⟨-, hne⟩, hkey, -⟩
        exact absurd hkey hne
    · rw [Table.get?_erase_other _ hk, h.reading]
      constructor
      · rintro ⟨q', hq', hkey, hu⟩
        exact ⟨q', ⟨hq', fun heq => hk (heq.symm.trans hkey)⟩, hkey, hu⟩
      · rintro ⟨q', ⟨hq', -⟩, hkey, hu⟩
        exact ⟨q', hq', hkey, hu⟩

theorem sendEnded (h : Mirrors t f) {p : Path} {v : Verdict} {batch : List Line}
    (hphase : f.phase = .sending p v batch) (hwatcher : f'.watcher = f.watcher.release p v)
    (hphase' : ∀ q u more, f'.phase ≠ .sending q u more) (hreader : f'.reader = f.reader)
    (hstages : f'.underWay = f.underWay) : Mirrors t f' := by
  have hsettled : f'.settled = f.settled := by
    rw [settled_of_not_sending hphase', hwatcher]
    simp [settled, hphase]
  exact h.kept (fun p => by rw [hsettled]) (by rw [hsettled]) hreader fun q => by rw [hstages]

/-- The happening of a read that has ended, with the text of its lines for news. -/
theorem run_fetched (h : Mirrors t f) (hphase : f.phase = .polling) {q : Request}
    (hq : .reading q ∈ f.underWay) {result : Except ReadFailure Bytes} {r : Reader} {y : Yield}
    {entries : List LogEntry} (habsorb : f.reader.absorb clock q result = (r, y, entries)) :
    t.run (f.happenings clock (.fetched q result)) =
        (⟨t.watcher.release q.path y.verdict, r, t.reading.erase q.path.key⟩,
          [(q.path, (t.fetched clock q.path q.window result).2)]) ∧
      (t.fetched clock q.path q.window result).2.lines = y.lines.map (·.text) := by
  have hreading : t.reading.get? q.path.key = some q.window := (h.reading _ _).2 ⟨q, hq, rfl, rfl⟩
  have habsorb' : t.reader.absorb clock ⟨q.path, q.window⟩ result = (r, y, entries) := by
    rw [h.reader]
    exact habsorb
  constructor
  · simp [happenings, hphase, hq, Tailing.run, Tailing.step, hreading, answer, Tailing.fetched,
      habsorb']
  · rw [Tailing.fetched_lines, habsorb']

/-- What a move does is done by its happenings. -/
theorem move (h : Mirrors t f) (ho : Orderly ps before f)
    (hmove : Move f clock e f' actions calls) :
    Mirrors (t.run (f.happenings clock e)).1 f' ∧ f'.hasOutput = f.hasOutput ∧
      (f.hasOutput = true →
        (actions.flatMap Action.lines).map (fun l => (l.path, l.text)) =
          (t.run (f.happenings clock e)).2.flatMap fun n => n.2.lines.map (n.1, ·)) := by
  cases hmove with
  | ignored hnot =>
    rw [happenings_ignored hnot]
    exact ⟨h, rfl, fun _ => rfl⟩
  | stopped hphase =>
    have hnone : f.happenings clock .cancelled = [] := by simp [happenings, hphase]
    rw [hnone]
    refine ⟨h.kept ?_ ?_ rfl fun _ => Iff.rfl, rfl, fun _ => rfl⟩
    · simp [settled, hphase]
    · simp [settled, hphase]
  | ticked hphase =>
    -- a round only reserves
    have hnone : f.happenings clock .ticked = [] := by simp [happenings, hphase]
    rw [hnone]
    refine ⟨h.kept (fun p => ?_) ?_ rfl fun q => ?_, rfl, fun _ => ?_⟩
    · simp [settled, hphase, Watcher.record?_startRound]
    · simp [settled, hphase, Watcher.startRound]
    · simp
    · simp [Action.lines, List.flatMap_map, Tailing.run]
  | @unchanged p s w entries hphase hp hlook =>
    obtain ⟨w', entries', hlook', hw⟩ := h.look hphase hlook
    have hrun : t.run (f.happenings clock (.probed p s)) =
        (⟨w'.release p .settled, t.reader, t.reading⟩, [(p, .quiet)]) := by
      simp [happenings, hphase, hp, Tailing.run, Tailing.step, h.reading_none ho hp,
        Tailing.probed, hlook']
    rw [hrun]
    refine ⟨h.probeEnded hw hphase rfl h.reader.symm rfl, rfl, fun _ => ?_⟩
    rw [Action.lines_logs]
    rfl
  | @skipped p s w c entries more r v hphase hp hlook hplan =>
    obtain ⟨w', entries', hlook', hw⟩ := h.look hphase hlook
    have hrun : t.run (f.happenings clock (.probed p s)) = (⟨w'.release p v, r, t.reading⟩,
        [(p, .planned c ((r.offset? p).getD 0) (.skip v))]) := by
      simp [happenings, hphase, hp, Tailing.run, Tailing.step, h.reading_none ho hp,
        Tailing.probed, hlook', h.reader, hplan]
    rw [hrun]
    refine ⟨h.probeEnded hw hphase rfl rfl rfl, rfl, fun _ => ?_⟩
    rw [Action.lines_logs]
    rfl
  | @started p s w c entries more r window hphase hp hlook hplan =>
    obtain ⟨w', entries', hlook', hw⟩ := h.look hphase hlook
    have hrun : t.run (f.happenings clock (.probed p s)) = (⟨w', r, t.reading.put p.key window⟩,
        [(p, .planned c ((r.offset? p).getD 0) (.read window))]) := by
      simp [happenings, hphase, hp, Tailing.run, Tailing.step, h.reading_none ho hp,
        Tailing.probed, hlook', h.reader, hplan]
    rw [hrun]
    refine ⟨h.readStarted ho hp hw hphase rfl rfl rfl, rfl, fun _ => ?_⟩
    rw [List.flatMap_append, Action.lines_logs]
    rfl
  | @taken q result r y entries hphase hq habsorb hdone =>
    obtain ⟨hrun, hlines⟩ := h.run_fetched hphase hq habsorb
    rw [hrun]
    refine ⟨h.readEnded ho hphase hq (settled_polling hphase) rfl rfl, rfl, fun hout => ?_⟩
    have hnil : y.lines = [] := hdone.resolve_right (by simp [hout])
    rw [Action.lines_logs]
    simp [hlines, hnil]
  | @batched q result r y entries hphase hq habsorb hdone =>
    obtain ⟨hrun, hlines⟩ := h.run_fetched hphase hq habsorb
    rw [hrun]
    -- the file is not released before the send has ended, which is no happening any more
    refine ⟨h.readEnded ho hphase hq rfl rfl rfl, rfl, fun _ => ?_⟩
    have hpath := f.reader.absorb_lines_path clock q result
    rw [habsorb] at hpath
    rw [List.flatMap_append, Action.lines_logs]
    simp only [Action.lines, List.flatMap_cons, List.flatMap_nil, List.append_nil, List.nil_append,
      hlines, List.map_map]
    exact List.map_congr_left fun l hl => by simp [hpath l hl]
  | sent hphase =>
    rw [happenings_sending hphase]
    exact ⟨h.sendEnded hphase rfl (by simp [onSent, release]) rfl rfl, rfl, fun _ => rfl⟩
  | refused hphase =>
    rw [happenings_sending hphase]
    exact ⟨h.sendEnded hphase rfl (by simp [onRefused, release]) rfl rfl, rfl, fun _ => rfl⟩
  | brokenOff hphase =>
    rw [happenings_sending hphase]
    exact ⟨h.sendEnded hphase rfl (by simp [onRefused, release]) rfl rfl, rfl, fun _ => rfl⟩

theorem run (h : Mirrors t f) (ho : Orderly ps before f) (hps : (ps.map Path.key).Nodup)
    (es : List (Clock × Event)) :
    Mirrors (t.run (f.history es)).1 (f.run es).1 ∧
      (f.hasOutput = true →
        ((f.run es).2.flatMap Action.lines).map (fun l => (l.path, l.text)) =
          (t.run (f.history es)).2.flatMap fun n => n.2.lines.map (n.1, ·)) := by
  induction es generalizing t f before with
  | nil => exact ⟨h, fun _ => rfl⟩
  | cons e es ih =>
    have hmove := f.step_move e.1 e.2
    obtain ⟨hnext, hout, hlines⟩ := h.move ho hmove
    obtain ⟨hend, hrest⟩ := ih hnext (ho.move hps hmove)
    rw [history, Tailing.run_append]
    refine ⟨hend, fun houtput => ?_⟩
    simp only [Follower.run, List.flatMap_append, List.map_append, hlines houtput,
      hrest (hout.trans houtput)]

theorem track?_eq (h : Mirrors t f) (ho : Orderly ps before f) (p : Path) :
    t.track? p = f.track? p := by
  have hwindow : t.reading.get? p.key = f.window? p.key :=
    Option.ext fun w => (h.reading _ _).trans ho.window?_eq_some.symm
  rw [Tailing.track?, Follower.track?, h.watcher.record?, h.reader, hwindow]

end Mirrors

/-- Whatever the loop does, `Tailing` does with the happenings of its events: the same is known of each
file, and the lines that are sent are those of the news, in their order. -/
theorem run_mirrors (s : Settings) (format : LineFormat) (hasOutput : Bool)
    (es : List (Clock × Event)) :
    let start := Follower.new s format hasOutput
    let mirror := (Tailing.start s format).run (start.history es)
    (∀ p, (start.run es).1.track? p = mirror.1.track? p) ∧
      (hasOutput = true →
        ((start.run es).2.flatMap Action.lines).map (fun l => (l.path, l.text)) =
          mirror.2.flatMap fun n => n.2.lines.map (n.1, ·)) := by
  intro start mirror
  obtain ⟨hend, hlines⟩ := (Mirrors.new s format hasOutput).run (Orderly.new s format hasOutput)
    (Path.distinct_nodup s.paths) es
  exact ⟨fun p => (hend.track?_eq (orderly s format hasOutput es) p).symm, hlines⟩

end Follower
end FileTail
