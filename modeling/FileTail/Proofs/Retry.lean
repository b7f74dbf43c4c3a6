import FileTail.Proofs.Isolation
import FileTail.Proofs.Loop

/-!
# FileTail.Proofs.Retry

What fails leaves no trace but its messages. A cycle in which the file is not seen changes nothing that
any later call answers from, except for the counts of failures; and a read that fails is asked for
again, as it was, as soon as the file is seen with the same size and head.

* `FailedCycles`: a run of calls with failed cycles of one file put in between.
* `Shadows.replies`: without them the run gives the same.
* `Tailing.Owes`: a read is under way or is still to be made up for.
* `Tailing.Owes.run`, `Tailing.Owes.retried`: it stays so as long as all fails, and then the same read
  is asked for.
* `failures_leave_no_trace`: all of it.
-/

namespace FileTail

/-! ## Failed cycles in a run of calls -/

namespace Reply

/-- The reply without its messages. Of a round it says only whether it takes the file. -/
def outcome (k : Path.Key) : Reply → Reply
  | started paths => started (paths.filter fun p => p.key = k)
  | looked change? _ => looked change? []
  | planned plan _ => planned plan []
  | absorbed yield _ => absorbed yield []
  | released => released

end Reply

/-- In a list of calls those that are marked make up cycles of the file at `p`, each begun while the
file is idle, in which the file is not seen. Calls about other files can come within such a cycle; `st`
is how far one has come. -/
inductive FailedCycles (p : Path) : Standing → Watcher × Reader → List (Call × Bool) → Prop where
  | done {x : Watcher × Reader} : FailedCycles p .idle x []
  | call {st : Standing} {x : Watcher × Reader} {c : Call} {rest : List (Call × Bool)} :
      (st = .idle ∨ ∃ j, c.key? = some j ∧ j ≠ p.key) → FailedCycles p st (c.apply x) rest →
      FailedCycles p st x ((c, false) :: rest)
  | begun {x : Watcher × Reader} {rest : List (Call × Bool)} :
      x.1.isReserved p = false → FailedCycles p .reserved (Call.round.apply x) rest →
      FailedCycles p .idle x ((.round, true) :: rest)
  | failed {x : Watcher × Reader} {q : Path} {now : Nat} {s : Sighting}
      {rest : List (Call × Bool)} :
      q.key = p.key → (∀ seen, s ≠ .seen seen) →
      FailedCycles p .looked ((Call.look q now s).apply x) rest →
      FailedCycles p .reserved x ((.look q now s, true) :: rest)
  | ended {x : Watcher × Reader} {q : Path} {rest : List (Call × Bool)} :
      q.key = p.key → FailedCycles p .idle ((Call.release q .settled).apply x) rest →
      FailedCycles p .looked x ((.release q .settled, true) :: rest)

namespace Call

/-- What the calls give that are not marked. -/
def replies (x : Watcher × Reader) : List (Call × Bool) → List Reply
  | [] => []
  | (c, marked) :: rest => (if marked then [] else [c.reply x]) ++ replies (c.apply x) rest

def outcomes (k : Path.Key) (x : Watcher × Reader) (calls : List (Call × Bool)) : List Reply :=
  (replies x calls).map (Reply.outcome k)

/-- The state after all calls, marked or not. -/
def final (x : Watcher × Reader) (calls : List (Call × Bool)) : Watcher × Reader :=
  (calls.map (·.1)).foldl apply x

end Call

/-- `y` is `x` but for failed cycles of the file at `p`, of which the last has come to `st`. -/
structure Shadows (ps : List Path) (p : Path) (st : Standing) (y x : Watcher × Reader) : Prop where
  watcher : y.1.Alike x.1
  reader : y.2 = x.2
  watches : y.1.Watches ps
  watches' : x.1.Watches ps
  reserved : st = .idle → y.1.isReserved p = x.1.isReserved p
  free : st ≠ .idle → x.1.isReserved p = false

namespace Shadows

variable {ps : List Path} {p q : Path} {st : Standing} {x y : Watcher × Reader} {c : Call}

theorem refl (h : x.1.Watches ps) (p : Path) : Shadows ps p .idle x x where
  watcher := ⟨rfl, fun _ => rfl⟩
  reader := rfl
  watches := h
  watches' := h
  reserved _ := rfl
  free hne := absurd rfl hne

/-- A round takes the file in both states or in neither. -/
theorem round_outcome (h : Shadows ps p .idle y x) (hps : (ps.map Path.key).Nodup) :
    (Call.round.reply y).outcome p.key = (Call.round.reply x).outcome p.key := by
  have hsame : ∀ q : Path, q.key = p.key → y.1.isReserved q = x.1.isReserved q := by
    intro q hkey
    rw [y.1.isReserved_of_key hkey, x.1.isReserved_of_key hkey, h.reserved rfl]
  have hidle : y.1.idlePaths.filter (fun q => q.key = p.key) =
      x.1.idlePaths.filter fun q => q.key = p.key := by
    rw [h.watches.idlePaths_eq hps, h.watches'.idlePaths_eq hps, List.filter_filter,
      List.filter_filter]
    refine List.filter_congr fun q _ => ?_
    by_cases hkey : q.key = p.key
    · rw [hsame q hkey]
    · simp [hkey]
  exact congrArg Reply.started hidle

/-- A call that belongs to no failed cycle gives the same in both states. -/
theorem call (h : Shadows ps p st y x) (hps : (ps.map Path.key).Nodup)
    (hc : st = .idle ∨ ∃ j, c.key? = some j ∧ j ≠ p.key) :
    (c.reply y).outcome p.key = (c.reply x).outcome p.key ∧
      Shadows ps p st (c.apply y) (c.apply x) := by
  have hreader := h.reader
  cases c with
  | round =>
    obtain rfl : st = .idle := by
      rcases hc with hidle | ⟨j, hj, -⟩
      · exact hidle
      · cases hj
    have hround : ∀ {w : Watcher}, w.Watches ps →
        (w.startRound.2.isReserved p = true ↔ p.key ∈ ps.map Path.key) :=
      fun hw => hw.isReserved_startRound p
    refine ⟨h.round_outcome hps, ?_⟩
    exact
      { watcher := ⟨h.watcher.chunk?, fun q => by
          simp only [Call.apply, Watcher.record?_startRound, h.watcher.record? q]⟩
        reader := hreader
        watches := h.watches.startRound
        watches' := h.watches'.startRound
        reserved := fun _ =>
          Bool.eq_iff_iff.2 ((hround h.watches).trans (hround h.watches').symm)
        free := fun hne => absurd rfl hne }
  | look q now s =>
    obtain ⟨halike, hchange⟩ := h.watcher.look now q s
    refine ⟨?_, ?_⟩
    · simp only [Call.reply, Reply.outcome, hchange]
    · exact
        { watcher := halike
          reader := hreader
          watches := h.watches.look now q s
          watches' := h.watches'.look now q s
          reserved := fun hidle => by
            simp only [Call.apply, Watcher.isReserved_look, h.reserved hidle]
          free := fun hne => by simp only [Call.apply, Watcher.isReserved_look, h.free hne] }
  | plan q now change =>
    refine ⟨?_, ?_⟩
    · simp only [Call.reply, hreader]
    · exact { h with reader := by simp only [Call.apply, hreader] }
  | absorb clock q result =>
    refine ⟨?_, ?_⟩
    · simp only [Call.reply, hreader]
    · exact { h with reader := by simp only [Call.apply, hreader] }
  | release q v =>
    refine ⟨rfl, ?_⟩
    exact
      { watcher := h.watcher.release q v
        reader := hreader
        watches := h.watches.release q v
        watches' := h.watches'.release q v
        reserved := fun hidle => by
          simp only [Call.apply, Watcher.isReserved_release, h.reserved hidle]
        free := fun hne => by
          simp only [Call.apply, Watcher.isReserved_release, h.free hne, Bool.and_false] }

theorem begun (h : Shadows ps p .idle y x) (hfree : y.1.isReserved p = false) :
    Shadows ps p .reserved (Call.round.apply y) x where
  watcher := ⟨h.watcher.chunk?, fun q =>
    (Watcher.record?_startRound y.1 q).trans (h.watcher.record? q)⟩
  reader := h.reader
  watches := h.watches.startRound
  watches' := h.watches'
  reserved hidle := by cases hidle
  free _ := (h.reserved rfl).symm.trans hfree

theorem failed (h : Shadows ps p .reserved y x) (now : Nat) {s : Sighting}
    (hs : ∀ seen, s ≠ .seen seen) : Shadows ps p .looked ((Call.look q now s).apply y) x where
  watcher := by
    obtain ⟨-, hfiles⟩ := y.1.look_unseen now q hs
    refine ⟨(y.1.look_chunk? now q s).trans h.watcher.chunk?, fun path => ?_⟩
    rw [← h.watcher.record? path]
    simp only [Call.apply, Watcher.record?, hfiles]
  reader := h.reader
  watches := h.watches.look now q s
  watches' := h.watches'
  reserved hidle := by cases hidle
  free _ := h.free (by simp)

theorem ended (h : Shadows ps p .looked y x) (hq : q.key = p.key) :
    Shadows ps p .idle ((Call.release q .settled).apply y) x where
  watcher := by
    refine ⟨h.watcher.chunk?, fun path => ?_⟩
    rw [← h.watcher.record? path]
    by_cases hkey : q.key = path.key
    · have hconclude : (fun record : FileRecord => record.conclude .settled) = id := rfl
      rw [← y.1.record?_of_key hkey]
      simp only [Call.apply, ← Watcher.record?_of_key (y.1.release q .settled) hkey,
        Watcher.record?_release_same, hconclude, Option.map_id, id]
    · exact y.1.record?_release_other .settled hkey
  reader := h.reader
  watches := h.watches.release q .settled
  watches' := h.watches'
  reserved _ := by
    rw [h.free (by simp)]
    simp [Call.apply, Watcher.isReserved_release, hq]
  free hne := absurd rfl hne

/-- Without the marked calls the others give the same. -/
theorem replies {calls : List (Call × Bool)} (hcalls : FailedCycles p st y calls)
    (h : Shadows ps p st y x) (hps : (ps.map Path.key).Nodup) :
    Call.outcomes p.key y calls = Call.outcomes p.key x (calls.filter (!·.2)) ∧
      Shadows ps p .idle (Call.final y calls) (Call.final x (calls.filter (!·.2))) := by
  induction hcalls generalizing x with
  | done => exact ⟨rfl, h⟩
  | @call st y c rest hc _ ih =>
    obtain ⟨hreply, hnext⟩ := h.call hps hc
    obtain ⟨hrest, hend⟩ := ih hnext
    refine ⟨?_, hend⟩
    have hcons : ∀ (z : Watcher × Reader) (rest : List (Call × Bool)),
        Call.outcomes p.key z ((c, false) :: rest) =
          (c.reply z).outcome p.key :: Call.outcomes p.key (c.apply z) rest := fun _ _ => rfl
    rw [List.filter_cons_of_pos (by rfl), hcons, hcons, hreply, hrest]
  | begun hfree _ ih => exact ih (h.begun hfree)
  | failed _ hs _ ih => exact ih (h.failed _ hs)
  | ended hq _ ih => exact ih (h.ended hq)

end Shadows

/-! ## Reads that are made up for -/

/-- The file is not seen, or as it was seen before; reads of it fail. -/
def Moment.Fruitless (before : Fingerprint) : Moment → Prop
  | .probed s => ∀ seen, s = .seen seen → seen.size = before.size ∧ seen.head = before.head
  | .fetched answer => ∀ w, ∃ e, answer w = .error e

/-- The event is about another file or fruitless for this one. -/
def Event.Fruitless (k : Path.Key) (before : Fingerprint) : Event → Prop
  | .probed p s =>
    p.key = k → ∀ seen, s = .seen seen → seen.size = before.size ∧ seen.head = before.head
  | .fetched q result => q.path.key = k → ∃ e, result = .error e
  | _ => True

/-- A plan that is made again is the same. -/
theorem Limits.plan_again {l : Limits} {width o : Nat} {offset? : Option Nat} {c c' : Change}
    {w : Window} (h : l.plan width offset? c = (o, .read w)) (hreplaced : c'.replaced = false)
    (hsize : c'.size = c.size) : l.plan width (some o) c' = (o, .read w) := by
  obtain ⟨ho, hkept, hfile, hunread, hread, hw⟩ := plan_read h
  have hle : o ≤ c.size := ho ▸ l.resume_le offset? c
  have hresume : l.resume (some o) c' = o := by
    simp only [resume, Option.getD_some, hreplaced, hsize, Bool.false_eq_true, false_or]
    rw [if_neg (by omega)]
  have hlarge : ¬ (c.size < l.minFile ∨ c.size - o = 0 ∨ c.size - o < l.minRead) := by omega
  simp only [plan, hresume, hreplaced, hsize, hw, Bool.false_eq_true, if_false, if_neg hlarge]

namespace Tailing

/-- The read of a window is under way, or the file is to be revisited and the same read will then be
planned as long as the file has the size and the head that it had. -/
structure Owes (t : Tailing) (p : Path) (before : Fingerprint) (w : Window) : Prop where
  whole : t.watcher.chunk? = none
  record : ∃ record last, t.watcher.record? p = some record ∧ record.last = some last ∧
    last.head = before.head ∧ (t.reading.get? p.key = none → record.revisit = true)
  offset : ∃ o, t.reader.offset? p = some o ∧
    ∀ c : Change, c.replaced = false → c.size = before.size →
      t.reader.limits.plan t.reader.width (some o) c = (o, .read w)
  reading : ∀ u, t.reading.get? p.key = some u → u = w

namespace Owes

variable {t t' : Tailing} {p q : Path} {before seen : Fingerprint} {w : Window}

theorem of_key (h : t.Owes p before w) (hq : q.key = p.key) : t.Owes q before w where
  whole := h.whole
  record := by
    simp only [hq, t.watcher.record?_of_key hq]
    exact h.record
  offset := by
    simp only [Reader.offset?, hq]
    exact h.offset
  reading := by
    rw [hq]
    exact h.reading

/-- It stays so as long as nothing about the file changes. -/
theorem of_track (h : t.Owes p before w) (hsetup : t'.setup = t.setup)
    (htrack : t'.track? p = t.track? p) : t'.Owes p before w := by
  obtain ⟨record, last, hrecord, hlast, hhead, hrevisit⟩ := h.record
  obtain ⟨o, ho, hplan⟩ := h.offset
  have hkept : t'.track? p = some ⟨record, some o, t.reading.get? p.key⟩ :=
    htrack.trans (track?_eq_some.2 ⟨hrecord, ho, rfl⟩)
  obtain ⟨hrecord', ho', hreading⟩ := track?_eq_some.1 hkept
  obtain ⟨hchunk, hrest⟩ := Prod.mk.inj hsetup
  obtain ⟨hlimits, hformat⟩ := Prod.mk.inj hrest
  exact
    { whole := hchunk.trans h.whole
      record := ⟨record, last, hrecord', hlast, hhead, fun hidle =>
        hrevisit (hreading.symm.trans hidle)⟩
      offset := ⟨o, ho', fun c hreplaced hsize => by
        rw [hlimits, Reader.width, hformat]
        exact hplan c hreplaced hsize⟩
      reading := fun u hu => h.reading u (hreading.symm.trans hu) }

/-- A read that was planned is owed from then on. -/
theorem of_planned {now : Nat} {watcher : Watcher} {c : Change} {entries more : List LogEntry}
    {r : Reader} (hwhole : t.watcher.chunk? = none)
    (hlook : t.watcher.look now p (.seen seen) = (watcher, some c, entries))
    (hplan : t.reader.plan now p c = (r, .read w, more)) :
    Tailing.Owes ⟨watcher, r, t.reading.put p.key w⟩ p seen w := by
  have hput := Table.get?_put_same t.reading p.key w
  cases hrecord : t.watcher.record? p with
  | none =>
    simp only [Watcher.look, hrecord] at hlook
    cases hlook
  | some record =>
    rw [Watcher.look_seen now hrecord, Prod.mk.injEq, Prod.mk.injEq] at hlook
    obtain ⟨rfl, hchange, -⟩ := hlook
    obtain ⟨last, -, -, hsize, -, hafter⟩ :=
      FileRecord.look_change (Prod.ext rfl hchange : record.look t.watcher.chunk? seen = (_, some c))
    rw [hwhole] at hsize
    have hset := Watcher.record?_setRecord_same (t.watcher.lookSucceeded p) p
      (record.look t.watcher.chunk? seen).1
    have hrecord' : (t.watcher.lookSucceeded p).record? p = some record := hrecord
    rw [hrecord', Option.map_some] at hset
    obtain ⟨hread, hoffsets, hlimits, hformat⟩ := t.reader.plan_spec now p c
    rw [hplan] at hread hoffsets hlimits hformat
    exact
      { whole := hwhole
        record := ⟨_, _, hset, congrArg FileRecord.last hafter, rfl, fun hidle => by
          rw [hput] at hidle
          cases hidle⟩
        offset := ⟨_, by rw [Reader.offset?, hoffsets, Table.get?_put_same], fun c' hreplaced hc' => by
          rw [hlimits, Reader.width, hformat]
          exact Limits.plan_again (Prod.ext rfl hread.symm) hreplaced (hc'.trans hsize.symm)⟩
        reading := fun u hu => by
          rw [hput] at hu
          exact (Option.some.inj hu).symm }

/-- An idle file that is seen as before is reported, with the same content, and the read is planned. -/
theorem retried (h : t.Owes p before w) (hidle : t.reading.get? p.key = none) (now : Nat)
    (hsize : seen.size = before.size) (hhead : seen.head = before.head) :
    ∃ watcher c r more, t.watcher.look now p (.seen seen) = (watcher, some c, []) ∧
      t.reader.plan now p c = (r, .read w, more) := by
  obtain ⟨record, last, hrecord, hlast, hbefore, hrevisit⟩ := h.record
  obtain ⟨o, ho, hagain⟩ := h.offset
  obtain ⟨c, hlook, hreplaced, hreported⟩ :=
    FileRecord.look_of_revisit hlast (hrevisit hidle) t.watcher.chunk? seen
  have hsame : c.replaced = false := by
    rw [hreplaced, hhead, hbefore, Head.follows_self]
    rfl
  rw [h.whole] at hreported
  obtain ⟨hread, -⟩ := t.reader.plan_spec now p c
  rw [ho, hagain c hsame (hreported.trans hsize)] at hread
  have hlooked := Watcher.look_seen now hrecord seen
  rw [hlook] at hlooked
  exact ⟨_, c, _, _, hlooked, Prod.ext rfl (Prod.ext hread rfl)⟩

/-- Of a probe that shows nothing new all that can come is the same read. -/
theorem probed (h : t.Owes p before w) (hidle : t.reading.get? p.key = none) (now : Nat)
    {s : Sighting}
    (hs : ∀ seen, s = .seen seen → seen.size = before.size ∧ seen.head = before.head) :
    (t.probed now p s).1.Owes p before w := by
  by_cases hseen : ∃ seen, s = .seen seen
  · obtain ⟨seen, rfl⟩ := hseen
    obtain ⟨hsize, hhead⟩ := hs seen rfl
    obtain ⟨watcher, c, r, more, hlook, hplan⟩ := h.retried hidle now hsize hhead
    have hnext := of_planned h.whole hlook hplan
    simp only [Tailing.probed, hlook, hplan]
    exact
      { hnext with
        record := hhead ▸ hnext.record
        offset := hsize ▸ hnext.offset }
  · have hunseen : ∀ seen, s ≠ .seen seen := fun seen hs => hseen ⟨seen, hs⟩
    obtain ⟨record, last, hrecord, -⟩ := h.record
    have htrack : t.track? p = some ⟨record, t.reader.offset? p, t.reading.get? p.key⟩ :=
      track?_eq_some.2 ⟨hrecord, rfl, rfl⟩
    exact h.of_track (t.probed_setup _ _ _)
      ((probed_unseen htrack now hunseen).1.trans htrack.symm)

/-- A read that fails has the file revisited. -/
theorem failed (h : t.Owes p before w) (clock : Clock) (e : ReadFailure) :
    (t.fetched clock p w (.error e)).1.Owes p before w := by
  obtain ⟨hoffsets, hlimits, hformat, hy⟩ := t.reader.absorb_error clock ⟨p, w⟩ e
  obtain ⟨record, last, hrecord, hlast, hhead, -⟩ := h.record
  obtain ⟨o, ho, hagain⟩ := h.offset
  have hfetched : (t.fetched clock p w (.error e)).1 =
      ⟨t.watcher.release p .revisit, (t.reader.absorb clock ⟨p, w⟩ (.error e)).1,
        t.reading.erase p.key⟩ := by
    simp only [fetched, hy]
  have hconcluded : (t.watcher.release p .revisit).record? p = some (record.conclude .revisit) := by
    rw [Watcher.record?_release_same, hrecord, Option.map_some]
  rw [hfetched]
  exact
    { whole := h.whole
      record := ⟨_, last, hconcluded, hlast, hhead, fun _ => rfl⟩
      offset := ⟨o, (congrArg (·.get? p.key) hoffsets).trans ho, fun c hreplaced hsize => by
        rw [hlimits, Reader.width, hformat]
        exact hagain c hreplaced hsize⟩
      reading := fun u hu => by
        rw [Table.get?_erase_same] at hu
        cases hu }

theorem own (h : t.Owes p before w) (clock : Clock) {m : Moment} (hm : m.Fruitless before) :
    (t.step ⟨clock, p, m⟩).1.Owes p before w := by
  cases m with
  | probed s =>
    cases hreading : t.reading.get? p.key with
    | some u => simpa only [step, hreading] using h
    | none => simpa only [step, hreading] using h.probed hreading clock.now hm
  | fetched answer =>
    cases hreading : t.reading.get? p.key with
    | none => simpa only [step, hreading] using h
    | some u =>
      obtain rfl := h.reading u hreading
      obtain ⟨e, he⟩ := hm u
      simpa only [step, hreading, he] using h.failed clock e

theorem step (h : t.Owes p before w) {hap : Happening}
    (hfruitless : hap.path.key = p.key → hap.moment.Fruitless before) :
    (t.step hap).1.Owes p before w := by
  by_cases hkey : hap.path.key = p.key
  · exact ((h.of_key hkey).own hap.clock (hfruitless hkey)).of_key hkey.symm
  · exact h.of_track (t.step_setup hap) (step_track?_other hap hkey)

/-- Whatever happens to the others, as long as nothing comes of this file it is owed the read. -/
theorem run (h : t.Owes p before w) {hs : List Happening}
    (hfruitless : ∀ hap ∈ hs, hap.path.key = p.key → hap.moment.Fruitless before) :
    (t.run hs).1.Owes p before w := by
  induction hs generalizing t with
  | nil => exact h
  | cons hap hs ih =>
    exact ih (h.step (hfruitless hap List.mem_cons_self)) fun other hother =>
      hfruitless other (List.mem_cons_of_mem _ hother)

end Owes
end Tailing

/-! ## The loop -/

namespace Follower

variable {f : Follower} {t : Tailing} {ps : List Path} {before : List Call} {p : Path}
  {first seen : Fingerprint} {w : Window} {clock : Clock}

theorem happenings_fruitless {e : Event} (he : e.Fruitless p.key first) :
    ∀ hap ∈ f.happenings clock e, hap.path.key = p.key → hap.moment.Fruitless first := by
  intro hap hhap hkey
  unfold happenings at hhap
  split at hhap
  · split at hhap
    · split at hhap
      · obtain rfl := List.mem_singleton.1 hhap
        exact he hkey
      · cases hhap
    · split at hhap
      · obtain rfl := List.mem_singleton.1 hhap
        obtain ⟨e, rfl⟩ := he hkey
        -- the answer to a window that was not asked for is an error as well
        intro w
        unfold answer
        split
        · exact ⟨e, rfl⟩
        · exact ⟨_, rfl⟩
      · cases hhap
    · cases hhap
  · cases hhap

theorem history_fruitless {es : List (Clock × Event)}
    (hes : ∀ e ∈ es, e.2.Fruitless p.key first) :
    ∀ hap ∈ f.history es, hap.path.key = p.key → hap.moment.Fruitless first := by
  induction es generalizing f with
  | nil => intro hap hhap; cases hhap
  | cons e es ih =>
    intro hap hhap
    rcases List.mem_append.1 hhap with hnow | hlater
    · exact happenings_fruitless (hes e List.mem_cons_self) hap hnow
    · exact ih (fun other hother => hes other (List.mem_cons_of_mem _ hother)) hap hlater

namespace Mirrors

/-- A read that a probe leads to is owed. -/
theorem owes (h : Mirrors t f) (ho : Orderly ps before f) (hwhole : t.watcher.chunk? = none)
    {q : Request} (hq : .read q ∈ (f.step clock (.probed p (.seen seen))).2) :
    .probing p ∈ f.underWay ∧ q.path = p ∧
      (t.run (f.happenings clock (.probed p (.seen seen)))).1.Owes p seen q.window := by
  have hmove := f.step_move clock (.probed p (.seen seen))
  generalize (f.step clock (.probed p (.seen seen))).1 = f' at hmove
  generalize (f.step clock (.probed p (.seen seen))).2 = actions at hmove hq
  generalize f.calls clock (.probed p (.seen seen)) = calls at hmove
  cases hmove with
  | ignored _ => cases hq
  | unchanged _ _ _ => simp at hq
  | skipped _ _ _ _ => simp at hq
  | @started _ _ w c entries more r window hphase hp hlook hplan =>
    obtain rfl : q = ⟨p, window⟩ := by simpa using hq
    obtain ⟨w', entries', hlook', -⟩ := h.look hphase hlook
    have hplan' : t.reader.plan clock.now p c = (r, .read window, more) := by
      rw [h.reader]
      exact hplan
    have hrun : (t.run (f.happenings clock (.probed p (.seen seen)))).1 =
        ⟨w', r, t.reading.put p.key window⟩ := by
      simp [happenings, hphase, hp, Tailing.run, Tailing.step, h.reading_none ho hp,
        Tailing.probed, hlook', hplan']
    rw [hrun]
    exact ⟨hp, rfl, Tailing.Owes.of_planned hwhole hlook' hplan'⟩

/-- A read that is owed is asked for when the file is seen as before. -/
theorem asked_again (h : Mirrors t f) (ho : Orderly ps before f) (howes : t.Owes p first w)
    (hphase : f.phase = .polling) (hp : .probing p ∈ f.underWay) (clock : Clock)
    (hsize : seen.size = first.size) (hhead : seen.head = first.head) :
    ∃ entries : List LogEntry,
      (f.step clock (.probed p (.seen seen))).2 = entries.map .log ++ [.read ⟨p, w⟩] := by
  obtain ⟨watcher, c, r, more, hlook, hplan⟩ :=
    howes.retried (h.reading_none ho hp) clock.now hsize hhead
  obtain ⟨-, hchange⟩ :=
    Watcher.Alike.look (settled_polling hphase ▸ h.watcher) clock.now p (.seen seen)
  rw [hlook] at hchange
  rw [h.reader] at hplan
  have hstep : f.step clock (.probed p (.seen seen)) = f.onProbed clock.now p (.seen seen) := by
    simp [step, hphase, hp]
  refine ⟨(f.watcher.look clock.now p (.seen seen)).2.2 ++ more, ?_⟩
  simp only [hstep, onProbed, ← hchange, hplan]

end Mirrors

/-- From a read that was asked for to the next look at its file, with nothing but failures between. -/
theorem Mirrors.read_again (h : Mirrors t f) (ho : Orderly ps before f) (hspelled : Spelled ps f)
    (hps : (ps.map Path.key).Nodup) (hwhole : t.watcher.chunk? = none) {q : Request}
    (hq : .read q ∈ (f.step clock (.probed p (.seen first))).2) {later : List (Clock × Event)}
    (hlater : ∀ e ∈ later, e.2.Fruitless p.key first) {g : Follower}
    (hg : ((f.step clock (.probed p (.seen first))).1.run later).1 = g)
    (hphase : g.phase = .polling) {p' : Path} (hp' : .probing p' ∈ g.underWay)
    (hkey : p'.key = p.key) (clock' : Clock) (hsize : seen.size = first.size)
    (hhead : seen.head = first.head) :
    ∃ entries : List LogEntry,
      (g.step clock' (.probed p' (.seen seen))).2 = entries.map .log ++ [.read q] := by
  obtain ⟨hp, rfl, howes⟩ := h.owes ho hwhole hq
  have hmove := f.step_move clock (.probed q.path (.seen first))
  obtain ⟨hnext, -⟩ := h.move ho hmove
  have ho' := ho.move hps hmove
  obtain ⟨hend, -⟩ := hnext.run ho' hps later
  have ho'' := ho'.run hps later
  have hspelled' := (hspelled.step clock (.probed q.path (.seen first))).run later
  rw [hg] at hend ho'' hspelled'
  -- the file is watched under one spelling only, so that the request names the same path
  obtain rfl : p' = q.path :=
    List.inj_on_of_nodup_map hps (hspelled'.stages _ hp') (hspelled.stages _ hp) hkey
  exact hend.asked_again ho'' (howes.run (history_fruitless hlater)) hphase hp' clock' hsize hhead

end Follower

/-- Failed cycles are invisible but for their messages, and a read that fails is made up for.

Cycles of an idle file in which it is not seen can be put into any run of calls, or taken out of it:
all other calls give the same, and the same is known of all files. A failed read moves no offset and
gives nothing; it has the file revisited. While nothing comes of a file but probes that fail or show the
size and head that a read was planned for, and reads that fail, the next probe that sees the file asks
for that read again, whatever happens to the other files. -/
theorem failures_leave_no_trace (s : Settings) (format : LineFormat) (hasOutput : Bool) (p : Path) :
    let start : Watcher × Reader :=
      (.new s.paths s.chunk? s.reportThreshold s.reportCooldown, .new s format)
    let loop := Follower.new s format hasOutput
    (∀ calls, FailedCycles p .idle start calls →
      let others := calls.filter (!·.2)
      let x := Call.final start calls
      let y := Call.final start others
      Call.outcomes p.key start calls = Call.outcomes p.key start others ∧
        x.1.Alike y.1 ∧ x.2 = y.2 ∧ x.1.isReserved p = y.1.isReserved p) ∧
    (∀ (w : Watcher) (r : Reader) (clock : Clock) (q : Request) (e : ReadFailure),
      let y := (r.absorb clock q (.error e)).2.1
      (r.absorb clock q (.error e)).1.offsets = r.offsets ∧ y.lines = [] ∧ y.skipped = 0 ∧
        (w.release q.path y.verdict).record? q.path =
          (w.record? q.path).map fun record => { record with revisit := true }) ∧
    (s.inChunks = false →
      ∀ (es : List (Clock × Event)) (clock : Clock) (first : Fingerprint) (q : Request),
        let f := (loop.run es).1
        .read q ∈ (f.step clock (.probed p (.seen first))).2 →
        ∀ later : List (Clock × Event), (∀ e ∈ later, e.2.Fruitless p.key first) →
          let g := ((f.step clock (.probed p (.seen first))).1.run later).1
          g.phase = .polling → ∀ p' : Path, .probing p' ∈ g.underWay → p'.key = p.key →
            ∀ (clock' : Clock) (seen : Fingerprint),
              seen.size = first.size → seen.head = first.head →
              ∃ entries : List LogEntry,
                (g.step clock' (.probed p' (.seen seen))).2 = entries.map .log ++ [.read q]) := by
  intro start loop
  have hps := Path.distinct_nodup s.paths
  refine ⟨fun calls hcalls => ?_, fun w r clock q e => ?_, fun hwhole es clock first q => ?_⟩
  · intro others x y
    have hwatches : start.1.Watches (Path.distinct s.paths) := Watcher.new_watches _ _ _ _
    obtain ⟨houtcomes, hend⟩ := (Shadows.refl hwatches p).replies hcalls hps
    exact ⟨houtcomes, hend.watcher, hend.reader, hend.reserved rfl⟩
  · intro y
    obtain ⟨hoffsets, -, -, hy⟩ := r.absorb_error clock q e
    have hyield : y = ⟨[], 0, .revisit⟩ := hy
    rw [hyield]
    exact ⟨hoffsets, rfl, rfl, w.record?_release_same q.path .revisit⟩
  · intro f hq later hlater g hphase p' hp' hkey clock' seen hsize hhead
    have ho := Follower.Orderly.new s format hasOutput
    obtain ⟨hmirrors, -⟩ := (Follower.Mirrors.new s format hasOutput).run ho hps es
    have hchunk := congrArg Prod.fst
      ((Tailing.start s format).run_setup ((Follower.new s format hasOutput).history es))
    exact hmirrors.read_again (ho.run hps es) ((Follower.Spelled.new s format hasOutput).run es) hps
      (hchunk.trans (if_neg (by simp [hwhole]))) hq hlater rfl hphase hp' hkey clock' hsize hhead

/-- A read of six bytes fails, the file is missing for a while and the read fails again. The cycle in
which the file is missing leaves no trace, and at the next look all six bytes are asked for. -/
theorem failures_leave_no_trace_two_faults :
    let a : Path := .ofString "/a"
    let s : Settings := { Settings.default with paths := [a] }
    let format : LineFormat := .ofText .utf8 "\n"
    let empty : Fingerprint := ⟨some 1, 0, .ofBytes []⟩
    let full : Fingerprint := ⟨some 2, 6, .ofBytes (Utf8.encode "hello\n")⟩
    let q : Request := ⟨a, ⟨0, 6, false, false⟩⟩
    let start : Watcher × Reader :=
      (.new s.paths s.chunk? s.reportThreshold s.reportCooldown, .new s format)
    let calls : List (Call × Bool) :=
      [(.round, false), (.look a 0 (.seen empty), false), (.release a .settled, false),
       (.round, true), (.look a 1 .missing, true), (.release a .settled, true),
       (.round, false), (.look a 2 (.seen full), false)]
    let loop := Follower.new s format true
    let f := (loop.run [(default, .ticked), (default, .probed a (.seen empty)), (default, .ticked)]).1
    let later : List (Clock × Event) :=
      [(default, .fetched q (.error (.opening "busy"))), (default, .ticked),
       (default, .probed a .missing), (default, .ticked), (default, .probed a (.seen full)),
       (default, .fetched q (.error (.reading "gone"))), (default, .ticked)]
    let g := ((f.step default (.probed a (.seen full))).1.run later).1
    Call.outcomes a.key start calls = Call.outcomes a.key start (calls.filter (!·.2)) ∧
      ∃ entries : List LogEntry,
        (g.step default (.probed a (.seen full))).2 = entries.map .log ++ [.read q] := by
  intro a s format empty full q start calls loop f later g
  obtain ⟨hinvisible, -, hretry⟩ := failures_leave_no_trace s format true a
  have hcalls : FailedCycles a .idle start calls :=
    .call (.inl rfl) (.call (.inl rfl) (.call (.inl rfl) (.begun (by decide +kernel)
      (.failed rfl (by simp) (.ended rfl (.call (.inl rfl) (.call (.inl rfl) .done)))))))
  have hread : .read q ∈ (f.step default (.probed a (.seen full))).2 := by decide +kernel
  have hfruitless : ∀ e ∈ later, e.2.Fruitless a.key full := by
    simp [later, Event.Fruitless]
  obtain ⟨houtcomes, -⟩ := hinvisible calls hcalls
  exact ⟨houtcomes, hretry rfl _ default full q hread later hfruitless (by decide +kernel) a
    (by decide +kernel) rfl default full rfl rfl⟩

end FileTail
