import FileTail.Proofs.Tailing
import FileTail.Proofs.Visit

/-!
# FileTail.Proofs.Standstill

A file that no longer changes comes to rest, whatever was seen of it before: after a number of visits
that depends on its size alone, a further one finds nothing to do.

A replacement, a backlog, a step of the reported size and a pending revisit each ask for one more
visit. The first visit finds the head of the file, so that no replacement is seen after it. From then
on the reported size and the offset only grow, and a revisit is asked for only when the offset grew
(`Settling.debt`).

* `Track.AtRest`: a visit that leaves everything as it is.
* `Settling.visit`: any other visit makes the debt smaller.
* `comes_to_rest`: the whole of it, in every state that can be reached.
-/

namespace FileTail

variable {r : Rules} {full : Bytes} {modified : Option Int} {t t' : Track} {news : List News}
  {v : Visit} {last : Fingerprint} {o : Nat}

/-! ## Rest -/

/-- Nothing comes of it when `seen` is seen. -/
structure Track.AtRest (r : Rules) (seen : Fingerprint) (t : Track) : Prop where
  idle : t.reading? = none
  settled : t.record.revisit = false
  quiet : t.record.look r.chunk? seen = (t.record, none)

theorem Track.AtRest.visits (h : t.AtRest r (v.seen full)) (n : Nat) :
    (t.run r ((List.replicate n v).flatMap (Visit.moments full))).1 = t := by
  induction n with
  | zero => rfl
  | succ n ih =>
    have hstay : (t.run r (v.moments full)).1 = t := by
      simp only [Visit.moments, run, step, see, h.idle, h.quiet]
      rw [← h.idle]
    rw [List.replicate_succ, List.flatMap_cons, run_append]
    simpa only [hstay] using ih

/-- What is known of a file in every state. -/
structure Track.Recorded (r : Rules) (t : Track) : Prop where
  known : t.record.last = none → t.offset? = none
  handed : r.chunk?.isSome → ∀ last, t.record.last = some last → t.record.handedOut = some last.size

namespace Track.Recorded

theorem fresh (r : Rules) : Recorded r .fresh where
  known _ := rfl
  handed _ _ h := by cases h

theorem turn {m : Moment} {n : News} (h : Recorded r t) (hturn : Turn r t m t' n) :
    Recorded r t' := by
  have inStep : ∀ {seen record c?}, t.record.look r.chunk? seen = (record, c?) →
      record.InStep r.chunk? := by
    intro seen record c? hlook
    have hstep := FileRecord.InStep.look t.record r.chunk? seen
    rwa [hlook] at hstep
  have changed : ∀ {seen record c}, t.record.look r.chunk? seen = (record, some c) →
      ∀ (verdict : Verdict) (o : Nat) (w? : Option Window),
        Recorded r ⟨record.conclude verdict, some o, w?⟩ := by
    intro seen record c hlook verdict o w?
    refine ⟨fun hnone => ?_, (inStep hlook).conclude verdict⟩
    obtain ⟨_, -, -, -, -, rfl⟩ := FileRecord.look_change hlook
    rw [FileRecord.conclude_last] at hnone
    cases hnone
  cases hturn with
  | ignored => exact h
  | unchanged _ hlook =>
    refine ⟨fun hnone => ?_, inStep hlook⟩
    obtain ⟨hnew, -⟩ | ⟨last, -, -, -, -, rfl⟩ := FileRecord.look_quiet hlook
    · exact h.known hnew
    · cases hnone
  | skipped _ hlook _ => exact changed hlook _ _ _
  | started _ hlook _ => exact changed hlook .settled _ _
  | failed _ _ => exact ⟨h.known, h.handed⟩
  | lost _ _ hnone => exact ⟨fun _ => rfl, h.handed⟩
  | taken _ _ ho _ =>
    refine ⟨fun hnone => ?_, FileRecord.InStep.conclude h.handed _⟩
    rw [FileRecord.conclude_last] at hnone
    rw [h.known hnone] at ho
    cases ho

/-- A look that finds a recorded file unchanged leaves its record as it is. -/
theorem atRest (h : Recorded r t) (hidle : t.reading? = none) (hlast : t.record.last = some last)
    {seen : Fingerprint} {record : FileRecord}
    (hlook : t.record.look r.chunk? seen = (record, none)) :
    record = t.record ∧ t.AtRest r seen := by
  obtain ⟨hkept, -, -, hrevisit⟩ := FileRecord.InStep.look_quiet h.handed hlast hlook
  refine ⟨hkept, hidle, hrevisit, ?_⟩
  rw [hlook, hkept]

end Track.Recorded

/-! ## A visit of a file that does not change -/

/-- A visit that reports a change moves the offset on, and asks for a revisit only for a replacement or
after the offset has moved. -/
theorem Visited.changed (h : Visited r full t v t' news) (hv : v.Within full)
    (hlim : full.length ≤ Word.limit) :
    (∃ record, t.record.look r.chunk? (v.seen full) = (record, none) ∧
      t' = ⟨record, t.offset?, none⟩) ∨
    ∃ record c verdict o, t.record.look r.chunk? (v.seen full) = (record, some c) ∧
      t' = ⟨record.conclude verdict, some o, none⟩ ∧ r.limits.resume t.offset? c ≤ o ∧ o ≤ c.size ∧
      (verdict = .revisit → c.replaced = true ∨ r.limits.resume t.offset? c < o) := by
  have hsize := hv.size_le_length
  cases h with
  | unchanged hlook => exact .inl ⟨_, hlook, rfl⟩
  | @skipped _ c o verdict hlook hplan =>
    obtain ⟨ho, hcase⟩ := Limits.plan_skip hplan
    refine .inr ⟨_, c, verdict, o, hlook, rfl, Nat.le_of_eq ho.symm,
      ho ▸ r.limits.resume_le t.offset? c, fun hrevisit => ?_⟩
    rcases hcase with ⟨hrep, -⟩ | ⟨-, hsettled, -⟩
    · exact .inl hrep
    · rw [hsettled] at hrevisit
      cases hrevisit
  | @taken _ c o w y hlook hplan hy =>
    obtain ⟨_, -, -, hc, -, -⟩ := FileRecord.look_change hlook
    have hle : c.size ≤ v.size := hc ▸ FileRecord.reported_le _ _ _ _
    obtain ⟨ho, -, -, hunread, -, hw⟩ := Limits.plan_read hplan
    have hpos : o ≤ w.position := by
      rw [hw]
      exact Limits.le_window_position r.format.encoding.width_pos (by omega)
    have hend : w.position + w.length ≤ c.size := by
      rw [hw]
      exact (Limits.window_end r.format.encoding.width_pos r.width_le (by omega)).1
    have hlen := Visit.length_answer hv (Nat.le_trans hend hle)
    obtain ⟨hlow, hhigh⟩ := r.limits.harvest_offset r.delimiter_ne o w (v.answer full w)
    rw [hy] at hlow hhigh
    refine .inr ⟨_, c, y.verdict, y.offset, hlook, rfl, by omega, by omega, fun hrevisit => .inr ?_⟩
    -- the read got all it asked for, so only a backlog asks for a revisit
    have hbacklog : w.backlog = true := by
      rw [← hy, Limits.harvest_verdict, hlen] at hrevisit
      by_cases hb : w.backlog = true
      · exact hb
      · rw [if_neg (by simpa using hb)] at hrevisit
        cases hrevisit
    rw [hw] at hbacklog
    have hwindow := Limits.window_backlog hbacklog
    rw [← hw] at hwindow
    have hmoved : w.position < (r.limits.harvest r.format o w (v.answer full w)).offset :=
      Limits.lt_harvest_offset (by rw [hwindow]) r.maxRead_pos (Nat.le_of_eq (by rw [hlen, hwindow])) o
    rw [hy, hwindow] at hmoved
    simp only at hmoved
    omega

/-- Of a file that does not change the head is known, and the offset is within the reported size. -/
structure Settling (r : Rules) (full : Bytes) (modified : Option Int) (t : Track)
    (last : Fingerprint) (o : Nat) : Prop
    extends Growing r full full.length t.record t.offset? last o where
  idle : t.reading? = none
  modified_eq : last.modified = modified
  whole : r.chunk? = none → last.size = full.length

namespace Settling

/-- How much is left to do: to report and to read the rest of the file, and a revisit. -/
def debt (full : Bytes) (t : Track) (last : Fingerprint) (o : Nat) : Nat :=
  (full.length - last.size) + (full.length - o) + (if t.record.revisit then 1 else 0)

theorem debt_le (full : Bytes) (t : Track) (last : Fingerprint) (o : Nat) :
    debt full t last o ≤ 2 * full.length + 1 := by
  simp only [debt]
  split <;> omega

theorem size_le (h : Settling r full modified t last o) : last.size ≤ full.length := by
  cases hch : r.chunk? with
  | none => exact Nat.le_of_eq (h.whole hch)
  | some chunk => exact (h.handed (by rw [hch]; rfl)).2.2

/-- After a change was reported of the file. -/
theorem of_change {record : FileRecord} {c : Change}
    (hlook : t.record.look r.chunk? ((Visit.still modified full).seen full) = (record, some c))
    (verdict : Verdict) (ho : o ≤ c.size) :
    Settling r full modified ⟨record.conclude verdict, some o, none⟩
      ⟨modified, c.size, .ofBytes full⟩ o := by
  rw [Visit.seen_still] at hlook
  obtain ⟨_, -, -, hc, -, rfl⟩ := FileRecord.look_change hlook
  have hle : c.size ≤ full.length := hc ▸ FileRecord.reported_le _ _ _ _
  exact
    { grown := Nat.le_refl _
      recorded := FileRecord.conclude_last _ _
      head := ⟨full.length, Nat.le_refl _, by rw [List.take_length]⟩
      handed := fun hch => by
        rw [FileRecord.conclude_handedOut]
        exact ⟨FileRecord.handed_of_isSome hch _ _, ho, hle⟩
      goesOn := rfl
      reached := Nat.le_trans ho hle
      idle := rfl
      modified_eq := rfl
      whole := fun hch => by rw [hc, hch]; rfl }

/-- The first visit of a file. -/
theorem baseline (hnone : t.record.last = none) (hoffset : t.offset? = none)
    {record : FileRecord}
    (hlook : t.record.look r.chunk? ((Visit.still modified full).seen full) = (record, none)) :
    Settling r full modified ⟨record, t.offset?, none⟩ ⟨modified, full.length, .ofBytes full⟩
      (r.limits.anchor ⟨false, full.length, full.length⟩) := by
  rw [Visit.seen_still, FileRecord.look_first hnone] at hlook
  obtain ⟨rfl, -⟩ := Prod.mk.inj hlook
  have hanchor : r.limits.anchor ⟨false, full.length, full.length⟩ ≤ full.length := by
    simp only [Limits.anchor]
    split
    · exact Nat.zero_le _
    · exact Nat.le_refl _
  exact
    { grown := Nat.le_refl _
      recorded := rfl
      head := ⟨full.length, Nat.le_refl _, by rw [List.take_length]⟩
      handed := fun hch => ⟨FileRecord.handed_of_isSome hch _ _, hanchor, Nat.le_refl _⟩
      goesOn := by rw [hoffset]; rfl
      reached := hanchor
      idle := rfl
      modified_eq := rfl
      whole := fun _ => rfl }

theorem recorded_track (h : Settling r full modified t last o) : Track.Recorded r t where
  known hnone := by rw [h.recorded] at hnone; cases hnone
  handed hch last' hlast' := by
    rw [h.recorded] at hlast'
    cases hlast'
    exact (h.handed hch).1

/-- A visit that does not find the file at rest makes the debt smaller. -/
theorem visit (h : Settling r full modified t last o) (hlim : full.length ≤ Word.limit)
    (hvisit : Visited r full t (Visit.still modified full) t' news) :
    t.AtRest r ((Visit.still modified full).seen full) ∨
      ∃ last' o', Settling r full modified t' last' o' ∧
        debt full t' last' o' < debt full t last o := by
  obtain ⟨record, hlook, -⟩ | ⟨record, c, verdict, o', hlook, rfl, hlow, hhigh, hrevisit⟩ :=
    hvisit.changed (Visit.still_within modified full) hlim
  · exact .inl (h.recorded_track.atRest h.idle h.recorded hlook).2
  · refine .inr ⟨_, o', of_change hlook verdict hhigh, ?_⟩
    have hcause := FileRecord.look_change_cause h.recorded hlook
    have hsize := h.size_le
    obtain ⟨hrep, -, hc, hcl, hresume, -⟩ := h.toGrowing.changed hlim (Nat.le_refl _) (Nat.le_refl _)
      (Nat.le_refl _) hlook
    have hgrown : last.size ≤ c.size := by
      rw [hc]
      exact FileRecord.le_reported (fun hch => (h.handed hch).1) hsize hlim
    obtain ⟨_, -, -, -, -, rfl⟩ := FileRecord.look_change hlook
    rw [hresume] at hlow hrevisit
    have hmore : c.size ≠ last.size ∨ t.record.revisit = true := by
      rcases hcause with hm | hs | htrue | hr
      · exact absurd h.modified_eq.symm hm
      · exact .inl hs
      · rw [hrep] at htrue
        cases htrue
      · exact .inr hr
    simp only [debt]
    cases verdict with
    | settled =>
      simp only [FileRecord.conclude, Bool.false_eq_true, if_false]
      rcases hmore with hs | hr
      · split <;> omega
      · rw [if_pos hr]
        omega
    | revisit =>
      have hmoved : o < o' := (hrevisit rfl).resolve_left (by rw [hrep]; simp)
      simp only [FileRecord.conclude, if_true]
      rcases hmore with hs | hr
      · split <;> omega
      · rw [if_pos hr]
        omega

/-- By induction on the debt. -/
theorem visits (h : Settling r full modified t last o) (hlim : full.length ≤ Word.limit) {d : Nat}
    (hd : debt full t last o ≤ d) :
    ∃ rest : Track, rest.AtRest r ((Visit.still modified full).seen full) ∧ ∀ n, d ≤ n →
      (t.run r ((List.replicate n (Visit.still modified full)).flatMap (Visit.moments full))).1 =
        rest := by
  induction d generalizing t last o with
  | zero =>
    rcases h.visit hlim (Track.visit r h.idle full _) with hrest | ⟨_, _, -, hless⟩
    · exact ⟨t, hrest, fun n _ => hrest.visits n⟩
    · omega
  | succ d ih =>
    rcases h.visit hlim (Track.visit r h.idle full _) with hrest | ⟨last', o', hnext, hless⟩
    · exact ⟨t, hrest, fun n _ => hrest.visits n⟩
    · obtain ⟨rest, hrest, hruns⟩ := ih hnext (by omega)
      refine ⟨rest, hrest, fun n hn => ?_⟩
      obtain ⟨m, rfl⟩ : ∃ m, n = m + 1 := ⟨n - 1, by omega⟩
      rw [List.replicate_succ, List.flatMap_cons, Track.run_append]
      exact hruns m (by omega)

end Settling

namespace Track.Recorded

/-- From any idle state on: the first visit finds the head of the file, and the others the rest. -/
theorem visits (h : Recorded r t) (hidle : t.reading? = none) (hlim : full.length ≤ Word.limit)
    (modified : Option Int) :
    ∃ rest : Track, rest.AtRest r ((Visit.still modified full).seen full) ∧
      ∀ n, 2 * full.length + 2 ≤ n →
        (t.run r ((List.replicate n (Visit.still modified full)).flatMap (Visit.moments full))).1 =
          rest := by
  have hfirst : t.AtRest r ((Visit.still modified full).seen full) ∨ ∃ last o,
      Settling r full modified (t.run r ((Visit.still modified full).moments full)).1 last o := by
    obtain ⟨record, hlook, ht⟩ | ⟨record, c, verdict, o, hlook, ht, -, hhigh, -⟩ :=
      (Track.visit r hidle full _).changed (Visit.still_within modified full) hlim
    · rw [ht]
      cases hlast : t.record.last with
      | none => exact .inr ⟨_, _, Settling.baseline hlast (h.known hlast) hlook⟩
      | some last => exact .inl (h.atRest hidle hlast hlook).2
    · rw [ht]
      exact .inr ⟨_, _, Settling.of_change hlook verdict hhigh⟩
  rcases hfirst with hrest | ⟨last, o, hsettling⟩
  · exact ⟨t, hrest, fun n _ => hrest.visits n⟩
  · obtain ⟨rest, hrest, hruns⟩ := hsettling.visits hlim (Settling.debt_le full _ last o)
    refine ⟨rest, hrest, fun n hn => ?_⟩
    obtain ⟨m, rfl⟩ : ∃ m, n = m + 1 := ⟨n - 1, by omega⟩
    rw [List.replicate_succ, List.flatMap_cons, Track.run_append]
    exact hruns m (by omega)

end Track.Recorded

/-- Whatever was seen and read of a file before: once it no longer changes, `2 * size + 2` cycles
without faults are enough to bring it to rest. In each further cycle the look at it finds no change,
it is not to be revisited, and its offset stays where it is. -/
theorem comes_to_rest {s : Settings} {f : LineFormat} {codecs : EastAsian → Codec}
    (hs : s.fault? = none) (hf : s.lineFormat? codecs = some f) {t : Tailing}
    (ht : Tailing.Reached s f t) {p : Path} (hp : p ∈ s.paths) {k : Track}
    (hk : t.track? p = some k) (hidle : k.reading? = none) {full : Bytes} (hlim : full.length ≤ Word.limit) (modified : Option Int) :
    ∃ rest : Track, rest.reading? = none ∧ rest.record.revisit = false ∧
      ∀ (cycles : Nat) (hap : List Happening), 2 * full.length + 2 ≤ cycles →
        Happening.of p hap =
          (List.replicate cycles (Visit.still modified full)).flatMap (Visit.moments full) →
        (t.run hap).1.track? p = some rest ∧
          ∀ now, ((t.run hap).1.watcher.look now p
            (.seen ⟨modified, full.length, .ofBytes full⟩)).2.1 = none := by
  have hrecorded : k.Recorded (s.rules f hs hf) := by
    obtain ⟨before, rfl⟩ := ht
    obtain ⟨hk', -⟩ := Tailing.run_track (Tailing.start_follows hs hf) (Tailing.track?_start s f hp)
      before
    rw [hk] at hk'
    cases hk'
    exact Track.run_induction Track.Recorded.turn _ (.fresh _)
  have hr := ht.follows hs hf
  obtain ⟨rest, hrest, hruns⟩ := hrecorded.visits hidle hlim modified
  refine ⟨rest, hrest.idle, hrest.settled, fun cycles hap hcycles hap_eq => ?_⟩
  obtain ⟨hend, -⟩ := Tailing.run_track hr hk hap
  rw [hap_eq, hruns cycles hcycles] at hend
  refine ⟨hend, fun now => ?_⟩
  have hchunk := (Tailing.run_follows hr hap).chunk?
  rw [Watcher.look_seen now (Tailing.track?_eq_some.1 hend).1, hchunk, ← Visit.seen_still,
    hrest.quiet]

/-- A file that was replaced and has then six bytes, of which a read gets two: all is read after
fourteen cycles, if not before. -/
theorem comes_to_rest_replaced :
    let p : Path := .ofString "/a"
    let s : Settings := { Settings.default with paths := [p], maxReadSize := 2 }
    let old : Fingerprint := ⟨none, 1, .ofBytes (Utf8.encode "x")⟩
    let full := Utf8.encode "ab\ncd\n"
    let t := ((Tailing.start s (.ofText .utf8 "\n")).run
      (Happening.alone p [.probed (.seen old)])).1
    ∃ rest : Track, rest.offset? = some 6 ∧ rest.record.revisit = false ∧
      ∀ (cycles : Nat) (hap : List Happening), 14 ≤ cycles →
        Happening.of p hap =
          (List.replicate cycles (Visit.still none full)).flatMap (Visit.moments full) →
        (t.run hap).1.track? p = some rest := by
  intro p s old full t
  have hk : t.track? p = some ⟨⟨some old, none, false⟩, none, none⟩ := by rfl
  have hl : full.length = 6 := by decide +kernel
  have hlim : full.length ≤ Word.limit := by decide +kernel
  have hf : s.lineFormat? = some (.ofText .utf8 "\n") :=
    Settings.lineFormat?_of_encoding (Encoding.ofLabel?_utf8 _)
  obtain ⟨rest, -, hsettled, hruns⟩ := comes_to_rest (by decide +kernel) hf ⟨_, rfl⟩
    (List.mem_singleton.2 rfl) hk rfl hlim none
  rw [hl] at hruns
  refine ⟨rest, ?_, hsettled, fun cycles hap hcycles hap_eq => (hruns cycles hap hcycles hap_eq).1⟩
  let hap := Happening.alone p
    ((List.replicate 14 (Visit.still none full)).flatMap (Visit.moments full))
  have hend := (hruns 14 hap (Nat.le_refl _) (Happening.of_alone p _)).1
  have hoffset : ((t.run hap).1.track? p).map (·.offset?) = some (some 6) := by decide +kernel
  rw [hend] at hoffset
  exact Option.some.inj hoffset

end FileTail
