import FileTail.Proofs.Growth
import FileTail.Proofs.Tailing

/-!
# FileTail.Proofs.Revisit

A file with something left to read is looked at again, whatever was seen and read before: sizes,
heads and times of any kind, replacements, failures, short reads.

* `Limits.Settled`: nothing is left to read up to the recorded size.
* `News.Unfinished`: the cycle ended before its work was done.
* `Waking.turn`, `Waking.run`: an idle file that is not settled is to be revisited.
* `Track.revisit_cleared`: only a report ends that.
* `no_wake_up_lost`: all of it, in every state that can be reached.
-/

namespace FileTail

/-- Answers are never longer than asked for. -/
def Moment.Bounded : Moment → Prop
  | .probed _ => True
  | .fetched answer => ∀ w bytes, answer w = .ok bytes → bytes.length ≤ w.length

theorem Moment.cycles_bounded (full : Bytes) (sizes : List Nat) :
    ∀ m ∈ cycles full sizes, m.Bounded := by
  intro m hm
  obtain ⟨n, -, hm⟩ := List.mem_flatMap.1 hm
  rcases List.mem_cons.1 hm with rfl | hm
  · trivial
  · rw [List.mem_singleton.1 hm]
    intro w bytes hbytes
    cases hbytes
    exact List.length_take_le _ _

namespace News

def isQuiet : News → Bool
  | quiet => true
  | _ => false

/-- The latest news that is any. -/
def latest (news : List News) : Option News := (news.filter (!·.isQuiet)).getLast?

theorem latest_quiet (news : List News) : latest (news ++ [.quiet]) = latest news := by
  simp [latest, isQuiet]

theorem latest_loud (news : List News) {n : News} (h : n.isQuiet = false) :
    latest (news ++ [n]) = some n := by
  simp [latest, h]

/-- The cycle ended before its work was done: with a replacement that is still to be read, with a
failed read, with a backlog or with less than was asked for. -/
def Unfinished : News → Prop
  | quiet => False
  | planned c _ _ => c.replaced = true
  | failed _ => True
  | taken w bytes _ _ _ => w.backlog = true ∨ bytes.length < w.length

end News

/-- Nothing is left to read up to the recorded size: the file or what is unread of it is too small,
or the latest read ended there and left the end of its bytes, in which no line ends. -/
def Limits.Settled (l : Limits) (f : LineFormat) (last : Fingerprint) (o : Nat)
    (latest : Option News) : Prop :=
  o ≤ last.size ∧ (last.size < l.minFile ∨ last.size - o < max 1 l.minRead ∨
    ∃ w bytes lines skipped rest, latest = some (.taken w bytes lines skipped o) ∧
      w.position + bytes.length = last.size ∧ rest <:+ bytes ∧ rest.length = last.size - o ∧
      ¬ f.HasDelimiter rest)

/-- What holds of a file in every state, `latest` being its latest news. -/
structure Waking (r : Rules) (t : Track) (latest : Option News) : Prop where
  known : t.record.last = none → t.offset? = none
  reading : ∀ w, t.reading? = some w → ∃ o last, t.offset? = some o ∧ t.record.last = some last ∧
    w.position + w.length ≤ last.size ∧
    (w.backlog = false → w.position + w.length = last.size)
  settled : t.reading? = none → t.record.revisit = false → ∀ o, t.offset? = some o →
    ∃ last, t.record.last = some last ∧ r.limits.Settled r.format last o latest
  unfinished : t.reading? = none → ∀ news, latest = some news → news.Unfinished →
    t.record.revisit = true

namespace Waking

variable {r : Rules} {t t' : Track} {m : Moment} {n : News} {news : List News}

theorem fresh (r : Rules) : Waking r .fresh (News.latest []) where
  known _ := rfl
  reading _ h := by cases h
  settled _ _ _ h := by cases h
  unfinished _ _ h := by cases h

/-- A look without a report leaves a file as settled as it was. -/
theorem unchanged (h : Waking r t (News.latest news)) {seen : Fingerprint} {record : FileRecord}
    (hidle : t.reading? = none) (hlook : t.record.look r.chunk? seen = (record, none)) :
    Waking r ⟨record, t.offset?, none⟩ (News.latest news) := by
  obtain ⟨hnone, rfl⟩ | ⟨last, hlast, -, -, hrevisit, rfl⟩ := FileRecord.look_quiet hlook
  · have ho := h.known hnone
    exact
      { known := fun _ => ho
        reading := fun w hw => by cases hw
        settled := fun _ _ o hsome => by rw [ho] at hsome; cases hsome
        unfinished := fun _ => h.unfinished hidle }
  · refine
      { known := fun hnone => by cases hnone
        reading := fun w hw => by cases hw
        settled := fun _ _ o ho => ?_
        unfinished := fun _ n hn hun => ?_ }
    · obtain ⟨last', hlast', hsettled⟩ := h.settled hidle hrevisit o ho
      rw [hlast] at hlast'
      cases hlast'
      exact ⟨last, rfl, hsettled⟩
    · have htrue := h.unfinished hidle n hn hun
      rw [hrevisit] at htrue
      cases htrue

theorem skipped {seen : Fingerprint} {record : FileRecord} {c : Change} {o : Nat} {v : Verdict}
    (hlook : t.record.look r.chunk? seen = (record, some c))
    (hplan : r.limits.plan r.format.width t.offset? c = (o, .skip v)) (latest : Option News)
    (hlatest : latest = some (.planned c o (.skip v))) :
    Waking r ⟨record.conclude v, some o, none⟩ latest := by
  obtain ⟨last, -, -, -, -, rfl⟩ := FileRecord.look_change hlook
  obtain ⟨ho, hcase⟩ := Limits.plan_skip hplan
  have hle : o ≤ c.size := ho ▸ r.limits.resume_le t.offset? c
  rcases hcase with ⟨-, rfl⟩ | ⟨hrep, rfl, hsmall⟩
  · exact
      { known := fun hnone => by cases hnone
        reading := fun w hw => by cases hw
        settled := fun _ hrevisit => by cases hrevisit
        unfinished := fun _ _ _ _ => rfl }
  · refine
      { known := fun hnone => by cases hnone
        reading := fun w hw => by cases hw
        settled := fun _ _ o' ho' => ?_
        unfinished := fun _ n hn hun => ?_ }
    · cases ho'
      refine ⟨_, rfl, hle, ?_⟩
      rcases hsmall with hsmall | hsmall | hsmall
      · exact .inl hsmall
      · exact .inr (.inl (by simp only; omega))
      · exact .inr (.inl (by simp only; omega))
    · rw [hlatest] at hn
      cases hn
      rw [News.Unfinished, hrep] at hun
      cases hun

theorem started {seen : Fingerprint} {record : FileRecord} {c : Change} {o : Nat} {w : Window}
    (hlook : t.record.look r.chunk? seen = (record, some c))
    (hplan : r.limits.plan r.format.width t.offset? c = (o, .read w)) (latest : Option News) :
    Waking r ⟨record, some o, some w⟩ latest := by
  obtain ⟨last, -, -, -, -, rfl⟩ := FileRecord.look_change hlook
  obtain ⟨-, -, -, hunread, -, rfl⟩ := Limits.plan_read hplan
  have ho : o < c.size := by omega
  obtain ⟨hle, hend⟩ := Limits.window_end (l := r.limits) r.format.encoding.width_pos r.width_le ho
  exact
    { known := fun hnone => by cases hnone
      reading := fun w hw => by
        cases hw
        exact ⟨o, _, rfl, rfl, hle, hend⟩
      settled := fun hidle => by cases hidle
      unfinished := fun hidle => by cases hidle }

theorem failed (h : Waking r t (News.latest news)) (latest : Option News) :
    Waking r ⟨t.record.conclude .revisit, t.offset?, none⟩ latest where
  known := h.known
  reading _ hw := by cases hw
  settled _ hrevisit := by cases hrevisit
  unfinished _ _ _ _ := rfl

theorem taken (h : Waking r t (News.latest news)) {w : Window} {bytes : Bytes} {o : Nat}
    (hlen : bytes.length ≤ w.length) (hreading : t.reading? = some w)
    {y : Harvest} (hy : r.limits.harvest r.format o w bytes = y) (latest : Option News)
    (hlatest : latest = some (.taken w bytes y.lines y.skipped y.offset)) :
    Waking r ⟨t.record.conclude y.verdict, some y.offset, none⟩ latest := by
  obtain ⟨-, last, -, hlast, hle, hend⟩ := h.reading w hreading
  have hverdict : y.verdict = if w.backlog ∨ bytes.length < w.length then .revisit else .settled := by
    rw [← hy]; rfl
  refine
    { known := fun hnone => ?_
      reading := fun w hw => by cases hw
      settled := fun _ hrevisit o' ho' => ?_
      unfinished := fun _ n hn hun => ?_ }
  · rw [FileRecord.conclude_last, hlast] at hnone
    cases hnone
  · cases ho'
    have hfull : ¬ (w.backlog = true ∨ bytes.length < w.length) := fun hshort => by
      rw [hverdict, if_pos hshort] at hrevisit
      cases hrevisit
    have hb : w.position + w.length = last.size := hend (by simpa using fun hb => hfull (.inl hb))
    -- what is left unread is the end of what was read
    obtain ⟨rest, hrest, hoff, hno⟩ := r.limits.harvest_rest r.delimiter_ne o w bytes
    rw [hy] at hoff
    refine ⟨last, by rw [FileRecord.conclude_last, hlast], by omega, .inr (.inr ?_)⟩
    exact ⟨w, bytes, y.lines, y.skipped, rest, hlatest, by omega, hrest, by omega, hno⟩
  · rw [hlatest] at hn
    cases hn
    have hshort : w.backlog = true ∨ bytes.length < w.length := hun
    rw [hverdict, if_pos hshort]
    rfl

/-- Whatever a moment does, an idle file that is not settled is to be revisited. -/
theorem turn (h : Waking r t (News.latest news)) (hm : m.Bounded) (hturn : Turn r t m t' n) :
    Waking r t' (News.latest (news ++ [n])) := by
  cases hturn with
  | ignored => rwa [News.latest_quiet]
  | unchanged hidle hlook =>
    rw [News.latest_quiet]
    exact h.unchanged hidle hlook
  | skipped _ hlook hplan => exact skipped hlook hplan _ (News.latest_loud _ rfl)
  | started _ hlook hplan => exact started hlook hplan _
  | failed _ _ => exact h.failed _
  | lost hreading _ hnone =>
    obtain ⟨o, -, ho, -⟩ := h.reading _ hreading
    rw [hnone] at ho
    cases ho
  | taken hreading hanswer _ hy =>
    exact h.taken (hm _ _ hanswer) hreading hy _ (News.latest_loud _ rfl)

theorem run (h : Waking r t (News.latest news)) {ms : List Moment} (hms : ∀ m ∈ ms, m.Bounded) :
    Waking r (t.run r ms).1 (News.latest (news ++ (t.run r ms).2)) := by
  induction ms generalizing t news with
  | nil => simpa [Track.run] using h
  | cons m ms ih =>
    have hnext := h.turn (hms m List.mem_cons_self) (t.step_turn r m)
    have hrest := ih hnext fun m' hm' => hms m' (List.mem_cons_of_mem _ hm')
    rwa [List.append_assoc, List.singleton_append] at hrest

end Waking

/-- Only a report ends that a file is to be revisited. -/
theorem Track.revisit_cleared {r : Rules} {t t' : Track} {m : Moment} {n : News}
    (hturn : Turn r t m t' n) (hset : t.record.revisit = true) (hclear : t'.record.revisit = false) :
    ∃ c o plan, n = .planned c o plan := by
  cases hturn with
  | ignored => rw [hset] at hclear; cases hclear
  | @unchanged seen record hidle hlook =>
    obtain ⟨-, rfl⟩ | ⟨last, -, -, -, hrevisit, -⟩ := FileRecord.look_quiet hlook
    · cases hset.symm.trans hclear
    · rw [hset] at hrevisit
      cases hrevisit
  | skipped _ _ _ => exact ⟨_, _, _, rfl⟩
  | started _ _ _ => exact ⟨_, _, _, rfl⟩
  | failed _ _ => cases hclear
  | lost _ _ _ => rw [hset] at hclear; cases hclear
  | @taken _ _ _ _ y _ _ _ _ =>
    cases hv : y.verdict with
    | settled => rw [hv, FileRecord.conclude, hset] at hclear; cases hclear
    | revisit => rw [hv] at hclear; cases hclear

/-- In every state: if an idle file is not to be revisited, then nothing is left to read of it up to
its recorded size. After a cycle that did not finish its work it is to be revisited, and only a
report ends that. -/
theorem no_wake_up_lost {s : Settings} {f : LineFormat} {codecs : EastAsian → Codec}
    (hs : s.fault? = none) (hf : s.lineFormat? codecs = some f) {p : Path} (hp : p ∈ s.paths)
    {hap : List Happening} (hbounded : ∀ m ∈ Happening.of p hap, m.Bounded) :
    ∃ t, ((Tailing.start s f).run hap).1.track? p = some t ∧
      (t.reading? = none → t.record.revisit = false → ∀ o, t.offset? = some o →
        ∃ last, t.record.last = some last ∧ (Limits.ofSettings s).Settled f last o
          (News.latest (News.of p ((Tailing.start s f).run hap).2))) ∧
      (t.reading? = none → ∀ news,
        News.latest (News.of p ((Tailing.start s f).run hap).2) = some news → news.Unfinished →
        t.record.revisit = true) ∧
      ∀ (h : Happening) (t' : Track), (((Tailing.start s f).run hap).1.step h).1.track? p = some t' →
        t.record.revisit = true → t'.record.revisit = false →
        h.path.key = p.key ∧
          ∃ c o plan, (((Tailing.start s f).run hap).1.step h).2 = .planned c o plan := by
  have hr := Tailing.start_follows hs hf
  obtain ⟨htrack, hnews⟩ := Tailing.run_track hr (Tailing.track?_start s f hp) hap
  have hwaking := (Waking.fresh (s.rules f hs hf)).run hbounded
  rw [List.nil_append] at hwaking
  rw [hnews]
  refine ⟨_, htrack, hwaking.settled, hwaking.unfinished, fun h t' ht' hset hclear => ?_⟩
  have hr' := Tailing.run_follows hr hap
  by_cases hq : h.path.key = p.key
  · obtain ⟨hstep, hn⟩ := Tailing.step_track? hr' htrack hq
    rw [hstep] at ht'
    cases ht'
    rw [hn]
    exact ⟨hq, Track.revisit_cleared (Track.step_turn _ _ _) hset hclear⟩
  · rw [Tailing.step_track?_other h hq, htrack] at ht'
    cases ht'
    cases hset.symm.trans hclear

/-- A line and the start of the next one: the latter is waited for. -/
theorem no_wake_up_lost_partial_line :
    let p : Path := .ofString "/a"
    let s : Settings := { Settings.default with paths := [p] }
    let f : LineFormat := .ofText .utf8 "\n"
    let hap := Happening.alone p (Moment.cycles (Utf8.encode "ab\ncd") [0, 5])
    ∃ last : Fingerprint, last.size = 5 ∧ (Limits.ofSettings s).Settled f last 3
      (News.latest (News.of p ((Tailing.start s f).run hap).2)) := by
  intro p s f hap
  have hbounded : ∀ m ∈ Happening.of p hap, m.Bounded := by
    rw [Happening.of_alone]
    exact Moment.cycles_bounded _ _
  have hf : s.lineFormat? = some f := Settings.lineFormat?_of_encoding (Encoding.ofLabel?_utf8 _)
  obtain ⟨t, ht, hsettled, -⟩ := no_wake_up_lost (by decide +kernel) hf (List.mem_singleton.2 rfl)
    hbounded
  have hend : (((Tailing.start s f).run hap).1.track? p).map (fun t =>
      (t.reading?, t.record.revisit, t.offset?, t.record.last.map (·.size))) =
      some (none, false, some 3, some 5) := by decide +kernel
  rw [ht, Option.map_some] at hend
  simp only [Option.some.injEq, Prod.mk.injEq] at hend
  obtain ⟨hidle, hrevisit, ho, hsize⟩ := hend
  obtain ⟨last, hlast, h⟩ := hsettled hidle hrevisit 3 ho
  rw [hlast, Option.map_some] at hsize
  exact ⟨last, Option.some.inj hsize, h⟩

end FileTail
