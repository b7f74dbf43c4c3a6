import FileTail.Proofs.Advance
import FileTail.Proofs.Delivery
import FileTail.Proofs.Harvest

/-!
# FileTail.Proofs.Alignment

In an encoding with code units of several bytes, reads are to start with a code unit. Sizes of whole
code units keep them there, whatever the file does in between: the end of a file is read from where
a code unit starts, delimiters are made of code units and are only found where one starts, and what
is left of a read is what follows a delimiter. There is one exception. A full read that is given as
a part of an overlong line is taken in as it is, so that a largest read of an odd size ends within a
code unit.

* `Limits.harvest_offset_dvd`: a read moves the offset over whole code units.
* `Track.Aligned.turn`: every moment keeps offsets and reads at code units.
* `positions_aligned_iff`: the whole run; the exception is the only one.
* `odd_read_splits_unit`: it does occur.
-/

namespace FileTail

namespace News

/-- The offsets and the positions of reads in a piece of news. -/
def positions : News → List Nat
  | quiet => []
  | planned _ o (.skip _) => [o]
  | planned _ o (.read w) => [o, w.position]
  | failed w => [w.position]
  | taken w _ _ _ o => [w.position, o]

/-- A read was given as a part of an overlong line. -/
def Overlong (l : Limits) (f : LineFormat) : News → Prop
  | taken w bytes _ _ _ => l.overlong f w bytes = true
  | _ => False

instance (l : Limits) (f : LineFormat) : DecidablePred (Overlong l f)
  | taken w bytes _ _ _ => inferInstanceAs (Decidable (l.overlong f w bytes = true))
  | quiet | planned _ _ _ | failed _ => inferInstanceAs (Decidable False)

/-- A read moved the offset by `k` bytes. -/
def MovesBy (k : Nat) : News → Prop
  | taken w _ _ _ o => o = w.position + k
  | _ => True

end News

/-- The size that is seen of a file is made of whole code units. -/
def Moment.SizedBy (width : Nat) : Moment → Prop
  | .probed (.seen seen) => width ∣ seen.size
  | _ => True

instance (width : Nat) : DecidablePred (Moment.SizedBy width)
  | .probed (.seen seen) => inferInstanceAs (Decidable (width ∣ seen.size))
  | .probed .missing | .probed (.metadataFailed _) | .probed (.headFailed _) | .fetched _ =>
    inferInstanceAs (Decidable True)

/-! ## Code units -/

namespace LineFormat

variable {f : LineFormat}

theorem Rows.width_dvd_length (hunits : f.width ∣ f.delimiter.length) {row : Bytes}
    {segments : List Bytes} (h : f.Rows row segments) : f.width ∣ row.length := by
  induction h with
  | nil => exact Nat.dvd_zero _
  | cons hfirst _ ih =>
    rw [List.length_append, List.length_append]
    exact Nat.dvd_add (Nat.dvd_add (Nat.dvd_of_mod_eq_zero hfirst.1.1) hunits) ih

theorem fragmentLength_dvd (hd : f.delimiter ≠ []) (hunits : f.width ∣ f.delimiter.length)
    {bytes : Bytes} (h : f.width ∣ bytes.length) : f.width ∣ f.fragmentLength bytes := by
  unfold fragmentLength
  split
  · rename_i i hi
    exact Nat.dvd_add (Nat.dvd_of_mod_eq_zero ((find?_eq_some_iff hd).1 hi).1.1) hunits
  · exact h

end LineFormat

namespace Limits

variable {l : Limits} {f : LineFormat} {w : Window} {bytes : Bytes}

theorem window_position_dvd {width o size : Nat} (ho : width ∣ o) :
    width ∣ (l.window width o size).position := by
  simp only [window]
  split
  · exact dvd_alignUp width _
  · split <;> exact ho

/-- A read that starts within a line ends with a code unit. -/
theorem window_length_dvd {width o size : Nat} (hs : width ∣ size)
    (hmid : (l.window width o size).midLine = true) : width ∣ (l.window width o size).length := by
  have hfar := (l.window_midLine width o size).1 hmid
  rw [window, if_pos hfar]
  exact Nat.dvd_sub hs (dvd_alignUp width _)

/-- A mark is made of code units. -/
theorem body_length_dvd (f : LineFormat) (w : Window) (bytes : Bytes) :
    f.width ∣ bytes.length - (body f w bytes).length := by
  have hle := f.encoding.markLength_le bytes
  simp only [body]
  split
  · rw [List.length_drop, Nat.sub_sub_self hle]
    exact Nat.dvd_of_mod_eq_zero (LineFormat.markLength_mod_width f bytes)
  · rw [Nat.sub_self]
    exact Nat.dvd_zero _

/-- A read that starts with a code unit is followed by one that does, unless it is taken in up to
its end and ends within a code unit. -/
theorem harvest_offset_dvd (hd : f.delimiter ≠ []) (hunits : f.width ∣ f.delimiter.length)
    (hposition : f.width ∣ w.position) (hmid : w.midLine = true → f.width ∣ bytes.length)
    (hover : l.overlong f w bytes = true → f.width ∣ bytes.length) (o : Nat) :
    f.width ∣ (l.harvest f o w bytes).offset := by
  cases hlong : l.overlong f w bytes with
  | true =>
    rw [harvest_eq, hlong]
    exact Nat.dvd_add hposition (hover hlong)
  | false =>
    have hoffset := l.harvest_offset_add hlong o
    obtain ⟨row, hrow, hrows, -⟩ := exists_cut hd w bytes
    have hmark := body_length_dvd f w bytes
    have hbody := (body_suffix f w bytes).length_le
    have hfragment := fragment_le f w bytes
    have hlength := congrArg List.length hrow
    rw [List.length_drop, List.length_append] at hlength
    have hsplit : (l.harvest f o w bytes).offset = w.position +
        (bytes.length - (body f w bytes).length) + fragment f w bytes + row.length := by omega
    rw [hsplit]
    refine Nat.dvd_add (Nat.dvd_add (Nat.dvd_add hposition hmark) ?_)
      (hrows.width_dvd_length hunits)
    rw [fragment]
    split
    · rename_i hstart
      refine LineFormat.fragmentLength_dvd hd hunits ?_
      rw [← Nat.sub_sub_self hbody]
      exact Nat.dvd_sub (hmid hstart) hmark
    · exact Nat.dvd_zero _

/-- A full read that is given as a part of an overlong line moves the offset by a full read. -/
theorem harvest_offset_overlong (h : l.overlong f w bytes = true) (hle : bytes.length ≤ l.maxRead)
    (o : Nat) : (l.harvest f o w bytes).offset = w.position + l.maxRead := by
  obtain ⟨-, -, hfull⟩ := overlong_iff.1 h
  rw [harvest_eq, h, Nat.le_antisymm hle hfull]
  rfl

end Limits

/-! ## Moments and runs -/

/-- What the news say about a track, wherever its reads start. -/
structure Traced (r : Rules) (t : Track) (news : List News) : Prop where
  offset_mem : ∀ o, t.offset? = some o → o ∈ news.flatMap News.positions
  length_le : ∀ w, t.reading? = some w → w.length ≤ r.limits.maxRead
  overlong : ∀ n ∈ news, n.Whole → n.Overlong r.limits r.format → n.MovesBy r.limits.maxRead

namespace Traced

variable {r : Rules} {t t' : Track} {m : Moment} {news : List News} {n : News}

theorem fresh (r : Rules) : Traced r .fresh [] where
  offset_mem := fun o ho => by cases ho
  length_le := fun w hw => by cases hw
  overlong := fun n hn => by cases hn

theorem turn (h : Traced r t news) (hturn : Turn r t m t' n) : Traced r t' (news ++ [n]) := by
  have kept : ∀ o, t.offset? = some o → o ∈ (news ++ [n]).flatMap News.positions := by
    intro o ho
    rw [List.flatMap_append]
    exact List.mem_append_left _ (h.offset_mem o ho)
  have told : ∀ o, o ∈ n.positions → o ∈ (news ++ [n]).flatMap News.positions := by
    intro o ho
    rw [List.flatMap_append]
    exact List.mem_append_right _ (by simpa using ho)
  have known : (n.Whole → n.Overlong r.limits r.format → n.MovesBy r.limits.maxRead) →
      ∀ x ∈ news ++ [n], x.Whole → x.Overlong r.limits r.format → x.MovesBy r.limits.maxRead := by
    rw [List.forall_mem_append, List.forall_mem_singleton]
    exact fun hn => ⟨h.overlong, hn⟩
  have idle : ∀ w, (none : Option Window) = some w → w.length ≤ r.limits.maxRead := by
    intro w hw
    cases hw
  cases hturn with
  | ignored => exact ⟨kept, h.length_le, known fun _ hover => hover.elim⟩
  | unchanged _ _ => exact ⟨kept, idle, known fun _ hover => hover.elim⟩
  | skipped _ _ _ =>
    refine ⟨fun o ho => ?_, idle, known fun _ hover => hover.elim⟩
    cases ho
    exact told _ List.mem_cons_self
  | started _ _ hplan =>
    obtain ⟨-, -, -, -, -, hw⟩ := Limits.plan_read hplan
    refine ⟨fun o ho => ?_, fun w' hw' => ?_, known fun _ hover => hover.elim⟩
    · cases ho
      exact told _ List.mem_cons_self
    · cases hw'
      rw [hw]
      exact Limits.window_length_le r.format.encoding.width_pos
  | failed _ _ => exact ⟨kept, idle, known fun _ hover => hover.elim⟩
  | lost _ _ hnone =>
    refine ⟨fun o ho => ?_, idle, known fun _ hover => hover.elim⟩
    cases ho
  | @taken answer w bytes o y hreading _ _ hy =>
    refine ⟨fun o' ho' => ?_, idle, known fun hwhole hover => ?_⟩
    · cases ho'
      exact told _ (List.mem_cons_of_mem _ List.mem_cons_self)
    · have hle : bytes.length ≤ r.limits.maxRead :=
        Nat.le_trans (Nat.le_of_eq hwhole) (h.length_le w hreading)
      rw [← hy]
      exact Limits.harvest_offset_overlong hover hle o

end Traced

/-- All that is known of a file is made of whole code units. -/
structure Track.Aligned (r : Rules) (t : Track) : Prop where
  size : ∀ last, t.record.last = some last → r.format.width ∣ last.size
  offset : ∀ o, t.offset? = some o → r.format.width ∣ o
  reading : ∀ w, t.reading? = some w → r.format.width ∣ w.position ∧
    (w.midLine = true → r.format.width ∣ w.length)

namespace Track.Aligned

variable {r : Rules} {t t' : Track} {m : Moment} {n : News} {record : FileRecord}
  {seen : Fingerprint} {c : Change}

theorem fresh (r : Rules) : Track.fresh.Aligned r where
  size := fun _ h => by cases h
  offset := fun _ h => by cases h
  reading := fun _ h => by cases h

/-- A cycle has ended with the offset at a code unit. -/
theorem concluded (h : t.Aligned r) (v : Verdict) {offset? : Option Nat}
    (ho : ∀ o, offset? = some o → r.format.width ∣ o) :
    Track.Aligned r ⟨t.record.conclude v, offset?, none⟩ where
  size := fun last hl => h.size last (by rwa [FileRecord.conclude_last] at hl)
  offset := ho
  reading := fun _ hw => by cases hw

theorem unchanged (h : t.Aligned r) (hm : (Moment.probed (.seen seen)).SizedBy r.format.width)
    (hlook : t.record.look r.chunk? seen = (record, none)) :
    Track.Aligned r ⟨record, t.offset?, none⟩ := by
  obtain ⟨-, rfl⟩ | ⟨last, hlast, -, -, -, rfl⟩ := FileRecord.look_quiet hlook
  · exact
      { size := fun last hl => Option.some.inj hl ▸ hm
        offset := h.offset
        reading := fun _ hw => by cases hw }
  · exact
      { size := fun last' hl => Option.some.inj hl ▸ h.size last hlast
        offset := h.offset
        reading := fun _ hw => by cases hw }

/-- The sizes of a change, and where reading goes on after it. -/
theorem changed (h : t.Aligned r) (hchunk : r.chunk? = none)
    (hm : (Moment.probed (.seen seen)).SizedBy r.format.width)
    (hlook : t.record.look r.chunk? seen = (record, some c)) :
    r.format.width ∣ c.size ∧ r.format.width ∣ r.limits.resume t.offset? c ∧
      ∀ last, record.last = some last → r.format.width ∣ last.size := by
  obtain ⟨last, hlast, -, hsize, hbefore, rfl⟩ := FileRecord.look_change hlook
  rw [hchunk] at hsize
  change c.size = seen.size at hsize
  have hc : r.format.width ∣ c.size := hsize ▸ hm
  refine ⟨hc, ?_, fun last' hl => Option.some.inj hl ▸ hc⟩
  have hstart : r.format.width ∣ t.offset?.getD (r.limits.anchor c) := by
    cases ho : t.offset? with
    | some o => exact h.offset o ho
    | none =>
      rw [Option.getD_none, Limits.anchor, hbefore]
      split
      · exact Nat.dvd_zero _
      · exact h.size last hlast
  rw [Limits.resume]
  split
  · exact Nat.dvd_zero _
  · exact hstart

/-- Every moment keeps offsets and reads at code units, if it does not take in an odd full read. -/
theorem turn (h : t.Aligned r) (hchunk : r.chunk? = none)
    (hunits : r.format.width ∣ r.format.delimiter.length)
    (hle : ∀ w, t.reading? = some w → w.length ≤ r.limits.maxRead)
    (hm : m.SizedBy r.format.width) (hturn : Turn r t m t' n) (hwhole : n.Whole)
    (hover : r.format.width ∣ r.limits.maxRead ∨ ¬ n.Overlong r.limits r.format) :
    t'.Aligned r ∧ ∀ i ∈ n.positions, r.format.width ∣ i := by
  cases hturn with
  | ignored => exact ⟨h, fun i hi => by cases hi⟩
  | unchanged _ hlook => exact ⟨h.unchanged hm hlook, fun i hi => by cases hi⟩
  | @skipped seen record c o v _ hlook hplan =>
    obtain ⟨-, hresume, hrecord⟩ := h.changed hchunk hm hlook
    obtain ⟨rfl, -⟩ := Limits.plan_skip hplan
    refine ⟨?_, by simpa [News.positions] using hresume⟩
    exact
      { size := fun last hl => hrecord last (by rwa [FileRecord.conclude_last] at hl)
        offset := fun o ho => Option.some.inj ho ▸ hresume
        reading := fun _ hw => by cases hw }
  | @started seen record c o w _ hlook hplan =>
    obtain ⟨hsize, hresume, hrecord⟩ := h.changed hchunk hm hlook
    obtain ⟨rfl, -, -, -, -, rfl⟩ := Limits.plan_read hplan
    have hposition : r.format.width ∣
        (r.limits.window r.format.width (r.limits.resume t.offset? c) c.size).position :=
      Limits.window_position_dvd hresume
    refine ⟨?_, by simpa [News.positions] using ⟨hresume, hposition⟩⟩
    exact
      { size := hrecord
        offset := fun o ho => Option.some.inj ho ▸ hresume
        reading := fun w hw =>
          Option.some.inj hw ▸ ⟨hposition, Limits.window_length_dvd hsize⟩ }
  | @failed answer w e hreading _ =>
    obtain ⟨hposition, -⟩ := h.reading w hreading
    exact ⟨h.concluded .revisit h.offset, by simpa [News.positions] using hposition⟩
  | lost _ _ _ => exact ⟨h.concluded .settled fun o ho => (by cases ho), fun i hi => by cases hi⟩
  | @taken answer w bytes o y hreading _ _ hy =>
    obtain ⟨hposition, hmid⟩ := h.reading w hreading
    have hlength := hle w hreading
    change bytes.length = w.length at hwhole
    have hoffset : r.format.width ∣ y.offset := by
      rw [← hy]
      refine Limits.harvest_offset_dvd r.delimiter_ne hunits hposition
        (fun hstart => hwhole ▸ hmid hstart) (fun hlong => ?_) o
      obtain ⟨-, -, hfull⟩ := Limits.overlong_iff.1 hlong
      rw [show bytes.length = r.limits.maxRead by omega]
      exact hover.resolve_right fun hno => hno hlong
    exact ⟨h.concluded y.verdict fun o ho => Option.some.inj ho ▸ hoffset,
      by simpa [News.positions] using ⟨hposition, hoffset⟩⟩

end Track.Aligned

/-- A file whose sizes are made of whole code units is read from code unit to code unit, whatever it
holds and however it changes, if the largest read is made of whole code units or no full read is
taken in as a part of an overlong line; and only then. -/
theorem positions_aligned_iff {s : Settings} {f : LineFormat} {codecs : EastAsian → Codec}
    (hs : s.fault? = none) (hf : s.lineFormat? codecs = some f) (hsteps : s.inChunks = false)
    {p : Path} (hp : p ∈ s.paths) {hap : List Happening}
    (hsizes : ∀ m ∈ Happening.of p hap, m.SizedBy f.width) {news : List News}
    (hnews : News.of p ((Tailing.start s f).run hap).2 = news) (hwhole : ∀ n ∈ news, n.Whole) :
    (∃ t, ((Tailing.start s f).run hap).1.track? p = some t ∧
      ∀ o, t.offset? = some o → o ∈ news.flatMap News.positions) ∧
    ((∀ i ∈ news.flatMap News.positions, f.width ∣ i) ↔
      f.width ∣ s.maxReadSize ∨ ∀ n ∈ news, ¬ n.Overlong (Limits.ofSettings s) f) := by
  obtain ⟨htrack, hrun⟩ := Tailing.run_track (Tailing.start_follows hs hf)
    (Tailing.track?_start s f hp) hap
  have hchunk : (s.rules f hs hf).chunk? = none := by
    simp [Settings.rules, Settings.chunk?, hsteps]
  have hunits : f.width ∣ f.delimiter.length := by
    obtain ⟨e, rfl⟩ := Settings.of_lineFormat? hf
    exact e.width_dvd_length_encode s.delimiter
  obtain ⟨-, htraced, haligned⟩ := Track.run_along (r := s.rules f hs hf)
    (p := fun _ t news => Traced (s.rules f hs hf) t news ∧ ((∀ n ∈ news, n.Whole) →
      (f.width ∣ s.maxReadSize ∨ ∀ n ∈ news, ¬ n.Overlong (Limits.ofSettings s) f) →
      t.Aligned (s.rules f hs hf) ∧ ∀ i ∈ news.flatMap News.positions, f.width ∣ i))
    (by
      rintro _ _ t t' m n before ⟨htraced, h⟩ hm hturn
      refine ⟨htraced.turn hturn, fun hwhole hover => ?_⟩
      rw [List.forall_mem_append, List.forall_mem_singleton] at hwhole hover
      obtain ⟨haligned, hbefore⟩ := h hwhole.1 (hover.imp_right And.left)
      obtain ⟨haligned', hnew⟩ := haligned.turn hchunk hunits htraced.length_le hm hturn hwhole.2
        (hover.imp_right And.right)
      refine ⟨haligned', ?_⟩
      rw [List.flatMap_append, List.forall_mem_append, List.flatMap_singleton]
      exact ⟨hbefore, hnew⟩)
    [] (Along.of_forall hsizes 0)
    ⟨.fresh _, fun _ _ => ⟨.fresh _, fun i hi => by cases hi⟩⟩
  rw [List.nil_append, ← hrun, hnews] at htraced haligned
  refine ⟨⟨_, htrack, htraced.offset_mem⟩, fun hall => ?_, fun hover => (haligned hwhole hover).2⟩
  by_cases hlong : ∃ n ∈ news, n.Overlong (Limits.ofSettings s) f
  · obtain ⟨n, hn, hover⟩ := hlong
    have hmoves := htraced.overlong n hn (hwhole n hn) hover
    cases n with
    | taken w bytes lines skipped o =>
      have hposition := hall w.position (List.mem_flatMap.2 ⟨_, hn, List.mem_cons_self⟩)
      have hoffset := hall o
        (List.mem_flatMap.2 ⟨_, hn, List.mem_cons_of_mem _ List.mem_cons_self⟩)
      change o = w.position + s.maxReadSize at hmoves
      rw [hmoves] at hoffset
      exact .inl ((Nat.dvd_add_iff_right hposition).2 hoffset)
    | _ => exact hover.elim
  · exact .inr fun n hn hover => hlong ⟨n, hn, hover⟩

/-- Largest reads of eleven bytes: one that ends within a code unit, one of the end of the file, and
two of the file that takes its place. -/
theorem positions_aligned_odd_read :
    let p : Path := .ofString "/a"
    let s : Settings :=
      { Settings.default with paths := [p], maxReadSize := 11, encodingLabel := "utf-16le" }
    let old := (Encoding.utf16 .little).encode "x\nab\nab\nab\nab\nab\nab\nab\nab\nab\n"
    let new := (Encoding.utf16 .little).encode "cd\nef\n"
    let look (bytes : Bytes) : Moment := .probed (.seen ⟨none, bytes.length, .ofBytes bytes⟩)
    let read (bytes : Bytes) : Moment :=
      .fetched fun w => .ok ((bytes.drop w.position).take w.length)
    let hap := Happening.alone p
      [look (old.take 4), look (old.take 22), read old, look old, read old, look new, look new,
        read new, look new, read new]
    ∀ i ∈ (News.of p ((Tailing.start s (.ofText (.utf16 .little) "\n")).run hap).2).flatMap
      News.positions, 2 ∣ i := by
  intro p s old new look read hap
  have hsizes : ∀ m ∈ Happening.of p hap, m.SizedBy 2 := by decide +kernel
  have hf : s.lineFormat? = some (.ofText (.utf16 .little) "\n") :=
    Settings.lineFormat?_of_encoding (Encoding.ofLabel?_utf16le _)
  obtain ⟨-, hiff⟩ := positions_aligned_iff (by decide +kernel) hf rfl (List.mem_singleton.2 rfl)
    hsizes rfl (by decide +kernel)
  exact hiff.2 (.inr (by decide +kernel))

/-- Not every largest read keeps to code units: one of three bytes of an overlong line ends within
the second unit, and reading goes on there. -/
theorem odd_read_splits_unit :
    ¬ ∀ (s : Settings) (f : LineFormat) (p : Path) (hap : List Happening),
      s.fault? = none → s.lineFormat? = some f → (∃ order, f.encoding = .utf16 order) →
      s.inChunks = false → p ∈ s.paths → (∀ m ∈ Happening.of p hap, m.SizedBy f.width) →
      (∀ n ∈ News.of p ((Tailing.start s f).run hap).2, n.Whole) →
      ∀ i ∈ (News.of p ((Tailing.start s f).run hap).2).flatMap News.positions, f.width ∣ i := by
  intro h
  let p : Path := .ofString "/a"
  let s : Settings :=
    { Settings.default with paths := [p], maxReadSize := 3, encodingLabel := "utf-16le" }
  let hap := Happening.alone p (Moment.cycles ((Encoding.utf16 .little).encode "abc") [0, 6])
  have hf : s.lineFormat? = some (.ofText (.utf16 .little) "\n") :=
    Settings.lineFormat?_of_encoding (Encoding.ofLabel?_utf16le _)
  exact absurd (h s _ p hap (by decide +kernel) hf ⟨.little, rfl⟩ rfl (List.mem_singleton.2 rfl)
    (by decide +kernel) (by decide +kernel) 3 (by decide +kernel)) (by decide +kernel)

end FileTail
