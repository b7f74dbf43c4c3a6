import Mathlib.Order.Bounds.Defs
import FileTail.Proofs.Isolation
import FileTail.Proofs.Plan

/-!
# FileTail.Proofs.Reads

One read at a time, in whatever state the reader is: which bytes a change leads to, and where
reading goes on behind them.

A read asks for no more than the settings allow and for nothing behind the reported size. It starts
at the offset, unless there are more than two full reads of unread content; then it is the last one,
moved on to where a code unit starts. Reading goes on within what a read gave or at its end, and
never at the offset again if the read was a full one.

* `Reader.GoesBy`: a reader that was made with the settings, whatever it has read since.
* `Window.Placed`: the three places of a read.
* `Limits.window_placed`: a read that is planned has one of them.
* `reads_placed`: when a read is planned, and which; what a plan without a read leaves alone.
* `offset_moves_forward`: a read moves the offset forward, and nothing else does.
-/

namespace FileTail

/-- The reader was made with the settings. Which files it has read, and how far, is left open. -/
structure Reader.GoesBy (r : Reader) (s : Settings) (f : LineFormat) : Prop where
  limits : r.limits = .ofSettings s
  format : r.format = f

/-- A read of a file of `size` bytes that was read up to `o`: of all that is unread, of its first
`most` bytes, or of its last ones, as many as there are up to `most` from the start of a code unit
on. -/
def Window.Placed (width most o size : Nat) (w : Window) : Prop :=
  (size - o ≤ most ∧ w = ⟨o, size - o, false, false⟩) ∨
  (most < size - o ∧ size - o ≤ 2 * most ∧ w = ⟨o, most, false, true⟩) ∨
  (2 * most < size - o ∧ o < w.position ∧ w = ⟨w.position, size - w.position, true, false⟩ ∧
    IsLeast {i | width ∣ i ∧ size ≤ i + most} w.position)

namespace Limits

theorem alignUp_isLeast {width : Nat} (hw : 0 < width) (n : Nat) :
    IsLeast {i | width ∣ i ∧ n ≤ i} (alignUp width n) := by
  obtain ⟨hle, hlt⟩ := alignUp_bounds (n := n) hw
  refine ⟨⟨dvd_alignUp width n, hle⟩, ?_⟩
  rintro i ⟨hdvd, hi⟩
  -- two multiples that are less than a code unit apart
  obtain ⟨k, hk⟩ := dvd_alignUp width n
  obtain ⟨m, rfl⟩ := hdvd
  rw [hk] at hlt ⊢
  have hkm : width * k < width * (m + 1) := by
    rw [Nat.mul_succ]
    omega
  exact Nat.mul_le_mul_left width (Nat.lt_succ_iff.1 (Nat.lt_of_mul_lt_mul_left hkm))

theorem window_placed {l : Limits} {width o size : Nat} (hw : 0 < width) (hM : 0 < l.maxRead)
    (hlim : size ≤ Word.limit) : (l.window width o size).Placed width l.maxRead o size := by
  have hpatience : l.patience = min (l.maxRead * 2) Word.limit := rfl
  rcases Nat.lt_or_ge l.patience (size - o) with hfar | hnear
  · obtain ⟨⟨hdvd, hle⟩, hleast⟩ := alignUp_isLeast hw (size - l.maxRead)
    rw [window, if_pos hfar, tailWindow]
    refine .inr (.inr ⟨by omega, by dsimp only; omega, rfl, ⟨hdvd, by dsimp only; omega⟩, ?_⟩)
    rintro i ⟨hdvd, hi⟩
    exact hleast ⟨hdvd, by omega⟩
  · rw [window, if_neg (Nat.not_lt.2 hnear)]
    rcases Nat.lt_or_ge l.maxRead (size - o) with hback | hall
    · rw [if_pos hback]
      exact .inr (.inl ⟨hback, by omega, rfl⟩)
    · rw [if_neg (Nat.not_lt.2 hall)]
      exact .inl ⟨hall, rfl⟩

theorem plan_offset (l : Limits) (width : Nat) (offset? : Option Nat) (c : Change) :
    (l.plan width offset? c).1 = l.resume offset? c := by
  simp only [plan]
  split
  · rfl
  · split <;> rfl

end Limits

namespace Reader

variable {r : Reader} {p : Path} {c : Change}

/-- Whatever is planned, reading goes on where it has got to. -/
theorem plan_offsets (r : Reader) (now : Nat) (p : Path) (c : Change) :
    (r.plan now p c).1.offsets = r.offsets.put p.key (r.limits.resume (r.offset? p) c) := by
  rw [(r.plan_spec now p c).2.1, r.limits.plan_offset]

theorem plan_offset? (r : Reader) (now : Nat) (p : Path) (c : Change) :
    (r.plan now p c).1.offset? p = some (r.limits.resume (r.offset? p) c) := by
  rw [offset?, plan_offsets, Table.get?_put_same]

/-- A plan that reads nothing changes no more than the offset. -/
theorem plan_of_skip {now : Nat} {v : Verdict} (h : (r.plan now p c).2.1 = .skip v) :
    r.plan now p c =
      ({ r with offsets := r.offsets.put p.key (r.limits.resume (r.offset? p) c) }, .skip v, []) := by
  rw [(r.plan_spec now p c).1] at h
  simp only [plan, h, r.limits.plan_offset]

/-- What the settings say about a plan that was made, with the offset that it left. -/
theorem GoesBy.plan_eq {s : Settings} {f : LineFormat} (hr : r.GoesBy s f) {now o : Nat} {plan : Plan}
    (ho : (r.plan now p c).1.offset? p = some o) (hplan : (r.plan now p c).2.1 = plan) :
    (Limits.ofSettings s).plan f.width (r.offset? p) c = (o, plan) := by
  obtain ⟨hlimits, rfl⟩ := hr
  rw [plan_offset?] at ho
  rw [(r.plan_spec now p c).1] at hplan
  rw [← hlimits]
  exact Prod.ext ((r.limits.plan_offset _ _ _).trans (Option.some.inj ho)) hplan

end Reader

/-- After a change a file is read exactly if it was not replaced, is large enough, and there is
enough of it to read; and then one of the three reads is planned, whatever was read before. The
offset is the one from before, or the anchor of a file that was not read before; if the file was
replaced or is smaller than that, it is 0. -/
theorem reads_placed {s : Settings} {f : LineFormat} {codecs : EastAsian → Codec}
    (hs : s.fault? = none) (hf : s.lineFormat? codecs = some f) {r : Reader}
    (hr : r.GoesBy s f) (now : Nat) (p : Path) {c : Change} (hlim : c.size ≤ Word.limit) :
    let known := (r.offset? p).getD (match s.startAt with | .beginning => 0 | .fileEnd => c.before)
    let o := if c.replaced = true ∨ c.size < known then 0 else known
    (r.plan now p c).1.offset? p = some o ∧ o ≤ c.size ∧
    (∀ q : Path, q.key ≠ p.key → (r.plan now p c).1.offset? q = r.offset? q) ∧
    (∀ w, (r.plan now p c).2.1 = .read w →
      c.replaced = false ∧ s.minFileSize ≤ c.size ∧ max 1 s.minReadSize ≤ c.size - o ∧
      w.length ≤ s.maxReadSize ∧ w.position + w.length ≤ c.size ∧
      w.Placed f.width s.maxReadSize o c.size) ∧
    (c.replaced = false → s.minFileSize ≤ c.size → max 1 s.minReadSize ≤ c.size - o →
      ∃ w, (r.plan now p c).2.1 = .read w) ∧
    ∀ v, (r.plan now p c).2.1 = .skip v →
      r.plan now p c = ({ r with offsets := r.offsets.put p.key o },
        .skip (if c.replaced then .revisit else .settled), []) := by
  intro known o
  have hpositive := (s.rules f hs hf).maxRead_pos
  have hresume : (Limits.ofSettings s).resume (r.offset? p) c = o := rfl
  have hleft : (r.plan now p c).1.offset? p = some o := by rw [r.plan_offset?, hr.limits, hresume]
  refine ⟨hleft, (Limits.ofSettings s).resume_le _ _, fun q hq => ?_, fun w hw => ?_,
    fun hkept hsize hunread => ?_, fun v hv => ?_⟩
  · rw [Reader.offset?, r.plan_offsets, Table.get?_put_other _ _ (Ne.symm hq)]
    rfl
  · obtain ⟨-, hkept, hsize, hsome, hunread, rfl⟩ := Limits.plan_read (hr.plan_eq hleft hw)
    have hend := (Limits.window_end f.encoding.width_pos (s.rules f hs hf).width_le
      (Nat.lt_of_sub_pos hsome)).1
    exact ⟨hkept, hsize, Nat.max_le.2 ⟨hsome, hunread⟩,
      Limits.window_length_le f.encoding.width_pos, hend,
      Limits.window_placed f.encoding.width_pos hpositive hlim⟩
  · obtain ⟨hsome, hmin⟩ := Nat.max_le.1 hunread
    cases hplan : (r.plan now p c).2.1 with
    | read w => exact ⟨w, rfl⟩
    | skip v =>
      obtain ⟨-, ⟨hreplaced, -⟩ | ⟨-, -, hsmall⟩⟩ := Limits.plan_skip (hr.plan_eq hleft hplan)
      · rw [hkept] at hreplaced
        cases hreplaced
      · simp only [Limits.ofSettings] at hsmall
        omega
  · have hverdict : v = if c.replaced then .revisit else .settled := by
      obtain ⟨-, ⟨hreplaced, rfl⟩ | ⟨hkept, rfl, -⟩⟩ := Limits.plan_skip (hr.plan_eq hleft hv)
      · rw [hreplaced]
        rfl
      · rw [hkept]
        rfl
    rw [Reader.plan_of_skip hv, hr.limits, hresume, hverdict]

/-- The end of a file of `Word.limit` bytes, an odd number, in code units of two bytes: three bytes
are read, which is all that was asked for, from where a code unit starts. -/
theorem reads_placed_at_limit :
    let s : Settings := { Settings.default with paths := [.ofString "/a"], encodingLabel := "utf-16le",
                                                maxReadSize := 3, startAt := .beginning }
    let r := Reader.new s (.ofText (.utf16 .little) "\n")
    let w : Window := ⟨Word.limit - 3, 3, true, false⟩
    (r.plan 0 (.ofString "/a") ⟨false, Word.limit, 0⟩).2.1 = .read w ∧ w.Placed 2 3 0 Word.limit := by
  intro s r w
  have hf : s.lineFormat? = some (.ofText (.utf16 .little) "\n") :=
    Settings.lineFormat?_of_encoding (Encoding.ofLabel?_utf16le _)
  obtain ⟨-, -, -, hplaced, -, -⟩ := reads_placed (by decide +kernel) hf (r := r) ⟨rfl, rfl⟩ 0
    (.ofString "/a") (c := ⟨false, Word.limit, 0⟩) (Nat.le_refl _)
  have hw : (r.plan 0 (.ofString "/a") ⟨false, Word.limit, 0⟩).2.1 = .read w := by decide +kernel
  exact ⟨hw, (hplaced w hw).2.2.2.2.2⟩

/-- What the settings say about a read that succeeded. -/
theorem Reader.GoesBy.absorb_ok {s : Settings} {f : LineFormat} {u : Reader} (hu : u.GoesBy s f)
    {p : Path} {o : Nat} (h : u.offset? p = some o) (clock : Clock) (w : Window) (bytes : Bytes) :
    (u.absorb clock ⟨p, w⟩ (.ok bytes)).1.offset? p =
        some ((Limits.ofSettings s).harvest f o w bytes).offset ∧
      (u.absorb clock ⟨p, w⟩ (.ok bytes)).2.1.lines.map Line.text =
        ((Limits.ofSettings s).harvest f o w bytes).lines := by
  obtain ⟨hlimits, rfl⟩ := hu
  rw [u.absorb_ok clock bytes h, hlimits]
  refine ⟨Table.get?_put_same _ _ _, ?_⟩
  rw [List.map_map]
  exact List.map_id _

/-- Only a read that succeeds moves the offset of a file, unless the file was replaced or is smaller
than that; then it is read from its start. -/
theorem Call.offset_apply {p : Path} {x : Watcher × Reader} {o : Nat} (h : x.2.offset? p = some o)
    (call : Call) :
    (call.apply x).2.offset? p = some o ∨
      (∃ clock q bytes, call = .absorb clock q (.ok bytes) ∧ q.path.key = p.key) ∨
      ((call.apply x).2.offset? p = some 0 ∧
        ∃ q now c, call = .plan q now c ∧ q.key = p.key ∧ (c.replaced = true ∨ c.size < o)) := by
  by_cases hcall : call.Concerns p.key
  · cases call with
    | round => exact .inl h
    | look q now sighting => exact .inl h
    | release q v => exact .inl h
    | plan q now c =>
      obtain hq : q.key = p.key := by simpa [Call.Concerns] using hcall
      have hoffset : x.2.offset? q = some o := by rwa [Reader.offset?, hq]
      have hnext : (x.2.plan now q c).1.offset? p = some (x.2.limits.resume (some o) c) := by
        rw [← hoffset, ← x.2.plan_offset? now, Reader.offset?, Reader.offset?, hq]
      by_cases hreset : c.replaced = true ∨ c.size < o
      · refine .inr (.inr ⟨?_, q, now, c, rfl, hq, hreset⟩)
        rw [Limits.resume, Option.getD_some, if_pos hreset] at hnext
        exact hnext
      · rw [Limits.resume, Option.getD_some, if_neg hreset] at hnext
        exact .inl hnext
    | absorb clock q result =>
      obtain hq : q.path.key = p.key := by simpa [Call.Concerns] using hcall
      cases result with
      | error e => exact .inl h
      | ok bytes => exact .inr (.inl ⟨clock, q, bytes, rfl, hq⟩)
  · have hview := congrArg (fun view => view.2.offset?) (view_other hcall x)
    exact .inl (hview.trans h)

/-- A read that succeeds takes the offset to somewhere between the start of the read and the end of
its bytes, and so not back and not behind the reported size; a full read takes it on, whatever bytes
it gave. Nothing else moves the offset of a file that has one, except that a file which was replaced
or is smaller than that is read from its start. -/
theorem offset_moves_forward {s : Settings} {f : LineFormat} {codecs : EastAsian → Codec}
    (hs : s.fault? = none) (hf : s.lineFormat? codecs = some f) (p : Path) :
    (∀ (r u : Reader), r.GoesBy s f → u.GoesBy s f →
      ∀ (now : Nat) (clock : Clock) (c : Change) (w : Window) (o : Nat) (bytes : Bytes),
      c.size ≤ Word.limit → (r.plan now p c).2.1 = .read w →
      (r.plan now p c).1.offset? p = some o → u.offset? p = some o → bytes.length ≤ w.length →
      ∃ q, (u.absorb clock ⟨p, w⟩ (.ok bytes)).1.offset? p = some q ∧ o ≤ w.position ∧
        w.position ≤ q ∧ q ≤ w.position + bytes.length ∧ w.position + bytes.length ≤ c.size ∧
        (s.maxReadSize ≤ c.size - o → bytes.length = w.length → o < q)) ∧
    ∀ (x : Watcher × Reader) (call : Call) (o : Nat), x.2.offset? p = some o →
      (call.apply x).2.offset? p = some o ∨
      (∃ clock q bytes, call = .absorb clock q (.ok bytes) ∧ q.path.key = p.key) ∨
      ((call.apply x).2.offset? p = some 0 ∧
        ∃ q now c, call = .plan q now c ∧ q.key = p.key ∧ (c.replaced = true ∨ c.size < o)) := by
  refine ⟨fun r u hr hu now clock c w o bytes hlim hw ho hu? hlength => ?_,
    fun x call o ho => Call.offset_apply ho call⟩
  have hd := (s.rules f hs hf).delimiter_ne
  have hpositive : 0 < s.maxReadSize := (s.rules f hs hf).maxRead_pos
  obtain ⟨hkept, -, -, hread, -⟩ := reads_placed hs hf hr now p hlim
  obtain ⟨-, -, hunread, -, hend, hplaced⟩ := hread w hw
  rw [← Option.some.inj (ho.symm.trans hkept)] at hunread hplaced
  obtain ⟨hlow, hhigh⟩ := (Limits.ofSettings s).harvest_offset hd o w bytes
  refine ⟨_, (hu.absorb_ok hu? clock w bytes).1, ?_, hlow, hhigh, by omega, fun hfar hfull => ?_⟩
  · obtain ⟨-, rfl⟩ | ⟨-, -, rfl⟩ | ⟨-, hjump, -⟩ := hplaced
    · exact Nat.le_refl _
    · exact Nat.le_refl _
    · exact Nat.le_of_lt hjump
  · -- a jump moves the offset by itself, any other read is a full one from the offset on
    obtain ⟨-, rfl⟩ | ⟨-, -, rfl⟩ | ⟨-, hjump, -⟩ := hplaced
    · have hmost : s.maxReadSize ≤ bytes.length := Nat.le_trans hfar (Nat.le_of_eq hfull.symm)
      exact Limits.lt_harvest_offset (w := ⟨o, c.size - o, false, false⟩) rfl hpositive hmost o
    · have hmost : s.maxReadSize ≤ bytes.length := Nat.le_of_eq hfull.symm
      exact Limits.lt_harvest_offset (w := ⟨o, s.maxReadSize, false, true⟩) rfl hpositive hmost o
    · exact Nat.lt_of_lt_of_le hjump hlow

/-- A full read that holds a byte order mark and nothing else. -/
theorem offset_moves_forward_mark :
    let s : Settings := { Settings.default with paths := [.ofString "/a"], maxReadSize := 3,
                                                startAt := .beginning }
    let r := Reader.new s (.ofText .utf8 "\n")
    ∃ q, ((r.plan 0 (.ofString "/a") ⟨false, 3, 0⟩).1.absorb ⟨0, 0⟩
        ⟨.ofString "/a", ⟨0, 3, false, false⟩⟩ (.ok Encoding.utf8.mark)).1.offset?
          (.ofString "/a") = some q ∧ 0 < q ∧ q ≤ 3 := by
  intro s r
  have hf : s.lineFormat? = some (.ofText .utf8 "\n") :=
    Settings.lineFormat?_of_encoding (Encoding.ofLabel?_utf8 _)
  obtain ⟨hread, -⟩ := offset_moves_forward (by decide +kernel) hf (.ofString "/a")
  obtain ⟨q, hq, -, -, hle, -, hlt⟩ := hread r (r.plan 0 (.ofString "/a") ⟨false, 3, 0⟩).1 ⟨rfl, rfl⟩
    ⟨rfl, rfl⟩ 0 ⟨0, 0⟩ ⟨false, 3, 0⟩ ⟨0, 3, false, false⟩ 0 Encoding.utf8.mark (by decide)
    (by decide +kernel) (by decide +kernel) (by decide +kernel) (by decide)
  exact ⟨q, hq, hlt (by decide) (by decide), hle⟩

end FileTail
