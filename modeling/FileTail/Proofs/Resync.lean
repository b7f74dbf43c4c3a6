import FileTail.Proofs.Omission
import FileTail.Proofs.Reads

/-!
# FileTail.Proofs.Resync

Where reading goes on after a jump, for delimiters of any length that do not overlap themselves and
lines no longer than a full read.

The read starts at any byte. If a delimiter follows, reading goes on where a line starts. If none
follows, the whole read is left out and reading goes on at its end. Then the last delimiter before
that end starts before the read and ends within it, so that the end is within a line whose start was
left out. That is the only way: the read starts within a delimiter and holds none.

* `LineFormat.WithinDelimiter`: a position between the bytes of a delimiter.
* `LineFormat.lineStart_iff`: where a jump leads.
* `LineFormat.LineStart.rows`: from the start of a line on whole lines are read.
* `jump_resynchronises`: the same of a reader.
* `jump_into_delimiter`: a read that starts within a delimiter and holds none.
-/

namespace FileTail
namespace LineFormat

/-- The position is behind the first byte of a delimiter of the text and before the end of it. -/
def WithinDelimiter (f : LineFormat) (full : Bytes) (anchor p : Nat) : Prop :=
  ∃ i, f.textStart full anchor ≤ i ∧ f.OccursAt full i ∧ i < p ∧ p < i + f.delimiter.length

variable {f : LineFormat} {full bytes : Bytes} {anchor o p size : Nat}

theorem exists_delivered (hstart : o = anchor ∨ f.LineStart full anchor o) :
    ∃ lines, f.Delivered full anchor o lines := by
  rcases hstart with rfl | ⟨hlow, hhigh, segments, hrows⟩
  · exact ⟨[], .inl ⟨rfl, rfl⟩⟩
  · exact ⟨_, .inr ⟨segments, hlow, hhigh, hrows, rfl⟩⟩

/-- A mark is skipped only in a file that is read from its start. -/
theorem textStart_le (f : LineFormat) (full : Bytes) (anchor : Nat) :
    f.textStart full anchor ≤ max anchor 3 := by
  have hmark : f.encoding.mark.length ≤ 3 := by
    cases f.encoding with
    | utf16 order => cases order <;> decide
    | _ => exact Nat.le_of_ble_eq_true rfl
  rw [textStart]
  split
  · rw [Encoding.markLength]
    split <;> omega
  · omega

theorem lineStart_textStart (h : f.textStart full anchor ≤ full.length) :
    f.LineStart full anchor (f.textStart full anchor) :=
  ⟨Nat.le_refl _, h, [], Bytes.between_of_le full (Nat.le_refl _) ▸ .nil⟩

/-- A full read without a delimiter starts within one, and ends within a line. -/
theorem within_of_not_hasDelimiter (hd : f.delimiter ≠ []) (hunit : f.width = 1)
    (hwindow : ∀ i, f.LineStart full anchor i → i + size ≤ full.length →
      f.HasDelimiter (full.between i (i + size)))
    {start : Nat} (hstart : f.textStart full anchor ≤ start) (hstop : start + size ≤ full.length)
    (hno : ¬ f.HasDelimiter (full.between start (start + size))) :
    f.WithinDelimiter full anchor start ∧ ¬ f.LineStart full anchor (start + size) := by
  have hbefore : ∀ i, f.OccursAt full i → i + f.delimiter.length ≤ start + size → i < start :=
    fun i hocc hi => Nat.lt_of_not_le fun hle => hno (hocc.between hd hunit hle hi)
  obtain ⟨first, hfirst⟩ := hwindow _ (lineStart_textStart (by omega)) (by omega)
  have hfit := hfirst.bound hd
  rw [Bytes.length_between full (by omega)] at hfit
  have hpositive := List.length_pos_iff.2 hd
  refine ⟨?_, fun hline => ?_⟩
  · obtain ⟨i, hi, hocc, hbehind, hend⟩ := exists_delimiter_behind hd hunit hwindow hstart
      (Nat.le_refl _) hstop
    exact ⟨i, hi, hocc, hbefore i hocc hend, hbehind⟩
  · -- the delimiter that closes the line before has room in the read
    obtain ⟨i, -, hocc, hi⟩ := hline.closed hd hunit (by omega)
    have := hbefore i hocc (by omega)
    omega

end LineFormat

namespace Limits

variable {l : Limits} {f : LineFormat} {w : Window} {bytes : Bytes}

/-- A jump to bytes without a delimiter leaves out all of them. -/
theorem harvest_offset_of_jump (hd : f.delimiter ≠ []) (hmid : w.midLine = true)
    (hno : ¬ f.HasDelimiter (body f w bytes)) (o : Nat) :
    (l.harvest f o w bytes).offset = w.position + bytes.length := by
  have hall : fragment f w bytes = (body f w bytes).length := by
    rw [fragment, if_pos hmid, LineFormat.fragmentLength, (LineFormat.find?_eq_none_iff hd).2 hno]
  obtain ⟨row, hrow, -, -⟩ := exists_cut hd w bytes
  rw [hall, List.drop_length, List.nil_eq_append_iff] at hrow
  have hoffset := l.harvest_offset_add (l.overlong_midLine hd hmid bytes) o
  rwa [hrow.2, List.length_nil, Nat.add_zero] at hoffset

/-- A jump moves the offset into its read: what was left out is not read again. -/
theorem lt_harvest_offset_of_jump (hd : f.delimiter ≠ []) (hmid : w.midLine = true)
    (hbody : body f w bytes = bytes) (hne : bytes ≠ []) (o : Nat) :
    w.position < (l.harvest f o w bytes).offset := by
  have hfragment : 0 < fragment f w bytes := by
    rw [fragment, if_pos hmid, hbody]
    exact f.fragmentLength_pos hne
  have hle := fragment_le f w bytes
  have hoffset := l.harvest_offset_add (l.overlong_midLine hd hmid bytes) o
  obtain ⟨row, hrow, -, -⟩ := exists_cut hd w bytes
  have hlength := congrArg List.length hrow
  rw [hbody] at hle hlength
  rw [List.length_drop, List.length_append] at hlength
  omega

end Limits

namespace LineFormat

variable {r : Rules} {full bytes : Bytes} {anchor o size : Nat} {w : Window}

/-- A jump leads to where a line starts, unless its read starts within a delimiter and holds none. -/
theorem lineStart_iff (hunit : r.format.width = 1) (hself : r.format.delimiter.Unbordered)
    (hwindow : ∀ i, r.format.LineStart full anchor i → i + r.limits.maxRead ≤ full.length →
      r.format.HasDelimiter (full.between i (i + r.limits.maxRead)))
    (hstart : o = anchor ∨ r.format.LineStart full anchor o) (hlim : full.length ≤ Word.limit)
    (hhaul : Haul r full o size w bytes) (hwhole : bytes.length = w.length)
    (hmid : w.midLine = true) :
    r.format.LineStart full anchor (r.limits.harvest r.format o w bytes).offset ↔
      ¬ (r.format.WithinDelimiter full anchor w.position ∧ ¬ r.format.HasDelimiter bytes) := by
  have hd := r.delimiter_ne
  have hpositive := r.maxRead_pos
  have hsize := hhaul.size_le
  have hbytes := hhaul.bytes_eq hwhole
  obtain ⟨lines, hlines⟩ := exists_delivered hstart
  have hanchor := hlines.anchor_le
  obtain ⟨haligned, hend, hfar⟩ := hhaul.tail hlim hmid
  rw [hunit, Limits.alignUp_one] at haligned
  rw [hend] at hbytes
  obtain ⟨hlow, hhigh⟩ := r.limits.harvest_offset hd o w bytes
  have hbody : Limits.body r.format w bytes = bytes := by rw [Limits.body, if_neg (by omega)]
  by_cases htext : r.format.textStart full anchor ≤ w.position
  · by_cases hdelimiter : r.format.HasDelimiter bytes
    · obtain ⟨more, hmore⟩ := hlines.jump hunit hself hlim hhaul hwhole hmid htext hdelimiter
      exact ⟨fun _ h => h.2 hdelimiter, fun _ => hmore.line_start.resolve_left (by omega)⟩
    · have hoffset := r.limits.harvest_offset_of_jump hd hmid (hbody.symm ▸ hdelimiter) o
      rw [hoffset, show w.position + bytes.length = w.position + r.limits.maxRead by omega]
      have hno := hdelimiter
      rw [hbytes, show size = w.position + r.limits.maxRead by omega] at hno
      obtain ⟨hwithin, hnot⟩ := within_of_not_hasDelimiter hd hunit hwindow htext (by omega) hno
      exact ⟨fun hline => absurd hline hnot, fun h => absurd ⟨hwithin, hdelimiter⟩ h⟩
  · -- three bytes were reported, which are the mark, and the last of them was read
    have htop := r.format.textStart_le full anchor
    have hforward := r.limits.lt_harvest_offset_of_jump hd hmid hbody
      (List.length_pos_iff.1 (by omega)) o
    rw [show (r.limits.harvest r.format o w bytes).offset = r.format.textStart full anchor by omega]
    refine ⟨?_, fun _ => lineStart_textStart (by omega)⟩
    rintro - ⟨⟨i, hi, -, hlt, -⟩, -⟩
    omega

/-- From the start of a line on whole lines are read. -/
theorem LineStart.rows {r : Rules} {full bytes : Bytes} {anchor o : Nat} {w : Window}
    (hwindow : ∀ i, r.format.LineStart full anchor i → i + r.limits.maxRead ≤ full.length →
      r.format.HasDelimiter (full.between i (i + r.limits.maxRead)))
    (hline : r.format.LineStart full anchor o) (hpos : 0 < o) (hposition : w.position = o)
    (hmid : w.midLine = false) (hgiven : bytes <+: full.drop o) :
    ∃ segments, r.format.Rows (full.between o (r.limits.harvest r.format o w bytes).offset) segments ∧
      (r.limits.harvest r.format o w bytes).lines = r.format.texts segments := by
  have hd := r.delimiter_ne
  have hlow := hline.2.1
  have hbody : Limits.body r.format w bytes = bytes := by rw [Limits.body, if_neg (by omega)]
  have hlength : bytes.length ≤ full.length - o := by simpa using hgiven.length_le
  have hover : r.limits.overlong r.format w bytes = false := by
    refine Bool.eq_false_iff.2 fun hover => ?_
    obtain ⟨-, -, hno, -, -⟩ := Limits.overlong_cut hd hover
    obtain ⟨-, -, hfull⟩ := Limits.overlong_iff.1 hover
    refine hno ?_
    rw [hbody, Bytes.eq_between_of_prefix hgiven, ← Bytes.between_append_between full
      (Nat.le_add_right o r.limits.maxRead) (Nat.add_le_add_left hfull o)]
    exact (hwindow o hline (by omega)).append_right hd _
  have hfragment : Limits.fragment r.format w bytes = 0 := by
    rw [Limits.fragment, hmid]
    rfl
  obtain ⟨-, hrows⟩ := r.limits.harvest_rows hd hbody (hposition ▸ hgiven) hover o
  rw [hfragment, hposition] at hrows
  exact ⟨_, hrows, r.limits.harvest_lines hover⟩

end LineFormat

/-- The delimiter does not overlap itself, and each full read from the start of a line on holds one.
Then a jump takes the offset to where a line starts, unless the read starts within a delimiter and
holds none; and where a line starts whole lines are read. -/
theorem jump_resynchronises {s : Settings} {f : LineFormat} {codecs : EastAsian → Codec}
    (hs : s.fault? = none) (hf : s.lineFormat? codecs = some f) (hunit : f.width = 1)
    (hself : f.delimiter.Unbordered) {full : Bytes} (hlim : full.length ≤ Word.limit) {anchor : Nat}
    (hwindow : ∀ i, f.LineStart full anchor i → i + s.maxReadSize ≤ full.length →
      f.HasDelimiter (full.between i (i + s.maxReadSize)))
    {r u : Reader} (hr : r.GoesBy s f) (hu : u.GoesBy s f) (now : Nat) (p : Path) {c : Change}
    (hsize : c.size ≤ full.length) {o : Nat} (ho : (r.plan now p c).1.offset? p = some o)
    (hstart : o = anchor ∨ f.LineStart full anchor o) {w : Window}
    (hw : (r.plan now p c).2.1 = .read w) (hmid : w.midLine = true)
    (hkept : u.offset? p = some o) (clock : Clock) :
    let bytes := full.between w.position (w.position + w.length)
    ∃ o', (u.absorb clock ⟨p, w⟩ (.ok bytes)).1.offset? p = some o' ∧
      (f.LineStart full anchor o' ↔
        ¬ (f.WithinDelimiter full anchor w.position ∧ ¬ f.HasDelimiter bytes)) ∧
      (f.LineStart full anchor o' →
        ∀ (v : Reader) (clock : Clock) (next : Window) (more : Bytes), v.GoesBy s f →
        v.offset? p = some o' → next.position = o' → next.midLine = false →
        more <+: full.drop o' →
        ∃ q segments, (v.absorb clock ⟨p, next⟩ (.ok more)).1.offset? p = some q ∧
          f.Rows (full.between o' q) segments ∧
          (v.absorb clock ⟨p, next⟩ (.ok more)).2.1.lines.map Line.text = f.texts segments) := by
  intro bytes
  let rules := s.rules f hs hf
  have hpositive := rules.maxRead_pos
  -- the bytes are those of the window that was planned
  obtain ⟨-, -, -, hunread, -, hplanned⟩ := Limits.plan_read (hr.plan_eq ho hw)
  have hunread := Nat.lt_of_sub_pos hunread
  have hend : w.position + w.length ≤ c.size := by
    rw [hplanned]
    exact (Limits.window_end (l := rules.limits) f.encoding.width_pos rules.width_le hunread).1
  have hwhole : bytes.length = w.length := by
    rw [Bytes.length_between full (by omega), Nat.add_sub_cancel_left]
  have hhaul : Haul rules full o c.size w bytes :=
    { unread := hunread
      size_le := hsize
      window := hplanned
      given := by
        rw [show bytes = (full.drop w.position).take (w.position + w.length - w.position) from
          List.drop_take]
        exact List.take_prefix _ _
      length_le := Nat.le_of_eq hwhole }
  obtain ⟨hposition, -, hfar⟩ := hhaul.tail hlim hmid
  rw [show rules.format.width = 1 from hunit, Limits.alignUp_one] at hposition
  obtain ⟨hlow, -⟩ := rules.limits.harvest_offset rules.delimiter_ne o w bytes
  refine ⟨_, (hu.absorb_ok hkept clock w bytes).1,
    LineFormat.lineStart_iff (r := rules) hunit hself hwindow hstart hlim hhaul hwhole hmid, ?_⟩
  intro hline v clock next more hv hoffset hnext hlineStart hgiven
  obtain ⟨hq, htexts⟩ := hv.absorb_ok hoffset clock next more
  obtain ⟨segments, hrows, hlines⟩ := LineFormat.LineStart.rows (r := rules) hwindow hline
    (Nat.lt_of_lt_of_le (by omega) hlow) hnext hlineStart hgiven
  exact ⟨_, segments, hq, hrows, htexts.trans hlines⟩

/-- The read starts between the two bytes of a delimiter and holds another one. -/
theorem jump_resynchronises_within_delimiter :
    let p : Path := .ofString "/a"
    let s : Settings := { Settings.default with paths := [p], maxReadSize := 6, delimiter := "\r\n",
                                                startAt := .beginning }
    let f : LineFormat := .ofText .utf8 "\r\n"
    let full := Utf8.encode "ab\r\nab\r\nab\r\nab\r\nab\r\n"
    let r := Reader.new s f
    let c : Change := ⟨false, 17, 0⟩
    let w : Window := ⟨11, 6, true, false⟩
    let after := ((r.plan 0 p c).1.absorb ⟨0, 0⟩ ⟨p, w⟩ (.ok (full.between 11 17))).1
    (r.plan 0 p c).2.1 = .read w ∧ f.WithinDelimiter full 0 11 ∧ after.offset? p = some 16 ∧
      f.LineStart full 0 16 := by
  intro p s f full r c w after
  have hf : s.lineFormat? = some f := Settings.lineFormat?_of_encoding (Encoding.ofLabel?_utf8 _)
  have hwindow : ∀ i, f.LineStart full 0 i → i + 6 ≤ full.length →
      f.HasDelimiter (full.between i (i + 6)) := by
    intro i _ hi
    have hl : full.length = 20 := by decide +kernel
    have hall : ∀ i < 15, (f.find? (full.between i (i + 6))).isSome = true := by decide +kernel
    exact (LineFormat.hasDelimiter_iff (by decide +kernel)).2 (hall i (by omega))
  have hdelimiter : f.HasDelimiter (full.between 11 17) :=
    (LineFormat.hasDelimiter_iff (by decide +kernel)).2 (by decide +kernel)
  have hw : (r.plan 0 p c).2.1 = .read w := by decide +kernel
  obtain ⟨o, ho, hiff, -⟩ := jump_resynchronises (by decide +kernel) hf rfl (by decide +kernel)
    (by decide +kernel) hwindow (r := r) (u := (r.plan 0 p c).1) ⟨rfl, rfl⟩ ⟨rfl, rfl⟩ 0 p (c := c)
    (by decide +kernel) (o := 0) (by decide +kernel) (.inl rfl) hw rfl (by decide +kernel) ⟨0, 0⟩
  have hresumed : after.offset? p = some 16 := by decide +kernel
  obtain rfl := Option.some.inj (hresumed.symm.trans ho)
  exact ⟨hw, ⟨10, by decide +kernel, by decide +kernel, by decide, by decide +kernel⟩, hresumed,
    hiff.2 fun h => h.2 hdelimiter⟩

/-- A jump can lead to between the bytes of a delimiter: the read starts behind the first byte of one,
and ends behind the first byte of the next. What is read then starts with the rest of that one. -/
theorem jump_into_delimiter :
    ¬ ∀ (s : Settings) (f : LineFormat) (full : Bytes) (anchor : Nat) (r : Reader) (p : Path)
        (c : Change) (o : Nat) (w : Window),
      s.fault? = none → s.lineFormat? = some f → f.width = 1 → f.delimiter.Unbordered →
      full.length ≤ Word.limit →
      (∀ i, f.LineStart full anchor i → i + s.maxReadSize ≤ full.length →
        f.HasDelimiter (full.between i (i + s.maxReadSize))) →
      r.GoesBy s f → c.size ≤ full.length → (r.plan 0 p c).1.offset? p = some o →
      f.LineStart full anchor o → (r.plan 0 p c).2.1 = .read w → w.midLine = true →
      ∃ o', ((r.plan 0 p c).1.absorb ⟨0, 0⟩ ⟨p, w⟩
          (.ok (full.between w.position (w.position + w.length)))).1.offset? p = some o' ∧
        f.LineStart full anchor o' := by
  intro h
  let p : Path := .ofString "/a"
  let s : Settings := { Settings.default with paths := [p], maxReadSize := 6, delimiter := "\r\n",
                                              startAt := .beginning }
  let f : LineFormat := .ofText .utf8 "\r\n"
  let full := Utf8.encode "abcd\r\nabcd\r\nabcd\r\nef\r\n"
  let r := Reader.new s f
  let c : Change := ⟨false, 17, 0⟩
  let w : Window := ⟨11, 6, true, false⟩
  have hd : f.delimiter ≠ [] := by decide +kernel
  have hl : full.length = 22 := by decide +kernel
  have htext : f.textStart full 0 = 0 := by decide +kernel
  have htwo : f.delimiter.length = 2 := by decide +kernel
  have hwindow : ∀ i, f.LineStart full 0 i → i + 6 ≤ full.length →
      f.HasDelimiter (full.between i (i + 6)) := by
    intro i hline hi
    have hfirst : (f.find? (full.between 0 6)).isSome = true := by decide +kernel
    have hlater : ∀ j < 15, f.OccursAt full j → (f.find? (full.between (j + 2) (j + 8))).isSome = true
      := by decide +kernel
    refine (LineFormat.hasDelimiter_iff hd).2 ?_
    rcases Nat.eq_zero_or_pos i with rfl | hpos
    · exact hfirst
    · obtain ⟨j, -, hocc, rfl⟩ := hline.closed hd rfl (htext ▸ hpos)
      exact hlater j (by omega) hocc
  have hf : s.lineFormat? = some f := Settings.lineFormat?_of_encoding (Encoding.ofLabel?_utf8 _)
  obtain ⟨o, ho, hline⟩ := h s f full 0 r p c 0 w (by decide +kernel) hf rfl
    (by decide +kernel) (by decide +kernel) hwindow ⟨rfl, rfl⟩ (by decide +kernel)
    (by decide +kernel) (LineFormat.lineStart_textStart (by decide +kernel)) (by decide +kernel) rfl
  have hresumed : ((r.plan 0 p c).1.absorb ⟨0, 0⟩ ⟨p, w⟩ (.ok (full.between 11 17))).1.offset? p =
      some 17 := by decide +kernel
  obtain rfl := Option.some.inj (hresumed.symm.trans ho)
  obtain ⟨i, -, hocc, hi⟩ := hline.closed hd rfl (by decide +kernel)
  have hnone : ∀ i < 17, f.OccursAt full i → i + f.delimiter.length ≠ 17 := by decide +kernel
  exact hnone i (by omega) hocc hi

end FileTail
