import FileTail.Proofs.Advance
import FileTail.Proofs.Delivery
import FileTail.Proofs.Harvest

/-!
# FileTail.Proofs.Omission

A file that grows faster than it is read loses lines, but only whole ones. The read after a jump
starts anywhere in a line, and what it holds up to the first delimiter is left out. If the delimiter
is a single byte, it is a delimiter wherever the read starts; so reading goes on where a line
starts. That there is a delimiter in such a read follows from the lines being short enough: the last
line that starts before the end of the read starts within it.

* `LineFormat.SomeDelivered`: no line is cut, given twice or out of order.
* `LineFormat.Resyncs`: a delimiter of a single byte in each full read from a line start on.
* `Resyncs.tail_hasDelimiter`: then there is one in the last full read before any size.
* `LineFormat.exists_delimiter_behind`: without that, one ends in it, but need not start there.
* `LineFormat.Delivered.jump`, `Delivered.resync`: after a jump reading goes on where a line starts.
* `omits_whole_lines`: the whole run.
-/

namespace FileTail
namespace LineFormat

/-- `lines` are some of the complete lines between the anchor and `offset`, in the order in which
they stand in the file; `offset` is the anchor itself or where a line starts. -/
def SomeDelivered (f : LineFormat) (full : Bytes) (anchor offset : Nat) (lines : List String) :
    Prop :=
  ∃ all, f.Delivered full anchor offset all ∧ lines.Sublist all

/-- The delimiter is a single byte, and each `size` bytes from the anchor or from a line start on
hold one, with the mark and without it. -/
structure Resyncs (f : LineFormat) (size : Nat) (full : Bytes) (anchor : Nat) : Prop where
  unit : f.width = 1
  single : f.delimiter.length = 1
  window : ∀ i, (i = anchor ∨ f.LineStart full anchor i) → i + size ≤ full.length →
    f.HasDelimiter (full.between i (i + size))
  dense : f.Dense size full anchor

variable {f : LineFormat} {full bytes : Bytes} {anchor o size : Nat} {lines : List String}

theorem Delivered.anchor_le (h : f.Delivered full anchor o lines) : anchor ≤ o := by
  rcases h with ⟨rfl, -⟩ | ⟨-, hlow, -⟩
  · exact Nat.le_refl _
  · exact Nat.le_trans (le_textStart f full anchor) hlow

/-- Where no byte of the mark is the delimiter, the delimiters of a file stand behind its mark. -/
theorem textStart_le_of_occursAt (hsingle : f.delimiter.length = 1)
    (hmark : ∀ b ∈ f.encoding.mark, f.delimiter ≠ [b]) {i : Nat} (hi : anchor ≤ i)
    (hocc : f.OccursAt full i) : f.textStart full anchor ≤ i := by
  rw [textStart]
  split
  · rw [Encoding.markLength]
    split
    · rename_i hmarked
      obtain ⟨text, rfl⟩ := List.isPrefixOf_iff_prefix.1 hmarked
      obtain ⟨b, hb⟩ := List.length_eq_one_iff.1 hsingle
      refine Nat.le_of_not_lt fun hlt => ?_
      have hbyte := hocc.2
      rw [hb, List.drop_append_of_le_length (Nat.le_of_lt hlt), List.drop_eq_getElem_cons hlt,
        List.cons_append, List.cons_prefix_cons] at hbyte
      exact hmark _ (List.getElem_mem hlt) (hbyte.1 ▸ hb)
    · exact Nat.zero_le _
  · exact hi

theorem Resyncs.of_windows (hunit : f.width = 1) (hsingle : f.delimiter.length = 1)
    (hmark : ∀ b ∈ f.encoding.mark, f.delimiter ≠ [b])
    (hwindow : ∀ i, (i = anchor ∨ f.LineStart full anchor i) → i + size ≤ full.length →
      f.HasDelimiter (full.between i (i + size))) : f.Resyncs size full anchor where
  unit := hunit
  single := hsingle
  window := hwindow
  dense := by
    have hd : f.delimiter ≠ [] := List.length_pos_iff.1 (by omega)
    intro i hi hend
    have hlow : anchor ≤ i := by
      rcases hi with rfl | hi
      · exact Nat.le_refl _
      · exact Nat.le_trans (le_textStart f full anchor) hi.1
    obtain ⟨j, hj⟩ := hwindow i hi hend
    rw [occursAt_between hd full (mod_width hunit i)] at hj
    have hbehind := textStart_le_of_occursAt hsingle hmark (Nat.le_add_right_of_le hlow) hj.1
    exact hj.1.between hd hunit (by omega) (by omega)

/-- A line that does not start where the text does starts behind a delimiter. -/
theorem LineStart.closed (hd : f.delimiter ≠ []) (hunit : f.width = 1) {p : Nat}
    (h : f.LineStart full anchor p) (hlt : f.textStart full anchor < p) :
    ∃ i, f.textStart full anchor ≤ i ∧ f.OccursAt full i ∧ i + f.delimiter.length = p := by
  obtain ⟨-, hp, segments, hrows⟩ := h
  have hlength := full.length_between (i := f.textStart full anchor) hp
  obtain ⟨before, hbefore⟩ := hrows.eq_append_delimiter (List.length_pos_iff.1 (by omega))
  have hlengths := congrArg List.length hbefore
  rw [hlength, List.length_append] at hlengths
  have hclosed : f.OccursAt (full.between (f.textStart full anchor) p) before.length := by
    rw [hbefore]
    exact ⟨mod_width hunit _, by simp⟩
  rw [occursAt_between hd full (mod_width hunit _)] at hclosed
  exact ⟨_, Nat.le_add_right _ _, hclosed.1, by omega⟩

/-- Where each full read from a line start on holds a delimiter, one of them ends in any full read:
the one before the last line that starts there. -/
theorem exists_delimiter_behind (hd : f.delimiter ≠ []) (hunit : f.width = 1)
    (hwindow : ∀ i, f.LineStart full anchor i → i + size ≤ full.length →
      f.HasDelimiter (full.between i (i + size)))
    {start stop : Nat} (hstart : f.textStart full anchor ≤ start) (hsize : start + size ≤ stop)
    (hstop : stop ≤ full.length) :
    ∃ i, f.textStart full anchor ≤ i ∧ f.OccursAt full i ∧ start < i + f.delimiter.length ∧
      i + f.delimiter.length ≤ stop := by
  obtain ⟨row, hrow, hrows, hno⟩ := exists_rows hd (full.between (f.textStart full anchor) stop)
  have hlength := congrArg List.length hrow
  rw [Bytes.length_between full hstop, List.length_append] at hlength
  have htake := full.take_between (i := f.textStart full anchor) (j := stop) row.length (by omega)
  have hdrop := full.drop_between (f.textStart full anchor) stop row.length
  rw [hrow, List.take_left] at htake
  rw [hrow, List.drop_left] at hdrop
  -- the last line that starts before `stop`
  have hline : f.LineStart full anchor (f.textStart full anchor + row.length) :=
    ⟨Nat.le_add_right _ _, by omega, _, htake ▸ hrows⟩
  have hlast := fragment_lt hd (hwindow _ hline) hstop (hdrop ▸ hno)
  obtain ⟨i, hlow, hocc, hi⟩ := hline.closed hd hunit (by omega)
  exact ⟨i, hlow, hocc, by omega, by omega⟩

/-- A full read before any size holds a delimiter. -/
theorem Resyncs.tail_hasDelimiter (h : f.Resyncs size full anchor) {start stop : Nat}
    (hstart : f.textStart full anchor ≤ start) (hsize : start + size ≤ stop)
    (hstop : stop ≤ full.length) : f.HasDelimiter (full.between start stop) := by
  have hsingle := h.single
  have hd : f.delimiter ≠ [] := List.length_pos_iff.1 (by omega)
  obtain ⟨i, -, hocc, hlow, hhigh⟩ := exists_delimiter_behind hd h.unit
    (fun i hi => h.window i (.inr hi)) hstart hsize hstop
  exact hocc.between hd h.unit (by omega) hhigh

/-- Behind each delimiter that is unbordered a line starts. -/
theorem Delivered.skip (hd : f.delimiter ≠ []) (hunit : f.width = 1)
    (hself : f.delimiter.Unbordered) (h : f.Delivered full anchor o lines) {i : Nat}
    (hle : max o (f.textStart full anchor) ≤ i) (hocc : f.OccursAt full i) :
    ∃ more, f.Delivered full anchor (i + f.delimiter.length) (lines ++ more) := by
  have hbound := hocc.bound hd
  obtain ⟨segments, hrows⟩ := exists_rows_append hd hunit hself
    (full.between (max o (f.textStart full anchor)) i)
  have hcut : full.between (max o (f.textStart full anchor)) i ++ f.delimiter =
      full.between (max o (f.textStart full anchor)) (i + f.delimiter.length) := by
    rw [← Bytes.between_append_between full hle (Nat.le_add_right i f.delimiter.length),
      ← Bytes.eq_between_of_prefix hocc.2]
  exact ⟨_, h.append_rows (by omega) hbound (hcut ▸ hrows)⟩

variable {r : Rules} {w : Window}

/-- After a jump to bytes that hold a delimiter reading goes on where a line starts, behind lines that
are not given. -/
theorem Delivered.jump (hunit : r.format.width = 1) (hself : r.format.delimiter.Unbordered)
    (h : r.format.Delivered full anchor o lines) (hlim : full.length ≤ Word.limit)
    (hhaul : Haul r full o size w bytes) (hwhole : bytes.length = w.length)
    (hmid : w.midLine = true) (htext : r.format.textStart full anchor ≤ w.position)
    (hdelimiter : r.format.HasDelimiter bytes) :
    ∃ more, r.format.Delivered full anchor (r.limits.harvest r.format o w bytes).offset
      (lines ++ more ++ (r.limits.harvest r.format o w bytes).lines) := by
  have hd := r.delimiter_ne
  have hsize := hhaul.size_le
  have hposition := hhaul.le_position hlim
  obtain ⟨haligned, hend, hfar⟩ := hhaul.tail hlim hmid
  rw [hunit, Limits.alignUp_one] at haligned
  have hbody : Limits.body r.format w bytes = bytes := by rw [Limits.body, if_neg (by omega)]
  have hbytes := hhaul.bytes_eq hwhole
  obtain ⟨i, hocc, hfragment⟩ := Limits.exists_fragment hd hmid (hbody.symm ▸ hdelimiter)
  rw [hbody, hbytes, occursAt_between hd full (mod_width hunit _)] at hocc
  obtain ⟨more, hmore⟩ := h.skip hd hunit hself (by omega) hocc.1
  have hover := r.limits.overlong_midLine hd hmid bytes
  -- the rest of the read is made of the lines that follow
  obtain ⟨hle, hrows⟩ := r.limits.harvest_rows hd hbody hhaul.given hover o
  obtain ⟨-, hhigh⟩ := hhaul.offset_bounds hlim
  rw [hfragment, ← Nat.add_assoc] at hle hrows
  refine ⟨more, ?_⟩
  rw [r.limits.harvest_lines hover]
  refine hmore.append_rows (by omega) (by omega) ?_
  rwa [Nat.max_eq_left (by omega)]

/-- A delimiter of a single byte is found after each jump. -/
theorem Delivered.resync (hresyncs : r.format.Resyncs r.limits.maxRead full anchor)
    (h : r.format.Delivered full anchor o lines) (hlim : full.length ≤ Word.limit)
    (hhaul : Haul r full o size w bytes) (hwhole : bytes.length = w.length)
    (hmid : w.midLine = true) :
    ∃ more, r.format.Delivered full anchor (r.limits.harvest r.format o w bytes).offset
      (lines ++ more ++ (r.limits.harvest r.format o w bytes).lines) := by
  have hanchor := h.anchor_le
  have hsize := hhaul.size_le
  obtain ⟨hposition, hend, hfar⟩ := hhaul.tail hlim hmid
  rw [hresyncs.unit, Limits.alignUp_one] at hposition
  have htext := hresyncs.dense.max_le r.delimiter_ne (.inl rfl)
    (show anchor + r.limits.maxRead ≤ full.length by omega)
  have hdelimiter : r.format.HasDelimiter bytes := by
    rw [hhaul.bytes_eq hwhole, hend]
    exact hresyncs.tail_hasDelimiter (by omega) (by omega) hsize
  exact h.jump hresyncs.unit (Bytes.unbordered_of_single hresyncs.single) hlim hhaul hwhole hmid
    (by omega) hdelimiter

/-- Each read goes on with whole lines. -/
theorem SomeDelivered.taken (hresyncs : r.format.Resyncs r.limits.maxRead full anchor)
    (h : r.format.SomeDelivered full anchor o lines) (hlim : full.length ≤ Word.limit)
    (hhaul : Haul r full o size w bytes) (hwhole : bytes.length = w.length) :
    r.format.SomeDelivered full anchor (r.limits.harvest r.format o w bytes).offset
      (lines ++ (r.limits.harvest r.format o w bytes).lines) := by
  obtain ⟨all, hall, hsub⟩ := h
  cases hmid : w.midLine with
  | true =>
    obtain ⟨more, hmore⟩ := hall.resync hresyncs hlim hhaul hwhole hmid
    exact ⟨_, hmore, (hsub.trans (List.sublist_append_left _ _)).append (List.Sublist.refl _)⟩
  | false =>
    have hposition := hhaul.position_eq hmid
    have hunread := hhaul.unread
    have hsize := hhaul.size_le
    have hgiven := hhaul.given
    rw [hposition] at hgiven
    obtain ⟨hnext, -⟩ := hall.harvest
      (hresyncs.dense.body_hasDelimiter hall.line_start hposition (by omega) hgiven) hposition hmid
      (by omega) hgiven
    exact ⟨_, hnext, hsub.append (List.Sublist.refl _)⟩

end LineFormat

/-- A file that only grows is delivered in whole lines, even if it grows faster than it is read, as
long as its delimiter is a single byte and its lines are no longer than a full read. -/
theorem omits_whole_lines {s : Settings} {f : LineFormat} {codecs : EastAsian → Codec}
    (hs : s.fault? = none) (hf : s.lineFormat? codecs = some f) (hunit : f.width = 1)
    (hsingle : f.delimiter.length = 1) {p : Path} (hp : p ∈ s.paths) {full : Bytes}
    (hlim : full.length ≤ Word.limit)
    {hap : List Happening} (hgrow : Along (Shows full) 0 (Happening.of p hap))
    (hwhole : ∀ n ∈ News.of p ((Tailing.start s f).run hap).2, n.Whole)
    (hwindow : ∀ i, (i = (Limits.ofSettings s).anchorOf (Happening.of p hap) ∨
        f.LineStart full ((Limits.ofSettings s).anchorOf (Happening.of p hap)) i) →
      i + s.maxReadSize ≤ full.length →
      f.HasDelimiter (full.between i (i + s.maxReadSize))) :
    ∃ t, ((Tailing.start s f).run hap).1.track? p = some t ∧
      f.SomeDelivered full ((Limits.ofSettings s).anchorOf (Happening.of p hap))
        (t.offset?.getD ((Limits.ofSettings s).anchorOf (Happening.of p hap)))
        ((News.of p ((Tailing.start s f).run hap).2).flatMap News.lines) := by
  have hresyncs : f.Resyncs s.maxReadSize full
      ((Limits.ofSettings s).anchorOf (Happening.of p hap)) := by
    obtain ⟨e, rfl⟩ := Settings.of_lineFormat? hf
    exact .of_windows hunit hsingle (fun _ hb => LineFormat.ofText_not_mem_mark e s.delimiter hb)
      hwindow
  obtain ⟨t, ht, h⟩ := Tailing.advances hs hf hp hlim hgrow
    (q := fun news o => (∀ n ∈ news, n.Whole) →
      f.SomeDelivered full ((Limits.ofSettings s).anchorOf (Happening.of p hap)) o
        (news.flatMap News.lines))
    (fun _ => ⟨[], .inl ⟨rfl, rfl⟩, List.Sublist.refl _⟩)
    (by
      intro before o n h hblank hwhole
      rw [List.forall_mem_append] at hwhole
      rw [List.flatMap_append, List.flatMap_singleton, hblank.lines, List.append_nil]
      exact h hwhole.1)
    (by
      intro before o c w bytes y h _ hhaul hy hwhole
      rw [List.forall_mem_append, List.forall_mem_singleton] at hwhole
      rw [List.flatMap_append, List.flatMap_singleton, ← hy]
      exact LineFormat.SomeDelivered.taken (r := s.rules f hs hf) hresyncs (h hwhole.1) hlim hhaul
        hwhole.2)
  exact ⟨t, ht, h hwhole⟩

/-- A line is read; then the file grows by four lines, and the end of it is read from within a line
on. -/
theorem omits_whole_lines_after_jump :
    let p : Path := .ofString "/a"
    let s : Settings := { Settings.default with paths := [p], maxReadSize := 5 }
    let f : LineFormat := .ofText .utf8 "\n"
    let full := Utf8.encode "x\nab\ncd\nef\ngh\nij\n"
    let hap := Happening.alone p (Moment.cycles full [2, 5, 17])
    let lines := (News.of p ((Tailing.start s f).run hap).2).flatMap News.lines
    lines = ["ab", "ij"] ∧ f.SomeDelivered full 2 17 lines := by
  intro p s f full hap lines
  have hf : s.lineFormat? = some f := Settings.lineFormat?_of_encoding (Encoding.ofLabel?_utf8 _)
  have hgrow : Along (Shows full) 0 (Happening.of p hap) :=
    (Happening.along_cycles p (by decide) (by decide +kernel)).mono fun _ _ _ => Serves.shows
  have hanchor : (Limits.ofSettings s).anchorOf (Happening.of p hap) = 2 := by decide +kernel
  have hwindow : ∀ i, (i = (Limits.ofSettings s).anchorOf (Happening.of p hap) ∨
      f.LineStart full ((Limits.ofSettings s).anchorOf (Happening.of p hap)) i) →
      i + 5 ≤ full.length → f.HasDelimiter (full.between i (i + 5)) := by
    intro i hi hend
    have hl : full.length = 17 := by decide +kernel
    rw [hanchor] at hi
    have hlow : 2 ≤ i := by
      rcases hi with rfl | hi
      · exact Nat.le_refl _
      · exact Nat.le_trans (LineFormat.le_textStart f full 2) hi.1
    have hall : ∀ i < 13, 2 ≤ i → (f.find? (full.between i (i + 5))).isSome = true := by
      decide +kernel
    exact (LineFormat.hasDelimiter_iff (by decide +kernel)).2 (hall i (by omega) hlow)
  obtain ⟨t, ht, h⟩ := omits_whole_lines (by decide +kernel) hf rfl (by decide +kernel)
    (List.mem_singleton.2 rfl) (by decide +kernel) hgrow (by decide +kernel) hwindow
  have ho : t.offset? = some 17 := Tailing.offset?_of_track? ht (by decide +kernel)
  rw [ho, hanchor] at h
  exact ⟨by decide +kernel, h⟩

end FileTail
