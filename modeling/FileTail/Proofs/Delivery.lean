import FileTail.Proofs.Growth
import FileTail.Proofs.Tailing

/-!
# FileTail.Proofs.Delivery

A file that grows is delivered line by line: at any time the lines given so far are the complete
lines of the file up to the offset.

The text of a file that is read from its start begins behind its byte order mark. From there lines
are counted as in the whole file, however it was cut into reads (`Delivered`). That holds as long as
no unread content is given up and no line is so long that it has to be given in parts: each full
read from a line start on holds a delimiter (`Dense`).

* `Delivered.harvest`: one read goes on with the next lines.
* `Delivering.turn`, `Delivering.run`: a moment, and a list of them, of a growing file.
* `lines_delivered`: the whole run, from the start.
* `mark_closes_no_line`: a mark that is also the delimiter does not close a line.
-/

namespace FileTail
namespace LineFormat

/-- Where the text of a file begins that is read from `anchor` on. -/
def textStart (f : LineFormat) (full : Bytes) (anchor : Nat) : Nat :=
  if anchor = 0 then f.encoding.markLength full else anchor

/-- A line of the file that is read from `anchor` on starts at `p`. -/
def LineStart (f : LineFormat) (full : Bytes) (anchor p : Nat) : Prop :=
  f.textStart full anchor ≤ p ∧ p ≤ full.length ∧
    ∃ segments, f.Rows (full.between (f.textStart full anchor) p) segments

/-- Each `size` bytes from the anchor or from a line start on hold a delimiter behind the mark. -/
def Dense (f : LineFormat) (size : Nat) (full : Bytes) (anchor : Nat) : Prop :=
  ∀ p, (p = anchor ∨ f.LineStart full anchor p) → p + size ≤ full.length →
    f.HasDelimiter (full.between (max p (f.textStart full anchor)) (p + size))

/-- `lines` are the complete lines between the anchor and `offset`, which is the anchor itself or
where a line starts. -/
def Delivered (f : LineFormat) (full : Bytes) (anchor offset : Nat) (lines : List String) : Prop :=
  (offset = anchor ∧ lines = []) ∨
    ∃ segments, f.textStart full anchor ≤ offset ∧ offset ≤ full.length ∧
      f.Rows (full.between (f.textStart full anchor) offset) segments ∧ lines = f.texts segments

variable {f : LineFormat} {full bytes : Bytes} {anchor o : Nat} {lines : List String}

theorem le_textStart (f : LineFormat) (full : Bytes) (anchor : Nat) :
    anchor ≤ f.textStart full anchor := by
  simp only [textStart]
  split
  · omega
  · exact Nat.le_refl _

theorem Delivered.line_start (h : f.Delivered full anchor o lines) :
    o = anchor ∨ f.LineStart full anchor o := by
  rcases h with ⟨h, -⟩ | ⟨segments, h₁, h₂, h₃, -⟩
  · exact .inl h
  · exact .inr ⟨h₁, h₂, segments, h₃⟩

/-- Rows that follow are lines that follow. -/
theorem Delivered.append_rows (h : f.Delivered full anchor o lines) {o' : Nat}
    (hle : max o (f.textStart full anchor) ≤ o') (ho' : o' ≤ full.length) {segments : List Bytes}
    (hrows : f.Rows (full.between (max o (f.textStart full anchor)) o') segments) :
    f.Delivered full anchor o' (lines ++ f.texts segments) := by
  refine .inr ?_
  rcases h with ⟨rfl, rfl⟩ | ⟨before, h₁, -, h₃, rfl⟩
  · rw [Nat.max_eq_right (le_textStart f full o)] at hrows
    exact ⟨segments, by omega, ho', hrows, rfl⟩
  · rw [Nat.max_eq_left h₁] at hrows
    refine ⟨before ++ segments, by omega, ho', ?_, (texts_append f _ _).symm⟩
    rw [← Bytes.between_append_between full h₁ (show o ≤ o' by omega)]
    exact h₃.append hrows

/-- The body of what was read from a line start on: the bytes behind the mark, or less than a mark. -/
theorem body_between {w : Window} (hclear : ∀ k, k < f.encoding.mark.length →
      ¬ f.HasDelimiter (f.encoding.mark.take k))
    (ho : o = anchor ∨ f.textStart full anchor ≤ o) (hw : w.position = o)
    (hb : bytes <+: full.drop o) :
    (max o (f.textStart full anchor) ≤ o + bytes.length ∧ Limits.body f w bytes =
        full.between (max o (f.textStart full anchor)) (o + bytes.length)) ∨
      (o = 0 ∧ bytes.length < f.textStart full anchor ∧ Limits.body f w bytes = bytes ∧
        ¬ f.HasDelimiter bytes) := by
  have hbetween := Bytes.eq_between_of_prefix hb
  have hle := le_textStart f full anchor
  by_cases hz : o = 0
  · subst hz
    have ha : anchor = 0 := by omega
    subst ha
    simp only [Limits.body, hw, if_true, textStart, Nat.zero_add, Nat.zero_max,
      List.drop_zero] at hb hbetween ⊢
    by_cases hmark : f.encoding.mark <+: full
    · have hfull : f.encoding.markLength full = f.encoding.mark.length := by
        simp [Encoding.markLength, List.isPrefixOf_iff_prefix, hmark]
      rw [hfull]
      by_cases hl : f.encoding.mark.length ≤ bytes.length
      · have hm : f.encoding.mark <+: bytes := List.prefix_of_prefix_length_le hmark hb hl
        have hbytes : f.encoding.markLength bytes = f.encoding.mark.length := by
          simp [Encoding.markLength, List.isPrefixOf_iff_prefix, hm]
        refine .inl ⟨hl, ?_⟩
        rw [hbytes]
        conv => lhs; rw [hbetween]
        rw [Bytes.drop_between, Nat.zero_add]
      · -- the mark itself is cut by the end of the read
        have hpre : bytes <+: f.encoding.mark := List.prefix_of_prefix_length_le hb hmark (by omega)
        have hbytes : f.encoding.markLength bytes = 0 := by
          have : ¬ f.encoding.mark <+: bytes := fun h => by have := h.length_le; omega
          simp [Encoding.markLength, List.isPrefixOf_iff_prefix, this]
        refine .inr ⟨trivial, by omega, by rw [hbytes, List.drop_zero], ?_⟩
        rw [List.prefix_iff_eq_take.1 hpre]
        exact hclear _ (by omega)
    · have hfull : f.encoding.markLength full = 0 := by
        simp [Encoding.markLength, List.isPrefixOf_iff_prefix, hmark]
      have hbytes : f.encoding.markLength bytes = 0 := by
        have : ¬ f.encoding.mark <+: bytes := fun h => hmark (h.trans hb)
        simp [Encoding.markLength, List.isPrefixOf_iff_prefix, this]
      rw [hfull, hbytes]
      exact .inl ⟨Nat.zero_le _, hbetween⟩
  · have hq : max o (f.textStart full anchor) = o := by
      rcases ho with rfl | ho
      · rw [textStart, if_neg hz]; omega
      · omega
    rw [hq]
    exact .inl ⟨by omega, by rw [Limits.body, hw, if_neg hz]; exact hbetween⟩

/-- A window reaches beyond the mark. -/
theorem Dense.max_le (hd : f.delimiter ≠ []) {size p : Nat} (h : f.Dense size full anchor)
    (hp : p = anchor ∨ f.LineStart full anchor p) (hend : p + size ≤ full.length) :
    max p (f.textStart full anchor) ≤ p + size := by
  refine Nat.le_of_not_lt fun hlt => ?_
  exact not_hasDelimiter_between hd full (Nat.le_of_lt hlt) (h p hp hend)

theorem Dense.mono (hd : f.delimiter ≠ []) {size size' : Nat} (h : f.Dense size full anchor)
    (hle : size ≤ size') : f.Dense size' full anchor := by
  intro p hp hend
  have hsmall := h p hp (by omega)
  have hcut := h.max_le hd hp (show p + size ≤ full.length by omega)
  rw [← Bytes.between_append_between full hcut (show p + size ≤ p + size' by omega)]
  exact hsmall.append_right hd _

/-- A full read from a line start on holds a delimiter, so it is no part of an overlong line. -/
theorem Dense.body_hasDelimiter {r : Rules} (hdense : r.format.Dense r.limits.maxRead full anchor)
    {w : Window} (hstart : o = anchor ∨ r.format.LineStart full anchor o) (hw : w.position = o)
    (ho : o ≤ full.length) (hb : bytes <+: full.drop o) (hsize : r.limits.maxRead ≤ bytes.length) :
    r.format.HasDelimiter (Limits.body r.format w bytes) := by
  have hl : bytes.length ≤ full.length - o := by simpa using hb.length_le
  have hD := hdense.mono r.delimiter_ne hsize o hstart (by omega)
  rcases body_between r.mark_clear (hstart.imp_right (·.1)) hw hb with
    ⟨-, hbody⟩ | ⟨hz, hshort, -, -⟩
  · rw [hbody]
    exact hD
  · have hnil : full.between (max o (r.format.textStart full anchor)) (o + bytes.length) = [] := by
      apply List.eq_nil_of_length_eq_zero
      rw [Bytes.length_between full (by omega)]
      omega
    rw [hnil] at hD
    exact absurd hD (not_hasDelimiter_nil r.delimiter_ne)

/-- A read that begins at the offset goes on with the lines that follow, unless it is taken for a part
of an overlong line. -/
theorem Delivered.harvest {r : Rules} {w : Window} (h : r.format.Delivered full anchor o lines)
    (hover : r.limits.maxRead ≤ bytes.length →
      r.format.HasDelimiter (Limits.body r.format w bytes))
    (hw : w.position = o) (hmid : w.midLine = false) (ho : o ≤ full.length)
    (hb : bytes <+: full.drop o) :
    r.format.Delivered full anchor (r.limits.harvest r.format o w bytes).offset
        (lines ++ (r.limits.harvest r.format o w bytes).lines) ∧
      o ≤ (r.limits.harvest r.format o w bytes).offset ∧
      (r.limits.harvest r.format o w bytes).offset ≤ o + bytes.length := by
  have hd := r.delimiter_ne
  have hstart := h.line_start
  have hfull : bytes.length ≤ full.length - o := by simpa using hb.length_le
  have hbody := body_between (w := w) r.mark_clear (hstart.imp_right (·.1)) hw hb
  obtain ⟨row, segments, rest, hrow, hrows, hlines, -, hoff⟩ :=
    Limits.harvest_row (l := r.limits) hd o hmid hover
  rw [hw] at hoff
  rcases hbody with ⟨hq, hbody⟩ | ⟨hz, hshort, hbody, hno⟩
  · have hl := congrArg List.length (hrow.symm.trans hbody)
    rw [List.length_append, Bytes.length_between full (by omega)] at hl
    have hcut : row = full.between (max o (r.format.textStart full anchor))
        (r.limits.harvest r.format o w bytes).offset := by
      have htake := full.take_between (i := max o (r.format.textStart full anchor))
        (j := o + bytes.length) row.length (by omega)
      rw [← hbody, hrow, List.take_left] at htake
      rw [htake]
      congr 1; omega
    refine ⟨?_, by omega, by omega⟩
    rw [hlines]
    exact h.append_rows (by omega) (by omega) (hcut ▸ hrows)
  · rw [hbody] at hrow
    obtain ⟨rfl, rfl⟩ := hrows.eq_nil (hrow ▸ hno)
    have hl := congrArg List.length hrow
    rw [List.nil_append] at hl
    rcases h with ⟨rfl, rfl⟩ | ⟨before, h₁, -, -, -⟩
    · exact ⟨.inl ⟨by omega, hlines⟩, by omega, by omega⟩
    · omega

/-! ## Shorter lines -/

theorem markLength_mod_width (f : LineFormat) (bytes : Bytes) :
    f.encoding.markLength bytes % f.width = 0 := by
  have hmark : f.encoding.mark.length % f.width = 0 := by
    cases h : f.encoding with
    | utf16 order => cases order <;> simp [width, Encoding.width, Encoding.mark, h]
    | _ => simp [width, Encoding.width, h, Nat.mod_one]
  simp only [Encoding.markLength]
  split
  · exact hmark
  · exact Nat.zero_mod _

/-- Bytes without a delimiter are fewer than a window that holds one. -/
theorem fragment_lt (hd : f.delimiter ≠ []) {size stop : Nat}
    (hwindow : o + size ≤ full.length → f.HasDelimiter (full.between o (o + size)))
    (hstop : stop ≤ full.length) (hno : ¬ f.HasDelimiter (full.between o stop)) :
    stop < o + size := by
  refine Nat.lt_of_not_le fun hle => hno ?_
  rw [← Bytes.between_append_between full (Nat.le_add_right o size) hle]
  exact (hwindow (by omega)).append_right hd _

/-- At the anchor the delimiter stands behind the mark, so that it also stands in the window with the
mark. -/
theorem Dense.window {size : Nat} (hdense : f.Dense size full anchor)
    (hstart : o = anchor ∨ f.LineStart full anchor o) (hend : o + size ≤ full.length) :
    f.HasDelimiter (full.between o (o + size)) := by
  have hwindow := hdense o hstart hend
  rcases Nat.lt_or_ge o (f.textStart full anchor) with hlt | hge
  · have hanchor : o = anchor := hstart.resolve_right fun h => by
      have := h.1
      omega
    have hzero : anchor = 0 := by
      refine Classical.byContradiction fun hne => ?_
      rw [textStart, if_neg hne] at hlt
      omega
    rw [hanchor, hzero] at hwindow ⊢
    rw [Nat.zero_max, textStart, if_pos rfl] at hwindow
    exact HasDelimiter.of_drop (markLength_mod_width f full) hwindow
  · rwa [Nat.max_eq_left hge] at hwindow

end LineFormat

/-! ## Moments and runs -/

/-- Of the growing file that is read from `anchor` on, `lines` were delivered. -/
structure Delivering (r : Rules) (full : Bytes) (anchor n : Nat) (t : Track) (lines : List String)
    (last : Fingerprint) (o : Nat) : Prop extends Growing r full n t.record t.offset? last o where
  delivered : r.format.Delivered full anchor o lines
  unread : t.offset? = none → lines = []
  reading : ∀ w, t.reading? = some w → t.offset? = some o ∧ w.position = o ∧ w.midLine = false ∧
    o + w.length ≤ last.size

namespace Delivering

variable {r : Rules} {full : Bytes} {anchor n n' o : Nat} {t t' : Track} {lines : List String}
  {last : Fingerprint} {m : Moment} {news : News}

/-- The first look at a file. -/
theorem baseline (r : Rules) (modified : Option Int) {size head : Nat} (hs : size ≤ head)
    (hh : head ≤ full.length) :
    Delivering r full (r.limits.anchor ⟨false, size, size⟩) head
      ⟨⟨some ⟨modified, size, .ofBytes (full.take head)⟩, FileRecord.fresh.handed r.chunk? size,
        false⟩, none, none⟩ []
      ⟨modified, size, .ofBytes (full.take head)⟩ (r.limits.anchor ⟨false, size, size⟩) :=
  { Growing.baseline r modified hs hh with
    delivered := .inl ⟨rfl, rfl⟩
    unread := fun _ => rfl
    reading := fun w hw => by cases hw }

/-- A cycle that ends without new lines leaves what is delivered as it was. -/
theorem ended (h : Delivering r full anchor n t lines last o) {record : FileRecord}
    {offset? : Option Nat} {last' : Fingerprint}
    (hg : Growing r full n' record offset? last' o) (hkept : offset? = none → t.offset? = none) :
    Delivering r full anchor n' ⟨record, offset?, none⟩ lines last' o :=
  { hg with
    delivered := h.delivered
    unread := fun hnone => h.unread (hkept hnone)
    reading := fun w hw => by cases hw }

/-- A read that was planned is of the bytes from the offset on. -/
theorem started (h : Delivering r full anchor n t lines last o) (hlim : full.length ≤ Word.limit)
    {modified : Option Int} {size head : Nat} (hn : n ≤ size) (hs : size ≤ head)
    (hh : head ≤ full.length) {record : FileRecord} {c : Change} {o' : Nat} {w : Window}
    (hlook : t.record.look r.chunk? ⟨modified, size, .ofBytes (full.take head)⟩ =
      (record, some c))
    (hplan : r.limits.plan r.format.width t.offset? c = (o', .read w))
    (hslow : c.size - o' ≤ 2 * r.limits.maxRead) :
    Delivering r full anchor head ⟨record, some o', some w⟩ lines
      ⟨modified, c.size, .ofBytes (full.take head)⟩ o' := by
  obtain ⟨-, -, -, hc, hresume, hg⟩ := h.changed hlim hn hs hh hlook
  obtain ⟨rfl, -, -, hunread, -, rfl⟩ := Limits.plan_read hplan
  rw [hresume] at hslow hunread ⊢
  have hw : r.limits.window r.format.width o c.size = _ :=
    Limits.window_slow hslow (by omega)
  exact { hg with
    delivered := h.delivered
    unread := fun hnone => by cases hnone
    reading := fun w hww => by
      cases hww
      rw [hw]
      exact ⟨rfl, rfl, rfl, by simp only; omega⟩ }

/-- A read that ended delivers the lines in it. -/
theorem taken (h : Delivering r full anchor n t lines last o)
    (hdense : r.format.Dense r.limits.maxRead full anchor) {w : Window} {bytes : Bytes}
    (hreading : t.reading? = some w) (hbytes : bytes <+: ((full.take n).drop w.position).take w.length) :
    Delivering r full anchor n
      ⟨t.record.conclude (r.limits.harvest r.format o w bytes).verdict,
        some (r.limits.harvest r.format o w bytes).offset, none⟩
      (lines ++ (r.limits.harvest r.format o w bytes).lines) last
      (r.limits.harvest r.format o w bytes).offset := by
  obtain ⟨-, hpos, hmid, hend⟩ := h.reading w hreading
  obtain ⟨hpre, hlw, hn⟩ := prefix_of_answer hbytes
  rw [hpos] at hpre hn
  have hreached := h.reached
  have hgrown := h.grown
  obtain ⟨hd, -, hle⟩ := h.delivered.harvest
    (hdense.body_hasDelimiter h.delivered.line_start hpos (by omega) hpre) hpos hmid (by omega) hpre
  have hreach : (r.limits.harvest r.format o w bytes).offset ≤ n := by
    rcases List.eq_nil_or_concat bytes with rfl | ⟨_, _, rfl⟩
    · simp only [List.length_nil] at hle
      omega
    · have := hn (by simp)
      omega
  exact { (h.concluded _).moved hreach fun _ => by omega with
    delivered := hd
    unread := fun hnone => by cases hnone
    reading := fun w hw => by cases hw }

/-- Each moment of a growing file keeps what is delivered in step with the offset. -/
theorem turn (h : Delivering r full anchor n t lines last o) (hlim : full.length ≤ Word.limit)
    (hdense : r.format.Dense r.limits.maxRead full anchor) (hm : Shows full n m n')
    (hturn : Turn r t m t' news)
    (hslow : ∀ unread, news.unread? = some unread → unread ≤ 2 * r.limits.maxRead) :
    ∃ last' o', Delivering r full anchor n' t' (lines ++ news.lines) last' o' := by
  have hl : Growing r full n' t.record t.offset? last o :=
    h.later (hm.le h.grown).1 (hm.le h.grown).2
  have hlater : Delivering r full anchor n' t (lines ++ []) last o := by
    rw [List.append_nil]
    exact { hl with delivered := h.delivered, unread := h.unread, reading := h.reading }
  cases hturn with
  | ignored => exact ⟨last, o, hlater⟩
  | unchanged _ hlook => exact ⟨last, o, hlater.ended (hl.unchanged hlook) id⟩
  | @skipped seen _ _ _ _ _ hlook hplan =>
    cases hm with
    | unseen hs => exact absurd rfl (hs seen)
    | seen h₁ h₂ h₃ =>
      obtain ⟨-, -, -, -, hresume, hg⟩ := h.changed hlim h₁ h₂ h₃ hlook
      obtain ⟨rfl, -⟩ := Limits.plan_skip hplan
      rw [hresume]
      exact ⟨_, o, hlater.ended (hg.concluded _) fun hnone => by cases hnone⟩
  | @started seen _ _ _ _ _ hlook hplan =>
    cases hm with
    | unseen hs => exact absurd rfl (hs seen)
    | seen h₁ h₂ h₃ =>
      have hd := h.started hlim h₁ h₂ h₃ hlook hplan (hslow _ rfl)
      rw [← List.append_nil lines] at hd
      exact ⟨_, _, hd⟩
  | failed _ _ => exact ⟨last, o, hlater.ended (hl.concluded _) id⟩
  | lost hreading _ hnone =>
    obtain ⟨ho, -⟩ := h.reading _ hreading
    rw [hnone] at ho
    cases ho
  | taken hreading hanswer ho' hy =>
    obtain ⟨ho, -⟩ := h.reading _ hreading
    rw [ho] at ho'
    cases ho'
    subst hy
    cases hm with
    | fetched _ _ hbytes =>
      rw [List.append_nil] at hlater
      exact ⟨last, _, hlater.taken hdense hreading (hbytes _ _ hanswer)⟩

theorem run (h : Delivering r full anchor n t lines last o) (hlim : full.length ≤ Word.limit)
    (hdense : r.format.Dense r.limits.maxRead full anchor) {ms : List Moment}
    (hms : Along (Shows full) n ms)
    (hslow : ∀ unread ∈ (t.run r ms).2.filterMap News.unread?, unread ≤ 2 * r.limits.maxRead) :
    ∃ n' last' o', Delivering r full anchor n' (t.run r ms).1
      (lines ++ (t.run r ms).2.flatMap News.lines) last' o' := by
  let p (n : Nat) (t : Track) (news : List News) : Prop :=
    (∀ unread ∈ news.filterMap News.unread?, unread ≤ 2 * r.limits.maxRead) →
      ∃ last o, Delivering r full anchor n t (lines ++ news.flatMap News.lines) last o
  have keep : ∀ {n n' t t' m news before}, p n t before → Shows full n m n' → Turn r t m t' news →
      p n' t' (before ++ [news]) := by
    intro n n' t t' m news before h hm hturn hslow
    obtain ⟨last, o, h⟩ := h fun unread hu => hslow unread (by
      rw [List.filterMap_append]
      exact List.mem_append_left _ hu)
    obtain ⟨last', o', h'⟩ := h.turn hlim hdense hm hturn fun unread hu => hslow unread (by
      simp [List.filterMap_append, hu])
    exact ⟨last', o', by simpa using h'⟩
  obtain ⟨n', h'⟩ := Track.run_along (p := p) keep [] hms fun _ => ⟨last, o, by simpa using h⟩
  exact ⟨n', h' hslow⟩

end Delivering

/-- Cycles without faults and with nothing in between are those of a growing file. -/
theorem Happening.along_cycles (p : Path) {full : Bytes} {n : Nat} {sizes : List Nat}
    (h : (n :: sizes).Pairwise (· ≤ ·)) (hfull : ∀ size ∈ sizes, size ≤ full.length) :
    Along (Serves full) n (Happening.of p (Happening.alone p (Moment.cycles full sizes))) := by
  rw [Happening.of_alone]
  exact FileTail.along_cycles h hfull

/-- A file that only grows is delivered line by line, through failed probes, failed reads and short
reads: the lines given are those from the anchor to the offset. -/
theorem lines_delivered {s : Settings} {f : LineFormat} {codecs : EastAsian → Codec}
    (hs : s.fault? = none) (hf : s.lineFormat? codecs = some f) {p : Path} (hp : p ∈ s.paths)
    {full : Bytes} (hlim : full.length ≤ Word.limit) {hap : List Happening}
    (hgrow : Along (Shows full) 0 (Happening.of p hap))
    (hslow : ∀ unread ∈ (News.of p ((Tailing.start s f).run hap).2).filterMap News.unread?,
      unread ≤ 2 * s.maxReadSize)
    (hdense : f.Dense s.maxReadSize full
      ((Limits.ofSettings s).anchorOf (Happening.of p hap))) :
    ∃ t, ((Tailing.start s f).run hap).1.track? p = some t ∧
      match t.offset? with
      | none => (News.of p ((Tailing.start s f).run hap).2).flatMap News.lines = []
      | some o => f.Delivered full ((Limits.ofSettings s).anchorOf (Happening.of p hap)) o
          ((News.of p ((Tailing.start s f).run hap).2).flatMap News.lines) := by
  obtain ⟨htrack, hnews⟩ := Tailing.run_track (Tailing.start_follows hs hf)
    (Tailing.track?_start s f hp) hap
  rw [hnews] at hslow ⊢
  refine ⟨_, htrack, ?_⟩
  rcases Track.fresh_run (s.rules f hs hf) (fun _ _ _ h => h) hgrow with
    ⟨k, hrun⟩ | ⟨k, modified, size, head, rest, hsize, hhead, hrest, hanchor, hrun⟩
  · rw [hrun]
    exact List.flatMap_eq_nil_iff.2 fun x hx => by rw [List.eq_of_mem_replicate hx]; rfl
  · change (Limits.ofSettings s).anchorOf (Happening.of p hap) = _ at hanchor
    rw [hanchor] at hdense ⊢
    rw [hrun] at hslow ⊢
    have hquiet : (List.replicate k News.quiet).flatMap News.lines = [] :=
      List.flatMap_eq_nil_iff.2 fun x hx => by rw [List.eq_of_mem_replicate hx]; rfl
    obtain ⟨n', last, o, h⟩ := (Delivering.baseline (s.rules f hs hf) modified hsize hhead).run hlim
      hdense hrest fun unread hu => hslow unread (by
        rw [List.filterMap_append]
        exact List.mem_append_right _ hu)
    simp only [List.flatMap_append, hquiet]
    split
    · rename_i ho
      exact h.unread ho
    · rename_i o' ho
      rw [h.offset_eq ho]
      exact h.delivered

/-- Two lines behind a line that was there before, reported in steps of four bytes. -/
theorem lines_delivered_in_steps :
    let p : Path := .ofString "/a"
    let s : Settings := { Settings.default with paths := [p], maxReadSize := 4, inChunks := true }
    let f : LineFormat := .ofText .utf8 "\n"
    let full := Utf8.encode "x\nab\ncd\nef"
    let hap := Happening.alone p (Moment.cycles full [2, 7, 10, 10])
    let lines := (News.of p ((Tailing.start s f).run hap).2).flatMap News.lines
    ∃ t, ((Tailing.start s f).run hap).1.track? p = some t ∧ t.offset? = some 8 ∧
      lines = ["ab", "cd"] ∧ f.Delivered full 2 8 lines := by
  intro p s f full hap lines
  have hf : s.lineFormat? = some f := Settings.lineFormat?_of_encoding (Encoding.ofLabel?_utf8 _)
  have hanchor : (Limits.ofSettings s).anchorOf (Happening.of p hap) = 2 := by decide +kernel
  have hgrow : Along (Shows full) 0 (Happening.of p hap) :=
    (Happening.along_cycles p (by decide) (by decide +kernel)).mono fun _ _ _ => Serves.shows
  have hdense : f.Dense 4 full ((Limits.ofSettings s).anchorOf (Happening.of p hap)) := by
    rintro i hi hend
    have hl : full.length = 10 := by decide +kernel
    rw [hanchor] at hi ⊢
    have hlow : 2 ≤ i := by
      rcases hi with rfl | hi
      · exact Nat.le_refl _
      · exact Nat.le_trans (LineFormat.le_textStart f full 2) hi.1
    have hcases : i = 2 ∨ i = 3 ∨ i = 4 ∨ i = 5 ∨ i = 6 := by omega
    rcases hcases with rfl | rfl | rfl | rfl | rfl
    all_goals exact (LineFormat.hasDelimiter_iff (by decide +kernel)).2 (by decide +kernel)
  obtain ⟨t, ht, h⟩ := lines_delivered (by decide +kernel) hf (List.mem_singleton.2 rfl)
    (by decide +kernel) hgrow (by decide +kernel) hdense
  have ho : t.offset? = some 8 := Tailing.offset?_of_track? ht (by decide +kernel)
  rw [ho, hanchor] at h
  exact ⟨t, ht, ho, by decide +kernel, h⟩

/-! ## A mark as the delimiter -/

def markFormat : LineFormat := .ofText .utf8 "\uFEFF"

def markFile : Bytes := Utf8.encode "\uFEFFab\uFEFF"

/-- Each read of six bytes from a line start of this file holds a delimiter. -/
theorem mark_windows (i : Nat) (hi : i = 0 ∨ markFormat.LineStart markFile 0 i)
    (hend : i + 6 ≤ markFile.length) : markFormat.HasDelimiter (markFile.between i (i + 6)) := by
  have hl : markFile.length = 8 := by decide +kernel
  have htext : markFormat.textStart markFile 0 = 3 := by decide +kernel
  have hzero : i = 0 := by
    rcases hi with hi | ⟨hlow, -⟩
    · exact hi
    · omega
  rw [hzero]
  exact (LineFormat.hasDelimiter_iff (by decide +kernel)).2 (by decide +kernel)

/-- No line of it ends behind its sixth byte. -/
theorem mark_cut {lines : List String} : ¬ markFormat.Delivered markFile 0 6 lines := by
  rintro (⟨hzero, -⟩ | ⟨segments, -, -, hrows, -⟩)
  · cases hzero
  · have hfind : markFormat.find? (markFile.between (markFormat.textStart markFile 0) 6 ++ []) =
        none := by decide +kernel
    have hnil := hrows.eq_nil ((LineFormat.find?_eq_none_iff (by decide +kernel)).1 hfind)
    exact absurd hnil.1 (by decide +kernel)

/-- It is not enough that all reads of `maxReadSize` bytes hold a delimiter: where the mark is also
the delimiter, the one at the start of the file is taken for a mark and closes no line, and the
first line is cut. -/
theorem mark_closes_no_line :
    ¬ ∀ (s : Settings) (f : LineFormat) (p : Path) (full : Bytes) (hap : List Happening),
      s.fault? = none → s.lineFormat? = some f → p ∈ s.paths → full.length ≤ Word.limit →
      Along (Shows full) 0 (Happening.of p hap) →
      (∀ unread ∈ (News.of p ((Tailing.start s f).run hap).2).filterMap News.unread?,
        unread ≤ 2 * s.maxReadSize) →
      (∀ i, (i = (Limits.ofSettings s).anchorOf (Happening.of p hap) ∨
          f.LineStart full ((Limits.ofSettings s).anchorOf (Happening.of p hap)) i) →
        i + s.maxReadSize ≤ full.length →
        f.HasDelimiter (full.between i (i + s.maxReadSize))) →
      ∀ t o, ((Tailing.start s f).run hap).1.track? p = some t → t.offset? = some o →
        f.Delivered full ((Limits.ofSettings s).anchorOf (Happening.of p hap)) o
          ((News.of p ((Tailing.start s f).run hap).2).flatMap News.lines) := by
  intro h
  let p : Path := .ofString "/a"
  let s : Settings :=
    { Settings.default with
      paths := [p], maxReadSize := 6, startAt := .beginning, delimiter := "\uFEFF" }
  let hap := Happening.alone p (Moment.cycles markFile [0, 8])
  have hgrow : Along (Shows markFile) 0 (Happening.of p hap) :=
    (Happening.along_cycles p (by decide) (by decide +kernel)).mono fun _ _ _ => Serves.shows
  have hoffset : (((Tailing.start s markFormat).run hap).1.track? p).map (·.offset?) =
      some (some 6) := by decide +kernel
  obtain ⟨t, ht, ho⟩ := Option.map_eq_some_iff.1 hoffset
  have hf : s.lineFormat? = some markFormat :=
    Settings.lineFormat?_of_encoding (Encoding.ofLabel?_utf8 _)
  -- the read of six bytes was taken for a part of an overlong line
  exact mark_cut (h s markFormat p markFile hap (by decide +kernel) hf
    (List.mem_singleton.2 rfl) (by decide +kernel) hgrow (by decide +kernel) mark_windows t 6 ht ho)

end FileTail
