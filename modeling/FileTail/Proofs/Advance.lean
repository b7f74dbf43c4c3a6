import FileTail.Proofs.Growth
import FileTail.Proofs.Tailing

/-!
# FileTail.Proofs.Advance

How the offset of a growing file moves, whatever its size does and however its cycles fail. It
begins at the anchor and stays there until a read has ended; the read is that of the window which
was planned from the offset, and moves it as far as its bytes amount to.

* `Haul`: what is known of the bytes of a read.
* `Advancing.turn`: a moment leaves the offset where it is, or takes in a haul.
* `Tailing.advances`: what holds at the anchor, and is kept by each haul, holds at every time.
-/

namespace FileTail

/-- The bytes that a growing file gave of a window, which was planned when it was read up to `o` and
had `size` bytes. -/
structure Haul (r : Rules) (full : Bytes) (o size : Nat) (w : Window) (bytes : Bytes) : Prop where
  unread : o < size
  size_le : size ≤ full.length
  window : w = r.limits.window r.format.width o size
  given : bytes <+: full.drop w.position
  length_le : bytes.length ≤ w.length

namespace Haul

variable {r : Rules} {full bytes : Bytes} {o size : Nat} {w : Window}

theorem end_le (h : Haul r full o size w bytes) : w.position + w.length ≤ size := by
  rw [h.window]
  exact (Limits.window_end r.format.encoding.width_pos r.width_le h.unread).1

theorem le_position (h : Haul r full o size w bytes) (hlim : full.length ≤ Word.limit) :
    o ≤ w.position := by
  rw [h.window]
  exact Limits.le_window_position r.format.encoding.width_pos (Nat.le_trans h.size_le hlim)

/-- Reading goes on behind the offset, and at most where the size that was planned for ends. -/
theorem offset_bounds (h : Haul r full o size w bytes) (hlim : full.length ≤ Word.limit) :
    o ≤ (r.limits.harvest r.format o w bytes).offset ∧
      (r.limits.harvest r.format o w bytes).offset ≤ size := by
  obtain ⟨hlow, hhigh⟩ := r.limits.harvest_offset r.delimiter_ne o w bytes
  have hposition := h.le_position hlim
  have hend := h.end_le
  have hlength := h.length_le
  omega

/-- A read that does not start within a line starts at the offset. -/
theorem position_eq (h : Haul r full o size w bytes) (hmid : w.midLine = false) :
    w.position = o := by
  rw [h.window] at hmid ⊢
  simp only [Limits.window] at hmid ⊢
  split
  · rename_i hp
    rw [if_pos hp] at hmid
    cases hmid
  · split <;> rfl

/-- A read that starts within a line is that of the end of the file, after a jump over at least a
full read. -/
theorem tail (h : Haul r full o size w bytes) (hlim : full.length ≤ Word.limit)
    (hmid : w.midLine = true) :
    w.position = alignUp r.format.width (size - r.limits.maxRead) ∧
      w.position + w.length = size ∧ o + 2 * r.limits.maxRead < size := by
  have hend := h.end_le
  have hsize := h.size_le
  rw [h.window] at hmid hend ⊢
  have hfar := (r.limits.window_midLine _ _ _).1 hmid
  have hpatience : r.limits.patience = min (r.limits.maxRead * 2) Word.limit := rfl
  rw [Limits.window, if_pos hfar, Limits.tailWindow] at hend ⊢
  exact ⟨rfl, by simp only at hend ⊢; omega, by omega⟩

/-- As long as no unread content is given up, a read starts at the offset and with a line. -/
theorem slow (h : Haul r full o size w bytes) (hlim : full.length ≤ Word.limit)
    (hslow : size - o ≤ 2 * r.limits.maxRead) : w.position = o ∧ w.midLine = false := by
  have hsize := h.size_le
  rw [h.window, Limits.window_slow hslow (by omega)]
  exact ⟨rfl, rfl⟩

/-- A read that gave all that was asked for gave the bytes of its window. -/
theorem bytes_eq (h : Haul r full o size w bytes) (hwhole : bytes.length = w.length) :
    bytes = full.between w.position (w.position + w.length) := by
  rw [← hwhole]
  exact Bytes.eq_between_of_prefix h.given

end Haul

namespace News

/-- A read that did not fail gave all that was asked for. -/
def Whole : News → Prop
  | taken w bytes _ _ _ => bytes.length = w.length
  | _ => True

instance : DecidablePred Whole
  | taken w bytes _ _ _ => inferInstanceAs (Decidable (bytes.length = w.length))
  | quiet | planned _ _ _ | failed _ => inferInstanceAs (Decidable True)

/-- No bytes were taken in. -/
def Blank : News → Prop
  | taken _ _ _ _ _ => False
  | _ => True

theorem Blank.lines {n : News} (h : n.Blank) : n.lines = [] := by
  cases n with
  | taken _ _ _ _ _ => cases h
  | _ => rfl

end News

/-- A growing file is read from `anchor` on and was read up to `o`, `before` being its news. -/
structure Advancing (r : Rules) (full : Bytes) (anchor n : Nat) (t : Track) (before : List News)
    (last : Fingerprint) (o : Nat) : Prop extends Growing r full n t.record t.offset? last o where
  unread : t.offset? = none → o = anchor
  reading : ∀ w, t.reading? = some w → t.offset? = some o ∧ last.size ≤ n ∧
    ∃ c, .planned c o (.read w) ∈ before ∧ c.size = last.size ∧ o < c.size ∧
      w = r.limits.window r.format.width o c.size

namespace Advancing

variable {r : Rules} {full : Bytes} {anchor n n' o : Nat} {t t' : Track} {before : List News}
  {last : Fingerprint} {m : Moment} {news : News}

/-- The first look at a file. -/
theorem baseline (r : Rules) (modified : Option Int) {size head : Nat} (hs : size ≤ head)
    (hh : head ≤ full.length) (before : List News) :
    Advancing r full (r.limits.anchor ⟨false, size, size⟩) head
      ⟨⟨some ⟨modified, size, .ofBytes (full.take head)⟩, FileRecord.fresh.handed r.chunk? size,
        false⟩, none, none⟩ before
      ⟨modified, size, .ofBytes (full.take head)⟩ (r.limits.anchor ⟨false, size, size⟩) :=
  { Growing.baseline r modified hs hh with
    unread := fun _ => rfl
    reading := fun w hw => by cases hw }

/-- A cycle that ends without bytes leaves the offset where it was. -/
theorem ended (h : Advancing r full anchor n t before last o) {record : FileRecord}
    {offset? : Option Nat} {last' : Fingerprint}
    (hg : Growing r full n' record offset? last' o) (hkept : offset? = none → t.offset? = none)
    (news : List News) : Advancing r full anchor n' ⟨record, offset?, none⟩ news last' o :=
  { hg with
    unread := fun hnone => h.unread (hkept hnone)
    reading := fun w hw => by cases hw }

theorem getD_offset (h : Advancing r full anchor n t before last o) :
    t.offset?.getD anchor = o := by
  cases ho : t.offset? with
  | none => exact (h.unread ho).symm
  | some o' => exact h.offset_eq ho

/-- The file may have grown in the meantime. -/
theorem later (h : Advancing r full anchor n t before last o) (hn : n ≤ n')
    (hn' : n' ≤ full.length) (more : List News) :
    Advancing r full anchor n' t (before ++ more) last o :=
  { h.toGrowing.later hn hn' with
    unread := h.unread
    reading := fun w hw => by
      obtain ⟨ho, hlast, c, hplanned, hrest⟩ := h.reading w hw
      exact ⟨ho, Nat.le_trans hlast hn, c, List.mem_append_left _ hplanned, hrest⟩ }

/-- A read under way is that of a window which was planned from the offset. -/
theorem haul (h : Advancing r full anchor n t before last o) {w : Window} {bytes : Bytes}
    (hreading : t.reading? = some w)
    (hbytes : bytes <+: ((full.take n').drop w.position).take w.length) :
    ∃ c, .planned c o (.read w) ∈ before ∧ c.size = last.size ∧ Haul r full o c.size w bytes := by
  obtain ⟨-, hlast, c, hplanned, hsize, hunread, hw⟩ := h.reading w hreading
  obtain ⟨hgiven, hlength, -⟩ := prefix_of_answer hbytes
  have hgrown := h.grown
  exact ⟨c, hplanned, hsize, hunread, by omega, hw, hgiven, hlength⟩

/-- Each moment of a growing file leaves the offset where it is, or takes in the bytes of the window
that was planned from it. -/
theorem turn (h : Advancing r full anchor n t before last o) (hlim : full.length ≤ Word.limit)
    (hm : Shows full n m n') (hturn : Turn r t m t' news) :
    (news.Blank ∧ ∃ last', Advancing r full anchor n' t' (before ++ [news]) last' o) ∨
      ∃ c w bytes y, .planned c o (.read w) ∈ before ∧ Haul r full o c.size w bytes ∧
        r.limits.harvest r.format o w bytes = y ∧
        news = .taken w bytes y.lines y.skipped y.offset ∧
        Advancing r full anchor n' t' (before ++ [news]) last y.offset := by
  obtain ⟨hn, hn'⟩ := hm.le h.grown
  have hl := h.toGrowing.later hn hn'
  cases hturn with
  | ignored => exact .inl ⟨trivial, last, h.later hn hn' _⟩
  | unchanged _ hlook => exact .inl ⟨trivial, last, h.ended (hl.unchanged hlook) id _⟩
  | @skipped seen _ _ _ _ _ hlook hplan =>
    cases hm with
    | unseen hs => exact absurd rfl (hs seen)
    | seen h₁ h₂ h₃ =>
      obtain ⟨-, -, -, -, hresume, hg⟩ := h.changed hlim h₁ h₂ h₃ hlook
      obtain ⟨rfl, -⟩ := Limits.plan_skip hplan
      rw [hresume]
      exact .inl ⟨trivial, _, h.ended (hg.concluded _) (fun hnone => by cases hnone) _⟩
  | @started seen record c o' w _ hlook hplan =>
    cases hm with
    | unseen hs => exact absurd rfl (hs seen)
    | @seen modified size _ h₁ h₂ h₃ =>
      obtain ⟨-, -, hsize, -, hresume, hg⟩ := h.changed hlim h₁ h₂ h₃ hlook
      obtain ⟨rfl, -, -, hunread, -, hw⟩ := Limits.plan_read hplan
      rw [hresume] at hunread hw ⊢
      have hle := t.record.reported_le r.chunk? size false
      exact .inl ⟨trivial, _,
        { hg with
          unread := fun hnone => by cases hnone
          reading := fun w' hw' => by
            cases hw'
            exact ⟨rfl, by simp only; omega, c, by simp, rfl, by omega, hw⟩ }⟩
  | failed _ _ => exact .inl ⟨trivial, last, h.ended (hl.concluded _) id _⟩
  | lost hreading _ hnone =>
    obtain ⟨ho, -⟩ := h.reading _ hreading
    rw [hnone] at ho
    cases ho
  | @taken answer w bytes o' y hreading hanswer ho' hy =>
    obtain ⟨ho, hlast, -⟩ := h.reading w hreading
    rw [ho] at ho'
    cases ho'
    subst hy
    cases hm with
    | fetched _ _ hbytes =>
      obtain ⟨c, hplanned, hsize, hhaul⟩ := h.haul hreading (hbytes w bytes hanswer)
      obtain ⟨-, hhigh⟩ := hhaul.offset_bounds hlim
      exact .inr ⟨c, w, bytes, _, hplanned, hhaul, rfl, rfl,
        { (hl.concluded _).moved (by omega) fun _ => by omega with
          unread := fun hnone => by cases hnone
          reading := fun w hw => by cases hw }⟩

end Advancing

/-- What holds of a growing file at its anchor, and is kept by each read of it, holds at every time.
-/
theorem Tailing.advances {s : Settings} {f : LineFormat} {codecs : EastAsian → Codec}
    (hs : s.fault? = none) (hf : s.lineFormat? codecs = some f) {p : Path} (hp : p ∈ s.paths)
    {full : Bytes} (hlim : full.length ≤ Word.limit) {hap : List Happening}
    (hgrow : Along (Shows full) 0 (Happening.of p hap)) {q : List News → Nat → Prop}
    (start : q [] ((Limits.ofSettings s).anchorOf (Happening.of p hap)))
    (blank : ∀ {before o n}, q before o → n.Blank → q (before ++ [n]) o)
    (taken : ∀ {before o c w bytes y}, q before o → .planned c o (.read w) ∈ before →
      Haul (s.rules f hs hf) full o c.size w bytes →
      (Limits.ofSettings s).harvest f o w bytes = y →
      q (before ++ [.taken w bytes y.lines y.skipped y.offset]) y.offset) :
    ∃ t, ((Tailing.start s f).run hap).1.track? p = some t ∧
      q (News.of p ((Tailing.start s f).run hap).2)
        (t.offset?.getD ((Limits.ofSettings s).anchorOf (Happening.of p hap))) := by
  obtain ⟨htrack, hnews⟩ := Tailing.run_track (Tailing.start_follows hs hf)
    (Tailing.track?_start s f hp) hap
  rw [hnews]
  refine ⟨_, htrack, ?_⟩
  have quiet : ∀ k, q (List.replicate k .quiet)
      ((Limits.ofSettings s).anchorOf (Happening.of p hap)) := by
    intro k
    induction k with
    | zero => exact start
    | succ k ih =>
      rw [List.replicate_succ']
      exact blank ih trivial
  rcases Track.fresh_run (s.rules f hs hf) (fun _ _ _ h => h) hgrow with
    ⟨k, hrun⟩ | ⟨k, modified, size, head, rest, hsize, hhead, hrest, hanchor, hrun⟩
  · rw [hrun]
    exact quiet k
  · change (Limits.ofSettings s).anchorOf (Happening.of p hap) = _ at hanchor
    rw [hanchor] at quiet ⊢
    rw [hrun]
    obtain ⟨n', last, o, h, hq⟩ := Track.run_along
      (p := fun n t news => ∃ last o, Advancing (s.rules f hs hf) full
        ((s.rules f hs hf).limits.anchor ⟨false, size, size⟩) n t news last o ∧ q news o)
      (fun ⟨_, _, h, hq⟩ hm hturn => by
        rcases h.turn hlim hm hturn with
          ⟨hblank, last, h'⟩ | ⟨c, w, bytes, y, hplanned, hhaul, hy, rfl, h'⟩
        · exact ⟨last, _, h', blank hq hblank⟩
        · exact ⟨_, _, h', taken hq hplanned hhaul hy⟩)
      _ hrest ⟨_, _, Advancing.baseline (s.rules f hs hf) modified hsize hhead _, quiet k⟩
    rw [← h.getD_offset] at hq
    exact hq

end FileTail
