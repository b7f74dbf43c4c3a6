import FileTail.Proofs.Delivery

/-!
# FileTail.Proofs.Replacement

A file whose content is replaced. The probe that finds the new content reports it whatever the size
and the time, and reads nothing yet, because the size may still be that of the old content. The next
probe that sees the file reports it again, and from then on the new content is delivered from its
start.

* `Track.step_replaced`, `Track.step_revisit`: the two probes.
* `replacement_restarts`: both of them, in any state that the old content left behind.
* `mark_hides_delimiter`: again a mark that is also the delimiter does not close a line.
-/

namespace FileTail

variable {r : Rules} {t : Track} {old seen : Fingerprint}

namespace Track

/-- A head that does not follow the recorded one is reported, whatever else was seen. -/
theorem step_replaced (hchunk : r.chunk? = none) (hidle : t.reading? = none)
    (hold : t.record.last = some old) (hother : seen.head.follows old.head = false) :
    t.step r (.probed (.seen seen)) =
      (⟨⟨some seen, t.record.handedOut, true⟩, some 0, none⟩,
        .planned ⟨true, seen.size, old.size⟩ 0 (.skip .revisit)) := by
  have hlook := FileRecord.look_later hold none seen
  simp only [hother, Bool.not_false, FileRecord.reported, FileRecord.handed, Option.isSome_none,
    Bool.false_eq_true, Bool.true_eq_false, false_and, and_false, if_false] at hlook
  simp only [step, see, hidle, hchunk, hlook, Limits.plan, if_true,
    Limits.resume_replaced (c := ⟨true, seen.size, old.size⟩) rfl]
  rfl

/-- A file that is to be revisited is reported by the next probe that sees it. -/
theorem step_revisit (hidle : t.reading? = none) (hlast : t.record.last = some old)
    (hrevisit : t.record.revisit = true) (seen : Fingerprint) :
    ∃ c plan, (t.step r (.probed (.seen seen))).2 =
      .planned c (r.limits.resume t.offset? c) plan := by
  obtain ⟨c, hlook, -, -⟩ := FileRecord.look_of_revisit hlast hrevisit r.chunk? seen
  refine ⟨c, (r.limits.plan r.format.width t.offset? c).2, ?_⟩
  simp only [step, hidle, see, hlook]
  rcases hplan : r.limits.plan r.format.width t.offset? c with ⟨o, v | w⟩
  · rw [(Limits.plan_skip hplan).1]
  · rw [(Limits.plan_read hplan).1]

end Track

/-- Behind the report of a replacement the new content is read from its start. -/
theorem Delivering.restart (hchunk : r.chunk? = none) {new : Bytes} {n : Nat}
    (hn : n ≤ new.length) (hhead : seen.head = .ofBytes (new.take n)) (handed : Option Nat) :
    Delivering r new 0 n ⟨⟨some seen, handed, true⟩, some 0, none⟩ [] seen 0 :=
  { grown := hn
    recorded := rfl
    head := ⟨n, Nat.le_refl _, hhead⟩
    handed := fun hch => by rw [hchunk] at hch; cases hch
    goesOn := rfl
    reached := Nat.zero_le _
    delivered := .inl ⟨rfl, rfl⟩
    unread := fun hnone => by cases hnone
    reading := fun w hw => by cases hw }

/-- Whatever the old content left behind, the first probe with a head that does not follow the
recorded one reports a replacement and moves the offset to the start, the next probe that sees the
file reports it again, and the lines given after that are those of the new content up to the
offset. -/
theorem replacement_restarts {s : Settings} {f : LineFormat} {codecs : EastAsian → Codec}
    (hs : s.fault? = none) (hf : s.lineFormat? codecs = some f) (hsteps : s.inChunks = false)
    {t : Tailing} (ht : Tailing.Reached s f t) {p : Path} {k : Track} (hk : t.track? p = some k)
    (hidle : k.reading? = none) {old : Fingerprint} (hold : k.record.last = some old)
    {between : List Happening}
    (hbetween : ∀ m ∈ Happening.of p between, ∀ seen, m ≠ .probed (.seen seen))
    {h : Happening} (hpath : h.path.key = p.key) {seen : Fingerprint}
    (hseen : h.moment = .probed (.seen seen)) {new : Bytes} {n : Nat} (hn : n ≤ new.length)
    (hlim : new.length ≤ Word.limit) (hhead : seen.head = .ofBytes (new.take n))
    (hother : seen.head.follows old.head = false) {found : Tailing} {news : News}
    (hfound : (t.run between).1.step h = (found, news)) :
    news = .planned ⟨true, seen.size, old.size⟩ 0 (.skip .revisit) ∧
    found.track? p = some ⟨⟨some seen, k.record.handedOut, true⟩, some 0, none⟩ ∧
    (∀ (waiting : List Happening) (g : Happening) (again : Fingerprint),
      (∀ m ∈ Happening.of p waiting, ∀ seen, m ≠ .probed (.seen seen)) →
      g.path.key = p.key → g.moment = .probed (.seen again) →
      ∃ c plan, ((found.run waiting).1.step g).2 = .planned c 0 plan) ∧
    ∀ after : List Happening, Along (Shows new) n (Happening.of p after) →
      (∀ unread ∈ (News.of p (found.run after).2).filterMap News.unread?,
        unread ≤ 2 * s.maxReadSize) →
      f.Dense s.maxReadSize new 0 →
      ∃ k' o, (found.run after).1.track? p = some k' ∧ k'.offset? = some o ∧
        f.Delivered new 0 o ((News.of p (found.run after).2).flatMap News.lines) := by
  have hchunk : (s.rules f hs hf).chunk? = none := by simp [Settings.rules, Settings.chunk?, hsteps]
  have hr := ht.follows hs hf
  -- nothing comes to pass before the file is seen again
  obtain ⟨hk₁, -⟩ := Tailing.run_track hr hk between
  rw [Track.run_unseen _ hidle hbetween] at hk₁
  have hr₁ := Tailing.run_follows hr between
  obtain ⟨hk₂, hnews⟩ := Tailing.step_track? hr₁ hk₁ hpath
  have hr₂ := Tailing.step_follows hr₁ h
  rw [hseen, Track.step_replaced hchunk hidle hold hother] at hk₂ hnews
  rw [hfound] at hk₂ hnews hr₂
  refine ⟨hnews, hk₂, ?_, ?_⟩
  · intro waiting g again hwaiting hg hagain
    obtain ⟨hk₃, -⟩ := Tailing.run_track hr₂ hk₂ waiting
    rw [Track.run_unseen _ rfl hwaiting] at hk₃
    obtain ⟨-, hnext⟩ := Tailing.step_track? (Tailing.run_follows hr₂ waiting) hk₃ hg
    obtain ⟨c, plan, hplan⟩ := Track.step_revisit (r := s.rules f hs hf)
      (t := ⟨⟨some seen, k.record.handedOut, true⟩, some 0, none⟩) rfl rfl rfl again
    refine ⟨c, plan, ?_⟩
    have hzero : (s.rules f hs hf).limits.resume (some 0) c = 0 := by simp [Limits.resume]
    rw [hnext, hagain, hplan, hzero]
  · intro after hgrow hslow hdense
    obtain ⟨hk₃, hnews₃⟩ := Tailing.run_track hr₂ hk₂ after
    rw [hnews₃] at hslow ⊢
    have hstart := Delivering.restart hchunk hn hhead k.record.handedOut
    obtain ⟨n', last, o, hd⟩ := hstart.run hlim hdense hgrow hslow
    obtain ⟨o', ho⟩ := Option.isSome_iff_exists.1
      (Track.run_offset (s.rules f hs hf) (t := ⟨⟨some seen, k.record.handedOut, true⟩, some 0, none⟩)
        rfl (Happening.of p after))
    rw [← hd.offset_eq ho] at hd
    exact ⟨_, o', hk₃, ho, hd.delivered⟩

/-- New content of the size and the time of the old one, with a probe that misses the file between
them. -/
theorem replacement_restarts_same_size :
    let p : Path := .ofString "/a"
    let s : Settings := { Settings.default with paths := [p], maxReadSize := 3 }
    let f : LineFormat := .ofText .utf8 "\n"
    let old : Fingerprint := ⟨none, 3, .ofBytes (Utf8.encode "ab\n")⟩
    let new := Utf8.encode "xy\nz"
    let seen : Fingerprint := ⟨none, 3, .ofBytes (new.take 3)⟩
    let t := ((Tailing.start s f).run (Happening.alone p [.probed (.seen old)])).1
    let between := Happening.alone p [.probed .missing]
    let h : Happening := ⟨default, p, .probed (.seen seen)⟩
    let found := ((t.run between).1.step h).1
    let news := ((t.run between).1.step h).2
    let after := Happening.alone p (Moment.cycles new [3, 4])
    let lines := (News.of p (found.run after).2).flatMap News.lines
    news = .planned ⟨true, 3, 3⟩ 0 (.skip .revisit) ∧ lines = ["xy"] ∧ f.Delivered new 0 3 lines := by
  intro p s f old new seen t between h found news after lines
  have hf : s.lineFormat? = some f := Settings.lineFormat?_of_encoding (Encoding.ofLabel?_utf8 _)
  have hk : t.track? p = some ⟨⟨some old, none, false⟩, none, none⟩ := by rfl
  have hgrow : Along (Shows new) 3 (Happening.of p after) :=
    (Happening.along_cycles p (by decide) (by decide +kernel)).mono fun _ _ _ => Serves.shows
  have hbetween : ∀ m ∈ Happening.of p between, ∀ seen, m ≠ .probed (.seen seen) := by
    rw [Happening.of_alone]
    simp
  have hdense : f.Dense 3 new 0 := by
    intro i _ hend
    have hl : new.length = 4 := by decide +kernel
    have hcases : i = 0 ∨ i = 1 := by omega
    rcases hcases with rfl | rfl
    all_goals exact (LineFormat.hasDelimiter_iff (by decide +kernel)).2 (by decide +kernel)
  obtain ⟨hnews, -, -, hafter⟩ := replacement_restarts (by decide +kernel) hf rfl ⟨_, rfl⟩ hk rfl
    rfl hbetween (h := h) rfl rfl (n := 3) (by decide +kernel) (by decide +kernel) rfl
    (by decide +kernel) (Prod.eta _).symm
  obtain ⟨k, o, hend, ho, hd⟩ := hafter after hgrow (by decide +kernel) hdense
  have hoffset : ((found.run after).1.track? p).map (·.offset?) = some (some 3) := by
    decide +kernel
  rw [hend, Option.map_some, ho] at hoffset
  cases hoffset
  exact ⟨hnews, by decide +kernel, hd⟩

/-- New content that begins with a mark which is also the delimiter: all reads of `maxReadSize` bytes
hold a delimiter, and still its first line is cut. -/
theorem mark_hides_delimiter :
    ¬ ∀ (s : Settings) (f : LineFormat) (t : Tailing) (p : Path) (k : Track) (old : Fingerprint)
        (h : Happening) (seen : Fingerprint) (new : Bytes) (n : Nat) (after : List Happening),
      s.fault? = none → s.lineFormat? = some f → s.inChunks = false → Tailing.Reached s f t →
      t.track? p = some k → k.reading? = none → k.record.last = some old → h.path.key = p.key →
      h.moment = .probed (.seen seen) → n ≤ new.length → new.length ≤ Word.limit →
      seen.head = .ofBytes (new.take n) → seen.head.follows old.head = false →
      Along (Shows new) n (Happening.of p after) →
      (∀ unread ∈ (News.of p ((t.step h).1.run after).2).filterMap News.unread?,
        unread ≤ 2 * s.maxReadSize) →
      (∀ i, (i = 0 ∨ f.LineStart new 0 i) → i + s.maxReadSize ≤ new.length →
        f.HasDelimiter (new.between i (i + s.maxReadSize))) →
      ∀ k' o, ((t.step h).1.run after).1.track? p = some k' → k'.offset? = some o →
        f.Delivered new 0 o ((News.of p ((t.step h).1.run after).2).flatMap News.lines) := by
  intro h
  let p : Path := .ofString "/a"
  let s : Settings :=
    { Settings.default with paths := [p], maxReadSize := 6, delimiter := "\uFEFF" }
  let old : Fingerprint := ⟨none, 1, .ofBytes (Utf8.encode "x")⟩
  let seen : Fingerprint := ⟨none, 8, .ofBytes (markFile.take 8)⟩
  let t := ((Tailing.start s markFormat).run (Happening.alone p [.probed (.seen old)])).1
  let after := Happening.alone p (Moment.cycles markFile [8])
  let found := (t.step ⟨default, p, .probed (.seen seen)⟩).1
  have hgrow : Along (Shows markFile) 8 (Happening.of p after) :=
    (Happening.along_cycles p (by decide) (by decide +kernel)).mono fun _ _ _ => Serves.shows
  have hoffset : ((found.run after).1.track? p).map (·.offset?) = some (some 6) := by
    decide +kernel
  obtain ⟨k', hk', ho⟩ := Option.map_eq_some_iff.1 hoffset
  have hf : s.lineFormat? = some markFormat :=
    Settings.lineFormat?_of_encoding (Encoding.ofLabel?_utf8 _)
  exact mark_cut (h s markFormat t p ⟨⟨some old, none, false⟩, none, none⟩ old
    ⟨default, p, .probed (.seen seen)⟩ seen markFile 8 after (by decide +kernel)
    hf rfl ⟨_, rfl⟩ rfl rfl rfl rfl rfl (by decide +kernel) (by decide +kernel)
    rfl (by decide +kernel) hgrow (by decide +kernel) mark_windows k' 6 hk' ho)

end FileTail
