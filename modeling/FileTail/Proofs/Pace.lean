import Mathlib.Data.List.Chain
import FileTail.Proofs.Delivery
import FileTail.Proofs.Visit

/-!
# FileTail.Proofs.Pace

A file that grows slowly enough is never behind by more than one read. What a cycle without faults
leaves unread is less than the longest line, less than the smallest read, or less than the smallest
file that is read (`Abreast.behind`). If the file grows by no more than the rest of a full read until
the next cycle, then a single read gets all of it.

* `LineFormat.AllDelivered`: no complete line up to a size is missing.
* `Abreast.visit`: one cycle.
* `Abreast.last_visit`: the last cycle of a run, with what was unread before it.
* `pace_loses_nothing`: the whole run, from the first look at the file on.
-/

namespace FileTail

/-- `lines` are all complete lines between the anchor and `size`. -/
def LineFormat.AllDelivered (f : LineFormat) (full : Bytes) (anchor size : Nat)
    (lines : List String) : Prop :=
  ∃ o, f.Delivered full anchor o lines ∧ o ≤ size ∧ ¬ f.HasDelimiter (full.between o size)

namespace News

/-- At most one full read is left to read, and neither its start is given up nor its end put off. -/
def InPace (maxRead : Nat) : News → Prop
  | planned c o plan =>
    c.size - o ≤ maxRead ∧ ∀ w, plan = .read w → w.midLine = false ∧ w.backlog = false
  | taken _ _ _ skipped _ => skipped = 0
  | _ => True

theorem InPace.skipped {n : News} {maxRead : Nat} (h : n.InPace maxRead) : n.skipped = 0 := by
  cases n with
  | taken _ _ _ _ _ => exact h
  | _ => rfl

theorem inPace_append {maxRead : Nat} {before : List News} {m n : News}
    (h : ∀ x ∈ before, x.InPace maxRead) (hm : m.InPace maxRead) (hn : n.InPace maxRead) :
    ∀ x ∈ before ++ [m, n], x.InPace maxRead := by
  intro x hx
  simp only [List.mem_append, List.mem_cons, List.not_mem_nil, or_false] at hx
  rcases hx with hx | rfl | rfl
  · exact h x hx
  · exact hm
  · exact hn

end News

/-- After a visit `v` less than `most` bytes are left unread. Before it reading had got to `b`. -/
structure Abreast (r : Rules) (full : Bytes) (anchor most b : Nat) (v : Visit) (t : Track)
    (news : List News) (last : Fingerprint) (o : Nat) : Prop
    extends Growing r full v.read t.record t.offset? last o where
  idle : t.reading? = none
  seen : last.size = v.size
  offset : t.offset?.getD anchor = o
  delivered : r.format.Delivered full anchor o (news.flatMap News.lines)
  forward : b ≤ o
  upTo : o ≤ v.size
  behind : v.size < o + most
  /-- Where `most` is more than a full read the file may not grow, so that nothing is unread. -/
  level : r.limits.maxRead < most → v.size ≤ o
  inPace : ∀ x ∈ news, x.InPace r.limits.maxRead
  /-- Of what was large enough for a read, no more is left than the start of a line. -/
  complete : r.limits.minFile ≤ v.size → r.limits.minRead ≤ v.size - b →
    ¬ r.format.HasDelimiter (full.between o v.size)

/-- `v` comes after `u`, and from the size that `u` saw to the one that `v` sees the file grows by at
most `growth`. -/
structure Visit.Next (growth : Nat) (u v : Visit) : Prop where
  later : u.read ≤ v.size
  growth_le : v.size - u.size ≤ growth

/-- A file that is read from its end is read from where it ended at the first visit. -/
theorem Limits.anchorOf_visits {l : Limits} (hend : l.startAt = .fileEnd) (full : Bytes)
    {visits : List Visit} {u : Visit} (h : u ∈ visits.head?) :
    l.anchorOf (visits.flatMap (Visit.moments full)) = u.size := by
  cases visits with
  | nil => cases h
  | cons v visits =>
    cases h
    rw [List.flatMap_cons, Visit.moments, List.cons_append, anchorOf_seen]
    simp [anchor, hend, Visit.seen]

namespace Abreast

variable {r : Rules} {full : Bytes} {anchor most b o : Nat} {u v : Visit} {t t' : Track}
  {news before : List News} {last : Fingerprint}

/-- The first visit of a file that is read from its end. -/
theorem baseline (hend : r.limits.startAt = .fileEnd) (hv : v.Within full) (hmost : 0 < most) :
    Abreast r full v.size most v.size v (Track.run r .fresh (v.moments full)).1
      (Track.run r .fresh (v.moments full)).2 (v.seen full) v.size := by
  have hanchor : r.limits.anchor ⟨false, v.size, v.size⟩ = v.size := by
    simp [Limits.anchor, hend]
  have hgrowing := Growing.baseline r v.modified hv.size_le hv.head_le_length
  rw [hanchor] at hgrowing
  have hrun : Track.run r .fresh (v.moments full) =
      (⟨⟨some (v.seen full), FileRecord.fresh.handed r.chunk? v.size, false⟩, none, none⟩,
        [.quiet, .quiet]) := by
    simp only [Visit.moments, Track.run]
    rw [Track.fresh_seen]
    rfl
  rw [hrun]
  exact
    { hgrowing.later hv.head_le hv.read_le with
      idle := rfl
      seen := rfl
      offset := rfl
      delivered := .inl ⟨rfl, rfl⟩
      forward := Nat.le_refl _
      upTo := Nat.le_refl _
      behind := Nat.lt_add_of_pos_right hmost
      level := fun _ => Nat.le_refl _
      inPace := by simp [News.InPace]
      complete := fun _ _ => LineFormat.not_hasDelimiter_between r.delimiter_ne full (Nat.le_refl _) }

/-- What is unread at the next visit is less than a full read. -/
theorem unread_lt (h : Abreast r full anchor most b u t before last o)
    (hnext : u.Next (r.limits.maxRead - most) v) : v.size < o + r.limits.maxRead := by
  have hbehind := h.behind
  have hgrowth := hnext.growth_le
  have hpos := r.maxRead_pos
  rcases Nat.lt_or_ge r.limits.maxRead most with hlt | hge
  · have := h.level hlt
    omega
  · omega

theorem unread_zero (h : Abreast r full anchor most b u t before last o)
    (hnext : u.Next (r.limits.maxRead - most) v) (hlt : r.limits.maxRead < most) : v.size ≤ o := by
  have hlevel := h.level hlt
  have hgrowth := hnext.growth_le
  omega

theorem unchanged (h : Abreast r full anchor most b u t before last o) (hchunk : r.chunk? = none)
    (hnext : u.Next (r.limits.maxRead - most) v) (hv : v.Within full) {record : FileRecord}
    (hlook : t.record.look r.chunk? (v.seen full) = (record, none)) :
    Abreast r full anchor most o v ⟨record, t.offset?, none⟩ (before ++ [.quiet, .quiet]) last o := by
  have hread : u.read ≤ v.read :=
    Nat.le_trans hnext.later (Nat.le_trans hv.size_le hv.head_le)
  have hsize : v.size = u.size := by
    obtain ⟨hnone, -⟩ | ⟨last', hlast, -, hreported, -, -⟩ := FileRecord.look_quiet hlook
    · rw [h.recorded] at hnone
      cases hnone
    · rw [h.recorded] at hlast
      cases hlast
      rw [hchunk] at hreported
      exact hreported.trans h.seen
  have hlines : (before ++ [News.quiet, .quiet]).flatMap News.lines = before.flatMap News.lines := by
    simp [News.lines]
  exact
    { (h.toGrowing.unchanged hlook).later hread hv.read_le with
      idle := rfl
      seen := h.seen.trans hsize.symm
      offset := h.offset
      delivered := by
        rw [hlines]
        exact h.delivered
      forward := Nat.le_refl _
      upTo := hsize ▸ h.upTo
      behind := hsize ▸ h.behind
      level := fun hlt => hsize ▸ h.level hlt
      inPace := News.inPace_append h.inPace trivial trivial
      complete := fun hfile hread => by
        -- what is worth a read now was so at the visit before
        have hforward := h.forward
        rw [hsize] at hfile hread ⊢
        exact h.complete hfile (by omega) }

theorem skipped (h : Abreast r full anchor most b u t before last o) (hchunk : r.chunk? = none)
    (hlim : full.length ≤ Word.limit) (hmost : r.limits.minRead ≤ most)
    (hfile : r.limits.minFile ≤ most) (hnext : u.Next (r.limits.maxRead - most) v)
    (hv : v.Within full) {record : FileRecord} {c : Change} {o' : Nat} {verdict : Verdict}
    (hlook : t.record.look r.chunk? (v.seen full) = (record, some c))
    (hplan : r.limits.plan r.format.width t.offset? c = (o', .skip verdict)) :
    Abreast r full anchor most o v ⟨record.conclude verdict, some o', none⟩
      (before ++ [.planned c o' (.skip verdict), .quiet])
      ⟨v.modified, c.size, .ofBytes (full.take v.head)⟩ o' := by
  obtain ⟨hrep, -, hc, -, hresume, hg⟩ := h.toGrowing.changed hlim hnext.later hv.size_le
    hv.head_le_length hlook
  rw [hchunk] at hc
  have hsize : c.size = v.size := hc
  obtain ⟨rfl, ⟨htrue, -⟩ | ⟨-, -, hsmall⟩⟩ := Limits.plan_skip hplan
  · rw [hrep] at htrue
    cases htrue
  · rw [hresume] at hsmall ⊢
    have hunread := h.unread_lt hnext
    have hupTo := h.upTo
    have hbehind := h.behind
    have hlines : (before ++ [News.planned c o (.skip verdict), .quiet]).flatMap News.lines =
        before.flatMap News.lines := by
      simp [News.lines]
    exact
      { (hg.concluded verdict).later hv.head_le hv.read_le with
        idle := rfl
        seen := hsize
        offset := rfl
        delivered := by
          rw [hlines]
          exact h.delivered
        forward := Nat.le_refl _
        upTo := Nat.le_trans h.reached hnext.later
        behind := by omega
        level := h.unread_zero hnext
        inPace := News.inPace_append h.inPace ⟨by omega, fun w hw => by cases hw⟩ trivial
        -- a plan that passes both guards and still reads nothing finds nothing unread
        complete := fun _ _ => LineFormat.not_hasDelimiter_between r.delimiter_ne full (by omega) }

theorem taken (h : Abreast r full anchor most b u t before last o) (hchunk : r.chunk? = none)
    (hlim : full.length ≤ Word.limit) {size : Nat} (hmost : size ≤ most)
    (hwindow : ∀ i, (i = anchor ∨ r.format.LineStart full anchor i) → i + size ≤ full.length →
      r.format.HasDelimiter (full.between i (i + size)))
    (hnext : u.Next (r.limits.maxRead - most) v) (hv : v.Within full) {record : FileRecord}
    {c : Change} {o' : Nat} {w : Window} {y : Harvest}
    (hlook : t.record.look r.chunk? (v.seen full) = (record, some c))
    (hplan : r.limits.plan r.format.width t.offset? c = (o', .read w))
    (hy : r.limits.harvest r.format o' w (v.answer full w) = y) :
    Abreast r full anchor most o v ⟨record.conclude y.verdict, some y.offset, none⟩
      (before ++ [.planned c o' (.read w), .taken w (v.answer full w) y.lines y.skipped y.offset])
      ⟨v.modified, c.size, .ofBytes (full.take v.head)⟩ y.offset := by
  obtain ⟨-, -, hc, -, hresume, hg⟩ := h.toGrowing.changed hlim hnext.later hv.size_le
    hv.head_le_length hlook
  rw [hchunk] at hc
  have hsize : c.size = v.size := hc
  obtain ⟨rfl, -, -, hunread, -, hw⟩ := Limits.plan_read hplan
  rw [hresume] at hunread hw hy ⊢
  have hlt := h.unread_lt hnext
  have hle := hv.size_le_length
  -- a single read of all that is unread
  have hall : w = ⟨o, v.size - o, false, false⟩ := by
    rw [hw, Limits.window_slow (by omega) (by omega), hsize, Nat.min_eq_right (by omega)]
    simp only [Window.mk.injEq, true_and, decide_eq_false_iff_not]
    omega
  subst hall
  have hlen : (v.answer full ⟨o, v.size - o, false, false⟩).length = v.size - o :=
    Visit.length_answer hv (by simp only; omega)
  obtain ⟨hpre, -, -⟩ := prefix_of_answer (List.prefix_refl
    (v.answer full ⟨o, v.size - o, false, false⟩))
  obtain ⟨hdelivered, hlow, hhigh⟩ := h.delivered.harvest
    (w := ⟨o, v.size - o, false, false⟩) (fun hfull => by omega) rfl rfl (by omega) hpre
  have hno := r.limits.harvest_fragment (w := ⟨o, v.size - o, false, false⟩) r.delimiter_ne o hpre
  rw [hy] at hdelivered hlow hhigh hno
  rw [show (⟨o, v.size - o, false, false⟩ : Window).position +
    (v.answer full ⟨o, v.size - o, false, false⟩).length = v.size by simp only; omega] at hno
  have hfragment := LineFormat.fragment_lt r.delimiter_ne
    (hwindow y.offset hdelivered.line_start) hle hno
  have hskipped : y.skipped = 0 := by
    rw [← hy]
    exact Limits.harvest_skipped rfl o _
  have hreached : y.offset ≤ v.head := by
    have := hv.size_le
    omega
  exact
    { ((hg.concluded y.verdict).moved hreached (fun hch => by rw [hchunk] at hch; cases hch)).later
        hv.head_le hv.read_le with
      idle := rfl
      seen := hsize
      offset := rfl
      delivered := by simpa [News.lines] using hdelivered
      forward := hlow
      upTo := by omega
      behind := by omega
      level := fun hless => by
        have := h.unread_zero hnext hless
        omega
      inPace := by
        refine News.inPace_append h.inPace ⟨by omega, fun w hw => ?_⟩ hskipped
        cases hw
        exact ⟨rfl, rfl⟩
      complete := fun _ _ => hno }

/-- Each visit that comes soon enough keeps abreast of the file. -/
theorem visit (h : Abreast r full anchor most b u t before last o) (hchunk : r.chunk? = none)
    (hlim : full.length ≤ Word.limit) {size : Nat}
    (hmost : max size (max r.limits.minRead r.limits.minFile) ≤ most)
    (hwindow : ∀ i, (i = anchor ∨ r.format.LineStart full anchor i) → i + size ≤ full.length →
      r.format.HasDelimiter (full.between i (i + size)))
    (hnext : u.Next (r.limits.maxRead - most) v) (hv : v.Within full)
    (hvisit : Visited r full t v t' news) :
    ∃ last' o', Abreast r full anchor most o v t' (before ++ news) last' o' := by
  cases hvisit with
  | unchanged hlook => exact ⟨last, o, h.unchanged hchunk hnext hv hlook⟩
  | skipped hlook hplan =>
    exact ⟨_, _, h.skipped hchunk hlim (by omega) (by omega) hnext hv hlook hplan⟩
  | taken hlook hplan hy =>
    exact ⟨_, _, h.taken hchunk hlim (by omega) hwindow hnext hv hlook hplan hy⟩

theorem allDelivered (h : Abreast r full anchor most b v t news last o)
    (hfile : r.limits.minFile ≤ v.size) (hread : r.limits.minRead ≤ v.size - b) :
    r.format.AllDelivered full anchor v.size (news.flatMap News.lines) :=
  ⟨o, h.delivered, h.upTo, h.complete hfile hread⟩

/-- The last visit of a file that is visited soon enough each time. -/
theorem last_visit (hend : r.limits.startAt = .fileEnd) (hchunk : r.chunk? = none)
    (hlim : full.length ≤ Word.limit) {size : Nat}
    (hmost : max size (max r.limits.minRead r.limits.minFile) ≤ most)
    (hwindow : ∀ i, (i = anchor ∨ r.format.LineStart full anchor i) → i + size ≤ full.length →
      r.format.HasDelimiter (full.between i (i + size))) {visits : List Visit}
    (hfirst : ∀ first ∈ (visits ++ [v]).head?, first.size = anchor)
    (hnext : (visits ++ [v]).IsChain (Visit.Next (r.limits.maxRead - most)))
    (hwithin : ∀ u ∈ visits ++ [v], u.Within full)
    (hrun : Track.run r .fresh (visits.flatMap (Visit.moments full)) = (t, before)) :
    v.size ≤ t.offset?.getD anchor + r.limits.maxRead ∧
      ∃ last o, Abreast r full anchor most (t.offset?.getD anchor) v (t.run r (v.moments full)).1
        (before ++ (t.run r (v.moments full)).2) last o := by
  induction visits using List.reverseRecOn generalizing v t before with
  | nil =>
    cases hrun
    have hv := hwithin v List.mem_cons_self
    obtain rfl : v.size = anchor := hfirst v rfl
    -- no delimiter fits in a window without bytes
    have hpos : 0 < size := by
      refine Nat.pos_of_ne_zero fun hzero => ?_
      exact LineFormat.not_hasDelimiter_between r.delimiter_ne full (by omega)
        (hwindow v.size (.inl rfl) (hzero ▸ hv.size_le_length))
    exact ⟨Nat.le_add_right _ _, _, _, baseline hend hv (by omega)⟩
  | append_singleton visits u ih =>
    rw [List.flatMap_append, List.flatMap_singleton, Track.run_append] at hrun
    cases hrun
    have hfirst' : ∀ first ∈ (visits ++ [u]).head?, first.size = anchor := by
      rwa [List.head?_append_of_ne_nil _ (by simp)] at hfirst
    obtain ⟨hnext', -, hlast⟩ := List.isChain_append.1 hnext
    obtain ⟨-, last, o, h⟩ :=
      ih hfirst' hnext' (fun x hx => hwithin x (List.mem_append_left _ hx)) rfl
    have hu : u.Next (r.limits.maxRead - most) v := hlast u (by simp) v rfl
    rw [h.offset]
    exact ⟨Nat.le_of_lt (h.unread_lt hu), h.visit hchunk hlim hmost hwindow hu
      (hwithin v (by simp)) (Track.visit r h.idle full v)⟩

end Abreast

/-- A growing file that is read from its end loses nothing as long as it grows from one probe to the
next by no more than a full read less the longest line, the smallest read or the smallest file,
whichever is more. All of the unread content is then got by each read; and after each cycle, if the
file was large enough and what was unread before the cycle enough for a read, all complete lines are
given up to the size that the cycle's probe saw. -/
theorem pace_loses_nothing {s : Settings} {f : LineFormat} {codecs : EastAsian → Codec}
    (hs : s.fault? = none) (hf : s.lineFormat? codecs = some f) (hsteps : s.inChunks = false)
    (hend : s.startAt = .fileEnd) {p : Path} (hp : p ∈ s.paths) {full : Bytes}
    (hlim : full.length ≤ Word.limit) {hap : List Happening} {visits : List Visit}
    (hvisits : Happening.of p hap = visits.flatMap (Visit.moments full))
    (hwithin : ∀ v ∈ visits, v.Within full) {anchor : Nat}
    (hanchor : (Limits.ofSettings s).anchorOf (Happening.of p hap) = anchor) {size : Nat}
    (hwindow : ∀ i, (i = anchor ∨ f.LineStart full anchor i) → i + size ≤ full.length →
      f.HasDelimiter (full.between i (i + size)))
    (hnext : visits.IsChain
      (Visit.Next (s.maxReadSize - max size (max s.minReadSize s.minFileSize))))
    {news : List News} (hnews : News.of p ((Tailing.start s f).run hap).2 = news) :
    (∀ c o plan, .planned c o plan ∈ news → c.size - o ≤ s.maxReadSize ∧
      ∀ w, plan = .read w → w.midLine = false ∧ w.backlog = false) ∧
    News.totalSkipped news = 0 ∧
    ∀ before cycle vs v, before ++ cycle <+: hap → vs ++ [v] <+: visits →
      Happening.of p before = vs.flatMap (Visit.moments full) →
      Happening.of p cycle = v.moments full →
      ∀ o, (((Tailing.start s f).run before).1.reader.offset? p).getD anchor = o →
        v.size - o ≤ s.maxReadSize ∧
        (s.minFileSize ≤ v.size → s.minReadSize ≤ v.size - o →
          f.AllDelivered full anchor v.size
            ((News.of p ((Tailing.start s f).run (before ++ cycle)).2).flatMap News.lines)) := by
  have hchunk : (s.rules f hs hf).chunk? = none := by
    simp [Settings.rules, Settings.chunk?, hsteps]
  have hvisit : ∀ vs v, vs ++ [v] <+: visits → ∀ t before,
      Track.run (s.rules f hs hf) .fresh (vs.flatMap (Visit.moments full)) = (t, before) →
      v.size ≤ t.offset?.getD anchor + s.maxReadSize ∧
        ∃ last o, Abreast (s.rules f hs hf) full anchor
          (max size (max s.minReadSize s.minFileSize)) (t.offset?.getD anchor) v
          (t.run (s.rules f hs hf) (v.moments full)).1
          (before ++ (t.run (s.rules f hs hf) (v.moments full)).2) last o := by
    rintro vs v ⟨later, rfl⟩ t before hrun
    refine Abreast.last_visit (r := s.rules f hs hf) hend hchunk hlim (Nat.le_refl _) hwindow
      (fun first hfirst => ?_) hnext.left_of_append
      (fun u hu => hwithin u (List.mem_append_left _ hu)) hrun
    rw [← hanchor, hvisits, Limits.anchorOf_visits hend full (u := first)]
    rwa [List.head?_append_of_ne_nil _ (by simp)]
  have hrun := Tailing.run_track (Tailing.start_follows hs hf) (Tailing.track?_start s f hp)
  have hinPace : ∀ x ∈ news, x.InPace s.maxReadSize := by
    rw [(hrun hap).2, hvisits] at hnews
    rcases List.eq_nil_or_concat' visits with rfl | ⟨vs, v, rfl⟩
    · subst hnews
      intro x hx
      cases hx
    · obtain ⟨-, last, o, h⟩ := hvisit vs v (List.prefix_refl _) _ _ rfl
      rw [List.flatMap_append, List.flatMap_singleton, Track.run_append] at hnews
      subst hnews
      exact h.inPace
  refine ⟨fun c o plan hx => hinPace _ hx,
    News.totalSkipped_eq_zero fun x hx => (hinPace x hx).skipped, ?_⟩
  rintro before cycle vs v - hpre hbefore hcycle o ho
  obtain ⟨hunread, last, o', h⟩ := hvisit vs v hpre _ _ rfl
  rw [(Tailing.track?_eq_some.1 (hrun before).1).2.1, hbefore] at ho
  rw [ho] at hunread h
  rw [(hrun (before ++ cycle)).2, Happening.of_append, hbefore, hcycle, Track.run_append]
  exact ⟨by omega, h.allDelivered⟩

/-- Three visits of a file of short lines, which grows by five bytes and then by three: after the last
one nothing but the start of a line is left. -/
theorem pace_loses_nothing_two_lines :
    let p : Path := .ofString "/a"
    let s : Settings := { Settings.default with paths := [p], maxReadSize := 8 }
    let f : LineFormat := .ofText .utf8 "\n"
    let full := Utf8.encode "x\nab\ncd\nef"
    let visits : List Visit := [⟨none, 2, 2, 2⟩, ⟨none, 7, 7, 7⟩, ⟨none, 10, 10, 10⟩]
    let hap := Happening.alone p (visits.flatMap (Visit.moments full))
    let news := News.of p ((Tailing.start s f).run hap).2
    News.totalSkipped news = 0 ∧ news.flatMap News.lines = ["ab", "cd"] ∧
      f.AllDelivered full 2 10 (news.flatMap News.lines) := by
  intro p s f full visits hap news
  have hl : full.length = 10 := by decide +kernel
  have hvisits : Happening.of p hap = visits.flatMap (Visit.moments full) := Happening.of_alone p _
  have hanchor : (Limits.ofSettings s).anchorOf (Happening.of p hap) = 2 := by decide +kernel
  have hwithin : ∀ v ∈ visits, v.Within full := by
    simp only [visits, List.mem_cons, List.not_mem_nil, or_false]
    rintro v (rfl | rfl | rfl)
    all_goals exact ⟨Nat.le_refl _, Nat.le_refl _, by simp [hl]⟩
  have hwindow : ∀ i, (i = 2 ∨ f.LineStart full 2 i) → i + 3 ≤ full.length →
      f.HasDelimiter (full.between i (i + 3)) := by
    intro i hi hend
    have hlow : 2 ≤ i := by
      rcases hi with rfl | hi
      · exact Nat.le_refl _
      · exact Nat.le_trans (LineFormat.le_textStart f full 2) hi.1
    have hcases : i = 2 ∨ i = 3 ∨ i = 4 ∨ i = 5 ∨ i = 6 ∨ i = 7 := by omega
    rcases hcases with rfl | rfl | rfl | rfl | rfl | rfl
    all_goals exact (LineFormat.hasDelimiter_iff (by decide +kernel)).2 (by decide +kernel)
  have hnext : visits.IsChain (Visit.Next (8 - max 3 (max s.minReadSize s.minFileSize))) :=
    .cons_cons ⟨by decide, by decide⟩ (.cons_cons ⟨by decide, by decide⟩ (.singleton _))
  have hf : s.lineFormat? = some f := Settings.lineFormat?_of_encoding (Encoding.ofLabel?_utf8 _)
  obtain ⟨-, hskipped, hcycle⟩ := pace_loses_nothing (by decide +kernel) hf rfl rfl
    (List.mem_singleton.2 rfl) (by decide +kernel) hvisits hwithin hanchor hwindow hnext rfl
  -- the last cycle, before which reading had got to 5
  let before := Happening.alone p ((visits.take 2).flatMap (Visit.moments full))
  let cycle := Happening.alone p (Visit.moments full ⟨none, 10, 10, 10⟩)
  obtain ⟨-, hlast⟩ := hcycle before cycle (visits.take 2) ⟨none, 10, 10, 10⟩ (List.prefix_refl hap)
    (List.prefix_refl visits) (Happening.of_alone p _) (Happening.of_alone p _) 5 (by decide +kernel)
  exact ⟨hskipped, by decide +kernel, hlast (by decide) (by decide)⟩

end FileTail
