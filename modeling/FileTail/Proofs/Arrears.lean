import FileTail.Proofs.Delivery

/-!
# FileTail.Proofs.Arrears

A growing file whose size is reported in steps of one full read. A read that ends within a line
leaves that line's start to the next read, and while the file stays ahead of the reader what is left
in this way adds up (`News.arrears`). The size moves by no more than a full read at a time, so unread
content is given up only once the arrears are more than a full read.

* `Stepping.turn`: what a moment without faults does to the arrears.
* `steps_lose_nothing`: arrears of at most a full read lose nothing, and while every step is a full
  one larger arrears lose something.
* `short_lines_lose_nothing`: with short lines, and few reads of a backlog in a row, that is so.
* `fragments_add_up`: else they can become larger, though each line fits in a full read.
-/

namespace FileTail

namespace News

/-- How many bytes of the reported size are unread, given how many were before: those of a size that
is not read yet, or the start of a line that a read has left, on top of what was unread before if it
was a read of a backlog. -/
def owe (owed : Nat) : News → Nat
  | planned c o (.skip _) => c.size - o
  | taken w bytes _ _ o => (if w.backlog then owed else 0) + (w.position + bytes.length - o)
  | _ => owed

def arrears (news : List News) : Nat := news.foldl owe 0

theorem arrears_append (news : List News) (n : News) :
    arrears (news ++ [n]) = owe (arrears news) n := by
  simp [arrears]

theorem arrears_replicate_quiet (k : Nat) : arrears (List.replicate k .quiet) = 0 := by
  induction k with
  | zero => rfl
  | succ k ih =>
    rw [List.replicate_succ', arrears_append, ih]
    rfl

/-- How many reads of a backlog there were since nothing but the start of a line was left. -/
def countBacklog (k : Nat) : News → Nat
  | planned _ _ (.skip _) => 0
  | taken w _ _ _ _ => if w.backlog then k + 1 else 0
  | _ => k

def backlogs (news : List News) : Nat := news.foldl countBacklog 0

theorem backlogs_append (news : List News) (n : News) :
    backlogs (news ++ [n]) = countBacklog (backlogs news) n := by
  simp [backlogs]

/-- A cycle without a read leaves at most `small` bytes, and a read at most `fragment`. -/
def Leaves (small fragment : Nat) : News → Prop
  | planned c o (.skip _) => c.size - o ≤ small
  | taken w bytes _ _ o => w.position + bytes.length - o ≤ fragment
  | _ => True

/-- All but the end of the unread content is given up. -/
def GivesUp : News → Prop
  | planned _ _ (.read w) => w.midLine = true
  | _ => False

/-- The reported size moved by a full step. -/
def FullStep (step : Nat) : News → Prop
  | planned c _ _ => c.size = c.before + step
  | _ => True

/-- Nothing is given up, because there is no more than two full reads. -/
def Calm (maxRead : Nat) : News → Prop
  | planned c o (.read w) => w.midLine = false ∧ c.size - o ≤ 2 * maxRead
  | taken _ _ _ skipped _ => skipped = 0
  | _ => True

theorem Calm.skipped {n : News} {maxRead : Nat} (h : n.Calm maxRead) : n.skipped = 0 := by
  cases n with
  | taken _ _ _ _ _ => exact h
  | _ => rfl

theorem Calm.unread_le {n : News} {maxRead : Nat} (h : n.Calm maxRead) :
    ∀ unread, n.unread? = some unread → unread ≤ 2 * maxRead := by
  intro unread hu
  cases n with
  | planned c o plan =>
    cases plan with
    | skip v => cases hu
    | read w => cases hu; exact h.2
  | _ => cases hu

/-- Content is given up only for large arrears, and for large arrears if all steps are full. -/
def Due (maxRead : Nat) (before : List News) : News → Prop
  | planned c o (.read w) =>
    (w.midLine = true → maxRead < arrears before) ∧
      ((∀ n ∈ before ++ [planned c o (.read w)], n.FullStep maxRead) →
        maxRead < arrears before → w.midLine = true)
  | _ => True

end News

/-- Of a growing file that is reported in steps, with its arrears. -/
structure Stepping (r : Rules) (full : Bytes) (n : Nat) (t : Track) (news : List News)
    (last : Fingerprint) (o : Nat) : Prop extends Growing r full n t.record t.offset? last o where
  idle : t.reading? = none → last.size ≤ o + News.arrears news ∧
    ((∀ x ∈ news, x.FullStep r.limits.maxRead) → last.size = o + News.arrears news)
  reading : ∀ w, t.reading? = some w → t.offset? = some o ∧ o < last.size ∧
    w = r.limits.window r.format.width o last.size ∧ w.midLine = false ∧
    last.size ≤ o + r.limits.maxRead + News.arrears news ∧
    ((∀ x ∈ news, x.FullStep r.limits.maxRead) →
      last.size = o + r.limits.maxRead + News.arrears news)

namespace Stepping

variable {r : Rules} {full : Bytes} {n n' o : Nat} {t t' : Track} {news : List News}
  {last : Fingerprint} {m : Moment} {x : News}

theorem started (h : Stepping r full n t news last o) (hchunk : r.chunk? = some r.limits.maxRead)
    (hlim : full.length ≤ Word.limit) (hidle : t.reading? = none) {modified : Option Int}
    {size head : Nat} (hn : n ≤ size) (hs : size ≤ head) (hh : head ≤ full.length)
    {record : FileRecord} {c : Change} {o' : Nat} {w : Window}
    (hlook : t.record.look r.chunk? ⟨modified, size, .ofBytes (full.take head)⟩ =
      (record, some c))
    (hplan : r.limits.plan r.format.width t.offset? c = (o', .read w)) :
    (News.planned c o' (.read w)).Due r.limits.maxRead news ∧
      (w.midLine = false → c.size - o' ≤ 2 * r.limits.maxRead ∧
        Stepping r full head ⟨record, some o', some w⟩ (news ++ [.planned c o' (.read w)])
          ⟨modified, c.size, .ofBytes (full.take head)⟩ o') := by
  obtain ⟨-, hbefore, hsize, hc, hresume, hg⟩ := h.changed hlim hn hs hh hlook
  obtain ⟨rfl, -, -, hunread, -, rfl⟩ := Limits.plan_read hplan
  obtain ⟨hidle, hexact⟩ := h.idle hidle
  obtain ⟨hhanded, -, hlast⟩ := h.handed (by rw [hchunk]; rfl)
  rw [hchunk, FileRecord.reported_grown _ hhanded (by omega) (by omega)] at hsize
  rw [hresume] at hunread ⊢
  -- how far the reported size is ahead of the offset
  have hahead : c.size ≤ o + r.limits.maxRead + News.arrears news := by omega
  have hfull : (∀ x ∈ news ++ [.planned c o (.read (r.limits.window r.format.width o c.size))],
      x.FullStep r.limits.maxRead) → c.size = o + r.limits.maxRead + News.arrears news := by
    intro hsteps
    have hstep : c.size = c.before + r.limits.maxRead :=
      hsteps (.planned c o (.read (r.limits.window r.format.width o c.size))) (by simp)
    have hprior := hexact fun x hx => hsteps x (by simp [hx])
    omega
  have hmid := r.limits.window_midLine r.format.width o c.size
  have hpatience : r.limits.patience = min (r.limits.maxRead * 2) Word.limit := rfl
  refine ⟨⟨fun hgives => ?_, fun hsteps hmany => ?_⟩, fun hcalm => ⟨?_, ?_⟩⟩
  · rw [hmid] at hgives
    omega
  · have := hfull hsteps
    rw [hmid]
    omega
  · have hnot : ¬ r.limits.patience < c.size - o := by rw [← hmid, hcalm]; simp
    omega
  · exact { hg with
      idle := fun hnone => by cases hnone
      reading := fun w hw => by
        cases hw
        refine ⟨rfl, by simp only; omega, rfl, hcalm, ?_, fun hsteps => ?_⟩
        · rw [News.arrears_append]
          exact hahead
        · rw [News.arrears_append]
          exact hfull hsteps }

theorem skipped (h : Stepping r full n t news last o) (hlim : full.length ≤ Word.limit)
    {modified : Option Int} {size head : Nat} (hn : n ≤ size) (hs : size ≤ head)
    (hh : head ≤ full.length) {record : FileRecord} {c : Change} {o' : Nat} {v : Verdict}
    (hlook : t.record.look r.chunk? ⟨modified, size, .ofBytes (full.take head)⟩ =
      (record, some c))
    (hplan : r.limits.plan r.format.width t.offset? c = (o', .skip v)) :
    Stepping r full head ⟨record.conclude v, some o', none⟩
      (news ++ [.planned c o' (.skip v)]) ⟨modified, c.size, .ofBytes (full.take head)⟩ o' := by
  obtain ⟨-, -, -, -, hresume, hg⟩ := h.changed hlim hn hs hh hlook
  obtain ⟨rfl, -⟩ := Limits.plan_skip hplan
  have hle := r.limits.resume_le t.offset? c
  rw [hresume] at hle ⊢
  have howed : c.size = o + News.arrears (news ++ [.planned c o (.skip v)]) := by
    rw [News.arrears_append, News.owe]
    omega
  exact { hg.concluded v with
    idle := fun _ => ⟨Nat.le_of_eq howed, fun _ => howed⟩
    reading := fun w hw => by cases hw }

/-- A read without faults gets all it asked for, so the arrears grow by no more than the start of a
line. -/
theorem taken (h : Stepping r full n t news last o) (hlim : full.length ≤ Word.limit)
    (hchunk : r.chunk? = some r.limits.maxRead) {w : Window} (hreading : t.reading? = some w)
    {bytes : Bytes} (hbytes : bytes = ((full.take n).drop w.position).take w.length)
    {y : Harvest} (hy : r.limits.harvest r.format o w bytes = y) :
    y.skipped = 0 ∧
      Stepping r full n ⟨t.record.conclude y.verdict, some y.offset, none⟩
        (news ++ [.taken w bytes y.lines y.skipped y.offset]) last y.offset := by
  obtain ⟨-, hunread, hw, hmid, hahead, hfull⟩ := h.reading w hreading
  obtain ⟨-, -, hlast⟩ := h.handed (by rw [hchunk]; rfl)
  have hgrown := h.grown
  have hslow : last.size - o ≤ 2 * r.limits.maxRead := by
    have hpatience : r.limits.patience = min (r.limits.maxRead * 2) Word.limit := rfl
    have hnot : ¬ r.limits.patience < last.size - o := by
      rw [← r.limits.window_midLine r.format.width, ← hw, hmid]
      simp
    omega
  have hwindow : r.limits.window r.format.width o last.size = _ :=
    Limits.window_slow hslow (by omega)
  rw [hwindow] at hw
  subst hw
  have hlen : bytes.length = min r.limits.maxRead (last.size - o) := by
    rw [hbytes]
    simp only [List.length_take, List.length_drop]
    omega
  obtain ⟨rest, -, hoff, -⟩ := r.limits.harvest_rest r.delimiter_ne o
    ⟨o, min r.limits.maxRead (last.size - o), false, decide (r.limits.maxRead < last.size - o)⟩
    bytes
  rw [hy] at hoff
  simp only at hoff
  -- all that was unread before a backlog stays in arrears
  have howed : News.arrears (news ++ [.taken ⟨o, min r.limits.maxRead (last.size - o), false,
      decide (r.limits.maxRead < last.size - o)⟩ bytes y.lines y.skipped y.offset]) =
      (if r.limits.maxRead < last.size - o then News.arrears news else 0) + rest.length := by
    rw [News.arrears_append, News.owe]
    simp only [decide_eq_true_eq]
    omega
  have hskipped : y.skipped = 0 := by
    rw [← hy]
    exact Limits.harvest_skipped rfl o bytes
  refine ⟨hskipped, ?_⟩
  exact { (h.concluded y.verdict).moved (by omega) (fun _ => by omega) with
    idle := fun _ => by
      rw [howed]
      split
      · refine ⟨by omega, fun hsteps => ?_⟩
        have := hfull fun x hx => hsteps x (List.mem_append_left _ hx)
        omega
      · exact ⟨by omega, fun _ => by omega⟩
    reading := fun w hw => by cases hw }

/-- The first look at a file that is read from its end. -/
theorem baseline (hend : r.limits.startAt = .fileEnd) (modified : Option Int) {size head : Nat}
    (hs : size ≤ head) (hh : head ≤ full.length) (hzero : News.arrears news = 0) :
    Stepping r full head
      ⟨⟨some ⟨modified, size, .ofBytes (full.take head)⟩, FileRecord.fresh.handed r.chunk? size,
        false⟩, none, none⟩ news
      ⟨modified, size, .ofBytes (full.take head)⟩ (r.limits.anchor ⟨false, size, size⟩) := by
  have hanchor : r.limits.anchor ⟨false, size, size⟩ = size := by simp [Limits.anchor, hend]
  exact { Growing.baseline r modified hs hh with
    idle := fun _ => by
      rw [hanchor, hzero]
      exact ⟨Nat.le_refl _, fun _ => rfl⟩
    reading := fun w hw => by cases hw }

theorem quiet (h : Stepping r full n t news last o) :
    Stepping r full n t (news ++ [.quiet]) last o := by
  have howed : News.arrears (news ++ [.quiet]) = News.arrears news := News.arrears_append news .quiet
  exact { h with
    idle := fun hidle => by
      rw [howed]
      exact ⟨(h.idle hidle).1, fun hsteps => (h.idle hidle).2 fun x hx => hsteps x (by simp [hx])⟩
    reading := fun w hw => by
      rw [howed]
      obtain ⟨ho, hunread, hwindow, hmid, hahead, hfull⟩ := h.reading w hw
      exact ⟨ho, hunread, hwindow, hmid, hahead,
        fun hsteps => hfull fun x hx => hsteps x (by simp [hx])⟩ }

/-- Each moment without faults keeps account of the arrears, unless it gives content up, and it does
so only when it is due. -/
theorem turn (h : Stepping r full n t news last o) (hchunk : r.chunk? = some r.limits.maxRead)
    (hlim : full.length ≤ Word.limit) (hm : Serves full n m n') (hturn : Turn r t m t' x) :
    x.Due r.limits.maxRead news ∧ (¬ x.GivesUp →
      x.Calm r.limits.maxRead ∧ ∃ last' o', Stepping r full n' t' (news ++ [x]) last' o') := by
  have hgrow := hm.shows.le h.grown
  have hl : Growing r full n' t.record t.offset? last o := h.later hgrow.1 hgrow.2
  have hlater : Stepping r full n' t news last o :=
    { hl with idle := h.idle, reading := h.reading }
  cases hturn with
  | ignored => exact ⟨trivial, fun _ => ⟨trivial, last, o, hlater.quiet⟩⟩
  | @unchanged _ record hidle hlook =>
    have hnext : Stepping r full n' ⟨record, t.offset?, none⟩ news last o :=
      { hl.unchanged hlook with
        idle := fun _ => h.idle hidle
        reading := fun w hw => by cases hw }
    exact ⟨trivial, fun _ => ⟨trivial, last, o, hnext.quiet⟩⟩
  | skipped _ hlook hplan =>
    cases hm with
    | seen h₁ h₂ h₃ =>
      exact ⟨trivial, fun _ => ⟨trivial, _, _, h.skipped hlim h₁ h₂ h₃ hlook hplan⟩⟩
  | started hidle hlook hplan =>
    cases hm with
    | seen h₁ h₂ h₃ =>
      obtain ⟨hdue, hcalm⟩ := h.started hchunk hlim hidle h₁ h₂ h₃ hlook hplan
      refine ⟨hdue, fun hgives => ?_⟩
      obtain ⟨hslow, hnext⟩ := hcalm (by simpa [News.GivesUp] using hgives)
      exact ⟨⟨by simpa [News.GivesUp] using hgives, hslow⟩, _, _, hnext⟩
  | failed _ hanswer =>
    cases hm with
    | fetched _ _ hserves =>
      rw [hserves] at hanswer
      cases hanswer
  | lost hreading _ hnone =>
    obtain ⟨ho, -⟩ := h.reading _ hreading
    rw [hnone] at ho
    cases ho
  | taken hreading hanswer ho' hy =>
    obtain ⟨ho, -⟩ := h.reading _ hreading
    rw [ho] at ho'
    cases ho'
    cases hm with
    | fetched _ _ hserves =>
      rw [hserves] at hanswer
      cases hanswer
      obtain ⟨hskipped, hnext⟩ := hlater.taken hlim hchunk hreading rfl hy
      exact ⟨trivial, fun _ => ⟨hskipped, _, _, hnext⟩⟩

end Stepping

/-! ## Runs -/

/-- The account of a whole run. -/
structure Accounted (r : Rules) (full : Bytes) (n : Nat) (t : Track) (news : List News) : Prop where
  due : ∀ before x, before ++ [x] <+: news → (∀ y ∈ before, ¬ y.GivesUp) →
    x.Due r.limits.maxRead before
  calm : (∀ x ∈ news, ¬ x.GivesUp) →
    (∃ last o, Stepping r full n t news last o) ∧ ∀ x ∈ news, x.Calm r.limits.maxRead

namespace Accounted

variable {r : Rules} {full : Bytes} {n n' : Nat} {t t' : Track} {news : List News} {m : Moment}
  {x : News}

theorem turn (h : Accounted r full n t news) (hchunk : r.chunk? = some r.limits.maxRead)
    (hlim : full.length ≤ Word.limit) (hm : Serves full n m n') (hturn : Turn r t m t' x) :
    Accounted r full n' t' (news ++ [x]) where
  due before y hpre hgives := by
    rcases List.prefix_concat_iff.1 hpre with heq | hpre
    · obtain ⟨rfl, hy⟩ := List.append_inj' heq rfl
      cases hy
      obtain ⟨⟨last, o, hstepping⟩, -⟩ := h.calm hgives
      exact (hstepping.turn hchunk hlim hm hturn).1
    · exact h.due before y hpre hgives
  calm hgives := by
    obtain ⟨⟨last, o, hstepping⟩, hcalm⟩ :=
      h.calm fun y hy => hgives y (List.mem_append_left _ hy)
    obtain ⟨hx, hnext⟩ := (hstepping.turn hchunk hlim hm hturn).2 (hgives x (by simp))
    refine ⟨hnext, fun y hy => ?_⟩
    rcases List.mem_append.1 hy with hy | hy
    · exact hcalm y hy
    · rw [List.mem_singleton.1 hy]
      exact hx

end Accounted

/-! ## Short lines -/

theorem Delivering.leaves {r : Rules} {full : Bytes} {anchor n n' o : Nat} {t t' : Track}
    {lines : List String} {last : Fingerprint} {m : Moment} {x : News}
    (h : Delivering r full anchor n t lines last o) (hlim : full.length ≤ Word.limit) {size : Nat}
    (hsize : 0 < size) (hle : size ≤ r.limits.maxRead) (hdense : r.format.Dense size full anchor)
    (hmin : r.limits.minFile ≤ 1) (hm : Shows full n m n') (hturn : Turn r t m t' x) :
    x.Leaves (max size r.limits.minRead - 1) (size - 1) := by
  cases hturn with
  | @skipped seen _ _ _ _ _ hlook hplan =>
    cases hm with
    | unseen hs => exact absurd rfl (hs seen)
    | seen h₁ h₂ h₃ =>
      obtain ⟨hrep, -⟩ := h.changed hlim h₁ h₂ h₃ hlook
      obtain ⟨-, ⟨htrue, -⟩ | ⟨-, -, hsmall⟩⟩ := Limits.plan_skip hplan
      · rw [hrep] at htrue
        cases htrue
      · simp only [News.Leaves]
        omega
  | @taken answer w bytes o' y hreading hanswer ho' hy =>
    obtain ⟨ho, hpos, -, -⟩ := h.reading w hreading
    rw [ho] at ho'
    cases ho'
    cases hm with
    | fetched h₁ h₂ hbytes =>
      have hmaxdense := hdense.mono r.delimiter_ne hle
      have hlater : Delivering r full anchor n' t lines last o :=
        { h.later h₁ h₂ with delivered := h.delivered, unread := h.unread, reading := h.reading }
      have htaken := hlater.taken hmaxdense hreading (hbytes w bytes hanswer)
      obtain ⟨hpre, -, hend⟩ := prefix_of_answer (hbytes w bytes hanswer)
      have hno := r.limits.harvest_fragment r.delimiter_ne o hpre
      rw [hy] at hno htaken
      -- of an empty read nothing is left
      have hstop : w.position + bytes.length ≤ full.length := by
        rcases List.eq_nil_or_concat bytes with hnil | ⟨_, _, hcat⟩
        · have := h.reached
          have := h.grown
          rw [hnil, List.length_nil]
          omega
        · have := hend (by simp [hcat])
          omega
      have hfragment := LineFormat.fragment_lt r.delimiter_ne
        (hdense.window htaken.delivered.line_start) hstop hno
      simp only [News.Leaves]
      omega
  | _ => trivial

/-- The account of a file whose lines have at most `size` bytes. -/
structure Fragments (r : Rules) (full : Bytes) (anchor size n : Nat) (t : Track)
    (news : List News) : Prop where
  few : ∀ before, before <+: news → (∀ y ∈ before, ¬ y.GivesUp) → News.arrears before ≤
    max size r.limits.minRead - 1 + News.backlogs before * (size - 1)
  delivering : (∀ x ∈ news, ¬ x.GivesUp) → (∃ last o, Stepping r full n t news last o) ∧
    ∃ lines last o, Delivering r full anchor n t lines last o

theorem Fragments.turn {r : Rules} {full : Bytes} {anchor size n n' : Nat} {t t' : Track}
    {news : List News} {m : Moment} {x : News} (h : Fragments r full anchor size n t news)
    (hchunk : r.chunk? = some r.limits.maxRead) (hlim : full.length ≤ Word.limit)
    (hsize : 0 < size) (hle : size ≤ r.limits.maxRead) (hdense : r.format.Dense size full anchor)
    (hmin : r.limits.minFile ≤ 1) (hm : Serves full n m n') (hturn : Turn r t m t' x) :
    Fragments r full anchor size n' t' (news ++ [x]) where
  few before hpre hgives := by
    rcases List.prefix_concat_iff.1 hpre with rfl | hpre
    · have hnews : ∀ y ∈ news, ¬ y.GivesUp := fun y hy => hgives y (List.mem_append_left _ hy)
      obtain ⟨-, lines, last, o, hd⟩ := h.delivering hnews
      have hfew := h.few news (List.prefix_refl _) hnews
      have hleaves := hd.leaves hlim hsize hle hdense hmin hm.shows hturn
      rw [News.arrears_append, News.backlogs_append]
      cases x with
      | planned c o plan =>
        cases plan with
        | skip v =>
          simp only [News.owe, News.countBacklog, News.Leaves, Nat.zero_mul] at hleaves ⊢
          omega
        | read w => exact hfew
      | taken w bytes lines skipped o =>
        simp only [News.owe, News.countBacklog, News.Leaves] at hleaves ⊢
        split
        · rw [Nat.succ_mul]
          omega
        · rw [Nat.zero_mul]
          omega
      | _ => exact hfew
    · exact h.few before hpre hgives
  delivering hgives := by
    obtain ⟨⟨last, o, hstepping⟩, lines, last', o', hd⟩ :=
      h.delivering fun y hy => hgives y (List.mem_append_left _ hy)
    obtain ⟨hcalm, hnext⟩ := (hstepping.turn hchunk hlim hm hturn).2 (hgives x (by simp))
    exact ⟨hnext, _, hd.turn hlim (hdense.mono r.delimiter_ne hle) hm.shows hturn hcalm.unread_le⟩

/-- What the account of a run comes to. -/
structure Account (r : Rules) (full : Bytes) (anchor : Nat) (news : List News) : Prop where
  due : ∀ before x, before ++ [x] <+: news → (∀ y ∈ before, ¬ y.GivesUp) →
    x.Due r.limits.maxRead before
  calm : (∀ x ∈ news, ¬ x.GivesUp) → ∀ x ∈ news, x.Calm r.limits.maxRead
  few : ∀ size, 0 < size → size ≤ r.limits.maxRead → r.format.Dense size full anchor →
    ∀ before, before <+: news → (∀ y ∈ before, ¬ y.GivesUp) → News.arrears before ≤
      max size r.limits.minRead - 1 + News.backlogs before * (size - 1)

namespace Account

variable {r : Rules} {full : Bytes} {anchor : Nat} {news : List News}

theorem of_quiet (r : Rules) (full : Bytes) (anchor k : Nat) :
    Account r full anchor (List.replicate k .quiet) where
  due before x hpre _ := by
    have hx : x = .quiet := List.eq_of_mem_replicate (hpre.subset (by simp))
    rw [hx]
    trivial
  calm _ x hx := by
    rw [List.eq_of_mem_replicate hx]
    trivial
  few size _ _ _ before hpre _ := by
    rw [(List.prefix_replicate_iff.1 hpre).2, News.arrears_replicate_quiet]
    exact Nat.zero_le _

/-- The account of a file from the first look at it on. -/
theorem of_baseline (hchunk : r.chunk? = some r.limits.maxRead)
    (hend : r.limits.startAt = .fileEnd) (hmin : r.limits.minFile ≤ 1)
    (hlim : full.length ≤ Word.limit) (k : Nat) (modified : Option Int) {size head : Nat}
    (hs : size ≤ head) (hh : head ≤ full.length) {ms : List Moment}
    (hms : Along (Serves full) head ms) :
    Account r full (r.limits.anchor ⟨false, size, size⟩) (List.replicate k .quiet ++
      (Track.run r ⟨⟨some ⟨modified, size, .ofBytes (full.take head)⟩,
        FileRecord.fresh.handed r.chunk? size, false⟩, none, none⟩ ms).2) := by
  have hquiet := of_quiet r full (r.limits.anchor ⟨false, size, size⟩) k
  have hstepping := Stepping.baseline (r := r) hend modified hs hh
    (News.arrears_replicate_quiet k)
  have hdelivering := Delivering.baseline r modified hs hh
  obtain ⟨_, haccounted⟩ := Track.run_along (p := Accounted r full)
    (fun h hm hturn => h.turn hchunk hlim hm hturn) (List.replicate k .quiet) hms
    { due := hquiet.due, calm := fun hgives => ⟨⟨_, _, hstepping⟩, hquiet.calm hgives⟩ }
  refine
    { due := haccounted.due
      calm := fun hgives => (haccounted.calm hgives).2
      few := fun size hsize hle hdense => ?_ }
  obtain ⟨_, hfragments⟩ := Track.run_along (p := Fragments r full _ size)
    (fun h hm hturn => h.turn hchunk hlim hsize hle hdense hmin hm hturn)
    (List.replicate k .quiet) hms
    { few := hquiet.few size hsize hle hdense
      delivering := fun _ => ⟨⟨_, _, hstepping⟩, _, _, _, hdelivering⟩ }
  exact hfragments.few

/-- While the arrears stay within a full read nothing is given up. It is enough that they do so as
long as nothing was given up before. -/
theorem gives_nothing_up (h : Account r full anchor news)
    (hfew : ∀ before, before <+: news → (∀ x ∈ before, ¬ x.GivesUp) →
      News.arrears before ≤ r.limits.maxRead) : ∀ x ∈ news, ¬ x.GivesUp := by
  have general : ∀ k, ∀ x ∈ news.take k, ¬ x.GivesUp := by
    intro k
    induction k with
    | zero => simp
    | succ k ih =>
      intro x hx
      rw [List.take_add_one] at hx
      rcases List.mem_append.1 hx with hx | hx
      · exact ih x hx
      · have hpre := List.take_prefix (k + 1) news
        rw [List.take_add_one, Option.mem_toList.1 hx] at hpre
        have hdue := h.due _ x hpre ih
        have hfew := hfew _ (List.take_prefix k news) ih
        cases x with
        | planned c o plan =>
          cases plan with
          | skip v => exact id
          | read w => exact fun hgives => absurd (hdue.1 hgives) (Nat.not_lt.2 hfew)
        | _ => exact id
  intro x hx
  exact general news.length x (by rwa [List.take_length])

theorem loses_nothing (h : Account r full anchor news)
    (hfew : ∀ before, before <+: news → (∀ x ∈ before, ¬ x.GivesUp) →
      News.arrears before ≤ r.limits.maxRead) :
    (∀ c o w, .planned c o (.read w) ∈ news →
      w.midLine = false ∧ c.size - o ≤ 2 * r.limits.maxRead) ∧ News.totalSkipped news = 0 := by
  have hcalm := h.calm (h.gives_nothing_up hfew)
  exact ⟨fun c o w hw => hcalm _ hw, News.totalSkipped_eq_zero fun x hx => (hcalm x hx).skipped⟩

/-- The account of a watched file. -/
theorem of_run {s : Settings} {f : LineFormat} {codecs : EastAsian → Codec}
    (hs : s.fault? = none) (hf : s.lineFormat? codecs = some f) (hsteps : s.inChunks = true)
    (hend : s.startAt = .fileEnd) (hmin : s.minFileSize ≤ 1) {p : Path} (hp : p ∈ s.paths)
    (hlim : full.length ≤ Word.limit) {hap : List Happening}
    (hserves : Along (Serves full) 0 (Happening.of p hap))
    (hnews : News.of p ((Tailing.start s f).run hap).2 = news) :
    Account (s.rules f hs hf) full ((Limits.ofSettings s).anchorOf (Happening.of p hap)) news := by
  have hchunk : (s.rules f hs hf).chunk? = some s.maxReadSize := by
    simp [Settings.rules, Settings.chunk?, hsteps]
  obtain ⟨-, htrack⟩ := Tailing.run_track (Tailing.start_follows hs hf)
    (Tailing.track?_start s f hp) hap
  rw [hnews] at htrack
  subst htrack
  rcases Track.fresh_run (s.rules f hs hf) (fun _ _ _ h => Serves.shows h) hserves with
    ⟨k, hrun⟩ | ⟨k, modified, size, head, rest, hsize, hhead, hrest, hanchor, hrun⟩
  · rw [hrun]
    exact .of_quiet _ _ _ k
  · change (Limits.ofSettings s).anchorOf (Happening.of p hap) = _ at hanchor
    rw [hrun, hanchor]
    exact .of_baseline hchunk hend hmin hlim k modified hsize hhead hrest

end Account

/-- A growing file that is reported in steps loses nothing as long as the arrears stay within a full
read. That bound is exact: while all steps are full ones, the first read to give content up is
planned as soon as the arrears are larger. Lines of at most `size` bytes make for arrears of less
than such a line for each read of a backlog. -/
theorem steps_lose_nothing {s : Settings} {f : LineFormat} {codecs : EastAsian → Codec}
    (hs : s.fault? = none) (hf : s.lineFormat? codecs = some f) (hsteps : s.inChunks = true)
    (hend : s.startAt = .fileEnd) (hmin : s.minFileSize ≤ 1) {p : Path} (hp : p ∈ s.paths)
    {full : Bytes} (hlim : full.length ≤ Word.limit) {hap : List Happening}
    (hserves : Along (Serves full) 0 (Happening.of p hap)) {news : List News}
    (hnews : News.of p ((Tailing.start s f).run hap).2 = news) :
    ((∀ before, before <+: news → News.arrears before ≤ s.maxReadSize) →
      (∀ c o w, .planned c o (.read w) ∈ news →
        w.midLine = false ∧ c.size - o ≤ 2 * s.maxReadSize) ∧
      News.totalSkipped news = 0) ∧
    (∀ before c o w, before ++ [.planned c o (.read w)] <+: news →
      (∀ x ∈ before, ¬ x.GivesUp) →
      (∀ x ∈ before ++ [.planned c o (.read w)], x.FullStep s.maxReadSize) →
      (w.midLine = true ↔ s.maxReadSize < News.arrears before)) ∧
    ∀ size, 0 < size → size ≤ s.maxReadSize →
      f.Dense size full ((Limits.ofSettings s).anchorOf (Happening.of p hap)) →
      ∀ before, before <+: news → (∀ x ∈ before, ¬ x.GivesUp) →
        News.arrears before ≤
          max size s.minReadSize - 1 + News.backlogs before * (size - 1) := by
  have haccount := Account.of_run hs hf hsteps hend hmin hp hlim hserves hnews
  refine ⟨fun hfew => ?_, fun before c o w hpre hgives hfull => ?_, haccount.few⟩
  · exact haccount.loses_nothing fun before hpre _ => hfew before hpre
  · have hdue := haccount.due before _ hpre hgives
    exact ⟨hdue.1, hdue.2 hfull⟩

/-- Lines of three bytes in steps of five. -/
theorem steps_lose_nothing_three_lines :
    let p : Path := .ofString "/a"
    let s : Settings := { Settings.default with paths := [p], maxReadSize := 5, inChunks := true }
    let hap := Happening.alone p (Moment.cycles (Utf8.encode "ab\nab\nab\nab") [0, 11, 11, 11])
    News.totalSkipped (News.of p ((Tailing.start s (.ofText .utf8 "\n")).run hap).2) = 0 := by
  intro p s hap
  have hserves : Along (Serves (Utf8.encode "ab\nab\nab\nab")) 0 (Happening.of p hap) :=
    Happening.along_cycles p (by decide) (by decide +kernel)
  have hf : s.lineFormat? = some (.ofText .utf8 "\n") :=
    Settings.lineFormat?_of_encoding (Encoding.ofLabel?_utf8 _)
  obtain ⟨hsafe, -, -⟩ := steps_lose_nothing (by decide +kernel) hf rfl rfl (by decide)
    (List.mem_singleton.2 rfl) (by decide +kernel) hserves rfl
  refine (hsafe fun before hpre => ?_).2
  have hlength : (News.of p ((Tailing.start s (.ofText .utf8 "\n")).run hap).2).length = 8 := by
    decide +kernel
  have hall : ∀ k, k < 9 → News.arrears ((News.of p
      ((Tailing.start s (.ofText .utf8 "\n")).run hap).2).take k) ≤ 5 := by decide +kernel
  rw [List.prefix_iff_eq_take.1 hpre]
  exact hall _ (by have := hpre.length_le; omega)

/-- Short lines lose nothing while the file is not ahead of the reader for long: if lines have at most
`size` bytes and there are at most `k` reads of a backlog in a row, what they leave unread has to fit
in a full read. -/
theorem short_lines_lose_nothing {s : Settings} {f : LineFormat} {codecs : EastAsian → Codec}
    (hs : s.fault? = none) (hf : s.lineFormat? codecs = some f) (hsteps : s.inChunks = true)
    (hend : s.startAt = .fileEnd) (hmin : s.minFileSize ≤ 1) {p : Path} (hp : p ∈ s.paths)
    {full : Bytes} (hlim : full.length ≤ Word.limit) {hap : List Happening}
    (hserves : Along (Serves full) 0 (Happening.of p hap)) {news : List News}
    (hnews : News.of p ((Tailing.start s f).run hap).2 = news) {size k : Nat} (hsize : 0 < size)
    (hle : size ≤ s.maxReadSize)
    (hdense : f.Dense size full ((Limits.ofSettings s).anchorOf (Happening.of p hap)))
    (hbacklogs : ∀ before, before <+: news → News.backlogs before ≤ k)
    (hfits : max size s.minReadSize - 1 + k * (size - 1) ≤ s.maxReadSize) :
    (∀ c o w, .planned c o (.read w) ∈ news →
      w.midLine = false ∧ c.size - o ≤ 2 * s.maxReadSize) ∧ News.totalSkipped news = 0 := by
  have haccount := Account.of_run hs hf hsteps hend hmin hp hlim hserves hnews
  refine haccount.loses_nothing fun before hpre hgives => ?_
  calc News.arrears before
      ≤ max size s.minReadSize - 1 + News.backlogs before * (size - 1) :=
        haccount.few size hsize hle hdense before hpre hgives
    _ ≤ max size s.minReadSize - 1 + k * (size - 1) :=
        Nat.add_le_add_left (Nat.mul_le_mul_right _ (hbacklogs before hpre)) _
    _ ≤ s.maxReadSize := hfits

/-- What reads leave can add up to more than a full read: of seven lines of three bytes that are
reported in steps of five, each full read leaves two bytes more, until all but the end is given up. -/
theorem fragments_add_up :
    ¬ ∀ (s : Settings) (f : LineFormat) (p : Path) (full : Bytes) (hap : List Happening),
      s.fault? = none → s.lineFormat? = some f → s.inChunks = true → s.startAt = .fileEnd →
      s.minFileSize ≤ 1 → p ∈ s.paths → full.length ≤ Word.limit →
      Along (Serves full) 0 (Happening.of p hap) →
      f.Dense s.maxReadSize full ((Limits.ofSettings s).anchorOf (Happening.of p hap)) →
      News.totalSkipped (News.of p ((Tailing.start s f).run hap).2) = 0 := by
  intro h
  let p : Path := .ofString "/a"
  let s : Settings := { Settings.default with paths := [p], maxReadSize := 5, inChunks := true }
  let f : LineFormat := .ofText .utf8 "\n"
  let full := Utf8.encode "ab\nab\nab\nab\nab\nab\nab\n"
  let hap := Happening.alone p (Moment.cycles full [0, 21, 21, 21, 21])
  have hserves : Along (Serves full) 0 (Happening.of p hap) :=
    Happening.along_cycles p (by decide) (by decide +kernel)
  have hdense : f.Dense 5 full ((Limits.ofSettings s).anchorOf (Happening.of p hap)) := by
    intro i _ hend
    have hl : full.length = 21 := by decide +kernel
    have hanchor : (Limits.ofSettings s).anchorOf (Happening.of p hap) = 0 := by decide +kernel
    have htext : f.textStart full 0 = 0 := by decide +kernel
    have hall : ∀ i, i < 17 → (f.find? (full.between i (i + 5))).isSome = true := by
      decide +kernel
    rw [hanchor, htext, Nat.max_zero]
    exact (LineFormat.hasDelimiter_iff (by decide +kernel)).2 (hall i (by omega))
  have hlost : News.totalSkipped (News.of p ((Tailing.start s f).run hap).2) = 9 := by
    decide +kernel
  have hf : s.lineFormat? = some f := Settings.lineFormat?_of_encoding (Encoding.ofLabel?_utf8 _)
  have hnone := h s f p full hap (by decide +kernel) hf rfl rfl (by decide)
    (List.mem_singleton.2 rfl) (by decide +kernel) hserves hdense
  rw [hlost] at hnone
  cases hnone

end FileTail
