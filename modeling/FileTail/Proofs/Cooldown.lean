import FileTail.Throttle

/-!
# FileTail.Proofs.Cooldown

A throttle in use: failures and successes of any categories in any order, and time that passes between
them. Two things are kept of a category. The count changes at each of its failures and successes, the
time of the last report only at a report, so that a success does not shorten the cooldown. Both can be
read off the history, and with them what the next failure is answered.

* `Course.run`: a history, with all failures and how they were answered.
* `streak`: the failures since the last success.
* `Agree.run`: what happens to other categories is not seen.
* `Kept`: what is kept of a category, said by the history; `Kept.step`, `Kept.run`: every act keeps it.
* `Kept.due_iff`: when a failure is reported.
* `Answered.run`: above the threshold a failure comes with a report not long before it.
* `throttle_answers`: all of that over histories of any length.
-/

namespace FileTail

namespace Tally

variable {t : Tally} {threshold cooldown now : Nat}

theorem fail_due_iff : (t.fail threshold cooldown now).1 = true ↔
    threshold < Word.satAdd t.failures 1 ∧ t.cooled cooldown now = true := by
  unfold fail
  dsimp only
  split
  · rename_i h
    exact ⟨fun _ => h, fun _ => rfl⟩
  · rename_i h
    exact ⟨fun hfalse => absurd hfalse Bool.false_ne_true, fun hdue => absurd hdue h⟩

theorem lastReport_fail (t : Tally) (threshold cooldown now : Nat) :
    (t.fail threshold cooldown now).2.lastReport =
      if (t.fail threshold cooldown now).1 then some now else t.lastReport := by
  unfold fail
  dsimp only
  split <;> rfl

end Tally

namespace Throttle

variable {κ : Type} [DecidableEq κ] {c d : κ}

theorem fail_fst (t : Throttle κ) (now : Nat) (c : κ) :
    (t.fail now c).1 = ((t.tally c).fail t.threshold t.cooldown now).1 := rfl

theorem tally_fail_same (t : Throttle κ) (now : Nat) (c : κ) :
    (t.fail now c).2.tally c = ((t.tally c).fail t.threshold t.cooldown now).2 := by
  simp [tally, fail, Table.get?_put_same]

theorem tally_fail_other (t : Throttle κ) (now : Nat) (h : d ≠ c) :
    (t.fail now d).2.tally c = t.tally c := by
  simp [tally, fail, Table.get?_put_other _ _ h]

theorem tally_clear_same (t : Throttle κ) (c : κ) : (t.clear c).tally c = (t.tally c).clear := by
  simp only [tally, clear, Table.get?_adjust_same]
  cases t.tallies.get? c <;> rfl

theorem tally_clear_other (t : Throttle κ) (h : d ≠ c) : (t.clear d).tally c = t.tally c := by
  simp [tally, clear, Table.get?_adjust_other _ _ h]

/-! ## Histories -/

/-- What happens to a throttle. -/
inductive Act (κ : Type) where
  | fail (c : κ)
  | clear (c : κ)
  | wait (span : Nat)
deriving DecidableEq

/-- The act is about the category, or lets time pass. -/
def Act.concerns (c : κ) : Act κ → Bool
  | fail d => d = c
  | clear d => d = c
  | wait _ => true

/-- The failures of the category since its last success. -/
def streak (c : κ) (acts : List (Act κ)) : Nat :=
  (acts.reverse.takeWhile (· ≠ .clear c)).count (.fail c)

/-- A failure, and whether it was to be reported. -/
structure Failure (κ : Type) where
  time : Nat
  category : κ
  due : Bool
deriving DecidableEq

/-- A throttle and what was asked of it. -/
structure Course (κ : Type) where
  throttle : Throttle κ
  now : Nat
  /-- The last one first. -/
  history : List (Failure κ)

namespace Course

def start (threshold cooldown now : Nat) : Course κ := ⟨.new threshold cooldown, now, []⟩

def step (s : Course κ) : Act κ → Course κ
  | .fail c =>
    { s with
      throttle := (s.throttle.fail s.now c).2
      history := ⟨s.now, c, (s.throttle.fail s.now c).1⟩ :: s.history }
  | .clear c => { s with throttle := s.throttle.clear c }
  | .wait span => { s with now := s.now + span }

def run (s : Course κ) (acts : List (Act κ)) : Course κ := acts.foldl step s

def failuresOf (s : Course κ) (c : κ) : List (Failure κ) := s.history.filter (·.category = c)

/-- When the category failed. -/
def failTimes (s : Course κ) (c : κ) : List Nat := (s.failuresOf c).map (·.time)

/-- When a failure of the category was reported. -/
def reportTimes (s : Course κ) (c : κ) : List Nat := ((s.failuresOf c).filter (·.due)).map (·.time)

variable {s : Course κ}

theorem failuresOf_fail_same (s : Course κ) (c : κ) :
    (s.step (.fail c)).failuresOf c = ⟨s.now, c, (s.throttle.fail s.now c).1⟩ :: s.failuresOf c := by
  simp [step, failuresOf]

theorem failuresOf_fail_other (s : Course κ) (h : d ≠ c) :
    (s.step (.fail d)).failuresOf c = s.failuresOf c := by
  simp [step, failuresOf, h]

theorem failTimes_fail_same (s : Course κ) (c : κ) :
    (s.step (.fail c)).failTimes c = s.now :: s.failTimes c := by
  rw [failTimes, failuresOf_fail_same]
  rfl

theorem reportTimes_subset (s : Course κ) (c : κ) : s.reportTimes c ⊆ s.failTimes c :=
  List.map_subset _ List.filter_sublist.subset

theorem reportTimes_fail_same (s : Course κ) (c : κ) :
    (s.step (.fail c)).reportTimes c =
      if (s.throttle.fail s.now c).1 then s.now :: s.reportTimes c else s.reportTimes c := by
  rw [reportTimes, failuresOf_fail_same, List.filter_cons]
  split <;> rfl

end Course

/-! ## The failures since the last success -/

section Streak

variable {acts : List (Act κ)}

theorem streak_fail_same (c : κ) (acts : List (Act κ)) :
    streak c (acts ++ [.fail c]) = streak c acts + 1 := by
  simp [streak]

theorem streak_clear_same (c : κ) (acts : List (Act κ)) : streak c (acts ++ [.clear c]) = 0 := by
  simp [streak]

theorem streak_other {a : Act κ} (hfail : a ≠ .fail c) (hclear : a ≠ .clear c) :
    streak c (acts ++ [a]) = streak c acts := by
  simp [streak, hfail, hclear]

end Streak

/-! ## Categories do not see each other -/

/-- The same is kept of a category, and it was answered in the same way. -/
structure Agree (c : κ) (s s' : Course κ) : Prop where
  threshold_eq : s'.throttle.threshold = s.throttle.threshold
  cooldown_eq : s'.throttle.cooldown = s.throttle.cooldown
  tally_eq : s'.throttle.tally c = s.throttle.tally c
  now_eq : s'.now = s.now
  history_eq : s'.failuresOf c = s.failuresOf c

namespace Agree

variable {s s' : Course κ} {a : Act κ}

theorem refl (c : κ) (s : Course κ) : Agree c s s := ⟨rfl, rfl, rfl, rfl, rfl⟩

/-- An act of the category itself, or time that passes, is seen in the same way. -/
theorem step (h : Agree c s s') (ha : a.concerns c = true) : Agree c (s.step a) (s'.step a) := by
  cases a with
  | fail d =>
    obtain rfl : d = c := by simpa [Act.concerns] using ha
    have hfail : (s'.throttle.fail s'.now d).1 = (s.throttle.fail s.now d).1 := by
      rw [fail_fst, fail_fst, h.tally_eq, h.threshold_eq, h.cooldown_eq, h.now_eq]
    exact
      { threshold_eq := h.threshold_eq
        cooldown_eq := h.cooldown_eq
        tally_eq := by
          change (s'.throttle.fail s'.now d).2.tally d = (s.throttle.fail s.now d).2.tally d
          rw [tally_fail_same, tally_fail_same, h.tally_eq, h.threshold_eq, h.cooldown_eq, h.now_eq]
        now_eq := h.now_eq
        history_eq := by
          rw [Course.failuresOf_fail_same, Course.failuresOf_fail_same, h.history_eq, hfail, h.now_eq] }
  | clear d =>
    obtain rfl : d = c := by simpa [Act.concerns] using ha
    exact
      { threshold_eq := h.threshold_eq
        cooldown_eq := h.cooldown_eq
        tally_eq := by
          change (s'.throttle.clear d).tally d = (s.throttle.clear d).tally d
          rw [tally_clear_same, tally_clear_same, h.tally_eq]
        now_eq := h.now_eq
        history_eq := h.history_eq }
  | wait span =>
    exact
      { threshold_eq := h.threshold_eq
        cooldown_eq := h.cooldown_eq
        tally_eq := h.tally_eq
        now_eq := congrArg (· + span) h.now_eq
        history_eq := h.history_eq }

/-- An act of another category is not seen. -/
theorem step_other (h : Agree c s s') (ha : a.concerns c = false) : Agree c (s.step a) s' := by
  cases a with
  | fail d =>
    have hd : d ≠ c := by simpa [Act.concerns] using ha
    exact
      { threshold_eq := h.threshold_eq
        cooldown_eq := h.cooldown_eq
        tally_eq := h.tally_eq.trans (s.throttle.tally_fail_other s.now hd).symm
        now_eq := h.now_eq
        history_eq := h.history_eq.trans (s.failuresOf_fail_other hd).symm }
  | clear d =>
    have hd : d ≠ c := by simpa [Act.concerns] using ha
    exact
      { threshold_eq := h.threshold_eq
        cooldown_eq := h.cooldown_eq
        tally_eq := h.tally_eq.trans (s.throttle.tally_clear_other hd).symm
        now_eq := h.now_eq
        history_eq := h.history_eq }
  | wait span => cases ha

/-- What an act of another category leaves is as good as what there was. -/
theorem other (s : Course κ) (ha : a.concerns c = false) : Agree c (s.step a) s :=
  (refl c s).step_other ha

theorem failures_eq (h : Agree c s s') : s'.throttle.failures c = s.throttle.failures c :=
  congrArg Tally.failures h.tally_eq

theorem failTimes_eq (h : Agree c s s') : s'.failTimes c = s.failTimes c := by
  rw [Course.failTimes, h.history_eq, Course.failTimes]

theorem reportTimes_eq (h : Agree c s s') : s'.reportTimes c = s.reportTimes c := by
  rw [Course.reportTimes, h.history_eq, Course.reportTimes]

theorem run (h : Agree c s s') (acts : List (Act κ)) :
    Agree c (s.run acts) (s'.run (acts.filter (·.concerns c))) := by
  induction acts generalizing s s' with
  | nil => exact h
  | cons a acts ih =>
    cases ha : a.concerns c with
    | true =>
      rw [List.filter_cons_of_pos ha]
      exact ih (h.step ha)
    | false =>
      rw [List.filter_cons_of_neg (by simp [ha])]
      exact ih (h.step_other ha)

end Agree

/-! ## What is kept of a category -/

/-- The count and the time of the last report, and that reports are apart. -/
structure Kept (threshold cooldown : Nat) (c : κ) (acts : List (Act κ)) (s : Course κ) : Prop where
  threshold_eq : s.throttle.threshold = threshold
  cooldown_eq : s.throttle.cooldown = cooldown
  count : s.throttle.failures c = min (streak c acts) Word.limit
  last : (s.throttle.tally c).lastReport = (s.reportTimes c).head?
  past : ∀ time ∈ s.failTimes c, time ≤ s.now
  apart : (s.reportTimes c).Pairwise fun later earlier => earlier + cooldown ≤ later

namespace Kept

variable {threshold cooldown : Nat} {acts : List (Act κ)} {s : Course κ}

theorem start (threshold cooldown now : Nat) (c : κ) :
    Kept threshold cooldown c [] (.start threshold cooldown now) where
  threshold_eq := rfl
  cooldown_eq := rfl
  count := rfl
  last := rfl
  past := fun _ h => absurd h List.not_mem_nil
  apart := .nil

theorem reported_past (h : Kept threshold cooldown c acts s) : ∀ time ∈ s.reportTimes c, time ≤ s.now :=
  fun time htime => h.past time (s.reportTimes_subset c htime)

/-- The last report is the only one that can be too recent. -/
theorem cooled_iff (h : Kept threshold cooldown c acts s) :
    (s.throttle.tally c).cooled cooldown s.now = true ↔
      ∀ time ∈ s.reportTimes c, time + cooldown ≤ s.now := by
  have hlast := h.last
  have hpast := h.reported_past
  have hapart := h.apart
  cases hreports : s.reportTimes c with
  | nil =>
    rw [hreports, List.head?_nil] at hlast
    simp [Tally.cooled, hlast]
  | cons last earlier =>
    rw [hreports] at hlast hpast hapart
    have hnow := hpast last List.mem_cons_self
    have hbefore := (List.pairwise_cons.1 hapart).1
    simp only [Tally.cooled, hlast, List.head?_cons, decide_eq_true_eq, List.forall_mem_cons]
    constructor
    · intro hcooled
      refine ⟨by omega, fun time htime => ?_⟩
      have := hbefore time htime
      omega
    · rintro ⟨hcooled, -⟩
      omega

/-- A failure is reported above the threshold, if no report is too recent. -/
theorem due_iff (h : Kept threshold cooldown c acts s) :
    (s.throttle.fail s.now c).1 = true ↔
      threshold < min (streak c acts + 1) Word.limit ∧
        ∀ time ∈ s.reportTimes c, time + cooldown ≤ s.now := by
  have hcount : Word.satAdd (s.throttle.failures c) 1 = min (streak c acts + 1) Word.limit := by
    rw [h.count, Word.satAdd]
    omega
  rw [fail, Tally.fail_due_iff, h.threshold_eq, h.cooldown_eq, h.cooled_iff, ← hcount, failures]

theorem failed (h : Kept threshold cooldown c acts s) :
    Kept threshold cooldown c (acts ++ [.fail c]) (s.step (.fail c)) where
  threshold_eq := h.threshold_eq
  cooldown_eq := h.cooldown_eq
  count := by
    have hcount := s.throttle.failures_fail_same s.now c
    rw [h.count, Word.satAdd] at hcount
    rw [streak_fail_same]
    exact hcount.trans (by omega)
  last := by
    have htally : (s.step (.fail c)).throttle.tally c =
        ((s.throttle.tally c).fail s.throttle.threshold s.throttle.cooldown s.now).2 :=
      s.throttle.tally_fail_same s.now c
    rw [htally, Tally.lastReport_fail, Course.reportTimes_fail_same, ← fail_fst]
    split
    · rfl
    · exact h.last
  past := by
    rw [Course.failTimes_fail_same]
    exact List.forall_mem_cons.2 ⟨Nat.le_refl _, h.past⟩
  apart := by
    rw [Course.reportTimes_fail_same]
    split
    · rename_i hdue
      exact List.pairwise_cons.2 ⟨(h.due_iff.1 hdue).2, h.apart⟩
    · exact h.apart

/-- What is kept of the category says the same, and no other failure was answered. -/
theorem congr (h : Kept threshold cooldown c acts s) {s' : Course κ} (hs : Agree c s' s) :
    Kept threshold cooldown c acts s' where
  threshold_eq := hs.threshold_eq.symm.trans h.threshold_eq
  cooldown_eq := hs.cooldown_eq.symm.trans h.cooldown_eq
  count := hs.failures_eq.symm.trans h.count
  last := by rw [← hs.tally_eq, h.last, hs.reportTimes_eq]
  past := by
    rw [← hs.failTimes_eq, ← hs.now_eq]
    exact h.past
  apart := by
    rw [← hs.reportTimes_eq]
    exact h.apart

theorem cleared (h : Kept threshold cooldown c acts s) :
    Kept threshold cooldown c (acts ++ [.clear c]) (s.step (.clear c)) where
  threshold_eq := h.threshold_eq
  cooldown_eq := h.cooldown_eq
  count := by
    rw [streak_clear_same, Nat.zero_min]
    exact s.throttle.failures_clear_same c
  last := by
    have htally : (s.step (.clear c)).throttle.tally c = (s.throttle.tally c).clear :=
      s.throttle.tally_clear_same c
    rw [htally]
    exact h.last
  past := h.past
  apart := h.apart

theorem waited (h : Kept threshold cooldown c acts s) (span : Nat) :
    Kept threshold cooldown c (acts ++ [.wait span]) (s.step (.wait span)) where
  threshold_eq := h.threshold_eq
  cooldown_eq := h.cooldown_eq
  count := by
    rw [streak_other (by simp) (by simp)]
    exact h.count
  last := h.last
  past := fun time htime => Nat.le_trans (h.past time htime) (Nat.le_add_right _ _)
  apart := h.apart

theorem step (h : Kept threshold cooldown c acts s) (a : Act κ) :
    Kept threshold cooldown c (acts ++ [a]) (s.step a) := by
  cases ha : a.concerns c with
  | true =>
    cases a with
    | fail d =>
      obtain rfl : d = c := by simpa [Act.concerns] using ha
      exact h.failed
    | clear d =>
      obtain rfl : d = c := by simpa [Act.concerns] using ha
      exact h.cleared
    | wait span => exact h.waited span
  | false =>
    have hstreak : streak c (acts ++ [a]) = streak c acts := streak_other
      (by rintro rfl; simp [Act.concerns] at ha) (by rintro rfl; simp [Act.concerns] at ha)
    have hkept := h.congr (.other s ha)
    exact { hkept with count := hstreak ▸ hkept.count }

theorem run (h : Kept threshold cooldown c acts s) (more : List (Act κ)) :
    Kept threshold cooldown c (acts ++ more) (s.run more) := by
  induction more generalizing acts s with
  | nil => rwa [List.append_nil]
  | cons a more ih =>
    rw [List.append_cons]
    exact ih (h.step a)

end Kept

/-! ## Failures that go on -/

/-- Each failure after `since` comes with a report less than a cooldown before it, or is reported. -/
def Answered (cooldown since : Nat) (c : κ) (s : Course κ) : Prop :=
  ∀ time ∈ s.failTimes c, since < time →
    ∃ report ∈ s.reportTimes c, report ≤ time ∧ time < report + cooldown

namespace Answered

variable {threshold cooldown since : Nat} {acts : List (Act κ)} {s : Course κ}

theorem failed (h : Answered cooldown since c s) (hkept : Kept threshold cooldown c acts s)
    (hpos : 0 < cooldown) (hover : threshold < s.throttle.failures c) :
    Answered cooldown since c (s.step (.fail c)) := by
  have hcount := hkept.count
  have hnow : ∃ report ∈ (s.step (.fail c)).reportTimes c,
      report ≤ s.now ∧ s.now < report + cooldown := by
    rw [Course.reportTimes_fail_same]
    split
    · exact ⟨s.now, List.mem_cons_self, Nat.le_refl _, by omega⟩
    · rename_i hdue
      -- what kept it from being reported is a report that is too recent
      have hrecent : ¬ ∀ time ∈ s.reportTimes c, time + cooldown ≤ s.now :=
        fun hall => hdue (hkept.due_iff.2 ⟨by omega, hall⟩)
      obtain ⟨report, hrecent⟩ := Classical.not_forall.1 hrecent
      obtain ⟨hreport, hless⟩ := Classical.not_imp.1 hrecent
      exact ⟨report, hreport, hkept.reported_past report hreport, Nat.lt_of_not_le hless⟩
  have hgrows : s.reportTimes c ⊆ (s.step (.fail c)).reportTimes c := by
    rw [Course.reportTimes_fail_same]
    split
    · exact List.subset_cons_self _ _
    · exact List.Subset.refl _
  intro time htime hsince
  rw [Course.failTimes_fail_same] at htime
  rcases List.mem_cons.1 htime with rfl | hbefore
  · exact hnow
  · obtain ⟨report, hreport, hless⟩ := h time hbefore hsince
    exact ⟨report, hgrows hreport, hless⟩

theorem step (h : Answered cooldown since c s) (hkept : Kept threshold cooldown c acts s)
    (hpos : 0 < cooldown) (hover : threshold < s.throttle.failures c) {a : Act κ}
    (ha : a ≠ .clear c) :
    threshold < (s.step a).throttle.failures c ∧ Answered cooldown since c (s.step a) := by
  cases hc : a.concerns c with
  | true =>
    cases a with
    | fail d =>
      obtain rfl : d = c := by simpa [Act.concerns] using hc
      have hcount := hkept.count
      have hnext : (s.step (.fail d)).throttle.failures d = Word.satAdd (s.throttle.failures d) 1 :=
        s.throttle.failures_fail_same s.now d
      rw [Word.satAdd] at hnext
      exact ⟨by omega, h.failed hkept hpos hover⟩
    | clear d =>
      obtain rfl : d = c := by simpa [Act.concerns] using hc
      exact absurd rfl ha
    | wait span => exact ⟨hover, h⟩
  | false =>
    have hs := Agree.other s hc
    rw [Answered, ← hs.failures_eq, ← hs.failTimes_eq, ← hs.reportTimes_eq]
    exact ⟨hover, h⟩

theorem run (h : Answered cooldown since c s) (hkept : Kept threshold cooldown c acts s)
    (hpos : 0 < cooldown) (hover : threshold < s.throttle.failures c) {more : List (Act κ)}
    (hmore : .clear c ∉ more) : Answered cooldown since c (s.run more) := by
  induction more generalizing acts s with
  | nil => exact h
  | cons a more ih =>
    obtain ⟨hstill, hnext⟩ := h.step hkept hpos hover (List.ne_of_not_mem_cons hmore).symm
    exact ih hnext (hkept.step a) hstill (List.not_mem_of_not_mem_cons hmore)

end Answered

/-- No gap of a cooldown between failures leaves no gap of two cooldowns between reports. -/
theorem Answered.reported {cooldown since : Nat} {s : Course κ} (h : Answered cooldown since c s)
    (hpos : 0 < cooldown)
    (hoften : ∀ u, since ≤ u → u + cooldown ≤ s.now →
      ∃ time ∈ s.failTimes c, u < time ∧ time ≤ u + cooldown)
    {u : Nat} (hu : since ≤ u) (hnow : u + 2 * cooldown ≤ s.now) :
    ∃ report ∈ s.reportTimes c, u < report ∧ report < u + 2 * cooldown := by
  -- a failure in the second half, before its end
  obtain ⟨time, htime, hlow, hhigh⟩ := hoften (u + cooldown - 1) (by omega) (by omega)
  obtain ⟨report, hreport, hle, hlt⟩ := h time htime (by omega)
  exact ⟨report, hreport, by omega, by omega⟩

/-- After any history a failure is reported exactly if there are more failures than the threshold since
the last success, with this one and as far as the counter goes, and no report is younger than the
cooldown. The counter holds the failures since the last success, as far as it goes. What happens to
other categories changes no answer and no count. Reports of a category are a cooldown apart, whatever
succeeds in between. And a category that is above the threshold and fails at least once per cooldown
without success is reported within any two cooldowns. -/
theorem throttle_answers (threshold cooldown now : Nat) (acts : List (Act κ)) (c : κ) :
    let start : Course κ := .start threshold cooldown now
    let s := start.run acts
    let own := start.run (acts.filter (·.concerns c))
    ((s.throttle.fail s.now c).1 = true ↔
        threshold < min (streak c acts + 1) Word.limit ∧
          ∀ time ∈ s.reportTimes c, time + cooldown ≤ s.now) ∧
      s.throttle.failures c = min (streak c acts) Word.limit ∧
      (own.failuresOf c = s.failuresOf c ∧ own.throttle.failures c = s.throttle.failures c) ∧
      (s.reportTimes c).Pairwise (fun later earlier => earlier + cooldown ≤ later) ∧
      ∀ more, .clear c ∉ more → 0 < cooldown → threshold < s.throttle.failures c →
        let e := s.run more
        (∀ u, s.now ≤ u → u + cooldown ≤ e.now →
          ∃ time ∈ e.failTimes c, u < time ∧ time ≤ u + cooldown) →
        ∀ u, s.now ≤ u → u + 2 * cooldown ≤ e.now →
          ∃ time ∈ e.reportTimes c, u < time ∧ time < u + 2 * cooldown := by
  intro start s own
  have hkept : Kept threshold cooldown c acts s := (Kept.start threshold cooldown now c).run acts
  have hagree : Agree c s own := (Agree.refl c start).run acts
  refine ⟨hkept.due_iff, hkept.count, ⟨hagree.history_eq, hagree.failures_eq⟩, hkept.apart, ?_⟩
  intro more hmore hpos hover e hoften u hu hend
  -- no failure is later than the start of the stretch
  have hnone : Answered cooldown s.now c s := fun time htime hlater =>
    absurd (hkept.past time htime) (Nat.not_le_of_lt hlater)
  exact (hnone.run hkept hpos hover hmore).reported hpos hoften hu hend

/-- The success in between does not shorten the cooldown: the second report is due at 7. -/
theorem throttle_answers_repeated :
    let acts : List (Act Nat) := [.fail 0, .fail 1, .fail 0, .clear 0, .wait 2, .fail 0, .fail 0]
    let more : List (Act Nat) := [.wait 5, .fail 0, .wait 5, .fail 0, .wait 5, .fail 0]
    let s := (Course.start 1 6 0).run acts
    let e := s.run more
    .clear 0 ∉ more ∧ 1 < s.throttle.failures 0 ∧ e.reportTimes 0 = [17, 7, 0] ∧
      ∃ time ∈ e.reportTimes 0, 5 < time ∧ time < 17 := by
  intro acts more s e
  have hmore : .clear 0 ∉ more := by decide
  have hover : 1 < s.throttle.failures 0 := by decide
  have hoften : ∀ u, s.now ≤ u → u + 6 ≤ e.now → ∃ time ∈ e.failTimes 0, u < time ∧ time ≤ u + 6 := by
    have hall : ∀ u < 12, 2 ≤ u → ∃ time ∈ e.failTimes 0, u < time ∧ time ≤ u + 6 := by decide
    have hstart : s.now = 2 := rfl
    have hend : e.now = 17 := rfl
    intro u hlow hhigh
    exact hall u (by omega) (by omega)
  obtain ⟨-, -, -, -, hgoes⟩ := throttle_answers 1 6 0 acts 0
  exact ⟨hmore, hover, by decide, hgoes more hmore (by decide) hover hoften 5 (by decide) (by decide)⟩

end Throttle
end FileTail
