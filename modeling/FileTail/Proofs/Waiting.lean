import FileTail.Tasks
import Mathlib.Data.List.Perm.Basic

/-!
# FileTail.Proofs.Waiting

What comes of waiting for tasks until a deadline. The tasks of a set are taken in the order in which they
end, up to the first one that ends behind the deadline.

* `TaskSet.faultAfter`: the error that stands when some tasks have ended.
* `TaskSet.faultAfter_last`: it is that of the failed task that ended last.
* `TaskSet.waitFrom_eq`: where a wait stops, and what it has met by then.
* `waiting_tells_outcome`: what that means for a set of tasks in any order.
-/

namespace FileTail
namespace TaskSet

/-- The error after these tasks have ended one after the other, where `fault` stood before. -/
def faultAfter (fault : Option WaitFault) : List Task → Option WaitFault
  | [] => fault
  | t :: r =>
    match t.ending with
    | .failed why => faultAfter (some (.task why)) r
    | _ => faultAfter fault r

variable {fault : Option WaitFault} {tasks : List Task} {deadline now : Nat}

theorem faultAfter_append (fault : Option WaitFault) (tasks more : List Task) :
    faultAfter fault (tasks ++ more) = faultAfter (faultAfter fault tasks) more := by
  induction tasks generalizing fault with
  | nil => rfl
  | cons t tasks ih =>
    simp only [List.cons_append, faultAfter]
    split <;> exact ih _

theorem faultAfter_of_none_failed (h : ∀ t ∈ tasks, ∀ why, t.ending ≠ .failed why) :
    faultAfter fault tasks = fault := by
  induction tasks with
  | nil => rfl
  | cons t tasks ih =>
    rw [List.forall_mem_cons] at h
    rw [faultAfter]
    split
    · rename_i why hfailed
      exact absurd hfailed (h.1 why)
    · exact ih h.2

/-- Tasks end with errors of their own, and running out of time is none. -/
theorem faultAfter_ne_timedOut (h : fault ≠ some .timedOut) (tasks : List Task) :
    faultAfter fault tasks ≠ some .timedOut := by
  induction tasks generalizing fault with
  | nil => exact h
  | cons t tasks ih =>
    rw [faultAfter]
    split
    · exact ih (by simp)
    · exact ih h

theorem faultAfter_last (hsorted : tasks.Pairwise (·.endsAt < ·.endsAt)) {t : Task} (ht : t ∈ tasks)
    {why : String} (hfailed : t.ending = .failed why)
    (hlast : ∀ u ∈ tasks, ∀ other, u.ending = .failed other → u.endsAt ≤ t.endsAt) :
    faultAfter fault tasks = some (.task why) := by
  obtain ⟨before, after, rfl⟩ := List.append_of_mem ht
  have hafter : ∀ u ∈ after, ∀ other, u.ending ≠ .failed other := by
    intro u hu other hother
    have hlater := (List.pairwise_cons.1 (List.pairwise_append.1 hsorted).2.1).1 u hu
    have hearlier := hlast u (List.mem_append_right _ (List.mem_cons_of_mem _ hu)) other hother
    omega
  rw [faultAfter_append, faultAfter, hfailed]
  exact faultAfter_of_none_failed hafter

theorem le_foldl_max (ends : List Nat) (now : Nat) : now ≤ ends.foldl max now := by
  induction ends generalizing now with
  | nil => exact Nat.le_refl _
  | cons t ends ih => exact Nat.le_trans (Nat.le_max_left _ _) (ih _)

/-- A wait takes the tasks that end up to the deadline. It stops there, or when all have ended. -/
theorem waitFrom_eq (hsorted : tasks.Pairwise (·.endsAt ≤ ·.endsAt)) (hnow : now ≤ deadline)
    (fault : Option WaitFault) (panics : Nat) :
    waitFrom deadline fault panics now tasks =
      let ended := tasks.filter (·.endsAt ≤ deadline)
      let late := tasks.filter (deadline < ·.endsAt)
      { fault := if late = [] then faultAfter fault ended else some .timedOut
        now := min deadline ((tasks.map (·.endsAt)).foldl max now)
        remaining := late
        panics := panics + ended.countP (·.ending = .panicked) } := by
  induction tasks generalizing fault panics now with
  | nil => simp [waitFrom, faultAfter, hnow]
  | cons t tasks ih =>
    obtain ⟨hfirst, hrest⟩ := List.pairwise_cons.1 hsorted
    rw [waitFrom, Nat.max_eq_right hnow]
    by_cases ht : t.endsAt ≤ deadline
    · have hended : (t :: tasks).filter (·.endsAt ≤ deadline) =
          t :: tasks.filter (·.endsAt ≤ deadline) := List.filter_cons_of_pos (by simpa using ht)
      have hlate : (t :: tasks).filter (deadline < ·.endsAt) = tasks.filter (deadline < ·.endsAt) :=
        List.filter_cons_of_neg (by simpa using ht)
      have hnext := ih hrest (Nat.max_le.2 ⟨hnow, ht⟩)
      rw [if_pos ht, hended, hlate]
      cases hending : t.ending with
      | finished => simp only [hending, hnext, faultAfter]; simp [hending]
      | failed why => simp only [hending, hnext, faultAfter]; simp [hending]
      | panicked =>
        simp only [hending, hnext, faultAfter]
        simp [hending, Nat.add_assoc, Nat.add_comm]
    · -- the others end later still
      have hafter : ∀ u ∈ t :: tasks, deadline < u.endsAt := by
        rw [List.forall_mem_cons]
        exact ⟨by omega, fun u hu => by have := hfirst u hu; omega⟩
      have hended : (t :: tasks).filter (·.endsAt ≤ deadline) = [] :=
        List.filter_eq_nil_iff.2 fun u hu => by simpa using hafter u hu
      have hlate : (t :: tasks).filter (deadline < ·.endsAt) = t :: tasks :=
        List.filter_eq_self.2 fun u hu => by simpa using hafter u hu
      have hend : t.endsAt ≤ (tasks.map (·.endsAt)).foldl max (max now t.endsAt) :=
        Nat.le_trans (Nat.le_max_right _ _) (le_foldl_max _ _)
      rw [if_neg ht, hended, hlate, List.map_cons, List.foldl_cons, Nat.min_eq_left (by omega)]
      simp

theorem ofList_perm (tasks : List Task) : (ofList tasks).Perm tasks :=
  List.mergeSort_perm _ _

theorem ofList_sorted (tasks : List Task) : (ofList tasks).Pairwise (·.endsAt ≤ ·.endsAt) := by
  have htrans : ∀ a b c : Task, decide (a.endsAt ≤ b.endsAt) = true → decide (b.endsAt ≤ c.endsAt) = true →
      decide (a.endsAt ≤ c.endsAt) = true := by
    intro a b c hab hbc
    simp only [decide_eq_true_eq] at *
    omega
  have htotal : ∀ a b : Task, (decide (a.endsAt ≤ b.endsAt) || decide (b.endsAt ≤ a.endsAt)) = true := by
    intro a b
    simp only [Bool.or_eq_true, decide_eq_true_eq]
    omega
  exact (List.pairwise_mergeSort htrans htotal tasks).imp fun h => by simpa using h

end TaskSet

/-- What waiting for tasks tells, whatever their order, times and ends. It has run out of time if and only
if some task ends behind the deadline, whatever tasks failed before. Otherwise the error is that of the
failed task that ended last, and there is none if no task failed; tasks that panicked are counted and
change nothing else. The wait ends when the last task ends, but no later than the deadline, and the tasks
that have not ended are left. -/
theorem waiting_tells_outcome (tasks : List Task) {now deadline : Nat} (hnow : now ≤ deadline)
    (hdistinct : (tasks.map (·.endsAt)).Nodup) :
    let w := TaskSet.waitUntil deadline now (TaskSet.ofList tasks)
    (w.fault = some .timedOut ↔ ∃ t ∈ tasks, deadline < t.endsAt) ∧
    ((∀ t ∈ tasks, t.endsAt ≤ deadline) →
      (∀ t ∈ tasks, ∀ why, t.ending = .failed why →
        (∀ u ∈ tasks, ∀ other, u.ending = .failed other → u.endsAt ≤ t.endsAt) →
        w.fault = some (.task why)) ∧
      ((∀ t ∈ tasks, ∀ why, t.ending ≠ .failed why) → w.fault = none)) ∧
    w.panics = (tasks.filter (·.endsAt ≤ deadline)).countP (·.ending = .panicked) ∧
    w.now = min deadline ((tasks.map (·.endsAt)).foldl max now) ∧
    w.remaining.Perm (tasks.filter (deadline < ·.endsAt)) := by
  intro w
  have hperm := TaskSet.ofList_perm tasks
  have hmem : ∀ {t}, t ∈ TaskSet.ofList tasks ↔ t ∈ tasks := hperm.mem_iff
  have hsorted : (TaskSet.ofList tasks).Pairwise (·.endsAt < ·.endsAt) := by
    have hne := List.pairwise_map.1 (((hperm.map (·.endsAt)).nodup_iff).2 hdistinct)
    exact (TaskSet.ofList_sorted tasks).imp₂ (fun _ _ hle hne => Nat.lt_of_le_of_ne hle hne) hne
  have hw : w = _ := TaskSet.waitFrom_eq (TaskSet.ofList_sorted tasks) hnow none 0
  have hlate : (TaskSet.ofList tasks).filter (deadline < ·.endsAt) = [] ↔
      ∀ t ∈ tasks, t.endsAt ≤ deadline := by
    simp [List.filter_eq_nil_iff, hmem]
  rw [hw]
  refine ⟨?_, fun hall => ?_, ?_, ?_, hperm.filter _⟩
  · dsimp only
    split
    · rename_i hnone
      have hall := hlate.1 hnone
      refine iff_of_false (TaskSet.faultAfter_ne_timedOut (by simp) _) ?_
      rintro ⟨t, ht, hlt⟩
      exact absurd (hall t ht) (Nat.not_le.2 hlt)
    · rename_i hsome
      refine iff_of_true rfl ?_
      by_contra hnot
      exact hsome (hlate.2 fun t ht => Nat.not_lt.1 fun hlt => hnot ⟨t, ht, hlt⟩)
  · have hended : (TaskSet.ofList tasks).filter (·.endsAt ≤ deadline) = TaskSet.ofList tasks :=
      List.filter_eq_self.2 fun t ht => by simpa using hall t (hmem.1 ht)
    dsimp only
    rw [if_pos (hlate.2 hall), hended]
    refine ⟨fun t ht why hfailed hlast => ?_, fun hnone => ?_⟩
    · exact TaskSet.faultAfter_last hsorted (hmem.2 ht) hfailed fun u hu => hlast u (hmem.1 hu)
    · exact TaskSet.faultAfter_of_none_failed fun t ht => hnone t (hmem.1 ht)
  · dsimp only
    rw [Nat.zero_add]
    exact (hperm.filter _).countP_eq _
  · exact congrArg (min deadline) ((hperm.map _).foldl_eq _)

/-- An error that came last, after another one and a panic, with a task that ended well behind it. -/
theorem waiting_tells_outcome_last_error :
    let tasks : List Task :=
      [⟨40, .failed "second"⟩, ⟨50, .finished⟩, ⟨10, .failed "first"⟩, ⟨30, .panicked⟩]
    let w := TaskSet.waitUntil 60 20 (TaskSet.ofList tasks)
    20 ≤ 60 ∧ (tasks.map (·.endsAt)).Nodup ∧ w.fault = some (.task "second") ∧ w.panics = 1 ∧
      w.now = 50 ∧ w.remaining = [] := by
  intro tasks w
  have hdistinct : (tasks.map (·.endsAt)).Nodup := by decide
  obtain ⟨-, hended, hpanics, hnow, hleft⟩ :=
    waiting_tells_outcome tasks (show 20 ≤ 60 by decide) hdistinct
  have hlast : ∀ u ∈ tasks, ∀ other, u.ending = .failed other → u.endsAt ≤ 40 := by
    simp [tasks]
  exact ⟨by decide, hdistinct,
    (hended (by decide)).1 ⟨40, .failed "second"⟩ (by decide) "second" rfl hlast,
    hpanics, hnow, hleft.eq_nil⟩

/-- A task that sleeps beyond the deadline is left. -/
example : TaskSet.waitUntil 1000 0 (TaskSet.ofList [⟨10000, .finished⟩, ⟨0, .failed "early"⟩]) =
    ⟨some .timedOut, 1000, [⟨10000, .finished⟩], 0⟩ := by cbv

end FileTail
