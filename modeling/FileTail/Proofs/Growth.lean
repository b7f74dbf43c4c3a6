import FileTail.Proofs.Track

/-!
# FileTail.Proofs.Growth

A file that only grows, as its cycles see it. `full` is what the file has grown to at the end, so
that at any time before it holds a prefix of `full`.

* `Shows`: a moment of a file that holds at least `n` bytes of `full` before it and `n'` after it. The
  size is taken before the head and the head before the read, and the file may grow in between; a
  look or a read can fail, and a read can give less than it could.
* `Serves`: the same without failures, and with reads that give all there is.
* `Along`: a list of moments, each of which goes on where the one before it ended.
* `Growing`: what is known of such a file, with one lemma for each thing a cycle does to it. Above
  all a change is never taken for a replacement (`Growing.changed`).
* `Track.run_along`: what every moment keeps, every such list of moments keeps.
-/

namespace FileTail

inductive Shows (full : Bytes) (n : Nat) : Moment → Nat → Prop where
  | unseen {s : Sighting} : (∀ seen, s ≠ .seen seen) → Shows full n (.probed s) n
  | seen {modified : Option Int} {size head : Nat} :
      n ≤ size → size ≤ head → head ≤ full.length →
      Shows full n (.probed (.seen ⟨modified, size, .ofBytes (full.take head)⟩)) head
  | fetched {answer : Window → Except ReadFailure Bytes} {n' : Nat} :
      n ≤ n' → n' ≤ full.length →
      (∀ w bytes, answer w = .ok bytes →
        bytes <+: ((full.take n').drop w.position).take w.length) →
      Shows full n (.fetched answer) n'

inductive Serves (full : Bytes) (n : Nat) : Moment → Nat → Prop where
  | seen {modified : Option Int} {size head : Nat} :
      n ≤ size → size ≤ head → head ≤ full.length →
      Serves full n (.probed (.seen ⟨modified, size, .ofBytes (full.take head)⟩)) head
  | fetched {answer : Window → Except ReadFailure Bytes} {n' : Nat} :
      n ≤ n' → n' ≤ full.length →
      (∀ w, answer w = .ok (((full.take n').drop w.position).take w.length)) →
      Serves full n (.fetched answer) n'

/-- Moments that follow one another, from a time on at which `n` bytes are there. -/
inductive Along (shows : Nat → Moment → Nat → Prop) : Nat → List Moment → Prop where
  | nil {n : Nat} : Along shows n []
  | cons {n n' : Nat} {m : Moment} {ms : List Moment} :
      shows n m n' → Along shows n' ms → Along shows n (m :: ms)

/-- Where reading starts in a file of which these are the first moments: at its start, or where it
ended when it was seen for the first time. -/
def Limits.anchorOf (l : Limits) (ms : List Moment) : Nat :=
  match l.startAt with
  | .beginning => 0
  | .fileEnd =>
    (ms.findSome? fun
      | .probed (.seen seen) => some seen.size
      | _ => none).getD 0

namespace Limits

theorem anchorOf_seen (l : Limits) (seen : Fingerprint) (ms : List Moment) :
    l.anchorOf (.probed (.seen seen) :: ms) = l.anchor ⟨false, seen.size, seen.size⟩ := by
  simp only [anchorOf, anchor]
  cases l.startAt <;> rfl

end Limits

variable {full : Bytes} {n n' : Nat} {m : Moment}

theorem Serves.shows (h : Serves full n m n') : Shows full n m n' := by
  cases h with
  | seen h₁ h₂ h₃ => exact .seen h₁ h₂ h₃
  | fetched h₁ h₂ h₃ =>
    refine .fetched h₁ h₂ fun w bytes h => ?_
    rw [h₃ w] at h
    cases h
    exact List.prefix_refl _

/-- The cycles of a file without faults, of which `sizes` bytes are there one cycle after the other. -/
def Moment.cycles (full : Bytes) (sizes : List Nat) : List Moment :=
  sizes.flatMap fun n =>
    [.probed (.seen ⟨none, n, .ofBytes (full.take n)⟩),
      .fetched fun w => .ok (((full.take n).drop w.position).take w.length)]

theorem along_cycles {sizes : List Nat} (h : (n :: sizes).Pairwise (· ≤ ·))
    (hfull : ∀ size ∈ sizes, size ≤ full.length) :
    Along (Serves full) n (Moment.cycles full sizes) := by
  induction sizes generalizing n with
  | nil => exact .nil
  | cons size sizes ih =>
    obtain ⟨hn, hsizes⟩ := List.pairwise_cons.1 h
    have hsize : size ≤ full.length := hfull size List.mem_cons_self
    have hnext := ih hsizes fun k hk => hfull k (List.mem_cons_of_mem _ hk)
    exact .cons (.seen (hn size List.mem_cons_self) (Nat.le_refl _) hsize)
      (.cons (.fetched (Nat.le_refl _) hsize fun _ => rfl) hnext)

theorem Along.mono {shows shows' : Nat → Moment → Nat → Prop}
    (himp : ∀ n m n', shows n m n' → shows' n m n') {ms : List Moment} (h : Along shows n ms) :
    Along shows' n ms := by
  induction h with
  | nil => exact .nil
  | cons h _ ih => exact .cons (himp _ _ _ h) ih

theorem Along.of_forall {q : Moment → Prop} {ms : List Moment} (h : ∀ m ∈ ms, q m) (n : Nat) :
    Along (fun _ m _ => q m) n ms := by
  induction ms with
  | nil => exact .nil
  | cons m ms ih =>
    exact .cons (h m List.mem_cons_self) (ih fun m' hm' => h m' (List.mem_cons_of_mem _ hm'))

/-- Nothing that was there goes away. -/
theorem Shows.le (h : Shows full n m n') (hn : n ≤ full.length) : n ≤ n' ∧ n' ≤ full.length := by
  cases h with
  | unseen _ => exact ⟨Nat.le_refl _, hn⟩
  | seen h₁ h₂ h₃ => exact ⟨Nat.le_trans h₁ h₂, h₃⟩
  | fetched h₁ h₂ _ => exact ⟨h₁, h₂⟩

/-- A later head of a growing file follows every earlier one. -/
theorem Head.follows_of_le (full : Bytes) {k k' : Nat} (h : k ≤ k') :
    (Head.ofBytes (full.take k')).follows (Head.ofBytes (full.take k)) = true :=
  Head.follows_of_prefix (List.take_prefix_take_left h)

/-- A read of a window gives bytes of the file from its position on, and no more than asked for. -/
theorem prefix_of_answer {bytes : Bytes} {p len : Nat}
    (h : bytes <+: ((full.take n).drop p).take len) :
    bytes <+: full.drop p ∧ bytes.length ≤ len ∧ (bytes ≠ [] → p + bytes.length ≤ n) := by
  have hl := h.length_le
  simp only [List.length_take, List.length_drop] at hl
  refine ⟨?_, by omega, fun hne => ?_⟩
  · rw [List.drop_take] at h
    exact (h.trans (List.take_prefix _ _)).trans (List.take_prefix _ _)
  · have := List.length_pos_iff.2 hne
    omega

/-! ## What is known of a growing file -/

/-- Of a file of which `n` bytes of `full` are there by now, `last` is recorded and reading goes on
at `o`. -/
structure Growing (r : Rules) (full : Bytes) (n : Nat) (record : FileRecord)
    (offset? : Option Nat) (last : Fingerprint) (o : Nat) : Prop where
  grown : n ≤ full.length
  recorded : record.last = some last
  head : ∃ k, k ≤ n ∧ last.head = .ofBytes (full.take k)
  handed : r.chunk?.isSome →
    record.handedOut = some last.size ∧ o ≤ last.size ∧ last.size ≤ n
  goesOn : offset?.getD (r.limits.anchor ⟨false, last.size, last.size⟩) = o
  reached : o ≤ n

namespace Growing

variable {r : Rules} {o : Nat} {record record' : FileRecord} {offset? : Option Nat}
  {last : Fingerprint}

/-- The first look at a file. -/
theorem baseline (r : Rules) (modified : Option Int) {size head : Nat} (hs : size ≤ head)
    (hh : head ≤ full.length) :
    Growing r full head
      ⟨some ⟨modified, size, .ofBytes (full.take head)⟩, FileRecord.fresh.handed r.chunk? size,
        false⟩ none
      ⟨modified, size, .ofBytes (full.take head)⟩ (r.limits.anchor ⟨false, size, size⟩) := by
  have hanchor : r.limits.anchor ⟨false, size, size⟩ ≤ size := by
    simp only [Limits.anchor]
    split
    · exact Nat.zero_le _
    · exact Nat.le_refl _
  exact
    { grown := hh
      recorded := rfl
      head := ⟨head, Nat.le_refl _, rfl⟩
      handed := fun hch => ⟨FileRecord.handed_of_isSome hch _ _, hanchor, hs⟩
      goesOn := rfl
      reached := Nat.le_trans hanchor hs }

theorem offset_eq (h : Growing r full n record offset? last o) {o' : Nat}
    (ho : offset? = some o') : o' = o := by
  have hgo := h.goesOn
  rwa [ho, Option.getD_some] at hgo

/-- The file may have grown in the meantime. -/
theorem later (h : Growing r full n record offset? last o) (hn : n ≤ n')
    (hn' : n' ≤ full.length) : Growing r full n' record offset? last o := by
  obtain ⟨k, hk, hhead⟩ := h.head
  exact { h with
    grown := hn'
    head := ⟨k, Nat.le_trans hk hn, hhead⟩
    handed := fun hch =>
      ⟨(h.handed hch).1, (h.handed hch).2.1, Nat.le_trans (h.handed hch).2.2 hn⟩
    reached := Nat.le_trans h.reached hn }

theorem concluded (h : Growing r full n record offset? last o) (v : Verdict) :
    Growing r full n (record.conclude v) offset? last o :=
  { h with
    recorded := by rw [FileRecord.conclude_last, h.recorded]
    handed := fun hch => by rw [FileRecord.conclude_handedOut]; exact h.handed hch }

theorem moved (h : Growing r full n record offset? last o) {o' : Nat} (ho' : o' ≤ n)
    (hlast : r.chunk?.isSome → o' ≤ last.size) : Growing r full n record (some o') last o' :=
  { h with
    handed := fun hch => ⟨(h.handed hch).1, hlast hch, (h.handed hch).2.2⟩
    goesOn := rfl
    reached := ho' }

theorem unchanged (h : Growing r full n record offset? last o) {seen : Fingerprint}
    (hlook : record.look r.chunk? seen = (record', none)) :
    Growing r full n record' offset? last o := by
  obtain ⟨hnone, -⟩ | ⟨last', hlast, -, -, -, rfl⟩ := FileRecord.look_quiet hlook
  · rw [h.recorded] at hnone
    cases hnone
  · rw [h.recorded] at hlast
    cases hlast
    exact { h with
      recorded := rfl
      handed := fun hch => ⟨FileRecord.handed_of_isSome hch _ _, (h.handed hch).2⟩ }

/-- A change of a growing file is no replacement, and reading goes on where it had got to. -/
theorem changed (h : Growing r full n record offset? last o) (hlim : full.length ≤ Word.limit)
    {modified : Option Int} {size head : Nat} (hn : n ≤ size) (hs : size ≤ head)
    (hh : head ≤ full.length) {c : Change}
    (hlook : record.look r.chunk? ⟨modified, size, .ofBytes (full.take head)⟩ =
      (record', some c)) :
    c.replaced = false ∧ c.before = last.size ∧
      c.size = record.reported r.chunk? size false ∧ c.size ≤ full.length ∧
      r.limits.resume offset? c = o ∧
      Growing r full head record' (some o) ⟨modified, c.size, .ofBytes (full.take head)⟩ o := by
  obtain ⟨last', hlast, hrep, hsize, hbefore, rfl⟩ := FileRecord.look_change hlook
  rw [h.recorded] at hlast
  cases hlast
  obtain ⟨k, hk, hhead⟩ := h.head
  rw [hhead, Head.follows_of_le full (show k ≤ head by omega), Bool.not_true] at hrep
  change c.size = record.reported r.chunk? size c.replaced at hsize
  rw [hrep] at hsize
  have hle := record.reported_le r.chunk? size false
  -- in steps the offset is below what was handed out, else below what was seen before
  have ho : o ≤ c.size := by
    rw [hsize]
    cases hch : r.chunk? with
    | none => exact Nat.le_trans h.reached hn
    | some chunk =>
      obtain ⟨hold, ho, hlast⟩ := h.handed (by simp [hch])
      exact Nat.le_trans ho (FileRecord.le_reported (fun _ => hold) (by omega) (by omega))
  have hresume : r.limits.resume offset? c = o := by
    have hanchor : r.limits.anchor c = r.limits.anchor ⟨false, last.size, last.size⟩ := by
      simp only [Limits.anchor, hbefore]
    have hgo := h.goesOn
    rw [← hanchor] at hgo
    simp only [Limits.resume, hgo, hrep]
    exact if_neg (by simp; omega)
  refine ⟨hrep, hbefore, hsize, by omega, hresume, ?_⟩
  exact
    { grown := hh
      recorded := rfl
      head := ⟨head, Nat.le_refl _, rfl⟩
      handed := fun hch => ⟨FileRecord.handed_of_isSome hch _ _, ho, by simp only; omega⟩
      goesOn := rfl
      reached := by have := h.reached; omega }

end Growing

namespace Track

/-- What every moment keeps, a list of moments keeps. `p` may look at the news up to now. -/
theorem run_along {r : Rules} {shows : Nat → Moment → Nat → Prop}
    {p : Nat → Track → List News → Prop}
    (keep : ∀ {n n' t t' m news before}, p n t before → shows n m n' → Turn r t m t' news →
      p n' t' (before ++ [news]))
    {t : Track} (before : List News) {ms : List Moment} (hms : Along shows n ms)
    (h : p n t before) : ∃ n', p n' (t.run r ms).1 (before ++ (t.run r ms).2) := by
  induction hms generalizing t before with
  | nil => exact ⟨_, by simpa [run] using h⟩
  | cons hm _ ih =>
    obtain ⟨n', h'⟩ := ih _ (keep h hm (t.step_turn r _))
    exact ⟨n', by simpa [run] using h'⟩

/-- Until a file is seen nothing comes to pass. The first look at it sets the anchor. -/
theorem fresh_run (r : Rules) {shows : Nat → Moment → Nat → Prop}
    (hshows : ∀ n m n', shows n m n' → Shows full n m n') {ms : List Moment}
    (hms : Along shows n ms) :
    (∃ k, fresh.run r ms = (fresh, List.replicate k .quiet)) ∨
    ∃ k modified size head rest, size ≤ head ∧ head ≤ full.length ∧ Along shows head rest ∧
      r.limits.anchorOf ms = r.limits.anchor ⟨false, size, size⟩ ∧
      fresh.run r ms =
        let t : Track := ⟨⟨some ⟨modified, size, .ofBytes (full.take head)⟩,
          FileRecord.fresh.handed r.chunk? size, false⟩, none, none⟩
        ((t.run r rest).1, List.replicate k .quiet ++ (t.run r rest).2) := by
  induction hms with
  | nil => exact .inl ⟨0, rfl⟩
  | @cons n n' m ms hm hms ih =>
    have hgo : (∃ seen, m = .probed (.seen seen)) ∨
        (fresh.step r m = (fresh, .quiet) ∧ r.limits.anchorOf (m :: ms) = r.limits.anchorOf ms) := by
      cases m with
      | fetched answer => exact .inr ⟨rfl, rfl⟩
      | probed s => cases s with
        | seen seen => exact .inl ⟨seen, rfl⟩
        | _ => exact .inr ⟨rfl, rfl⟩
    rcases hgo with ⟨seen, rfl⟩ | ⟨hstep, hanchor⟩
    · cases hshows _ _ _ hm with
      | unseen hs => exact absurd rfl (hs seen)
      | @seen modified size _ _ h₂ h₃ =>
        refine .inr ⟨1, modified, size, n', ms, h₂, h₃, hms, Limits.anchorOf_seen _ _ _, ?_⟩
        simp only [run, fresh_seen]
        rfl
    · rw [hanchor]
      simp only [run, hstep]
      rcases ih with ⟨k, h⟩ | ⟨k, modified, size, head, rest, h₂, h₃, hrest, ha, h⟩
      · exact .inl ⟨k + 1, by rw [h]; rfl⟩
      · exact .inr ⟨k + 1, modified, size, head, rest, h₂, h₃, hrest, ha, by rw [h]; rfl⟩

end Track
end FileTail
