import FileTail.Proofs.Rows
import FileTail.Read.Plan

/-!
# FileTail.Proofs.Plan

What is planned after a change, and what a finished read gives.

* `plan_skip`, `plan_read`: everything known after a plan that reads nothing and after one that does.
* `window_slow`: unread content of at most two full reads is read from the offset on.
* `harvest_rest`: what a read leaves unread is the end of its bytes and holds no delimiter.
* `harvest_row`: a read that does not start within a line moves the offset over whole lines.
* `lt_harvest_offset`: a full read moves the offset, whatever its bytes.
-/

namespace FileTail
namespace Limits

variable {l : Limits} {f : LineFormat} {c : Change} {w : Window} {bytes : Bytes}

theorem resume_le (l : Limits) (offset? : Option Nat) (c : Change) :
    l.resume offset? c ≤ c.size := by
  simp only [resume]
  split <;> omega

theorem resume_replaced (h : c.replaced = true) (offset? : Option Nat) :
    l.resume offset? c = 0 := by
  simp [resume, h]

theorem plan_skip {width o : Nat} {offset? : Option Nat} {v : Verdict}
    (h : l.plan width offset? c = (o, .skip v)) :
    o = l.resume offset? c ∧ ((c.replaced = true ∧ v = .revisit) ∨
      (c.replaced = false ∧ v = .settled ∧
        (c.size < l.minFile ∨ c.size - o = 0 ∨ c.size - o < l.minRead))) := by
  simp only [plan] at h
  split at h
  · rename_i hr
    simp only [Prod.mk.injEq, Plan.skip.injEq] at h
    exact ⟨h.1.symm, .inl ⟨hr, h.2.symm⟩⟩
  · rename_i hr
    split at h
    · rename_i hs
      simp only [Prod.mk.injEq, Plan.skip.injEq] at h
      obtain ⟨rfl, rfl⟩ := h
      exact ⟨rfl, .inr ⟨by simpa using hr, rfl, hs⟩⟩
    · simp at h

theorem plan_read {width o : Nat} {offset? : Option Nat}
    (h : l.plan width offset? c = (o, .read w)) :
    o = l.resume offset? c ∧ c.replaced = false ∧ l.minFile ≤ c.size ∧ 0 < c.size - o ∧
      l.minRead ≤ c.size - o ∧ w = l.window width o c.size := by
  simp only [plan] at h
  split at h
  · simp at h
  · rename_i hr
    split at h
    · simp at h
    · rename_i hs
      simp only [Prod.mk.injEq, Plan.read.injEq] at h
      obtain ⟨rfl, rfl⟩ := h
      exact ⟨rfl, by simpa using hr, by omega, by omega, by omega, rfl⟩

/-! ## Windows -/

theorem window_slow {width o size : Nat} (hd : size - o ≤ 2 * l.maxRead) (hs : size ≤ Word.limit) :
    l.window width o size =
      ⟨o, min l.maxRead (size - o), false, decide (l.maxRead < size - o)⟩ := by
  have hp : ¬ l.patience < size - o := by simp only [patience, Word.satMul]; omega
  simp only [window, hp, if_false]
  split
  · rename_i h; simp [h, Nat.min_eq_left (Nat.le_of_lt h)]
  · rename_i h; simp [h, Nat.min_eq_right (Nat.not_lt.1 h)]

theorem alignUp_bounds {width n : Nat} (hw : 0 < width) :
    n ≤ alignUp width n ∧ alignUp width n < n + width := by
  have h := Nat.div_add_mod (n + width - 1) width
  have hm := Nat.mod_lt (n + width - 1) hw
  rw [Nat.mul_comm] at h
  simp only [alignUp]
  omega

theorem dvd_alignUp (width n : Nat) : width ∣ alignUp width n := Nat.dvd_mul_left _ _

theorem alignUp_zero (width : Nat) : alignUp width 0 = 0 := by
  cases width with
  | zero => simp [alignUp]
  | succ k => simp [alignUp, Nat.div_eq_of_lt]

theorem alignUp_one (n : Nat) : alignUp 1 n = n := by
  rw [alignUp, Nat.div_one, Nat.mul_one, Nat.add_sub_cancel]

/-- Only a read of a backlog ends before the reported size. -/
theorem window_end {width o size : Nat} (hw : 0 < width) (hM : width ≤ l.maxRead + 1)
    (ho : o < size) :
    (l.window width o size).position + (l.window width o size).length ≤ size ∧
      ((l.window width o size).backlog = false →
        (l.window width o size).position + (l.window width o size).length = size) := by
  have ha : alignUp width (size - l.maxRead) ≤ size := by
    by_cases hz : size ≤ l.maxRead
    · rw [Nat.sub_eq_zero_of_le hz, alignUp_zero]; omega
    · have := alignUp_bounds (n := size - l.maxRead) hw; omega
  simp only [window]
  split
  · simp only [tailWindow]
    omega
  · split
    · simp only [reduceCtorEq, false_implies, and_true]
      omega
    · simp only [forall_const]
      omega

/-- Nothing that was read is asked for again. -/
theorem le_window_position {width o size : Nat} (hw : 0 < width) (hs : size ≤ Word.limit) :
    o ≤ (l.window width o size).position := by
  have ha := (alignUp_bounds (n := size - l.maxRead) hw).1
  have hp : l.patience = min (l.maxRead * 2) Word.limit := rfl
  simp only [window]
  split
  · simp only [tailWindow]
    omega
  · split <;> exact Nat.le_refl _

theorem window_backlog {width o size : Nat} (h : (l.window width o size).backlog = true) :
    l.window width o size = ⟨o, l.maxRead, false, true⟩ := by
  simp only [window] at h ⊢
  split
  · rename_i hp
    rw [if_pos hp] at h
    cases h
  · rename_i hp
    rw [if_neg hp] at h
    split
    · rfl
    · rename_i hm
      rw [if_neg hm] at h
      cases h

theorem window_midLine (l : Limits) (width o size : Nat) :
    (l.window width o size).midLine = true ↔ l.patience < size - o := by
  simp only [window]
  split
  · rename_i h
    simp [tailWindow, h]
  · rename_i h
    split <;> simp [h]

theorem window_length_le {width o size : Nat} (hw : 0 < width) :
    (l.window width o size).length ≤ l.maxRead := by
  have ha := alignUp_bounds (n := size - l.maxRead) hw
  simp only [window]
  split
  · simp only [tailWindow]; omega
  · split <;> dsimp only <;> omega

/-! ## Harvest -/

theorem body_suffix (f : LineFormat) (w : Window) (bytes : Bytes) : body f w bytes <:+ bytes := by
  simp only [body]
  split
  · exact List.drop_suffix _ _
  · exact List.suffix_refl _

/-- What the bytes of a read leave unread: nothing, if they are part of an overlong line, and
otherwise what follows the last delimiter. -/
theorem harvest_rest (l : Limits) (hd : f.delimiter ≠ []) (o : Nat) (w : Window) (bytes : Bytes) :
    ∃ rest, rest <:+ bytes ∧ (l.harvest f o w bytes).offset + rest.length =
      w.position + bytes.length ∧ ¬ f.HasDelimiter rest := by
  obtain ⟨whole, hw, -, hrest⟩ := LineFormat.exists_rows hd
    ((body f w bytes).drop (if w.midLine then f.fragmentLength (body f w bytes) else 0))
  by_cases ho : l.isOverlong bytes (body f w bytes) (f.split (body f w bytes) w.midLine) = true
  · exact ⟨[], List.nil_suffix, by simp [harvest, ho], LineFormat.not_hasDelimiter_nil hd⟩
  · refine ⟨_, ?_, ?_, hrest⟩
    · exact ((hw ▸ List.suffix_append _ _).trans (List.drop_suffix _ _)).trans (body_suffix f w bytes)
    · have hl : (f.split (body f w bytes) w.midLine).remainder ≤ bytes.length :=
        Nat.le_trans (LineFormat.segments_rest_length f _)
          ((List.drop_suffix _ _).trans (body_suffix f w bytes)).length_le
      simp only [harvest, ho]
      simp only [LineFormat.split] at hl ⊢
      simp only [Bool.false_eq_true, if_false]
      omega

theorem harvest_verdict (l : Limits) (f : LineFormat) (o : Nat) (w : Window) (bytes : Bytes) :
    (l.harvest f o w bytes).verdict =
      if w.backlog ∨ bytes.length < w.length then .revisit else .settled := rfl

theorem harvest_skipped (h : w.midLine = false) (o : Nat) (bytes : Bytes) :
    (l.harvest f o w bytes).skipped = 0 := by
  simp [harvest, h, LineFormat.split]

/-- What a read leaves unread of a file holds no delimiter. -/
theorem harvest_fragment (l : Limits) (hd : f.delimiter ≠ []) (o : Nat) {full : Bytes}
    (hb : bytes <+: full.drop w.position) :
    ¬ f.HasDelimiter
      (full.between (l.harvest f o w bytes).offset (w.position + bytes.length)) := by
  obtain ⟨rest, hrest, hoff, hno⟩ := l.harvest_rest hd o w bytes
  have hle := hrest.length_le
  have hcut := Bytes.eq_between_of_suffix hb hrest
  rw [show w.position + (bytes.length - rest.length) = (l.harvest f o w bytes).offset by omega]
    at hcut
  rwa [← hcut]

/-- Reading goes on within what was read or at its end. -/
theorem harvest_offset (l : Limits) (hd : f.delimiter ≠ []) (o : Nat) (w : Window) (bytes : Bytes) :
    w.position ≤ (l.harvest f o w bytes).offset ∧
      (l.harvest f o w bytes).offset ≤ w.position + bytes.length := by
  obtain ⟨rest, hrest, hoff, -⟩ := l.harvest_rest hd o w bytes
  have := hrest.length_le
  omega

/-- A full read that starts with a line moves the offset: either a line ends in it, or it is given as
a part of an overlong line. -/
theorem lt_harvest_offset (hmid : w.midLine = false) (hpos : 0 < l.maxRead)
    (hfull : l.maxRead ≤ bytes.length) (o : Nat) : w.position < (l.harvest f o w bytes).offset := by
  by_cases hover : l.isOverlong bytes (body f w bytes) (f.split (body f w bytes) false) = true
  · simp only [harvest, hmid, hover, if_true]
    omega
  · have hle := (body_suffix f w bytes).length_le
    have hrest := LineFormat.segments_rest_length f (body f w bytes)
    simp only [harvest, hmid, hover, if_false, Bool.false_eq_true]
    simp only [isOverlong, Bool.and_eq_true, decide_eq_true_eq, beq_iff_eq, hfull, and_true] at hover
    simp only [LineFormat.split, Bool.false_eq_true, if_false, List.drop_zero] at hover hrest ⊢
    omega

/-- A read that ends within a line is taken for a part of an overlong line only if it is a full one
without a delimiter. -/
theorem not_isOverlong (hd : f.delimiter ≠ [])
    (h : l.maxRead ≤ bytes.length → f.HasDelimiter (body f w bytes)) :
    l.isOverlong bytes (body f w bytes) (f.split (body f w bytes) false) = false := by
  by_cases hM : l.maxRead ≤ bytes.length
  · have hlt := LineFormat.segments_rest_lt hd (h hM)
    have hne : (f.split (body f w bytes) false).remainder ≠ (body f w bytes).length := by
      simp only [LineFormat.split, Bool.false_eq_true, if_false, List.drop_zero]
      omega
    simp [isOverlong, hne]
  · simp [isOverlong, hM]

/-- A read that starts with a line gives whole lines, and the offset moves to the end of the last
of them. -/
theorem harvest_row (hd : f.delimiter ≠ []) (o : Nat) (hmid : w.midLine = false)
    (h : l.maxRead ≤ bytes.length → f.HasDelimiter (body f w bytes)) :
    ∃ row segments rest, body f w bytes = row ++ rest ∧ f.Rows row segments ∧
      (l.harvest f o w bytes).lines = f.texts segments ∧ (l.harvest f o w bytes).skipped = 0 ∧
      (l.harvest f o w bytes).offset + rest.length = w.position + bytes.length := by
  obtain ⟨row, hrow, hrows, -⟩ := LineFormat.exists_rows hd (body f w bytes)
  have hover := not_isOverlong hd h
  refine ⟨row, _, _, hrow, hrows, ?_, ?_, ?_⟩
  · simp only [harvest, hmid, hover, Bool.false_eq_true, if_false]
    simp [LineFormat.split, LineFormat.texts]
  · simp [harvest, hmid, LineFormat.split]
  · have hl : (f.segments (body f w bytes)).2.length ≤ bytes.length :=
      Nat.le_trans (LineFormat.segments_rest_length f _) (body_suffix f w bytes).length_le
    simp only [harvest, hmid, hover, Bool.false_eq_true, if_false]
    simp only [LineFormat.split, Bool.false_eq_true, if_false, List.drop_zero]
    omega

end Limits
end FileTail
