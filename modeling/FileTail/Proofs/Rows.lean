import FileTail.Lines

/-!
# FileTail.Proofs.Rows

What cutting into lines means, said without the search. The delimiter occurs where a code unit can
start. A row is a list of segments, each closed by the first delimiter from its start on.

* `find?_eq_some_iff`, `find?_eq_none_iff`: the search finds the first occurrence, if there is one.
* `exists_rows`: cutting gives a row and a rest in which the delimiter does not occur.
* `Rows.append`: a row followed by a row is a row.
-/

namespace FileTail

/-- The bytes from position `i` up to position `j`. -/
def Bytes.between (bytes : Bytes) (i j : Nat) : Bytes := (bytes.take j).drop i

namespace Bytes

theorem length_between (bytes : Bytes) {i j : Nat} (hj : j ≤ bytes.length) :
    (bytes.between i j).length = j - i := by
  simp only [between, List.length_drop, List.length_take]; omega

theorem between_of_le (bytes : Bytes) {i j : Nat} (h : j ≤ i) : bytes.between i j = [] :=
  List.drop_eq_nil_of_le (Nat.le_trans (List.length_take_le _ _) h)

theorem between_append_between (bytes : Bytes) {i j k : Nat} (hij : i ≤ j) (hjk : j ≤ k) :
    bytes.between i j ++ bytes.between j k = bytes.between i k := by
  simp only [between, List.drop_take]
  have e : k - i = (j - i) + (k - j) := by omega
  rw [e, List.take_add, List.drop_drop, show i + (j - i) = j by omega]

theorem take_between (bytes : Bytes) {i j : Nat} (n : Nat) (h : i + n ≤ j) :
    (bytes.between i j).take n = bytes.between i (i + n) := by
  simp only [between, List.drop_take, List.take_take]
  congr 1; omega

theorem drop_between (bytes : Bytes) (i j n : Nat) :
    (bytes.between i j).drop n = bytes.between (i + n) j := by
  simp only [between, List.drop_drop]

/-- What is read from position `i` on is what the file holds there. -/
theorem eq_between_of_prefix {bytes part : Bytes} {i : Nat} (h : part <+: bytes.drop i) :
    part = bytes.between i (i + part.length) := by
  rw [between, List.drop_take, show i + part.length - i = part.length by omega]
  exact List.prefix_iff_eq_take.1 h

theorem take_eq_between {bytes part : Bytes} {i n : Nat} (h : part <+: bytes.drop i)
    (hn : n ≤ part.length) : part.take n = bytes.between i (i + n) := by
  conv => lhs; rw [ eq_between_of_prefix h]
  exact take_between _ _ (by omega)

/-- The end of what is read from position `i` on. -/
theorem eq_between_of_suffix {bytes part rest : Bytes} {i : Nat} (h : part <+: bytes.drop i)
    (hrest : rest <:+ part) :
    rest = bytes.between (i + (part.length - rest.length)) (i + part.length) := by
  rw [← drop_between, ← eq_between_of_prefix h]
  exact List.suffix_iff_eq_drop.1 hrest

/-- No proper start of the bytes is also their end. -/
def Unbordered (d : Bytes) : Prop := ∀ n < d.length, 0 < n → d.take n ≠ d.drop (d.length - n)

instance : DecidablePred Unbordered := fun d => Nat.decidableBallLT d.length _

theorem unbordered_of_single {d : Bytes} (h : d.length = 1) : d.Unbordered := by
  intro n hn hpos
  omega

end Bytes

namespace LineFormat

theorem width_le_two (f : LineFormat) : f.width ≤ 2 := by
  cases h : f.encoding <;> simp [LineFormat.width, Encoding.width, h]

theorem mod_width {f : LineFormat} (hunit : f.width = 1) (i : Nat) : i % f.width = 0 := by
  rw [hunit, Nat.mod_one]

/-- The delimiter stands at position `i`, where a code unit can start. -/
def OccursAt (f : LineFormat) (bytes : Bytes) (i : Nat) : Prop :=
  i % f.width = 0 ∧ f.delimiter <+: bytes.drop i

instance (f : LineFormat) (bytes : Bytes) (i : Nat) : Decidable (f.OccursAt bytes i) :=
  inferInstanceAs (Decidable (_ ∧ _))

def FirstAt (f : LineFormat) (bytes : Bytes) (i : Nat) : Prop :=
  f.OccursAt bytes i ∧ ∀ j, j < i → ¬ f.OccursAt bytes j

def HasDelimiter (f : LineFormat) (bytes : Bytes) : Prop := ∃ i, f.OccursAt bytes i

/-! ## The search -/

theorem search_eq_none_iff {width : Nat} {d : Bytes} (hd : d ≠ []) :
    ∀ {bytes : Bytes} {i : Nat}, search width d i bytes = none ↔
      ∀ k, ¬ ((i + k) % width = 0 ∧ d <+: bytes.drop k) := by
  intro bytes
  induction bytes with
  | nil => intro i; simp [search, hd]
  | cons b r ih =>
    intro i
    simp only [search, List.isPrefixOf_iff_prefix]
    split
    · rename_i hp
      simp only [reduceCtorEq, false_iff]
      exact fun h => h 0 hp
    · rename_i hp
      rw [ih]
      constructor
      · intro h k
        cases k with
        | zero => exact hp
        | succ k => simpa [Nat.add_assoc, Nat.add_comm 1] using h k
      · intro h k
        simpa [Nat.add_assoc, Nat.add_comm 1] using h (k + 1)

theorem search_eq_some_iff {width : Nat} {d : Bytes} (hd : d ≠ []) :
    ∀ {bytes : Bytes} {i k : Nat}, search width d i bytes = some (i + k) ↔
      ((i + k) % width = 0 ∧ d <+: bytes.drop k) ∧
        ∀ m, m < k → ¬ ((i + m) % width = 0 ∧ d <+: bytes.drop m) := by
  intro bytes
  induction bytes with
  | nil => intro i k; simp [search, hd]
  | cons b r ih =>
    intro i k
    simp only [search, List.isPrefixOf_iff_prefix]
    cases k with
    | zero =>
      split
      · rename_i hp; simpa using hp
      · rename_i hp
        have hne : search width d (i + 1) r ≠ some (i + 0) := fun h => by
          have := (search_bound h).1; omega
        simp only [hne, false_iff]
        exact fun h => hp h.1
    | succ k =>
      split
      · rename_i hp
        constructor
        · intro h; simp at h
        · intro h; exact absurd hp (h.2 0 (by omega))
      · rename_i hp
        rw [show i + (k + 1) = (i + 1) + k by omega, ih]
        constructor
        · rintro ⟨h₁, h₂⟩
          refine ⟨by simpa using h₁, fun m hm => ?_⟩
          cases m with
          | zero => exact hp
          | succ m => simpa [Nat.add_assoc, Nat.add_comm 1] using h₂ m (by omega)
        · rintro ⟨h₁, h₂⟩
          refine ⟨by simpa using h₁, fun m hm => ?_⟩
          simpa [Nat.add_assoc, Nat.add_comm 1] using h₂ (m + 1) (by omega)

variable {f : LineFormat}

theorem find?_eq_none_iff (hd : f.delimiter ≠ []) {bytes : Bytes} :
    f.find? bytes = none ↔ ¬ f.HasDelimiter bytes := by
  have he : f.delimiter.isEmpty = false := by simpa using hd
  simp [find?, he, search_eq_none_iff hd, HasDelimiter, OccursAt]

/-- Whether there is a delimiter can be found out. -/
theorem hasDelimiter_iff (hd : f.delimiter ≠ []) {bytes : Bytes} :
    f.HasDelimiter bytes ↔ (f.find? bytes).isSome = true := by
  rw [Option.isSome_iff_ne_none, ne_eq, find?_eq_none_iff hd, Classical.not_not]

theorem find?_eq_some_iff (hd : f.delimiter ≠ []) {bytes : Bytes} {i : Nat} :
    f.find? bytes = some i ↔ f.FirstAt bytes i := by
  have he : f.delimiter.isEmpty = false := by simpa using hd
  have h := @search_eq_some_iff f.width f.delimiter hd bytes 0 i
  simp only [Nat.zero_add] at h
  simp [find?, he, h, FirstAt, OccursAt]

theorem OccursAt.bound (hd : f.delimiter ≠ []) {bytes : Bytes} {i : Nat}
    (h : f.OccursAt bytes i) : i + f.delimiter.length ≤ bytes.length := by
  have hl := h.2.length_le
  have hpos : 0 < f.delimiter.length := List.length_pos_iff.2 hd
  simp only [List.length_drop] at hl
  omega

theorem OccursAt.append_right {bytes : Bytes} {i : Nat} (h : f.OccursAt bytes i) (more : Bytes)
    (hi : i ≤ bytes.length) : f.OccursAt (bytes ++ more) i := by
  refine ⟨h.1, ?_⟩
  rw [List.drop_append_of_le_length hi]
  exact h.2.trans (List.prefix_append _ _)

/-- Where a part starts at a code unit, the delimiters in it are those of the whole that it holds to
their end. -/
theorem occursAt_between (hd : f.delimiter ≠ []) (bytes : Bytes) {i j k : Nat}
    (hi : i % f.width = 0) :
    f.OccursAt (bytes.between i j) k ↔
      f.OccursAt bytes (i + k) ∧ k + f.delimiter.length ≤ j - i := by
  have hpos : 0 < f.delimiter.length := List.length_pos_iff.2 hd
  have hmod : (i + k) % f.width = k % f.width := by rw [Nat.add_mod, hi, Nat.zero_add, Nat.mod_mod]
  rw [OccursAt, OccursAt, hmod, Bytes.drop_between, Bytes.between, List.drop_take,
    List.prefix_take_iff, and_assoc]
  refine and_congr_right fun _ => and_congr_right fun _ => ?_
  omega

/-- A delimiter that starts behind the start of a range and ends before its end is in it. -/
theorem OccursAt.between (hd : f.delimiter ≠ []) (hunit : f.width = 1) {bytes : Bytes} {i j k : Nat}
    (h : f.OccursAt bytes k) (hi : i ≤ k) (hj : k + f.delimiter.length ≤ j) :
    f.HasDelimiter (bytes.between i j) := by
  refine ⟨k - i, (occursAt_between hd bytes (mod_width hunit _)).2 ?_⟩
  rw [Nat.add_sub_cancel' hi]
  exact ⟨h, by omega⟩

/-- Two occurrences of an unbordered delimiter have no byte in common. -/
theorem OccursAt.disjoint (hself : f.delimiter.Unbordered) {bytes : Bytes} {i j : Nat}
    (hi : f.OccursAt bytes i) (hj : f.OccursAt bytes j) (hij : i < j) :
    i + f.delimiter.length ≤ j := by
  refine Nat.le_of_not_lt fun hlt => hself (i + f.delimiter.length - j) (by omega) (by omega) ?_
  -- what they have in common stands at `j`
  have hend : f.delimiter.drop (j - i) <+: bytes.drop j := by
    obtain ⟨more, hmore⟩ := hi.2
    refine ⟨more, ?_⟩
    rw [← List.drop_append_of_le_length (by omega), hmore, List.drop_drop,
      Nat.add_sub_cancel' (Nat.le_of_lt hij)]
  have hstart := (List.take_prefix (i + f.delimiter.length - j) f.delimiter).trans hj.2
  have hlength : (f.delimiter.take (i + f.delimiter.length - j)).length =
      (f.delimiter.drop (j - i)).length := by
    rw [List.length_take, List.length_drop]
    omega
  rw [show f.delimiter.length - (i + f.delimiter.length - j) = j - i by omega]
  exact (List.prefix_of_prefix_length_le hstart hend (Nat.le_of_eq hlength)).eq_of_length hlength

theorem not_hasDelimiter_nil (hd : f.delimiter ≠ []) : ¬ f.HasDelimiter [] := by
  rintro ⟨i, h⟩
  have := h.bound hd
  have hpos : 0 < f.delimiter.length := List.length_pos_iff.2 hd
  simp only [List.length_nil] at this
  omega

theorem not_hasDelimiter_between (hd : f.delimiter ≠ []) (full : Bytes) {i j : Nat} (h : j ≤ i) :
    ¬ f.HasDelimiter (full.between i j) := by
  rw [Bytes.between_of_le full h]
  exact not_hasDelimiter_nil hd

theorem HasDelimiter.append_right (hd : f.delimiter ≠ []) {bytes : Bytes}
    (h : f.HasDelimiter bytes) (more : Bytes) : f.HasDelimiter (bytes ++ more) := by
  obtain ⟨i, hi⟩ := h
  exact ⟨i, hi.append_right more (by have := hi.bound hd; omega)⟩

theorem HasDelimiter.of_drop {bytes : Bytes} {k : Nat} (hk : k % f.width = 0)
    (h : f.HasDelimiter (bytes.drop k)) : f.HasDelimiter bytes := by
  obtain ⟨i, hi, hp⟩ := h
  rw [List.drop_drop] at hp
  refine ⟨k + i, ?_, hp⟩
  rw [Nat.add_mod, hk, hi, Nat.add_zero, Nat.zero_mod]

/-! ## Rows of segments -/

/-- `bytes` is made of the segments, each closed by the first delimiter from its start on. -/
inductive Rows (f : LineFormat) : Bytes → List Bytes → Prop where
  | nil : Rows f [] []
  | cons {segment rest : Bytes} {segments : List Bytes} :
      f.FirstAt (segment ++ f.delimiter) segment.length → Rows f rest segments →
      Rows f (segment ++ f.delimiter ++ rest) (segment :: segments)

theorem Rows.append {a b : Bytes} {s t : List Bytes} (ha : f.Rows a s) (hb : f.Rows b t) :
    f.Rows (a ++ b) (s ++ t) := by
  induction ha with
  | nil => exact hb
  | cons hfirst _ ih =>
    rw [List.append_assoc, List.cons_append]
    exact .cons hfirst ih

/-- A row that is not empty ends with a delimiter. -/
theorem Rows.eq_append_delimiter {row : Bytes} {segments : List Bytes} (h : f.Rows row segments)
    (hne : row ≠ []) : ∃ start, row = start ++ f.delimiter := by
  induction h with
  | nil => exact absurd rfl hne
  | @cons segment rest _ _ _ ih =>
    cases rest with
    | nil => exact ⟨segment, List.append_nil _⟩
    | cons b rest =>
      obtain ⟨start, hstart⟩ := ih (List.cons_ne_nil _ _)
      exact ⟨segment ++ f.delimiter ++ start, by rw [hstart, List.append_assoc (_ ++ _)]⟩

/-- Bytes without a delimiter hold no segment. -/
theorem Rows.eq_nil {row rest : Bytes} {segments : List Bytes} (h : f.Rows row segments)
    (hno : ¬ f.HasDelimiter (row ++ rest)) : row = [] ∧ segments = [] := by
  cases h with
  | nil => exact ⟨rfl, rfl⟩
  | @cons segment _ _ hfirst _ =>
    refine absurd ⟨segment.length, ?_⟩ hno
    rw [List.append_assoc]
    exact hfirst.1.append_right _ (by simp)

/-- Where the first delimiter stands is decided by the bytes up to its end. -/
theorem FirstAt.take (hd : f.delimiter ≠ []) {bytes : Bytes} {i : Nat} (h : f.FirstAt bytes i) :
    f.FirstAt (bytes.take i ++ f.delimiter) (bytes.take i).length := by
  have hb := h.1.bound hd
  have hl : (bytes.take i).length = i := List.length_take_of_le (by omega)
  have hcut : bytes.take i ++ f.delimiter ++ bytes.drop (i + f.delimiter.length) = bytes := by
    obtain ⟨rest, hrest⟩ := h.1.2
    rw [← List.drop_drop, ← hrest, List.drop_left, List.append_assoc, hrest, List.take_append_drop]
  rw [hl]
  refine ⟨⟨h.1.1, ?_⟩, fun j hj hocc => h.2 j hj ?_⟩
  · rw [List.drop_append, List.drop_of_length_le (by omega), hl, Nat.sub_self]
    exact List.prefix_refl _
  · rw [← hcut]
    exact hocc.append_right _ (by simp only [List.length_append, hl]; omega)

/-- Cutting gives a row, and a rest that holds no delimiter. -/
theorem exists_rows (hd : f.delimiter ≠ []) (bytes : Bytes) :
    ∃ whole, bytes = whole ++ (f.segments bytes).2 ∧ f.Rows whole (f.segments bytes).1 ∧
      ¬ f.HasDelimiter (f.segments bytes).2 := by
  have general : ∀ (n : Nat) (bytes : Bytes), bytes.length ≤ n →
      ∃ whole, bytes = whole ++ (f.segments bytes).2 ∧ f.Rows whole (f.segments bytes).1 ∧
        ¬ f.HasDelimiter (f.segments bytes).2 := by
    intro n
    induction n with
    | zero =>
      intro bytes hn
      have : bytes = [] := List.eq_nil_of_length_eq_zero (by omega)
      subst this
      have hnone : f.find? [] = none := (find?_eq_none_iff hd).2 (not_hasDelimiter_nil hd)
      rw [segments_none hnone]
      exact ⟨[], rfl, .nil, not_hasDelimiter_nil hd⟩
    | succ n ih =>
      intro bytes hn
      cases h : f.find? bytes with
      | none =>
        rw [segments_none h]
        exact ⟨[], rfl, .nil, (find?_eq_none_iff hd).1 h⟩
      | some i =>
        have hb := find?_bound h
        have hfirst := (find?_eq_some_iff hd).1 h
        obtain ⟨whole, hw, hrows, hrest⟩ := ih (bytes.drop (i + f.delimiter.length))
          (by simp only [List.length_drop]; omega)
        rw [segments_some h]
        refine ⟨bytes.take i ++ f.delimiter ++ whole, ?_, .cons (hfirst.take hd) hrows, hrest⟩
        obtain ⟨rest, hr⟩ := hfirst.1.2
        rw [List.append_assoc, ← hw, List.append_assoc, ← List.drop_drop, ← hr, List.drop_left, hr,
          List.take_append_drop]
  exact general _ bytes (Nat.le_refl _)

/-- A delimiter that is unbordered closes a row wherever it stands. -/
theorem exists_rows_append (hd : f.delimiter ≠ []) (hunit : f.width = 1)
    (hself : f.delimiter.Unbordered) (bytes : Bytes) :
    ∃ segments, f.Rows (bytes ++ f.delimiter) segments := by
  obtain ⟨row, hrow, hrows, hno⟩ := exists_rows hd bytes
  refine ⟨(f.segments bytes).1 ++ [(f.segments bytes).2], ?_⟩
  have hclosed : f.OccursAt ((f.segments bytes).2 ++ f.delimiter) (f.segments bytes).2.length :=
    ⟨mod_width hunit _, by simp⟩
  have hfirst : f.FirstAt ((f.segments bytes).2 ++ f.delimiter) (f.segments bytes).2.length := by
    refine ⟨hclosed, fun j hj hocc => hno ⟨j, hocc.1, ?_⟩⟩
    have hbefore := hocc.disjoint hself hclosed hj
    have hpre := hocc.2
    rw [List.drop_append_of_le_length (Nat.le_of_lt hj)] at hpre
    exact List.prefix_of_prefix_length_le hpre (List.prefix_append _ _)
      (by rw [List.length_drop]; omega)
  have hlast := hrows.append (.cons hfirst .nil)
  rw [List.append_nil, ← List.append_assoc, ← hrow] at hlast
  exact hlast

/-- A buffer in which the delimiter occurs is not all rest. -/
theorem segments_rest_lt (hd : f.delimiter ≠ []) {bytes : Bytes} (h : f.HasDelimiter bytes) :
    (f.segments bytes).2.length < bytes.length := by
  cases hf : f.find? bytes with
  | none => exact absurd h ((find?_eq_none_iff hd).1 hf)
  | some i =>
    have hb := find?_bound hf
    rw [segments_some hf]
    have := segments_rest_length f (bytes.drop (i + f.delimiter.length))
    simp only [List.length_drop] at this ⊢
    omega

/-- The text of the segments that are not empty. -/
def texts (f : LineFormat) (segments : List Bytes) : List String :=
  (f.readings segments).map (·.text)

theorem texts_append (f : LineFormat) (s t : List Bytes) :
    f.texts (s ++ t) = f.texts s ++ f.texts t := by
  simp [texts, readings]

end LineFormat
end FileTail
