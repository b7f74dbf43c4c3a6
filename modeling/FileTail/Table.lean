/-!
# FileTail.Table

A finite map kept as a list of pairs in the order in which the keys were first put. The laws are
the usual ones: a key reads back what was last put, and no operation on one key is seen at another.
-/

namespace FileTail

structure Table (κ : Type) (ν : Type) where
  entries : List (κ × ν)
deriving Repr, DecidableEq

namespace Table

variable {κ ν : Type} [DecidableEq κ]

def empty : Table κ ν := ⟨[]⟩

instance : Inhabited (Table κ ν) := ⟨empty⟩

def find (k : κ) : List (κ × ν) → Option ν
  | [] => none
  | (a, v) :: r => if a = k then some v else find k r

def replace (k : κ) (v : ν) : List (κ × ν) → List (κ × ν)
  | [] => [(k, v)]
  | (a, w) :: r => if a = k then (a, v) :: r else (a, w) :: replace k v r

def get? (t : Table κ ν) (k : κ) : Option ν := find k t.entries

def put (t : Table κ ν) (k : κ) (v : ν) : Table κ ν := ⟨replace k v t.entries⟩

/-- Change the value of a key that is there; a key that is not there stays away. -/
def adjust (t : Table κ ν) (k : κ) (f : ν → ν) : Table κ ν :=
  match t.get? k with
  | none => t
  | some v => t.put k (f v)

def erase (t : Table κ ν) (k : κ) : Table κ ν := ⟨t.entries.filter (·.1 ≠ k)⟩

def contains (t : Table κ ν) (k : κ) : Bool := (t.get? k).isSome

def values (t : Table κ ν) : List ν := t.entries.map (·.2)

/-! ## Laws -/

theorem get?_empty (k : κ) : (empty : Table κ ν).get? k = none := rfl

theorem get?_put_same (t : Table κ ν) (k : κ) (v : ν) : (t.put k v).get? k = some v := by
  obtain ⟨es⟩ := t
  simp only [get?, put]
  induction es with
  | nil => simp [replace, find]
  | cons e r ih =>
    by_cases h : e.1 = k
    · simp [replace, find, h]
    · simp [replace, find, h, ih]

theorem get?_put_other (t : Table κ ν) {j k : κ} (v : ν) (hne : j ≠ k) :
    (t.put j v).get? k = t.get? k := by
  obtain ⟨es⟩ := t
  simp only [get?, put]
  induction es with
  | nil => simp [replace, find, hne]
  | cons e r ih =>
    by_cases h : e.1 = j
    · have hk : e.1 ≠ k := fun hc => hne (h.symm.trans hc)
      simp [replace, find, h, hne]
    · by_cases hk : e.1 = k
      · have hj : k ≠ j := fun hc => h (hk.trans hc)
        simp [replace, find, hk, hj]
      · simp [replace, find, h, hk, ih]

theorem get?_erase_same (t : Table κ ν) (k : κ) : (t.erase k).get? k = none := by
  obtain ⟨es⟩ := t
  simp only [get?, erase]
  induction es with
  | nil => rfl
  | cons e r ih =>
    by_cases h : e.1 = k
    · simpa [find, h] using ih
    · simpa [find, h] using ih

theorem get?_erase_other (t : Table κ ν) {j k : κ} (hne : j ≠ k) :
    (t.erase j).get? k = t.get? k := by
  obtain ⟨es⟩ := t
  simp only [get?, erase]
  induction es with
  | nil => rfl
  | cons e r ih =>
    by_cases h : e.1 = j
    · have hk : e.1 ≠ k := fun hc => hne (h.symm.trans hc)
      simpa [find, h, hne] using ih
    · by_cases hk : e.1 = k
      · have hj : k ≠ j := fun hc => h (hk.trans hc)
        simp [find, hk, hj]
      · simpa [find, h, hk] using ih

theorem get?_adjust_same (t : Table κ ν) (k : κ) (f : ν → ν) :
    (t.adjust k f).get? k = (t.get? k).map f := by
  unfold adjust
  cases h : t.get? k with
  | none => simp [h]
  | some v => simp [get?_put_same]

theorem get?_adjust_other (t : Table κ ν) {j k : κ} (f : ν → ν) (hne : j ≠ k) :
    (t.adjust j f).get? k = t.get? k := by
  unfold adjust
  cases h : t.get? j with
  | none => rfl
  | some v => exact get?_put_other t (f v) hne

/-- The value that is there, put again, changes nothing. -/
theorem put_self {t : Table κ ν} {k : κ} {v : ν} (h : t.get? k = some v) : t.put k v = t := by
  obtain ⟨es⟩ := t
  simp only [get?, put, mk.injEq] at h ⊢
  induction es with
  | nil => cases h
  | cons e r ih =>
    by_cases he : e.1 = k
    · simp only [find, he, if_true, Option.some.injEq] at h
      simp only [replace, he, if_true, ← h]
      rw [← he]
    · simp only [find, he, if_false] at h
      simp only [replace, he, if_false, ih h]

theorem adjust_self {t : Table κ ν} {k : κ} {f : ν → ν} (h : ∀ v, t.get? k = some v → f v = v) :
    t.adjust k f = t := by
  unfold adjust
  cases hv : t.get? k with
  | none => rfl
  | some v =>
    dsimp only
    rw [h v hv, put_self hv]

/-! ## Order -/

theorem entries_put_new {t : Table κ ν} {k : κ} (v : ν) (h : t.get? k = none) :
    (t.put k v).entries = t.entries ++ [(k, v)] := by
  obtain ⟨es⟩ := t
  simp only [get?, put] at h ⊢
  induction es with
  | nil => rfl
  | cons e r ih =>
    by_cases he : e.1 = k
    · simp [find, he] at h
    · simp only [find, he, if_false] at h
      simp [replace, he, ih h]

/-- What an adjustment leaves alone is the same in all entries, in the same order. -/
theorem map_entries_adjust {α : Type} {g : κ × ν → α} (t : Table κ ν) (k : κ) {f : ν → ν}
    (hg : ∀ v, g (k, f v) = g (k, v)) : (t.adjust k f).entries.map g = t.entries.map g := by
  obtain ⟨es⟩ := t
  unfold adjust
  cases h : (⟨es⟩ : Table κ ν).get? k with
  | none => rfl
  | some v =>
    simp only [get?, put] at h ⊢
    induction es with
    | nil => cases h
    | cons e r ih =>
      by_cases he : e.1 = k
      · subst he
        simp only [find, if_true, Option.some.injEq] at h
        subst h
        simp [replace, hg]
      · simp only [find, he, if_false] at h
        simp [replace, he, ih h]

theorem get?_map_values (t : Table κ ν) (k : κ) (f : ν → ν) :
    (⟨t.entries.map fun e => (e.1, f e.2)⟩ : Table κ ν).get? k = (t.get? k).map f := by
  obtain ⟨es⟩ := t
  simp only [get?]
  induction es with
  | nil => rfl
  | cons e r ih =>
    by_cases he : e.1 = k
    · simp [find, he]
    · simp [find, he, ih]

theorem mem_keys_iff {t : Table κ ν} {k : κ} : k ∈ t.entries.map (·.1) ↔ (t.get? k).isSome := by
  obtain ⟨es⟩ := t
  simp only [get?]
  induction es with
  | nil => simp [find]
  | cons e r ih =>
    by_cases he : e.1 = k
    · simp [find, he]
    · have hne : k ≠ e.1 := fun h => he h.symm
      simp only [List.map_cons, List.mem_cons, hne, false_or, find, he, if_false, ih]

theorem mem_of_get? {t : Table κ ν} {k : κ} {v : ν} (h : t.get? k = some v) :
    (k, v) ∈ t.entries := by
  obtain ⟨es⟩ := t
  simp only [get?] at h ⊢
  induction es with
  | nil => cases h
  | cons e r ih =>
    by_cases he : e.1 = k
    · simp only [find, he, if_true, Option.some.injEq] at h
      rw [← he, ← h]
      exact List.mem_cons_self
    · simp only [find, he, if_false] at h
      exact List.mem_cons_of_mem _ (ih h)

/-- Without a key twice each entry is found under its key. -/
theorem get?_of_mem {t : Table κ ν} (hkeys : (t.entries.map (·.1)).Nodup) {e : κ × ν}
    (he : e ∈ t.entries) : t.get? e.1 = some e.2 := by
  obtain ⟨es⟩ := t
  simp only [get?] at hkeys he ⊢
  induction es with
  | nil => cases he
  | cons d r ih =>
    obtain ⟨hd, hr⟩ := List.nodup_cons.1 hkeys
    rcases List.mem_cons.1 he with rfl | he
    · simp [find]
    · have hne : d.1 ≠ e.1 := fun h => hd (List.mem_map.2 ⟨e, he, h.symm⟩)
      simp only [find, hne, if_false]
      exact ih hr he

/-! ## One key alone -/

theorem get?_filter_key (t : Table κ ν) (k : κ) :
    (⟨t.entries.filter fun e => e.1 = k⟩ : Table κ ν).get? k = t.get? k := by
  obtain ⟨es⟩ := t
  simp only [get?]
  induction es with
  | nil => rfl
  | cons e r ih =>
    by_cases he : e.1 = k
    · simp [find, he]
    · simp [find, he, ih]

/-- Without a key twice a key has the entry that is found under it. -/
theorem filter_key {t : Table κ ν} (hkeys : (t.entries.map (·.1)).Nodup) (k : κ) :
    t.entries.filter (fun e => e.1 = k) = (t.get? k).toList.map fun v => (k, v) := by
  obtain ⟨es⟩ := t
  simp only [get?] at hkeys ⊢
  induction es with
  | nil => rfl
  | cons e r ih =>
    obtain ⟨he, hr⟩ := List.nodup_cons.1 hkeys
    by_cases hk : e.1 = k
    · have hnone : r.filter (fun d => d.1 = k) = [] := by
        refine List.filter_eq_nil_iff.2 fun d hd hkey => he (List.mem_map.2 ⟨d, hd, ?_⟩)
        exact (of_decide_eq_true hkey).trans hk.symm
      rw [List.filter_cons_of_pos (by simpa using hk), hnone, find, if_pos hk, ← hk]
      rfl
    · rw [List.filter_cons_of_neg (by simpa using hk), find, if_neg hk]
      exact ih hr

end Table
end FileTail
