import FileTail.Proofs.Plan

/-!
# FileTail.Proofs.Harvest

How the bytes of a read are cut, in their order: a mark, the end of a line that began before the
read, delimited segments and a rest. The rest is left to the next read, unless it is all that was
read and a full read; then it is given as a part of an overlong line.

* `harvest_eq`: what a read amounts to, in terms of these parts.
* `exists_cut`: the segments and the rest are what follows the fragment.
* `overlong_cut`: a read that is given as it is starts with a line and holds no delimiter.
* `harvest_rows`: any other read moves the offset over rows.
-/

namespace FileTail

namespace LineFormat

theorem fragmentLength_pos (f : LineFormat) {bytes : Bytes} (h : bytes ≠ []) :
    0 < f.fragmentLength bytes := by
  unfold fragmentLength
  split
  · rename_i i hi
    have := find?_bound hi
    omega
  · exact List.length_pos_iff.2 h

end LineFormat

namespace Limits

/-- How much of a read is left out as the end of a line that began before it. -/
def fragment (f : LineFormat) (w : Window) (bytes : Bytes) : Nat :=
  if w.midLine then f.fragmentLength (body f w bytes) else 0

/-- The delimited segments of a read, and the rest. -/
def cut (f : LineFormat) (w : Window) (bytes : Bytes) : List Bytes × Bytes :=
  f.segments ((body f w bytes).drop (fragment f w bytes))

/-- Whether a read is given as it is. -/
def overlong (l : Limits) (f : LineFormat) (w : Window) (bytes : Bytes) : Bool :=
  l.isOverlong bytes (body f w bytes) (f.split (body f w bytes) w.midLine)

/-- What a read gives up before its window, the end of a line that began there aside. -/
def jump (o : Nat) (w : Window) : Nat := if w.midLine then w.position - o else 0

variable {l : Limits} {f : LineFormat} {w : Window} {bytes : Bytes}

theorem overlong_iff : l.overlong f w bytes = true ↔
    0 < (cut f w bytes).2.length ∧ (cut f w bytes).2.length = (body f w bytes).length ∧
      l.maxRead ≤ bytes.length := by
  simp only [overlong, isOverlong, Bool.and_eq_true, decide_eq_true_eq, beq_iff_eq, and_assoc]
  rfl

theorem harvest_eq (l : Limits) (f : LineFormat) (o : Nat) (w : Window) (bytes : Bytes) :
    l.harvest f o w bytes =
      { lines := f.texts (cut f w bytes).1 ++
          if l.overlong f w bytes then [(f.encoding.decode (body f w bytes)).text] else []
        skipped := jump o w + fragment f w bytes
        offset := w.position + bytes.length -
          (if l.overlong f w bytes then 0 else (cut f w bytes).2.length)
        verdict := if w.backlog ∨ bytes.length < w.length then .revisit else .settled } := by
  have hlong : l.isOverlong bytes (body f w bytes) (f.split (body f w bytes) w.midLine) =
      l.overlong f w bytes := rfl
  simp only [harvest, hlong]
  cases l.overlong f w bytes with
  | true => rfl
  | false => simp only [Bool.false_eq_true, if_false, List.append_nil]; rfl

theorem fragment_le (f : LineFormat) (w : Window) (bytes : Bytes) :
    fragment f w bytes ≤ (body f w bytes).length := by
  simp only [fragment]
  split
  · exact f.fragmentLength_le _
  · exact Nat.zero_le _

/-- A file without a mark is read as it is. -/
theorem body_eq_of_markLength {full : Bytes} (hmark : f.encoding.markLength full = 0)
    (hb : bytes <+: full.drop w.position) : body f w bytes = bytes := by
  simp only [body]
  split
  · rename_i hstart
    rw [hstart, List.drop_zero] at hb
    have hnone : f.encoding.markLength bytes = 0 := by
      simp only [Encoding.markLength, List.isPrefixOf_iff_prefix] at hmark ⊢
      split
      · rename_i hmarked
        rwa [if_pos (hmarked.trans hb)] at hmark
      · rfl
    rw [hnone, List.drop_zero]
  · rfl

/-- What follows the fragment is a row and a rest without a delimiter. -/
theorem exists_cut (hd : f.delimiter ≠ []) (w : Window) (bytes : Bytes) :
    ∃ row, (body f w bytes).drop (fragment f w bytes) = row ++ (cut f w bytes).2 ∧
      f.Rows row (cut f w bytes).1 ∧ ¬ f.HasDelimiter (cut f w bytes).2 :=
  LineFormat.exists_rows hd _

/-- A fragment is closed by the first delimiter, if there is one. -/
theorem exists_fragment (hd : f.delimiter ≠ []) (hmid : w.midLine = true)
    (h : f.HasDelimiter (body f w bytes)) :
    ∃ i, f.OccursAt (body f w bytes) i ∧ fragment f w bytes = i + f.delimiter.length := by
  obtain ⟨i, hi⟩ := Option.isSome_iff_exists.1 ((LineFormat.hasDelimiter_iff hd).1 h)
  refine ⟨i, ((LineFormat.find?_eq_some_iff hd).1 hi).1, ?_⟩
  rw [fragment, if_pos hmid, LineFormat.fragmentLength, hi]

theorem overlong_cut (hd : f.delimiter ≠ []) (h : l.overlong f w bytes = true) :
    w.midLine = false ∧ body f w bytes ≠ [] ∧ ¬ f.HasDelimiter (body f w bytes) ∧
      fragment f w bytes = 0 ∧ (cut f w bytes).1 = [] := by
  obtain ⟨hpos, hall, -⟩ := overlong_iff.1 h
  obtain ⟨row, hrow, hrows, hno⟩ := exists_cut hd w bytes
  have hlen := congrArg List.length hrow
  rw [List.length_drop, List.length_append] at hlen
  have hfragment : fragment f w bytes = 0 := by omega
  have hne : body f w bytes ≠ [] := List.length_pos_iff.1 (by omega)
  have hnil : row = [] := List.eq_nil_of_length_eq_zero (by omega)
  rw [hfragment, List.drop_zero, hnil, List.nil_append] at hrow
  refine ⟨Bool.eq_false_iff.2 fun hmid => ?_, hne, hrow ▸ hno, hfragment, ?_⟩
  · have := f.fragmentLength_pos hne
    rw [fragment, if_pos hmid] at hfragment
    omega
  · have hwhole : ¬ f.HasDelimiter (row ++ (cut f w bytes).2) := by rwa [hnil, List.nil_append]
    exact (hrows.eq_nil hwhole).2

theorem overlong_midLine (l : Limits) (hd : f.delimiter ≠ []) (hmid : w.midLine = true)
    (bytes : Bytes) : l.overlong f w bytes = false := by
  refine Bool.eq_false_iff.2 fun hover => ?_
  have hstart := (overlong_cut hd hover).1
  rw [hmid] at hstart
  cases hstart

theorem harvest_lines (l : Limits) (h : l.overlong f w bytes = false) {o : Nat} :
    (l.harvest f o w bytes).lines = f.texts (cut f w bytes).1 := by
  rw [harvest_eq, h]
  exact List.append_nil _

/-- A read that is not given as it is moves the offset over the segments. -/
theorem harvest_offset_add (l : Limits) (h : l.overlong f w bytes = false) (o : Nat) :
    (l.harvest f o w bytes).offset + (cut f w bytes).2.length = w.position + bytes.length := by
  have hle : (cut f w bytes).2.length ≤ bytes.length :=
    Nat.le_trans (f.segments_rest_length _)
      ((List.drop_suffix _ _).trans (body_suffix f w bytes)).length_le
  rw [harvest_eq, h]
  simp only [Bool.false_eq_true, if_false]
  omega

/-- A read of a file that is not given as it is moves the offset over rows behind the fragment. -/
theorem harvest_rows (l : Limits) (hd : f.delimiter ≠ []) {full : Bytes}
    (hbody : body f w bytes = bytes) (hb : bytes <+: full.drop w.position)
    (h : l.overlong f w bytes = false) (o : Nat) :
    w.position + fragment f w bytes ≤ (l.harvest f o w bytes).offset ∧
      f.Rows (full.between (w.position + fragment f w bytes) (l.harvest f o w bytes).offset)
        (cut f w bytes).1 := by
  have hoffset := l.harvest_offset_add h o
  have hfragment := fragment_le f w bytes
  obtain ⟨row, hrow, hrows, -⟩ := exists_cut hd w bytes
  rw [hbody] at hrow hfragment
  have hlength := congrArg List.length hrow
  rw [List.length_drop, List.length_append] at hlength
  have hrest : bytes.drop (fragment f w bytes) <+:
      full.drop (w.position + fragment f w bytes) := by
    obtain ⟨more, hmore⟩ := hb
    rw [← List.drop_drop, ← hmore]
    exact ⟨more, (List.drop_append_of_le_length hfragment).symm⟩
  have htake := Bytes.take_eq_between (n := row.length) hrest
    (by rw [hrow, List.length_append]; omega)
  rw [hrow, List.take_left, show w.position + fragment f w bytes + row.length =
    (l.harvest f o w bytes).offset by omega] at htake
  exact ⟨by omega, htake ▸ hrows⟩

end Limits
end FileTail
