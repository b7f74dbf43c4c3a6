import FileTail.Proofs.Rows
import FileTail.Settings

/-!
# FileTail.Proofs.Delimiter

What every delimiter that settings can name has in common: it has bytes, and it does not occur in a
byte order mark of which the end is still missing. So a file that was seen within its mark is not
cut there.

* `encode_ne_nil`: text that is not empty has bytes in every encoding.
* `ofText_mark_clear`: no delimiter in an unfinished mark.
-/

namespace FileTail

namespace Utf8

/-- No character is written with the first two bytes of the mark, or with the second one. -/
theorem not_encodeChar_prefix_mark (c : Char) :
    ¬ encodeChar c <+: [0xEF, 0xBB] ∧ ¬ encodeChar c <+: [0xBB] := by
  have ofNat_eq : ∀ {n m : Nat}, UInt8.ofNat n = UInt8.ofNat m → n % 256 = m % 256 := by
    intro n m h
    simpa using congrArg UInt8.toNat h
  simp only [encodeChar]
  split
  · simp only [List.cons_prefix_cons, List.nil_prefix, and_true]
    exact ⟨fun h => by have := ofNat_eq (m := 0xEF) h; omega,
      fun h => by have := ofNat_eq (m := 0xBB) h; omega⟩
  · split
    · simp only [List.cons_prefix_cons]
      exact ⟨fun h => by have := ofNat_eq (m := 0xEF) h.1; omega,
        fun h => by have := ofNat_eq (m := 0xBB) h.1; omega⟩
    · split <;> simp

/-- A character that is written with one byte is an ASCII character. -/
theorem lt_of_encodeChar_eq {c : Char} {b : UInt8} (h : encodeChar c = [b]) : b.toNat < 0x80 := by
  simp only [encodeChar] at h
  split at h
  · rename_i hc
    cases h
    rw [UInt8.toNat_ofNat']
    omega
  · split at h
    · simp at h
    · split at h <;> simp at h

end Utf8

namespace Utf16

theorem length_unitBytes (order : ByteOrder) (u : Nat) : (unitBytes order u).length = 2 := by
  cases order <;> rfl

theorem two_le_length_encodeChar (order : ByteOrder) (c : Char) :
    2 ≤ (encodeChar order c).length := by
  simp only [encodeChar]
  split
  · simp [length_unitBytes]
  · simp [length_unitBytes]

/-- A character is written with whole code units. -/
theorem two_dvd_length_encodeChar (order : ByteOrder) (c : Char) :
    2 ∣ (encodeChar order c).length := by
  simp only [encodeChar]
  split
  · simp [length_unitBytes]
  · simp [length_unitBytes]

end Utf16

namespace Encoding

theorem encodeChar_ne_nil (e : Encoding) (c : Char) : e.encodeChar c ≠ [] := by
  cases e with
  | utf8 => exact Utf8.encodeChar_ne_nil c
  | replacement => exact Utf8.encodeChar_ne_nil c
  | utf16 order =>
    have := Utf16.two_le_length_encodeChar order c
    intro h
    simp only [encodeChar] at h
    simp [h] at this
  | singleByte set =>
    simp only [encodeChar]
    split
    · simp
    · exact reference_ne_nil c
  | eastAsian set codec => exact codec.encode_ne_nil (by simp)

theorem encode_ne_nil (e : Encoding) {s : String} (h : s ≠ "") : e.encode s ≠ [] := by
  obtain ⟨c, r, hs⟩ := List.exists_cons_of_ne_nil (mt String.toList_eq_nil_iff.1 h)
  cases e with
  | eastAsian set codec => exact codec.encode_ne_nil h
  | _ => simp [encode, hs, encodeChar_ne_nil]

/-- Text is written with whole code units. -/
theorem width_dvd_length_encodeChar (e : Encoding) (c : Char) :
    e.width ∣ (e.encodeChar c).length := by
  cases e with
  | utf16 order => exact Utf16.two_dvd_length_encodeChar order c
  | _ => exact Nat.one_dvd _

theorem width_dvd_length_flatMap (e : Encoding) (cs : List Char) :
    e.width ∣ (cs.flatMap e.encodeChar).length := by
  induction cs with
  | nil => exact Nat.dvd_zero _
  | cons c cs ih =>
    rw [List.flatMap_cons, List.length_append]
    exact Nat.dvd_add (e.width_dvd_length_encodeChar c) ih

theorem width_dvd_length_encode (e : Encoding) (s : String) : e.width ∣ (e.encode s).length := by
  cases e with
  | utf16 order => exact width_dvd_length_flatMap (.utf16 order) s.toList
  | _ => exact Nat.one_dvd _

end Encoding

namespace LineFormat

theorem ofText_mark_clear (e : Encoding) {s : String} (h : s ≠ "") {k : Nat}
    (hk : k < e.mark.length) : ¬ (ofText e s).HasDelimiter (e.mark.take k) := by
  obtain ⟨c, r, hs⟩ := List.exists_cons_of_ne_nil (mt String.toList_eq_nil_iff.1 h)
  have hmark : e.mark ≠ [] := List.ne_nil_of_length_pos (Nat.zero_lt_of_lt hk)
  have hchar : e.encodeChar c <+: (ofText e s).delimiter := by
    simp [ofText, Encoding.encode_of_mark hmark, hs]
  rintro ⟨i, -, hi⟩
  have hp : e.encodeChar c <+: (e.mark.take k).drop i := hchar.trans hi
  cases e with
  | utf8 =>
    obtain ⟨h₁, h₂⟩ := Utf8.not_encodeChar_prefix_mark c
    have hne := Utf8.encodeChar_ne_nil c
    simp only [Encoding.mark, List.length_cons, List.length_nil, Encoding.encodeChar] at hk hp
    -- the rest of a mark of which less than three bytes are there
    have hcases : k = 0 ∨ k = 1 ∨ k = 2 := by omega
    rcases hcases with rfl | rfl | rfl
    · simp [hne] at hp
    · rcases i with _ | i
      · exact h₁ (hp.trans ⟨[0xBB], rfl⟩)
      · simp [hne] at hp
    · rcases i with _ | _ | i
      · exact h₁ hp
      · exact h₂ hp
      · simp [hne] at hp
  | utf16 order =>
    have htwo := Utf16.two_le_length_encodeChar order c
    have hl := hp.length_le
    have hm : (Encoding.utf16 order).mark.length = 2 := by cases order <;> rfl
    simp only [List.length_drop, List.length_take, Encoding.encodeChar] at hl
    omega
  | singleByte set => simp [Encoding.mark] at hk
  | eastAsian set codec => simp [Encoding.mark] at hk
  | replacement => simp [Encoding.mark] at hk

/-- A delimiter of a single byte is no byte of the mark. -/
theorem ofText_not_mem_mark (e : Encoding) (s : String) {b : UInt8} (hb : b ∈ e.mark) :
    (ofText e s).delimiter ≠ [b] := by
  intro h
  rw [ofText, Encoding.encode_of_mark (List.ne_nil_of_mem hb)] at h
  cases hs : s.toList with
  | nil => simp [hs] at h
  | cons c r =>
    have hne := e.encodeChar_ne_nil c
    rw [hs, List.flatMap_cons] at h
    have hchar : e.encodeChar c = [b] := by
      rcases List.append_eq_cons_iff.1 h with ⟨hnil, -⟩ | ⟨rest, hrest, hnil⟩
      · exact absurd hnil hne
      · rw [hrest, (List.append_eq_nil_iff.1 hnil.symm).1]
    cases e with
    | utf8 =>
      have hascii := Utf8.lt_of_encodeChar_eq hchar
      simp only [Encoding.mark, List.mem_cons, List.not_mem_nil, or_false] at hb
      rcases hb with rfl | rfl | rfl
      all_goals exact absurd hascii (by decide)
    | utf16 order =>
      have htwo := Utf16.two_le_length_encodeChar order c
      simp only [Encoding.encodeChar] at hchar
      rw [hchar, List.length_singleton] at htwo
      omega
    | singleByte set => cases hb
    | eastAsian set codec => cases hb
    | replacement => cases hb

end LineFormat
end FileTail
