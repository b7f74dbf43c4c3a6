import FileTail.Proofs.RoundTrip

/-!
# FileTail.Proofs.Boundaries

Where the characters of a text start can be seen from its bytes, in UTF-8 and in UTF-16: what a
character starts with is found within no character, at least not where a code unit starts. So text is
found in the bytes of a text only where it stands in the text.

* `Utf8.exists_encodeChar`, `Utf16.exists_encodeChar`: the start of a character and what follows it.
* `Encoding.not_prefix_within`: no character is found within another one.
* `Encoding.prefix_of_encode`, `Encoding.exists_boundary`: a text that is found in another one.
* `LineFormat.occursAt_ofText`: where a delimiter occurs.
-/

namespace FileTail

namespace Utf8

/-- The bytes that follow the first one of a character start no character. -/
theorem exists_encodeChar (c : Char) :
    ∃ b rest, encodeChar c = b :: rest ∧ (b.toNat < 0x80 ∨ 0xC0 ≤ b.toNat) ∧
      ∀ b' ∈ rest, 0x80 ≤ b'.toNat ∧ b'.toNat < 0xC0 := by
  have hscalar : c.toNat < 0xD800 ∨ (0xDFFF < c.toNat ∧ c.toNat < 0x110000) := c.valid
  have hrest : ∀ n, 0x80 ≤ (UInt8.ofNat (0x80 + n % 64)).toNat ∧
      (UInt8.ofNat (0x80 + n % 64)).toNat < 0xC0 := by
    intro n
    rw [toNat_ofNat (by omega)]
    omega
  simp only [encodeChar]
  split
  · exact ⟨_, _, rfl, .inl (by rw [toNat_ofNat (by omega)]; omega), List.forall_mem_nil _⟩
  · split
    · exact ⟨_, _, rfl, .inr (by rw [toNat_ofNat (by omega)]; omega),
        List.forall_mem_singleton.2 (hrest _)⟩
    · split
      · exact ⟨_, _, rfl, .inr (by rw [toNat_ofNat (by omega)]; omega),
          List.forall_mem_cons.2 ⟨hrest _, List.forall_mem_singleton.2 (hrest _)⟩⟩
      · exact ⟨_, _, rfl, .inr (by rw [toNat_ofNat (by omega)]; omega),
          List.forall_mem_cons.2 ⟨hrest _, List.forall_mem_cons.2 ⟨hrest _,
            List.forall_mem_singleton.2 (hrest _)⟩⟩⟩

end Utf8

namespace Utf16

theorem unitBytes_injective {order : ByteOrder} {u v : Nat} (hu : u < 0x10000) (hv : v < 0x10000)
    (h : unitBytes order u = unitBytes order v) : u = v := by
  have hbyte : ∀ {m n : Nat}, m < 256 → n < 256 → UInt8.ofNat m = UInt8.ofNat n → m = n := by
    intro m n hm hn heq
    rw [← Utf8.toNat_ofNat hm, ← Utf8.toNat_ofNat hn, heq]
  cases order with
  | little =>
    simp only [unitBytes, List.cons.injEq, and_true] at h
    have hlow := hbyte (by omega) (by omega) h.1
    have hhigh := hbyte (by omega) (by omega) h.2
    omega
  | big =>
    simp only [unitBytes, List.cons.injEq, and_true] at h
    have hhigh := hbyte (by omega) (by omega) h.1
    have hlow := hbyte (by omega) (by omega) h.2
    omega

/-- The code unit that follows the first one of a character starts no character. -/
theorem exists_encodeChar (order : ByteOrder) (c : Char) :
    ∃ u rest, encodeChar order c = unitBytes order u ++ rest ∧ u < 0x10000 ∧ isLow u = false ∧
      (rest = [] ∨ ∃ v, rest = unitBytes order v ∧ v < 0x10000 ∧ isLow v = true) := by
  have hscalar : c.toNat < 0xD800 ∨ (0xDFFF < c.toNat ∧ c.toNat < 0x110000) := c.valid
  have hlow : ∀ {u}, u < 0xDC00 ∨ 0xDFFF < u → isLow u = false := by
    intro u hu
    refine Bool.eq_false_iff.2 fun h => ?_
    have := isLow_iff.1 h
    omega
  simp only [encodeChar]
  split
  · exact ⟨c.toNat, [], (List.append_nil _).symm, by omega, hlow (by omega), .inl rfl⟩
  · exact ⟨_, _, rfl, by omega, hlow (by omega), .inr ⟨_, rfl, by omega, isLow_iff.2 (by omega)⟩⟩

end Utf16

namespace Encoding

variable {e : Encoding} {c c' : Char} {cs ds : List Char}

/-- No character is found where a code unit starts within another one. -/
theorem not_prefix_within (he : e ∈ universal) {i : Nat} (hpos : 0 < i)
    (hlt : i < (e.encodeChar c').length) (hunit : i % e.width = 0) (more : Bytes) :
    ¬ e.encodeChar c <+: (e.encodeChar c').drop i ++ more := by
  intro hp
  obtain rfl | ⟨order, rfl⟩ := utf8_or_utf16 he
  · obtain ⟨b, rest, hc, hb, -⟩ := Utf8.exists_encodeChar c
    obtain ⟨b', rest', hc', -, hrest'⟩ := Utf8.exists_encodeChar c'
    simp only [encodeChar, hc, hc'] at hp hlt
    obtain ⟨k, rfl⟩ := Nat.exists_eq_add_one.2 hpos
    have hk : k < rest'.length := Nat.lt_of_succ_lt_succ hlt
    rw [List.drop_succ_cons, List.drop_eq_getElem_cons hk, List.cons_append,
      List.cons_prefix_cons] at hp
    have := hrest' _ (List.getElem_mem hk)
    rw [← hp.1] at this
    omega
  · obtain ⟨u, rest, hc, hu, hlow, -⟩ := Utf16.exists_encodeChar order c
    obtain ⟨u', rest', hc', -, -, hrest'⟩ := Utf16.exists_encodeChar order c'
    simp only [encodeChar, hc, hc', width] at hp hlt hunit
    have htwo := Utf16.length_unitBytes order u'
    obtain rfl | ⟨v, rfl, hv, hhigh⟩ := hrest'
    · rw [List.append_nil] at hlt
      omega
    · rw [List.length_append, htwo, Utf16.length_unitBytes] at hlt
      obtain rfl : i = 2 := by omega
      rw [List.drop_left' htwo] at hp
      have hlength : (Utf16.unitBytes order u).length = (Utf16.unitBytes order v).length := by
        rw [Utf16.length_unitBytes, Utf16.length_unitBytes]
      have hsame := List.prefix_of_prefix_length_le ((List.prefix_append _ rest).trans hp)
        (List.prefix_append _ more) (Nat.le_of_eq hlength)
      rw [Utf16.unitBytes_injective hu hv (hsame.eq_of_length hlength), hhigh] at hlow
      cases hlow

theorem eq_of_prefix_append (he : e ∈ universal) {more more' : Bytes}
    (hp : e.encodeChar c ++ more <+: e.encodeChar c' ++ more') : c = c' := by
  rcases Nat.le_total (e.encodeChar c).length (e.encodeChar c').length with hle | hle
  · exact eq_of_encodeChar_starts he
      (List.prefix_of_prefix_length_le ((List.prefix_append _ _).trans hp) (List.prefix_append _ _)
        hle)
  · exact (eq_of_encodeChar_starts he (List.prefix_of_prefix_length_le (List.prefix_append _ _)
      ((List.prefix_append _ _).trans hp) hle)).symm

/-- A text whose bytes start the bytes of another one is the start of it. -/
theorem prefix_of_encode (he : e ∈ universal)
    (h : ds.flatMap e.encodeChar <+: cs.flatMap e.encodeChar) : ds <+: cs := by
  induction ds generalizing cs with
  | nil => exact List.nil_prefix
  | cons d ds ih =>
    cases cs with
    | nil =>
      rw [List.flatMap_cons, List.flatMap_nil, List.prefix_nil, List.append_eq_nil_iff] at h
      exact absurd h.1 (e.encodeChar_ne_nil d)
    | cons c cs =>
      rw [List.flatMap_cons, List.flatMap_cons] at h
      obtain rfl := eq_of_prefix_append he h
      exact List.cons_prefix_cons.2 ⟨rfl, ih ((List.prefix_append_right_inj _).1 h)⟩

/-- A character is found in the bytes of a text only where a character of the text starts. -/
theorem exists_boundary (he : e ∈ universal) {i : Nat} (hunit : i % e.width = 0)
    (h : e.encodeChar c <+: (cs.flatMap e.encodeChar).drop i) :
    ∃ before after, cs = before ++ after ∧ i = (before.flatMap e.encodeChar).length := by
  induction cs generalizing i with
  | nil =>
    rw [List.flatMap_nil, List.drop_nil, List.prefix_nil] at h
    exact absurd h (e.encodeChar_ne_nil c)
  | cons first cs ih =>
    rw [List.flatMap_cons] at h
    rcases Nat.eq_zero_or_pos i with rfl | hpos
    · exact ⟨[], first :: cs, rfl, rfl⟩
    · rcases Nat.lt_or_ge i (e.encodeChar first).length with hlt | hge
      · rw [List.drop_append_of_le_length (Nat.le_of_lt hlt)] at h
        exact absurd h (not_prefix_within he hpos hlt hunit _)
      · obtain ⟨k, rfl⟩ := Nat.exists_eq_add_of_le hge
        rw [← List.drop_drop, List.drop_left] at h
        have hk : e.width ∣ k := (Nat.dvd_add_right (e.width_dvd_length_encodeChar first)).1
          (Nat.dvd_of_mod_eq_zero hunit)
        obtain ⟨before, after, rfl, rfl⟩ := ih (Nat.mod_eq_zero_of_dvd hk) h
        exact ⟨first :: before, after, rfl, by rw [List.flatMap_cons, List.length_append]⟩

theorem length_flatMap_le (h : ds <+: cs) :
    (ds.flatMap e.encodeChar).length ≤ (cs.flatMap e.encodeChar).length := by
  obtain ⟨more, rfl⟩ := h
  rw [List.flatMap_append, List.length_append]
  exact Nat.le_add_right _ _

end Encoding

namespace LineFormat

variable {e : Encoding} {d : String}

/-- A delimiter occurs in the bytes of a text where it stands in the text, and nowhere else. -/
theorem occursAt_ofText (he : e ∈ Encoding.universal) (hd : d ≠ "") (cs : List Char) (i : Nat) :
    (ofText e d).OccursAt (cs.flatMap e.encodeChar) i ↔
      ∃ before after, cs = before ++ d.toList ++ after ∧
        i = (before.flatMap e.encodeChar).length := by
  obtain ⟨c, ds, hcons⟩ := List.exists_cons_of_ne_nil (mt String.toList_eq_nil_iff.1 hd)
  have hdelimiter : (ofText e d).delimiter = d.toList.flatMap e.encodeChar :=
    Encoding.encode_of_universal he d
  constructor
  · rintro ⟨hunit, hp⟩
    have hfirst : e.encodeChar c <+: (cs.flatMap e.encodeChar).drop i := by
      rw [hdelimiter, hcons, List.flatMap_cons] at hp
      exact (List.prefix_append _ _).trans hp
    obtain ⟨before, after, rfl, rfl⟩ := Encoding.exists_boundary he hunit hfirst
    rw [hdelimiter, List.flatMap_append, List.drop_left] at hp
    obtain ⟨more, rfl⟩ := Encoding.prefix_of_encode he hp
    exact ⟨before, more, (List.append_assoc _ _ _).symm, rfl⟩
  · rintro ⟨before, after, rfl, rfl⟩
    refine ⟨Nat.mod_eq_zero_of_dvd (e.width_dvd_length_flatMap before), ?_⟩
    rw [hdelimiter, List.append_assoc, List.flatMap_append, List.drop_left, List.flatMap_append]
    exact List.prefix_append _ _

end LineFormat
end FileTail
