import FileTail.Proofs.Delimiter

/-!
# FileTail.Proofs.RoundTrip

Text in UTF-8 and UTF-16 is read back as it was written. Either reader takes the bytes of a character
from one start of a character to the next; and it never takes back what it has read. So no character
is written with the first bytes of another one.

* `Transcribes`: a reader that goes from character to character.
* `Utf8.transcribes`, `Utf16.transcribes`: the two readers do.
* `Transcribes.encode`: hence a text is read back.
* `Transcribes.eq_of_starts`: hence no character starts with another one.
* `Encoding.decode_encode`: the same of the encodings.
-/

namespace FileTail

/-- A reader with states `σ` that takes the bytes of each character from the state at the start of a
character to that state again, and only adds to what it has read. -/
structure Transcribes {σ : Type} (encodeChar : Char → Bytes) (feed : σ → UInt8 → σ)
    (ready : List (Option Char) → σ) (out : σ → List (Option Char)) : Prop where
  out_ready : ∀ read, out (ready read) = read
  adds : ∀ s b, out s <:+ out (feed s b)
  char : ∀ read c, (encodeChar c).foldl feed (ready read) = ready (some c :: read)

namespace Transcribes

variable {σ : Type} {encodeChar : Char → Bytes} {feed : σ → UInt8 → σ}
  {ready : List (Option Char) → σ} {out : σ → List (Option Char)}

theorem encode (h : Transcribes encodeChar feed ready out) (cs : List Char)
    (read : List (Option Char)) :
    (cs.flatMap encodeChar).foldl feed (ready read) = ready ((cs.map some).reverse ++ read) := by
  induction cs generalizing read with
  | nil => rfl
  | cons c cs ih =>
    rw [List.flatMap_cons, List.foldl_append, h.char, ih, List.map_cons, List.reverse_cons,
      List.append_assoc, List.singleton_append]

theorem adds_foldl (h : Transcribes encodeChar feed ready out) (bytes : Bytes) (s : σ) :
    out s <:+ out (bytes.foldl feed s) := by
  induction bytes generalizing s with
  | nil => exact List.suffix_refl _
  | cons b bytes ih => exact (h.adds s b).trans (ih _)

theorem eq_of_starts (h : Transcribes encodeChar feed ready out) {c c' : Char}
    (hp : encodeChar c <+: encodeChar c') : c = c' := by
  obtain ⟨rest, hrest⟩ := hp
  have hread := h.adds_foldl rest (ready [some c])
  rw [← h.char, ← List.foldl_append, hrest, h.char, h.char, h.out_ready, h.out_ready] at hread
  obtain ⟨before, hbefore⟩ := hread
  obtain ⟨-, heq⟩ := List.append_inj' (hbefore.trans (List.nil_append _).symm) rfl
  exact Option.some.inj (List.cons.inj heq).1

end Transcribes

namespace Utf8

theorem toNat_ofNat {n : Nat} (h : n < 256) : (UInt8.ofNat n).toNat = n := by
  rw [UInt8.toNat_ofNat']
  exact Nat.mod_eq_of_lt h

theorem toNat_charOfNat {n : Nat} (h : n < 0xD800 ∨ (0xDFFF < n ∧ n < 0x110000)) :
    (Char.ofNat n).toNat = n := by
  have hvalid : n.isValidChar := h
  unfold Char.ofNat
  rw [dif_pos hvalid]
  rfl

/-- The bits above the last six and those six give the number. -/
theorem join_six (n : Nat) : n / 64 * 64 + (0x80 + n % 64) % 64 = n := by
  omega

namespace Scan

theorem first_adds (read : List (Option Char)) (b : Nat) : read <:+ (first read b).out := by
  unfold first
  repeat' split
  all_goals first
    | exact List.suffix_refl _
    | exact List.suffix_cons _ _

theorem feed_adds (s : Scan) (byte : UInt8) : s.out <:+ (s.feed byte).out := by
  unfold feed
  split
  · exact first_adds _ _
  · dsimp only
    split
    · split
      · exact List.suffix_cons _ _
      · exact List.suffix_refl _
    · exact (List.suffix_cons _ _).trans (first_adds _ _)

theorem feed_first (read : List (Option Char)) {b : Nat} (hb : b < 256) :
    feed ⟨none, read⟩ (UInt8.ofNat b) = first read b := by
  simp only [feed, toNat_ofNat hb]

/-- The last byte of a character. -/
theorem feed_last (read : List (Option Char)) {n low high : Nat} (hlow : low ≤ 0x80 + n % 64)
    (hhigh : 0x80 + n % 64 ≤ high) :
    feed ⟨some ⟨n / 64, 1, low, high⟩, read⟩ (UInt8.ofNat (0x80 + n % 64)) =
      ⟨none, some (Char.ofNat n) :: read⟩ := by
  simp only [feed, toNat_ofNat (show 0x80 + n % 64 < 256 by omega), join_six]
  rw [if_pos ⟨hlow, hhigh⟩, if_pos (Nat.le_refl 1)]

/-- A byte between the first and the last one of a character. -/
theorem feed_middle (read : List (Option Char)) {n low high missing : Nat}
    (hmissing : 0 < missing) (hlow : low ≤ 0x80 + n % 64) (hhigh : 0x80 + n % 64 ≤ high) :
    feed ⟨some ⟨n / 64, missing + 1, low, high⟩, read⟩ (UInt8.ofNat (0x80 + n % 64)) =
      ⟨some ⟨n, missing, 0x80, 0xBF⟩, read⟩ := by
  simp only [feed, toNat_ofNat (show 0x80 + n % 64 < 256 by omega), join_six]
  rw [if_pos ⟨hlow, hhigh⟩, if_neg (by omega), Nat.add_sub_cancel]

theorem first_two (read : List (Option Char)) {n : Nat} (hlow : 0x80 ≤ n) (hhigh : n < 0x800) :
    first read (0xC0 + n / 64) = ⟨some ⟨n / 64, 1, 0x80, 0xBF⟩, read⟩ := by
  rw [first, if_neg (by omega), if_neg (by omega), if_pos (by omega)]
  simp only [Scan.mk.injEq, Option.some.injEq, Pending.mk.injEq, and_true]
  omega

/-- The bounds for the second byte shut out no character. -/
theorem first_three (read : List (Option Char)) {n : Nat} (hlow : 0x800 ≤ n) (hhigh : n < 0x10000)
    (hscalar : n < 0xD800 ∨ 0xDFFF < n) :
    ∃ low high, first read (0xE0 + n / 4096) = ⟨some ⟨n / 64 / 64, 2, low, high⟩, read⟩ ∧
      low ≤ 0x80 + n / 64 % 64 ∧ 0x80 + n / 64 % 64 ≤ high := by
  rw [first, if_neg (by omega), if_neg (by omega), if_neg (by omega)]
  split
  · rw [show n / 64 / 64 = 0 by omega]
    exact ⟨0xA0, 0xBF, rfl, by omega, by omega⟩
  · split
    · rw [show n / 64 / 64 = 13 by omega]
      exact ⟨0x80, 0x9F, rfl, by omega, by omega⟩
    · rw [if_pos (by omega), show (0xE0 + n / 4096) % 16 = n / 64 / 64 by omega]
      exact ⟨0x80, 0xBF, rfl, by omega, by omega⟩

theorem first_four (read : List (Option Char)) {n : Nat} (hlow : 0x10000 ≤ n)
    (hhigh : n < 0x110000) :
    ∃ low high, first read (0xF0 + n / 262144) = ⟨some ⟨n / 4096 / 64, 3, low, high⟩, read⟩ ∧
      low ≤ 0x80 + n / 4096 % 64 ∧ 0x80 + n / 4096 % 64 ≤ high := by
  rw [first, if_neg (by omega), if_neg (by omega), if_neg (by omega), if_neg (by omega),
    if_neg (by omega), if_neg (by omega)]
  split
  · rw [show n / 4096 / 64 = 0 by omega]
    exact ⟨0x90, 0xBF, rfl, by omega, by omega⟩
  · split
    · rw [show (0xF0 + n / 262144) % 8 = n / 4096 / 64 by omega]
      exact ⟨0x80, 0xBF, rfl, by omega, by omega⟩
    · rw [if_pos (by omega), show n / 4096 / 64 = 4 by omega]
      exact ⟨0x80, 0x8F, rfl, by omega, by omega⟩

theorem foldl_encodeChar (read : List (Option Char)) (c : Char) :
    (encodeChar c).foldl feed ⟨none, read⟩ = ⟨none, some c :: read⟩ := by
  have hscalar : c.toNat < 0xD800 ∨ (0xDFFF < c.toNat ∧ c.toNat < 0x110000) := c.valid
  simp only [encodeChar]
  split
  · rw [List.foldl_cons, feed_first read (by omega), first, if_pos (by omega), Char.ofNat_toNat]
    rfl
  · split
    · simp only [List.foldl_cons, List.foldl_nil]
      rw [feed_first read (by omega), first_two read (by omega) (by omega),
        feed_last read (by omega) (by omega), Char.ofNat_toNat]
    · split
      · obtain ⟨low, high, hfirst, hlow, hhigh⟩ := first_three read (n := c.toNat) (by omega)
          (by omega) (by omega)
        simp only [List.foldl_cons, List.foldl_nil]
        rw [feed_first read (by omega), hfirst, feed_middle read Nat.one_pos hlow hhigh,
          feed_last read (by omega) (by omega), Char.ofNat_toNat]
      · obtain ⟨low, high, hfirst, hlow, hhigh⟩ := first_four read (n := c.toNat) (by omega)
          (by omega)
        simp only [List.foldl_cons, List.foldl_nil]
        rw [feed_first read (by omega), hfirst, feed_middle read Nat.two_pos hlow hhigh,
          show c.toNat / 4096 = c.toNat / 64 / 64 by rw [Nat.div_div_eq_div_mul],
          feed_middle read Nat.one_pos (by omega) (by omega), feed_last read (by omega) (by omega),
          Char.ofNat_toNat]

end Scan

theorem transcribes : Transcribes encodeChar Scan.feed (⟨none, ·⟩) Scan.out where
  out_ready _ := rfl
  adds := Scan.feed_adds
  char := Scan.foldl_encodeChar

theorem units_encode (cs : List Char) : units (cs.flatMap encodeChar) = cs.map some := by
  rw [units, Scan.start, transcribes.encode, List.append_nil, Scan.finish, List.reverse_reverse]

end Utf8

namespace Utf16

theorem isHigh_iff {u : Nat} : isHigh u = true ↔ 0xD800 ≤ u ∧ u < 0xDC00 := by
  simp [isHigh]

theorem isLow_iff {u : Nat} : isLow u = true ↔ 0xDC00 ≤ u ∧ u < 0xE000 := by
  simp [isLow]

namespace Scan

variable {order : ByteOrder}

theorem first_adds (read : List (Option Char)) (u : Nat) : read <:+ (first read u).out := by
  unfold first
  repeat' split
  all_goals first
    | exact List.suffix_refl _
    | exact List.suffix_cons _ _

theorem feed_adds (order : ByteOrder) (s : Scan) (b : UInt8) : s.out <:+ (s.feed order b).out := by
  have hunit : ∀ u, s.out <:+ (s.feedUnit u).out := by
    intro u
    unfold feedUnit
    split
    · exact first_adds _ _
    · split
      · exact List.suffix_cons _ _
      · exact (List.suffix_cons _ _).trans (first_adds _ _)
  unfold feed
  split
  · exact List.suffix_refl _
  · split
    · exact hunit _
    · exact hunit _

/-- Two bytes make a code unit in either order. -/
theorem foldl_unitBytes {s : Scan} (hs : s.half = none) {u : Nat} (hu : u < 0x10000) :
    (unitBytes order u).foldl (feed order) s = s.feedUnit u := by
  have hlow := Utf8.toNat_ofNat (show u % 256 < 256 by omega)
  have hhigh := Utf8.toNat_ofNat (show u / 256 < 256 by omega)
  have hunit : ∀ b, feedUnit { s with half := some b } u = s.feedUnit u := fun _ => rfl
  cases order with
  | little =>
    simp only [unitBytes, List.foldl_cons, List.foldl_nil, feed, hs, hlow, hhigh]
    rw [show u % 256 + u / 256 * 256 = u by omega]
    exact hunit _
  | big =>
    simp only [unitBytes, List.foldl_cons, List.foldl_nil, feed, hs, hlow, hhigh]
    rw [show u / 256 * 256 + u % 256 = u by omega]
    exact hunit _

theorem feedUnit_plain (read : List (Option Char)) {u : Nat} (hu : u < 0xD800 ∨ 0xDFFF < u) :
    feedUnit ⟨none, none, read⟩ u = ⟨none, none, some (Char.ofNat u) :: read⟩ := by
  have hhigh : isHigh u = false := Bool.eq_false_iff.2 fun h => by
    have := isHigh_iff.1 h
    omega
  have hlow : isLow u = false := Bool.eq_false_iff.2 fun h => by
    have := isLow_iff.1 h
    omega
  simp only [feedUnit, first, hhigh, hlow, Bool.false_eq_true, if_false]

/-- Two surrogates make a character. -/
theorem feedUnit_pair (read : List (Option Char)) {m : Nat} (hm : m < 0x100000) :
    (feedUnit ⟨none, none, read⟩ (0xD800 + m / 0x400)).feedUnit (0xDC00 + m % 0x400) =
      ⟨none, none, some (Char.ofNat (m + 0x10000)) :: read⟩ := by
  have hhigh : isHigh (0xD800 + m / 0x400) = true := isHigh_iff.2 (by omega)
  have hlow : isLow (0xDC00 + m % 0x400) = true := isLow_iff.2 (by omega)
  simp only [feedUnit, first, hhigh, hlow, if_true]
  rw [show 0x10000 + (0xD800 + m / 0x400 - 0xD800) * 0x400 + (0xDC00 + m % 0x400 - 0xDC00) =
    m + 0x10000 by omega]

theorem foldl_encodeChar (read : List (Option Char)) (c : Char) :
    (encodeChar order c).foldl (feed order) ⟨none, none, read⟩ = ⟨none, none, some c :: read⟩ := by
  have hscalar : c.toNat < 0xD800 ∨ (0xDFFF < c.toNat ∧ c.toNat < 0x110000) := c.valid
  have hfirst : ∀ u, (feedUnit ⟨none, none, read⟩ u).half = none := by
    intro u
    simp only [feedUnit, first]
    split
    · rfl
    · split <;> rfl
  simp only [encodeChar]
  split
  · rw [foldl_unitBytes rfl (by omega), feedUnit_plain read (by omega), Char.ofNat_toNat]
  · rw [List.foldl_append, foldl_unitBytes (s := ⟨none, none, read⟩) rfl (by omega),
      foldl_unitBytes (hfirst _) (by omega), feedUnit_pair read (by omega),
      Nat.sub_add_cancel (by omega), Char.ofNat_toNat]

end Scan

theorem transcribes (order : ByteOrder) :
    Transcribes (encodeChar order) (Scan.feed order) (⟨none, none, ·⟩) Scan.out where
  out_ready _ := rfl
  adds := Scan.feed_adds order
  char := Scan.foldl_encodeChar

theorem units_encode (order : ByteOrder) (cs : List Char) :
    units order (cs.flatMap (encodeChar order)) = cs.map some := by
  rw [units, Scan.start, (transcribes order).encode, List.append_nil, Scan.finish]
  exact List.reverse_reverse _

end Utf16

namespace Encoding

/-- The encodings in which each character is written in its own way. -/
def universal : List Encoding := [.utf8, .utf16 .little, .utf16 .big]

theorem utf8_or_utf16 {e : Encoding} (h : e ∈ universal) : e = .utf8 ∨ ∃ order, e = .utf16 order := by
  simp only [universal, List.mem_cons, List.not_mem_nil, or_false] at h
  obtain rfl | rfl | rfl := h
  · exact .inl rfl
  · exact .inr ⟨_, rfl⟩
  · exact .inr ⟨_, rfl⟩

theorem encode_of_universal {e : Encoding} (h : e ∈ universal) (s : String) :
    e.encode s = s.toList.flatMap e.encodeChar := by
  obtain rfl | ⟨order, rfl⟩ := utf8_or_utf16 h
  · rfl
  · rfl

/-- A text is read back as it was written, and nothing in it is malformed. -/
theorem decode_encode {e : Encoding} (h : e ∈ universal) (s : String) :
    e.decode (e.encode s) = ⟨s, false⟩ := by
  have hunits : e.units (e.encode s) = s.toList.map some := by
    obtain rfl | ⟨order, rfl⟩ := utf8_or_utf16 h
    · exact Utf8.units_encode _
    · exact Utf16.units_encode order _
  rw [decode, hunits, readUnits_some, String.ofList_toList]

theorem eq_of_encodeChar_starts {e : Encoding} (h : e ∈ universal) {c c' : Char}
    (hp : e.encodeChar c <+: e.encodeChar c') : c = c' := by
  obtain rfl | ⟨order, rfl⟩ := utf8_or_utf16 h
  · exact Utf8.transcribes.eq_of_starts hp
  · exact (Utf16.transcribes order).eq_of_starts hp

end Encoding
end FileTail
