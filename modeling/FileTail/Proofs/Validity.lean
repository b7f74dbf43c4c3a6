import FileTail.Path
import FileTail.Proofs.RoundTrip

/-!
# FileTail.Proofs.Validity

The bytes that are valid UTF-8 are those of a text, and no others. As long as the reader has met no
fault, it has read some characters and the start of at most one more; what may follow that start is
known from the number of bytes missing and from the bounds of the next one.

* `Pending.Starts`: what the bytes of an unfinished character are the start of.
* `Scan.Holds`: what a reader without a fault has read; `Scan.Holds.feed`: the same for one more byte.
* `Utf8.decode?_eq_some_iff`: hence valid bytes are those of the text that is read.
* `Path.toText?_eq_some_iff`, `Path.IsText`: the same for paths.
-/

namespace FileTail
namespace Utf8

/-- A number without its last `m` groups of six bits. -/
def withoutLast : (m : Nat) → (n : Nat) → Nat
  | 0, n => n
  | m + 1, n => withoutLast m n / 64

/-- The last `m` bytes of a character with the number `n`. -/
def lastBytes : (m : Nat) → (n : Nat) → Bytes
  | 0, _ => []
  | m + 1, n => UInt8.ofNat (0x80 + withoutLast m n % 64) :: lastBytes m n

theorem encodeChar_two {n : Nat} (hlow : 0x80 ≤ n) (hhigh : n < 0x800) :
    encodeChar (Char.ofNat n) = UInt8.ofNat (0xC0 + n / 64) :: lastBytes 1 n := by
  have hn : (Char.ofNat n).toNat = n := toNat_charOfNat (by omega)
  simp only [encodeChar, hn]
  rw [if_neg (by omega), if_pos hhigh]
  simp only [lastBytes, withoutLast]

theorem encodeChar_three {n : Nat} (hlow : 0x800 ≤ n) (hhigh : n < 0x10000)
    (hscalar : n < 0xD800 ∨ 0xDFFF < n) :
    encodeChar (Char.ofNat n) = UInt8.ofNat (0xE0 + n / 4096) :: lastBytes 2 n := by
  have hn : (Char.ofNat n).toNat = n := toNat_charOfNat (by omega)
  simp only [encodeChar, hn]
  rw [if_neg (by omega), if_neg (by omega), if_pos hhigh]
  simp only [lastBytes, withoutLast]

theorem encodeChar_four {n : Nat} (hlow : 0x10000 ≤ n) (hhigh : n < 0x110000) :
    encodeChar (Char.ofNat n) = UInt8.ofNat (0xF0 + n / 262144) :: lastBytes 3 n := by
  have hn : (Char.ofNat n).toNat = n := toNat_charOfNat (by omega)
  simp only [encodeChar, hn]
  rw [if_neg (by omega), if_neg (by omega), if_neg (by omega)]
  simp only [lastBytes, withoutLast, Nat.div_div_eq_div_mul]

/-- The bytes `begun` start each character whose first bits are those read so far, if its next byte lies
within the bounds. -/
structure Pending.Starts (p : Pending) (begun : Bytes) : Prop where
  missing_pos : 0 < p.missing
  low_le : 0x80 ≤ p.low
  high_le : p.high ≤ 0xBF
  completed : ∀ n, withoutLast p.missing n = p.code →
    p.low ≤ 0x80 + withoutLast (p.missing - 1) n % 64 →
    0x80 + withoutLast (p.missing - 1) n % 64 ≤ p.high →
    encodeChar (Char.ofNat n) = begun ++ lastBytes p.missing n

namespace Pending.Starts

variable {p : Pending} {begun : Bytes} {b : UInt8}

/-- A byte within the bounds is the next one of all the characters that have its bits there. -/
theorem completed_next (h : p.Starts begun) (hlow : p.low ≤ b.toNat) (hhigh : b.toNat ≤ p.high) {n : Nat}
    (hn : withoutLast (p.missing - 1) n = p.code * 64 + b.toNat % 64) :
    encodeChar (Char.ofNat n) = begun ++ [b] ++ lastBytes (p.missing - 1) n := by
  have hlower := h.low_le
  have hupper := h.high_le
  obtain ⟨m, hm⟩ := Nat.exists_eq_add_one.2 h.missing_pos
  have hnext : 0x80 + withoutLast (p.missing - 1) n % 64 = b.toNat := by omega
  have hcode : withoutLast p.missing n = p.code := by
    rw [hm, Nat.add_sub_cancel] at hn
    rw [hm, withoutLast, hn]
    omega
  rw [h.completed n hcode (by omega) (by omega)]
  rw [hm, Nat.add_sub_cancel] at hnext ⊢
  rw [lastBytes, hnext, UInt8.ofNat_toNat, List.append_assoc, List.singleton_append]

theorem last (h : p.Starts begun) (hmissing : p.missing ≤ 1) (hlow : p.low ≤ b.toNat)
    (hhigh : b.toNat ≤ p.high) :
    encodeChar (Char.ofNat (p.code * 64 + b.toNat % 64)) = begun ++ [b] := by
  have hone : p.missing - 1 = 0 := by omega
  rw [h.completed_next hlow hhigh (by rw [hone, withoutLast]), hone, lastBytes, List.append_nil]

theorem middle (h : p.Starts begun) (hmissing : 1 < p.missing) (hlow : p.low ≤ b.toNat)
    (hhigh : b.toNat ≤ p.high) :
    Starts ⟨p.code * 64 + b.toNat % 64, p.missing - 1, 0x80, 0xBF⟩ (begun ++ [b]) where
  missing_pos := Nat.sub_pos_of_lt hmissing
  low_le := Nat.le_refl _
  high_le := Nat.le_refl _
  completed _ hn _ _ := h.completed_next hlow hhigh hn

theorem two (hlow : 0xC2 ≤ b.toNat) (hhigh : b.toNat < 0xE0) :
    Starts ⟨b.toNat % 32, 1, 0x80, 0xBF⟩ [b] where
  missing_pos := Nat.one_pos
  low_le := Nat.le_refl _
  high_le := Nat.le_refl _
  completed n hn _ _ := by
    simp only [withoutLast] at hn
    rw [encodeChar_two (by omega) (by omega), show 0xC0 + n / 64 = b.toNat by omega, UInt8.ofNat_toNat,
      List.singleton_append]

/-- The bounds of the second byte shut out the short numbers and the surrogates. -/
theorem three {code low high : Nat} (hlow : 0xE0 ≤ b.toNat) (hhigh : b.toNat < 0xF0)
    (hcode : code = b.toNat % 16) (hlower : 0x80 ≤ low) (hupper : high ≤ 0xBF)
    (hshort : b.toNat = 0xE0 → 0xA0 ≤ low) (hsurrogate : b.toNat = 0xED → high ≤ 0x9F) :
    Starts ⟨code, 2, low, high⟩ [b] where
  missing_pos := Nat.two_pos
  low_le := hlower
  high_le := hupper
  completed n hn hn₁ hn₂ := by
    simp only [withoutLast, Nat.div_div_eq_div_mul, Nat.reduceMul] at hn hn₁ hn₂
    rw [encodeChar_three (by omega) (by omega) (by omega), show 0xE0 + n / 4096 = b.toNat by omega,
      UInt8.ofNat_toNat, List.singleton_append]

/-- The bounds of the second byte shut out the short numbers and those above the last code point. -/
theorem four {code low high : Nat} (hlow : 0xF0 ≤ b.toNat) (hhigh : b.toNat < 0xF5)
    (hcode : code = b.toNat % 8) (hlower : 0x80 ≤ low) (hupper : high ≤ 0xBF)
    (hshort : b.toNat = 0xF0 → 0x90 ≤ low) (hlarge : b.toNat = 0xF4 → high ≤ 0x8F) :
    Starts ⟨code, 3, low, high⟩ [b] where
  missing_pos := Nat.succ_pos _
  low_le := hlower
  high_le := hupper
  completed n hn hn₁ hn₂ := by
    simp only [withoutLast, Nat.div_div_eq_div_mul, Nat.reduceMul] at hn hn₁ hn₂
    rw [encodeChar_four (by omega) (by omega), show 0xF0 + n / 262144 = b.toNat by omega,
      UInt8.ofNat_toNat, List.singleton_append]

end Pending.Starts

namespace Scan

/-- The bytes are those of the characters read, and of the start of one that is not finished. -/
def Holds (s : Scan) (bytes : Bytes) : Prop :=
  ∃ cs : List Char, s.out = (cs.map some).reverse ∧
    match s.pending with
    | none => bytes = cs.flatMap encodeChar
    | some p => ∃ begun, bytes = cs.flatMap encodeChar ++ begun ∧ p.Starts begun

theorem holds_char (cs : List Char) (c : Char) :
    Holds ⟨none, some c :: (cs.map some).reverse⟩ (cs.flatMap encodeChar ++ encodeChar c) := by
  refine ⟨cs ++ [c], ?_, ?_⟩
  · rw [List.map_append, List.reverse_append]
    rfl
  · dsimp only
    rw [List.flatMap_append, List.flatMap_singleton]

/-- What a byte can be where a character has to start. -/
theorem first_cases (out : List (Option Char)) (b : UInt8) :
    (∃ c, encodeChar c = [b] ∧ first out b.toNat = ⟨none, some c :: out⟩) ∨
    (∃ p : Pending, p.Starts [b] ∧ first out b.toNat = ⟨some p, out⟩) ∨
    first out b.toNat = ⟨none, none :: out⟩ := by
  rw [first]
  by_cases hascii : b.toNat < 0x80
  · have hn : (Char.ofNat b.toNat).toNat = b.toNat := toNat_charOfNat (by omega)
    have hchar : encodeChar (Char.ofNat b.toNat) = [b] := by
      simp only [encodeChar, hn]
      rw [if_pos hascii, UInt8.ofNat_toNat]
    rw [if_pos hascii]
    exact .inl ⟨_, hchar, rfl⟩
  rw [if_neg hascii]
  right
  by_cases hnone : b.toNat < 0xC2
  · rw [if_pos hnone]
    exact .inr rfl
  rw [if_neg hnone]
  by_cases htwo : b.toNat < 0xE0
  · rw [if_pos htwo]
    exact .inl ⟨_, .two (by omega) htwo, rfl⟩
  rw [if_neg htwo]
  by_cases hshort : b.toNat = 0xE0
  · rw [if_pos hshort]
    exact .inl ⟨_, .three (by omega) (by omega) (by omega) (by omega) (by omega) (by omega) (by omega),
      rfl⟩
  rw [if_neg hshort]
  by_cases hsurrogate : b.toNat = 0xED
  · rw [if_pos hsurrogate]
    exact .inl ⟨_, .three (by omega) (by omega) (by omega) (by omega) (by omega) (by omega) (by omega),
      rfl⟩
  rw [if_neg hsurrogate]
  by_cases hthree : b.toNat < 0xF0
  · rw [if_pos hthree]
    exact .inl ⟨_, .three (by omega) hthree rfl (by omega) (by omega) (by omega) (by omega), rfl⟩
  rw [if_neg hthree]
  by_cases hlong : b.toNat = 0xF0
  · rw [if_pos hlong]
    exact .inl ⟨_, .four (by omega) (by omega) (by omega) (by omega) (by omega) (by omega) (by omega),
      rfl⟩
  rw [if_neg hlong]
  by_cases hfour : b.toNat < 0xF4
  · rw [if_pos hfour]
    exact .inl ⟨_, .four (by omega) (by omega) rfl (by omega) (by omega) (by omega) (by omega), rfl⟩
  rw [if_neg hfour]
  by_cases hlast : b.toNat = 0xF4
  · rw [if_pos hlast]
    exact .inl ⟨_, .four (by omega) (by omega) (by omega) (by omega) (by omega) (by omega) (by omega),
      rfl⟩
  · rw [if_neg hlast]
    exact .inr rfl

theorem holds_first (cs : List Char) (b : UInt8)
    (h : none ∉ (first (cs.map some).reverse b.toNat).out) :
    (first (cs.map some).reverse b.toNat).Holds (cs.flatMap encodeChar ++ [b]) := by
  obtain ⟨c, hc, hfirst⟩ | ⟨p, hp, hfirst⟩ | hfirst := first_cases (cs.map some).reverse b
  · rw [hfirst, ← hc]
    exact holds_char cs c
  · rw [hfirst]
    exact ⟨cs, rfl, [b], rfl, hp⟩
  · rw [hfirst] at h
    exact absurd List.mem_cons_self h

theorem Holds.feed {s : Scan} {bytes : Bytes} (hs : s.Holds bytes) (b : UInt8)
    (h : none ∉ (s.feed b).out) : (s.feed b).Holds (bytes ++ [b]) := by
  obtain ⟨pending, out⟩ := s
  obtain ⟨cs, hout, hpending⟩ := hs
  dsimp only at hout hpending
  subst hout
  cases pending with
  | none =>
    dsimp only at hpending
    subst hpending
    exact holds_first cs b h
  | some p =>
    obtain ⟨begun, rfl, hp⟩ := hpending
    simp only [Scan.feed] at h ⊢
    split
    · rename_i hbounds
      split
      · rename_i hmissing
        rw [List.append_assoc, ← hp.last hmissing hbounds.1 hbounds.2]
        exact holds_char cs _
      · rename_i hmissing
        exact ⟨cs, rfl, begun ++ [b], List.append_assoc _ _ _,
          hp.middle (Nat.lt_of_not_le hmissing) hbounds.1 hbounds.2⟩
    · rename_i hbounds
      rw [if_neg hbounds] at h
      exact absurd ((first_adds _ _).subset List.mem_cons_self) h

/-- A fault is never taken back, so that there was none before if there is none at the end. -/
theorem Holds.foldl {s : Scan} {bytes : Bytes} (hs : s.Holds bytes) (more : Bytes)
    (h : none ∉ (more.foldl Scan.feed s).out) : (more.foldl Scan.feed s).Holds (bytes ++ more) := by
  induction more generalizing s bytes with
  | nil => rwa [List.append_nil]
  | cons b more ih =>
    rw [List.foldl_cons] at h ⊢
    have hb : none ∉ (s.feed b).out := fun hmem =>
      h ((transcribes.adds_foldl more (s.feed b)).subset hmem)
    rw [← List.singleton_append, ← List.append_assoc]
    exact ih (hs.feed b hb) h

end Scan

theorem units_eq_map_some_iff {bytes : Bytes} {cs : List Char} :
    units bytes = cs.map some ↔ bytes = cs.flatMap encodeChar := by
  constructor
  · intro h
    have hnone : none ∉ units bytes := by
      rw [h, List.mem_map]
      rintro ⟨c, -, hc⟩
      cases hc
    have hstart : Scan.start.Holds [] := ⟨[], rfl, rfl⟩
    unfold units Scan.finish at h hnone
    split at h
    · rename_i hpending
      simp only [hpending, List.mem_reverse] at hnone
      obtain ⟨ds, hout, hbytes⟩ := hstart.foldl bytes hnone
      rw [hpending] at hbytes
      rw [hout, List.reverse_reverse, List.map_inj_right fun _ _ => Option.some.inj] at h
      rw [← h, ← hbytes, List.nil_append]
    · rename_i p hpending
      simp [hpending] at hnone
  · rintro rfl
    exact units_encode cs

theorem allChars?_eq_some_iff {us : List (Option Char)} {cs : List Char} :
    allChars? us = some cs ↔ us = cs.map some := by
  induction us generalizing cs with
  | nil => cases cs <;> simp [allChars?]
  | cons u us ih =>
    cases u with
    | none => cases cs <;> simp [allChars?]
    | some c =>
      rw [allChars?, Option.map_eq_some_iff]
      constructor
      · rintro ⟨ds, hds, rfl⟩
        rw [ih.1 hds, List.map_cons]
      · intro h
        cases cs with
        | nil => cases h
        | cons d ds =>
          obtain ⟨hd, hds⟩ := List.cons.inj h
          exact ⟨ds, ih.2 hds, by rw [Option.some.inj hd]⟩

theorem decode?_eq_some_iff {bytes : Bytes} {s : String} : decode? bytes = some s ↔ bytes = encode s := by
  rw [decode?, Option.map_eq_some_iff]
  constructor
  · rintro ⟨cs, hcs, rfl⟩
    rw [encode, String.toList_ofList]
    exact units_eq_map_some_iff.1 (allChars?_eq_some_iff.1 hcs)
  · rintro rfl
    exact ⟨s.toList, allChars?_eq_some_iff.2 (units_encode _), String.ofList_toList⟩

end Utf8

namespace Path

theorem toText?_eq_some_iff {p : Path} {s : String} : p.toText? = some s ↔ p = .ofString s := by
  rw [toText?, Utf8.decode?_eq_some_iff, ofString, Path.mk.injEq]

/-- The path is the bytes of some text. -/
def IsText (p : Path) : Prop := ∃ s, p = .ofString s

theorem isText_iff {p : Path} : p.IsText ↔ p.toText?.isSome := by
  rw [Option.isSome_iff_exists]
  exact exists_congr fun _ => toText?_eq_some_iff.symm

instance (p : Path) : Decidable p.IsText := decidable_of_iff _ isText_iff.symm

end Path
end FileTail
