import FileTail.Follow.Follower
import FileTail.Proofs.RoundTrip
import FileTail.Proofs.Track
import Mathlib.Data.List.Basic

/-!
# FileTail.Proofs.Repertoire

Which texts an encoding can hold, and what a delimiter becomes that is not one of them. A character that
a set of single bytes lacks is written as a reference in ASCII, so that the bytes of a text are always
read without fault, but not always as that text.

* `SingleByte.decode?_encode?`, `SingleByte.encode?_isSome`: a set writes just what it reads.
* `Encoding.units_encode`: what the bytes of a text are read as.
* `Encoding.has_iff`, `Encoding.flatMap_standIn_eq_iff`: when that is the text.
* `accepted_delimiter_read_back`: what it means for the delimiter of settings.
-/

namespace FileTail

namespace SingleByte

variable {set : SingleByte} {c : Char} {b : UInt8}

/-- A number that is no code point makes NUL. -/
theorem toNat_charOfNat (n : Nat) : (Char.ofNat n).toNat = n ∨ (Char.ofNat n).toNat = 0 := by
  by_cases hvalid : n.isValidChar
  · exact .inl (Utf8.toNat_charOfNat hvalid)
  · right
    rw [Char.ofNat, dif_neg hvalid]
    rfl

theorem length_high (set : SingleByte) : set.high.length = 128 := by
  cases set <;> rfl

theorem decode?_ascii (set : SingleByte) (h : c.toNat < 0x80) :
    set.decode? (UInt8.ofNat c.toNat) = some c := by
  have hb : (UInt8.ofNat c.toNat).toNat = c.toNat := Utf8.toNat_ofNat (by omega)
  rw [decode?, if_pos (UInt8.lt_iff_toNat_lt.2 (by rw [hb]; exact h)), hb, Char.ofNat_toNat]

theorem decode?_encode? (h : set.encode? c = some b) : set.decode? b = some c := by
  unfold encode? at h
  split at h
  · rename_i hascii
    cases h
    exact decode?_ascii set hascii
  · split at h
    · cases h
    · rename_i hmapped
      obtain ⟨i, hi, rfl⟩ := Option.map_eq_some_iff.1 h
      obtain ⟨hlt, heq, -⟩ := List.findIdx?_eq_some_iff_getElem.1 hi
      have hc : set.high[i] = c.toNat := beq_iff_eq.1 heq
      have hb : (UInt8.ofNat (0x80 + i)).toNat = 0x80 + i :=
        Utf8.toNat_ofNat (by rw [length_high] at hlt; omega)
      have hhigh : ¬ UInt8.ofNat (0x80 + i) < 0x80 := fun hlow =>
        absurd (hb ▸ UInt8.lt_iff_toNat_lt.1 hlow) (Nat.not_lt.2 (Nat.le_add_right _ _))
      rw [decode?, if_neg hhigh, hb, Nat.add_sub_cancel_left, List.getElem?_eq_getElem hlt, hc]
      simp only [hmapped, if_false, Char.ofNat_toNat]

theorem encode?_isSome (h : set.decode? b = some c) : (set.encode? c).isSome := by
  -- where the character of a byte comes from
  have horigin : c.toNat < 0x80 ∨ (c.toNat ≠ unmapped ∧ c.toNat ∈ set.high) := by
    unfold decode? at h
    split at h
    · rename_i hb
      cases h
      have hlt : b.toNat < 0x80 := UInt8.lt_iff_toNat_lt.1 hb
      rcases toNat_charOfNat b.toNat with hc | hc <;> exact .inl (by omega)
    · split at h
      · cases h
      · rename_i n hn
        split at h
        · cases h
        · rename_i hmapped
          cases h
          rcases toNat_charOfNat n with hc | hc
          · exact .inr (by rw [hc]; exact ⟨hmapped, List.mem_of_getElem? hn⟩)
          · exact .inl (by omega)
  unfold encode?
  split
  · rfl
  · rename_i hascii
    obtain ⟨hmapped, hmem⟩ := horigin.resolve_left hascii
    rw [if_neg hmapped, Option.isSome_map, List.findIdx?_isSome, List.any_eq_true]
    exact ⟨_, hmem, beq_self_eq_true _⟩

end SingleByte

namespace Encoding

/-- The encoding is there as a whole: its tables are known, and it has text of its own. -/
def IsWhole : Encoding → Prop
  | .eastAsian _ _ | .replacement => False
  | _ => True

/-- Some bytes are read as the character. -/
def Has (e : Encoding) (c : Char) : Prop := ∃ bytes, e.units bytes = [some c]

/-- The text of the reference to a character. -/
def referenceText (c : Char) : List Char := ['&', '#'] ++ Nat.toDigits 10 c.toNat ++ [';']

/-- What a character is written as: itself, or a reference where a set lacks it. -/
def standIn (e : Encoding) (c : Char) : List Char :=
  match e with
  | .singleByte set => if (set.encode? c).isSome then [c] else referenceText c
  | _ => [c]

variable {e : Encoding} {c : Char} {cs : List Char}

theorem reference_eq (c : Char) : reference c = (referenceText c).flatMap Utf8.encodeChar := by
  rw [reference, Utf8.encode, String.toList_append, String.toList_append,
    Nat.repr_eq_ofList_toDigits, String.toList_ofList, referenceText, String.toList_ofList,
    String.toList_ofList]

theorem referenceText_ascii (c : Char) : ∀ d ∈ referenceText c, d.toNat < 0x80 := by
  intro d hd
  simp only [referenceText, List.mem_append, List.mem_cons, List.not_mem_nil, or_false] at hd
  rcases hd with ((rfl | rfl) | hd) | rfl
  · decide
  · decide
  · have hdigit := Char.isDigit_iff_toNat.1 (Nat.isDigit_of_mem_toDigits (by omega) (by omega) hd)
    exact Nat.lt_of_le_of_lt hdigit.2 (by decide)
  · decide

/-- A set reads ASCII as it is. -/
theorem map_decode?_ascii (set : SingleByte) (h : ∀ c ∈ cs, c.toNat < 0x80) :
    (cs.flatMap Utf8.encodeChar).map set.decode? = cs.map some := by
  induction cs with
  | nil => rfl
  | cons c cs ih =>
    have hc := h c List.mem_cons_self
    have hbytes : Utf8.encodeChar c = [UInt8.ofNat c.toNat] := by simp [Utf8.encodeChar, hc]
    rw [List.flatMap_cons, List.map_append, ih fun d hd => h d (List.mem_cons_of_mem _ hd), hbytes,
      List.map_singleton, set.decode?_ascii hc]
    rfl

theorem units_encodeChar_singleByte (set : SingleByte) (c : Char) :
    ((Encoding.singleByte set).encodeChar c).map set.decode? =
      ((Encoding.singleByte set).standIn c).map some := by
  simp only [encodeChar, standIn]
  cases hb : set.encode? c with
  | none =>
    rw [reference_eq, map_decode?_ascii set (referenceText_ascii c)]
    rfl
  | some b =>
    rw [List.map_singleton, SingleByte.decode?_encode? hb]
    rfl

/-- The bytes of a text hold its characters, or what stands in for them. -/
theorem units_encode (he : e.IsWhole) (cs : List Char) :
    e.units (cs.flatMap e.encodeChar) = (cs.flatMap e.standIn).map some := by
  have hitself : ∀ f : Char → List Char, (∀ c, f c = [c]) → cs.flatMap f = cs := by
    intro f hf
    rw [List.flatMap_congr fun c _ => hf c, List.flatMap_singleton']
  cases e with
  | utf8 => rw [hitself (standIn .utf8) fun _ => rfl]; exact Utf8.units_encode cs
  | utf16 order =>
    rw [hitself (standIn (.utf16 order)) fun _ => rfl]
    exact Utf16.units_encode order cs
  | singleByte set =>
    rw [units, List.map_flatMap, List.map_flatMap]
    exact List.flatMap_congr fun c _ => units_encodeChar_singleByte set c
  | eastAsian set codec => exact he.elim
  | replacement => exact he.elim

theorem standIn_eq_or (e : Encoding) (c : Char) :
    e.standIn c = [c] ∨ 1 < (e.standIn c).length := by
  have hreference : 1 < (referenceText c).length := by simp [referenceText]
  unfold standIn
  split
  · split
    · exact .inl rfl
    · exact .inr hreference
  · exact .inl rfl

theorem has_iff (he : e.IsWhole) : e.Has c ↔ e.standIn c = [c] := by
  constructor
  · rintro ⟨bytes, hbytes⟩
    cases e with
    | singleByte set =>
      obtain ⟨b, rest, rfl, hb, -⟩ := List.map_eq_cons_iff.1 hbytes
      exact if_pos (SingleByte.encode?_isSome hb)
    | _ => rfl
  · intro hc
    refine ⟨e.encodeChar c, ?_⟩
    have hunits := units_encode he [c]
    rwa [List.flatMap_singleton, List.flatMap_singleton, hc] at hunits

/-- A text is written as itself only if each of its characters is. -/
theorem flatMap_standIn_eq_iff : cs.flatMap e.standIn = cs ↔ ∀ c ∈ cs, e.standIn c = [c] := by
  have hgrows : ∀ cs : List Char, cs.length ≤ (cs.flatMap e.standIn).length := by
    intro cs
    induction cs with
    | nil => exact Nat.le_refl _
    | cons c cs ih =>
      have hc : 1 ≤ (e.standIn c).length := by
        rcases e.standIn_eq_or c with hc | hc
        · rw [hc]; exact Nat.le_refl _
        · omega
      rw [List.flatMap_cons, List.length_append, List.length_cons]
      omega
  induction cs with
  | nil => simp
  | cons c cs ih =>
    rw [List.flatMap_cons, List.forall_mem_cons, ih.symm]
    constructor
    · intro h
      have hlength := congrArg List.length h
      rw [List.length_append, List.length_cons] at hlength
      have hrest := hgrows cs
      have hc : e.standIn c = [c] := (e.standIn_eq_or c).resolve_right (by omega)
      rw [hc] at h
      exact ⟨hc, (List.cons.inj h).2⟩
    · rintro ⟨hc, hrest⟩
      rw [hc, hrest]
      rfl

theorem readUnits_eq_iff {us : List (Option Char)} {s : String} :
    readUnits us = ⟨s, false⟩ ↔ us = s.toList.map some := by
  constructor
  · intro h
    simp only [readUnits, Reading.mk.injEq] at h
    obtain ⟨rfl, hsome⟩ := h
    rw [String.toList_ofList, List.map_map]
    refine (List.map_id us).symm.trans (List.map_congr_left fun u hu => ?_)
    cases u with
    | none =>
      rw [List.any_eq_false] at hsome
      exact absurd rfl (hsome none hu)
    | some c => rfl
  · rintro rfl
    rw [readUnits_some, String.ofList_toList]

theorem encode_of_isWhole (he : e.IsWhole) (s : String) :
    e.encode s = s.toList.flatMap e.encodeChar := by
  cases e with
  | eastAsian set codec => exact he.elim
  | _ => rfl

theorem decode_encode_standIn (he : e.IsWhole) (s : String) :
    e.decode (e.encode s) = ⟨String.ofList (s.toList.flatMap e.standIn), false⟩ := by
  rw [decode, encode_of_isWhole he, units_encode he, readUnits_some]

theorem decode_encode_iff (he : e.IsWhole) {s : String} :
    e.decode (e.encode s) = ⟨s, false⟩ ↔ ∀ c ∈ s.toList, e.Has c := by
  rw [decode, readUnits_eq_iff, encode_of_isWhole he, units_encode he,
    List.map_inj_right fun _ _ => Option.some.inj, flatMap_standIn_eq_iff]
  exact forall₂_congr fun c _ => (has_iff he).symm

/-- If no bytes are read as a character, none are read as a text with it. -/
theorem has_of_decode (he : e.IsWhole) {bytes : Bytes} {s : String} (h : e.decode bytes = ⟨s, false⟩) :
    ∀ c ∈ s.toList, e.Has c := by
  have hunits := readUnits_eq_iff.1 h
  intro c hc
  cases e with
  | singleByte set =>
    obtain ⟨b, -, hb⟩ := List.mem_map.1 (hunits ▸ List.mem_map_of_mem hc)
    exact ⟨[b], by rw [units, List.map_singleton, hb]⟩
  | _ => exact (has_iff he).2 rfl

end Encoding

/-- What is known of the delimiter of settings that are accepted. Its bytes are read without fault, as the
delimiter with references in place of the characters that the encoding lacks. That is the delimiter if
and only if the encoding has all its characters, which is if any bytes at all are read as it. -/
theorem accepted_delimiter_read_back (s : Settings) {codecs : EastAsian → Codec} {e : Encoding}
    (hfault : s.fault? = none) (hencoding : s.encoding? codecs = some e) (he : e.IsWhole) :
    ∃ f, s.lineFormat? codecs = some f ∧
      (∀ hasOutput, Follower.ofSettings s hasOutput codecs = .ok (.new s f hasOutput)) ∧
      f.encoding = e ∧ f.delimiter ≠ [] ∧
      e.decode f.delimiter = ⟨String.ofList (s.delimiter.toList.flatMap e.standIn), false⟩ ∧
      (e.decode f.delimiter = ⟨s.delimiter, false⟩ ↔ ∀ c ∈ s.delimiter.toList, e.Has c) ∧
      ((∃ bytes, e.decode bytes = ⟨s.delimiter, false⟩) ↔ ∀ c ∈ s.delimiter.toList, e.Has c) := by
  obtain ⟨-, -, hdelimiter⟩ := Settings.of_fault?_eq_none hfault
  have hformat := Settings.lineFormat?_of_encoding hencoding
  refine ⟨.ofText e s.delimiter, hformat, fun hasOutput => ?_, rfl, e.encode_ne_nil hdelimiter,
    Encoding.decode_encode_standIn he _, Encoding.decode_encode_iff he, ?_, ?_⟩
  · simp only [Follower.ofSettings, hfault, hformat]
  · rintro ⟨bytes, hbytes⟩
    exact Encoding.has_of_decode he hbytes
  · exact fun hall => ⟨_, (Encoding.decode_encode_iff he).2 hall⟩

/-- A delimiter with a character above ASCII that the encoding has. -/
theorem accepted_delimiter_read_back_accent :
    let s : Settings :=
      { Settings.default with paths := [.ofString "/a"], encodingLabel := "latin1", delimiter := "é\n" }
    s.fault? = none ∧ s.encoding? = some (.singleByte .windows1252) ∧
      ∃ f, s.lineFormat? = some f ∧ f.delimiter = [0xE9, 0x0A] ∧
        f.encoding.decode f.delimiter = ⟨"é\n", false⟩ := by
  intro s
  have hfault : s.fault? = none := by decide +kernel
  have hencoding : s.encoding? = some (.singleByte .windows1252) := Encoding.ofLabel?_latin1 _
  obtain ⟨f, hformat, -, he, -, -, hback, -⟩ := accepted_delimiter_read_back s hfault hencoding trivial
  have hf : f = .ofText (.singleByte .windows1252) "é\n" := by
    rw [Settings.lineFormat?, hencoding] at hformat
    exact (Option.some.inj hformat).symm
  refine ⟨hfault, hencoding, f, hformat, by rw [hf]; decide +kernel, ?_⟩
  rw [he]
  refine hback.2 fun c hc => ?_
  have hchars : c = 'é' ∨ c = '\n' := by simpa [s] using hc
  rcases hchars with rfl | rfl
  · exact ⟨[0xE9], by decide +kernel⟩
  · exact ⟨[0x0A], by decide +kernel⟩

/-- An arrow is accepted for a set that has none. Lines are then cut at an ASCII text, although no bytes
are read as an arrow. -/
theorem delimiter_replaced_by_reference :
    let s : Settings :=
      { Settings.default with paths := [.ofString "/a"], encodingLabel := "latin1", delimiter := "→" }
    s.fault? = none ∧ ∃ f, s.lineFormat? = some f ∧
      f.encoding.decode f.delimiter = ⟨"&#8594;", false⟩ ∧
      (∀ bytes, f.encoding.decode bytes ≠ ⟨s.delimiter, false⟩) ∧
      f.split (Utf8.encode "a&#8594;b&#8594;") false = ⟨["a", "b"], 0, 0, 0⟩ := by
  intro s
  have hformat : s.lineFormat? = some (.ofText (.singleByte .windows1252) "→") :=
    Settings.lineFormat?_of_encoding (Encoding.ofLabel?_latin1 _)
  refine ⟨by decide +kernel, _, hformat, by decide +kernel, fun bytes hbytes => ?_, by decide +kernel⟩
  have harrow := Encoding.has_of_decode (e := .singleByte .windows1252) trivial hbytes '→' (by decide)
  have hstands := (Encoding.has_iff (e := .singleByte .windows1252) trivial).1 harrow
  exact absurd hstands (by decide +kernel)

end FileTail
