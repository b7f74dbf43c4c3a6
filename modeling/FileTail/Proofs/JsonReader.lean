import FileTail.Console.Json
import FileTail.Encoding.Utf16
import Mathlib.Data.List.Forall2

/-!
# FileTail.Proofs.JsonReader

A reader of JSON, for all of its notation: blanks between the tokens, every escape, surrogate pairs,
numbers in all their spellings, arrays and objects within each other. What is written as a line of
output is read back by it.

* `Json.read?`: the value of a text.
* `Json.character?_escapeChar`, `Json.value?_quote`: characters and texts are read back as they were quoted.
* `Json.Writes`: a text from which a value is read wherever it stands in an object.
* `Json.members?_members`, `Json.read?_object`: objects are read back member by member.
-/

namespace FileTail
namespace Json

/-- Numbers keep their spelling, and members their order. -/
inductive Value where
  | null
  | bool (b : Bool)
  | number (spelling : List Char)
  | text (s : String)
  | array (items : List Value)
  | object (members : List (String × Value))
deriving Repr, Inhabited

/-! ## Tokens -/

def isBlank (c : Char) : Bool := c == ' ' || c == '\t' || c == '\n' || c == '\r'

def skipBlanks (cs : List Char) : List Char := cs.dropWhile isBlank

/-- What follows the text `word`. -/
def after? (word cs : List Char) : Option (List Char) :=
  if word.isPrefixOf cs then some (cs.drop word.length) else none

def hexValue? (c : Char) : Option Nat :=
  if c.isDigit then some (c.toNat - 48)
  else if 'a' ≤ c ∧ c ≤ 'f' then some (c.toNat - 87)
  else if 'A' ≤ c ∧ c ≤ 'F' then some (c.toNat - 55)
  else none

/-- The code unit of four hexadecimal digits. -/
def unit? : List Char → Option (Nat × List Char)
  | a :: b :: c :: d :: r =>
    match hexValue? a, hexValue? b, hexValue? c, hexValue? d with
    | some a, some b, some c, some d => some (((a * 16 + b) * 16 + c) * 16 + d, r)
    | _, _, _, _ => none
  | _ => none

/-- The character of a code unit, or of a pair of surrogates. -/
def escapedUnit? (cs : List Char) : Option (Char × List Char) :=
  match unit? cs with
  | none => none
  | some (u, r) =>
    if Utf16.isHigh u then
      match (after? ['\\', 'u'] r).bind unit? with
      | none => none
      | some (v, r) =>
        if Utf16.isLow v then
          some (Char.ofNat (0x10000 + (u - 0xD800) * 0x400 + (v - 0xDC00)), r)
        else none
    else if Utf16.isLow u then none
    else some (Char.ofNat u, r)

/-- The character that a letter after a backslash stands for. -/
def letter? : Char → Option Char
  | '"' => some '"'
  | '\\' => some '\\'
  | '/' => some '/'
  | 'b' => some '\x08'
  | 'f' => some '\x0c'
  | 'n' => some '\n'
  | 'r' => some '\r'
  | 't' => some '\t'
  | _ => none

/-- What follows a backslash. -/
def escaped? : List Char → Option (Char × List Char)
  | [] => none
  | c :: r => if c = 'u' then escapedUnit? r else (letter? c).map (·, r)

/-- One character within quotes. -/
def character? : List Char → Option (Char × List Char)
  | [] => none
  | c :: r =>
    if c = '\\' then escaped? r
    else if c = '"' ∨ c.toNat < 0x20 then none
    else some (c, r)

/-- The characters up to the closing quote; `fuel` bounds how many they are. -/
def characters? : (fuel : Nat) → List Char → Option (List Char × List Char)
  | 0, _ => none
  | fuel + 1, cs =>
    match character? cs with
    | some (c, r) => (characters? fuel r).map fun (s, r) => (c :: s, r)
    | none => (after? ['"'] cs).map ([], ·)

def text? (cs : List Char) : Option (String × List Char) :=
  match after? ['"'] cs with
  | none => none
  | some r => (characters? (r.length + 1) r).map fun (s, r) => (String.ofList s, r)

/-- At least one digit. -/
def digits? (cs : List Char) : Option (List Char × List Char) :=
  let ds := cs.takeWhile Char.isDigit
  if ds = [] then none else some (ds, cs.dropWhile Char.isDigit)

/-- A number without sign, fraction and exponent. Only zero starts with a zero. -/
def whole? (cs : List Char) : Option (List Char × List Char) :=
  match cs with
  | '0' :: r => some (['0'], r)
  | cs => digits? cs

/-- The part behind a point, if there is a point. -/
def fraction? (cs : List Char) : Option (List Char × List Char) :=
  match cs with
  | '.' :: r => (digits? r).map fun (ds, r) => ('.' :: ds, r)
  | cs => some ([], cs)

/-- A sign, if there is one. -/
def sign (allowed : List Char) : List Char → List Char × List Char
  | [] => ([], [])
  | c :: r => if c ∈ allowed then ([c], r) else ([], c :: r)

def exponent? (cs : List Char) : Option (List Char × List Char) :=
  match cs with
  | [] => some ([], [])
  | e :: r =>
    if e = 'e' ∨ e = 'E' then
      let (plus, r) := sign ['+', '-'] r
      (digits? r).map fun (ds, r) => (e :: plus ++ ds, r)
    else some ([], e :: r)

def number? (cs : List Char) : Option (List Char × List Char) :=
  let (minus, r) := sign ['-'] cs
  match whole? r with
  | none => none
  | some (whole, r) =>
    match fraction? r with
    | none => none
    | some (fraction, r) =>
      (exponent? r).map fun (exponent, r) => (minus ++ whole ++ fraction ++ exponent, r)

/-! ## Values -/

mutual

/-- A value; `fuel` bounds the depth and the number of items. -/
def value? (fuel : Nat) (cs : List Char) : Option (Value × List Char) :=
  match fuel with
  | 0 => none
  | fuel + 1 =>
    match skipBlanks cs with
    | [] => none
    | c :: r =>
      if c = '"' then (text? (c :: r)).map fun (s, r) => (.text s, r)
      else if c = '\x7b' then
        match after? ['\x7d'] (skipBlanks r) with
        | some r => some (.object [], r)
        | none => (members? fuel r).map fun (ms, r) => (.object ms, r)
      else if c = '[' then
        match after? [']'] (skipBlanks r) with
        | some r => some (.array [], r)
        | none => (items? fuel r).map fun (vs, r) => (.array vs, r)
      else if c = 'n' then (after? ['u', 'l', 'l'] r).map (.null, ·)
      else if c = 't' then (after? ['r', 'u', 'e'] r).map (.bool true, ·)
      else if c = 'f' then (after? ['a', 'l', 's', 'e'] r).map (.bool false, ·)
      else (number? (c :: r)).map fun (spelling, r) => (.number spelling, r)

/-- The items of an array up to its end. -/
def items? (fuel : Nat) (cs : List Char) : Option (List Value × List Char) :=
  match fuel with
  | 0 => none
  | fuel + 1 =>
    match value? fuel cs with
    | none => none
    | some (v, r) =>
      match skipBlanks r with
      | ',' :: r => (items? fuel r).map fun (vs, r) => (v :: vs, r)
      | ']' :: r => some ([v], r)
      | _ => none

/-- The members of an object up to its end. -/
def members? (fuel : Nat) (cs : List Char) : Option (List (String × Value) × List Char) :=
  match fuel with
  | 0 => none
  | fuel + 1 =>
    match text? (skipBlanks cs) with
    | none => none
    | some (k, r) =>
      match (after? [':'] (skipBlanks r)).bind (value? fuel) with
      | none => none
      | some (v, r) =>
        match skipBlanks r with
        | ',' :: r => (members? fuel r).map fun (ms, r) => ((k, v) :: ms, r)
        | '\x7d' :: r => some ([(k, v)], r)
        | _ => none

end

/-- The value of a text that holds one value and nothing else. No value is nested deeper, or has more
items, than its text has characters. -/
def read? (cs : List Char) : Option Value :=
  match value? (2 * cs.length + 1) cs with
  | none => none
  | some (v, r) => if skipBlanks r = [] then some v else none

/-! ## What is written is read -/

theorem hexValue?_hexDigit {n : Nat} (h : n < 16) : hexValue? (Path.hexDigit n) = some n := by
  have hall : ∀ n < 16, hexValue? (Path.hexDigit n) = some n := by decide
  exact hall n h

/-- A code unit that is no surrogate is the character of that number. -/
theorem escapedUnit?_low {a b : Char} {m n : Nat} (ha : hexValue? a = some m) (hb : hexValue? b = some n)
    (hlow : m * 16 + n < 0xD800) (r : List Char) :
    escapedUnit? ('0' :: '0' :: a :: b :: r) = some (Char.ofNat (m * 16 + n), r) := by
  have hzero : hexValue? '0' = some 0 := by decide
  have hunit : unit? ('0' :: '0' :: a :: b :: r) = some (m * 16 + n, r) := by
    simp only [unit?, hzero, ha, hb, Nat.zero_mul, Nat.zero_add]
  have hnotHigh : Utf16.isHigh (m * 16 + n) = false := by
    rw [Utf16.isHigh, Bool.and_eq_false_iff]
    exact .inl (decide_eq_false (by omega))
  have hnotLow : Utf16.isLow (m * 16 + n) = false := by
    rw [Utf16.isLow, Bool.and_eq_false_iff]
    exact .inl (decide_eq_false (by omega))
  simp only [escapedUnit?, hunit, hnotHigh, hnotLow, Bool.false_eq_true, if_false]

theorem character?_escapeChar (c : Char) (r : List Char) :
    character? (escapeChar c ++ r) = some (c, r) := by
  unfold escapeChar
  split
  · rfl
  · rfl
  · rfl
  · rfl
  · rfl
  · rfl
  · rfl
  · rename_i hquote hbackslash _ _ _ _ _
    split
    · have hread := escapedUnit?_low (hexValue?_hexDigit (n := c.toNat / 16) (by omega))
        (hexValue?_hexDigit (n := c.toNat % 16) (by omega)) (by omega) r
      rw [Nat.div_add_mod', Char.ofNat_toNat] at hread
      exact hread
    · rename_i hplain
      have hnot : ¬(c = '"' ∨ c.toNat < 0x20) := fun h => h.elim hquote hplain
      rw [List.singleton_append, character?, if_neg hbackslash, if_neg hnot]

theorem characters?_escaped (s : List Char) (r : List Char) {fuel : Nat} (hfuel : s.length < fuel) :
    characters? fuel (s.flatMap escapeChar ++ '"' :: r) = some (s, r) := by
  induction s generalizing fuel with
  | nil =>
    obtain ⟨fuel, rfl⟩ := Nat.exists_eq_add_one.2 hfuel
    rfl
  | cons c s ih =>
    obtain ⟨fuel, rfl⟩ := Nat.exists_eq_add_one.2 (Nat.zero_lt_of_lt hfuel)
    rw [List.flatMap_cons, List.append_assoc, characters?]
    simp only [character?_escapeChar, ih (Nat.lt_of_succ_lt_succ hfuel), Option.map_some]

theorem length_le_flatMap_escapeChar (s : List Char) : s.length ≤ (s.flatMap escapeChar).length := by
  induction s with
  | nil => exact Nat.le_refl _
  | cons c s ih =>
    have hc : 1 ≤ (escapeChar c).length := by
      unfold escapeChar
      repeat' split
      all_goals simp
    rw [List.flatMap_cons, List.length_append, List.length_cons]
    omega

theorem text?_quote (s : String) (r : List Char) : text? (quote s ++ r) = some (s, r) := by
  have hquote : quote s ++ r = '"' :: (s.toList.flatMap escapeChar ++ '"' :: r) := by
    simp [quote]
  have hfuel : s.toList.length < (s.toList.flatMap escapeChar ++ '"' :: r).length + 1 := by
    have := length_le_flatMap_escapeChar s.toList
    rw [List.length_append]
    omega
  rw [hquote, text?]
  simp only [after?, List.isPrefixOf, BEq.rfl, Bool.and_self, if_true, List.length_singleton,
    List.drop_succ_cons, List.drop_zero, characters?_escaped _ r hfuel, Option.map_some,
    String.ofList_toList]

/-- A numeral other than zero does not start with a zero. -/
theorem exists_toDigits {n : Nat} (hn : n ≠ 0) : ∃ d ds, Nat.toDigits 10 n = d :: ds ∧ d ≠ '0' := by
  induction n using Nat.strongRecOn with
  | _ n ih =>
    rcases Nat.lt_or_ge n 10 with hlt | hge
    · have hall : ∀ n < 10, n ≠ 0 → n.digitChar ≠ '0' := by decide
      exact ⟨_, [], Nat.toDigits_of_lt_base hlt, hall n hlt hn⟩
    · obtain ⟨d, ds, hds, hd⟩ := ih (n / 10) (by omega) (by omega)
      exact ⟨d, ds ++ [(n % 10).digitChar], by
        rw [Nat.toDigits_of_base_le (by omega) hge, hds, List.cons_append], hd⟩

theorem digits?_append {ds r : List Char} {c : Char} (hne : ds ≠ []) (hds : ∀ d ∈ ds, d.isDigit)
    (hc : c.isDigit = false) : digits? (ds ++ c :: r) = some (ds, c :: r) := by
  have htake : (ds ++ c :: r).takeWhile Char.isDigit = ds := by
    rw [List.takeWhile_append_of_pos hds, List.takeWhile_cons_of_neg (by simp [hc]), List.append_nil]
  have hdrop : (ds ++ c :: r).dropWhile Char.isDigit = c :: r := by
    rw [List.dropWhile_append_of_pos hds, List.dropWhile_cons_of_neg (by simp [hc])]
  simp only [digits?, htake, hdrop, hne, if_false]

theorem whole?_toDigits (n : Nat) {c : Char} (hc : c.isDigit = false) (r : List Char) :
    whole? (Nat.toDigits 10 n ++ c :: r) = some (Nat.toDigits 10 n, c :: r) := by
  by_cases hn : n = 0
  · subst hn
    rfl
  · obtain ⟨d, ds, hds, hd⟩ := exists_toDigits hn
    have hdigits := digits?_append (r := r) Nat.toDigits_ne_nil
      (fun d hd => Nat.isDigit_of_mem_toDigits (b := 10) (n := n) (by omega) (by omega) hd) hc
    rw [hds] at hdigits ⊢
    unfold whole?
    split
    · rename_i heq
      exact absurd (List.cons.inj heq).1 hd
    · exact hdigits

/-- The value is read from the text, wherever that stands in an object. -/
def Writes (text : List Char) (v : Value) : Prop :=
  ∀ fuel c r, c = ',' ∨ c = '\x7d' → value? (fuel + 1) (text ++ c :: r) = some (v, c :: r)

theorem writes_quote (s : String) : Writes (quote s) (.text s) := by
  intro fuel c r _
  have htext := text?_quote s (c :: r)
  obtain ⟨more, hmore⟩ : ∃ more, quote s ++ c :: r = '"' :: more := ⟨_, rfl⟩
  have hskip : skipBlanks ('"' :: more) = '"' :: more := rfl
  rw [hmore] at htext ⊢
  rw [value?, hskip]
  simp only [if_true, htext, Option.map_some]

theorem number?_toDigits (n : Nat) {c : Char} (hc : c = ',' ∨ c = '\x7d') (r : List Char) :
    number? (Nat.toDigits 10 n ++ c :: r) = some (Nat.toDigits 10 n, c :: r) := by
  have hdigit : c.isDigit = false := by
    rcases hc with rfl | rfl <;> decide
  have hwhole := whole?_toDigits n hdigit r
  obtain ⟨d, ds, hds⟩ := List.exists_cons_of_ne_nil (Nat.toDigits_ne_nil (n := n) (b := 10))
  have hd : d.isDigit := Nat.isDigit_of_mem_toDigits (b := 10) (n := n) (by omega) (by omega)
    (hds ▸ List.mem_cons_self)
  have hminus : d ≠ '-' := by
    rintro rfl
    cases hd
  have hsign : sign ['-'] (d :: ds ++ c :: r) = ([], d :: ds ++ c :: r) := by
    simp only [List.cons_append, sign, List.mem_singleton, hminus, if_false]
  -- neither a comma nor a brace goes on with the number
  have hfraction : fraction? (c :: r) = some ([], c :: r) := by
    rcases hc with rfl | rfl <;> rfl
  have hexponent : exponent? (c :: r) = some ([], c :: r) := by
    rcases hc with rfl | rfl <;> rfl
  rw [hds] at hwhole ⊢
  simp only [number?, hsign, hwhole, hfraction, hexponent, Option.map_some, List.nil_append,
    List.append_nil]

theorem writes_toDigits (n : Nat) : Writes (Nat.toDigits 10 n) (.number (Nat.toDigits 10 n)) := by
  intro fuel c r hc
  have hnumber := number?_toDigits n hc r
  obtain ⟨d, ds, hds⟩ := List.exists_cons_of_ne_nil (Nat.toDigits_ne_nil (n := n) (b := 10))
  have hd : d.isDigit := Nat.isDigit_of_mem_toDigits (b := 10) (n := n) (by omega) (by omega)
    (hds ▸ List.mem_cons_self)
  have hne : ∀ e : Char, e.isDigit = false → d ≠ e := by
    rintro e he rfl
    rw [hd] at he
    cases he
  have hblank : isBlank d = false := by
    simp [isBlank, hne ' ' rfl, hne '\t' rfl, hne '\n' rfl, hne '\r' rfl]
  rw [hds] at hnumber ⊢
  rw [value?, skipBlanks, List.cons_append, List.dropWhile_cons_of_neg (by simp [hblank])]
  simp only [hne '"' rfl, hne '\x7b' rfl, hne '[' rfl, hne 'n' rfl, hne 't' rfl, hne 'f' rfl, if_false]
  rw [← List.cons_append, hnumber, Option.map_some]

theorem members?_members {ms : List (String × List Char)} {vs : List (String × Value)} (hne : ms ≠ [])
    (h : List.Forall₂ (fun m v => m.1 = v.1 ∧ Writes m.2 v.2) ms vs) {fuel : Nat}
    (hfuel : ms.length < fuel) (r : List Char) :
    members? fuel (members ms ++ '\x7d' :: r) = some (vs, r) := by
  induction h generalizing fuel with
  | nil => exact absurd rfl hne
  | @cons m v ms vs hm hms ih =>
    obtain ⟨fuel, rfl⟩ := Nat.exists_eq_add_one.2 (Nat.zero_lt_of_lt hfuel)
    rw [List.length_cons] at hfuel
    obtain ⟨fuel', rfl⟩ := Nat.exists_eq_add_one.2 (show 0 < fuel by omega)
    obtain ⟨k, text⟩ := m
    obtain ⟨k', v⟩ := v
    obtain ⟨rfl, hwrites⟩ := hm
    have hkey : ∀ more, skipBlanks (quote k ++ more) = quote k ++ more := fun more => rfl
    have hcolon : ∀ more, after? [':'] (skipBlanks (':' :: more)) = some more := fun more => rfl
    cases ms with
    | nil =>
      cases hms
      have hshape : members [(k, text)] ++ '\x7d' :: r = quote k ++ ':' :: (text ++ '\x7d' :: r) := by
        simp [members]
      rw [hshape, members?]
      simp only [hkey, text?_quote, hcolon, Option.bind_some, hwrites fuel' '\x7d' r (.inr rfl)]
      rfl
    | cons next ms =>
      have hrest := ih (List.cons_ne_nil _ _) (show (next :: ms).length < fuel' + 1 by omega)
      have hshape : members ((k, text) :: next :: ms) ++ '\x7d' :: r =
          quote k ++ ':' :: (text ++ ',' :: (members (next :: ms) ++ '\x7d' :: r)) := by
        simp [members]
      have hcomma : ∀ more, skipBlanks (',' :: more) = ',' :: more := fun more => rfl
      rw [hshape, members?]
      simp only [hkey, text?_quote, hcolon, Option.bind_some, hwrites fuel' ',' _ (.inl rfl), hcomma,
        hrest, Option.map_some]

theorem length_members (ms : List (String × List Char)) : ms.length ≤ (members ms).length := by
  induction ms with
  | nil => exact Nat.le_refl _
  | cons m ms ih =>
    cases ms with
    | nil =>
      rw [members, List.length_append, List.length_append]
      exact Nat.le_add_right_of_le (Nat.le_add_left _ _)
    | cons next ms =>
      rw [members]
      · simp only [List.length_append, List.length_cons, List.length_nil] at ih ⊢
        omega
      · simp

theorem read?_object {ms : List (String × List Char)} {vs : List (String × Value)} (hne : ms ≠ [])
    (h : List.Forall₂ (fun m v => m.1 = v.1 ∧ Writes m.2 v.2) ms vs) :
    read? (object ms) = some (.object vs) := by
  have hlength := length_members ms
  have hobject : object ms = '\x7b' :: (members ms ++ '\x7d' :: []) := rfl
  have hstart : after? ['\x7d'] (skipBlanks (members ms ++ '\x7d' :: [])) = none := by
    obtain ⟨m, ms, rfl⟩ := List.exists_cons_of_ne_nil hne
    cases ms <;> rfl
  have hfuel : ms.length < 2 * (object ms).length := by
    rw [hobject, List.length_cons, List.length_append]
    omega
  have hmembers := members?_members hne h hfuel []
  rw [read?, value?]
  have hskip : skipBlanks (object ms) = object ms := rfl
  rw [hskip]
  generalize 2 * (object ms).length = fuel at hmembers
  rw [hobject]
  simp only [hstart, hmembers, Option.map_some]
  rfl

-- What the documents printed here never hold is read as well: blanks, lists, exponents and escaped
-- surrogates.
example : read? " \x7b \"a\\/\" : [ -1.50e+3,\"\\ud83d\\ude00\" , null ]\x7d\n".toList =
    some (.object [("a/", .array [.number "-1.50e+3".toList, .text "😀", .null])]) := by
  cbv

end Json
end FileTail
