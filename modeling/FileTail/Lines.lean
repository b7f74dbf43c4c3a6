import FileTail.Encoding.Text

/-!
# FileTail.Lines

Bytes cut into lines. A delimiter is looked for as bytes, and only where a code unit of the
encoding can start, counted from where the search starts.

* `LineFormat` — an encoding and the delimiter in that encoding.
* `LineFormat.find?` — the first occurrence of the delimiter.
* `LineFormat.segments` — the delimited segments and the unfinished rest.
* `LineFormat.segments_some`, `segments_none` — a segment goes up to the first occurrence, the next
  one starts behind the delimiter, and without an occurrence all is rest.
* `LineFormat.split` — the segments as text, empty ones left out.
-/

namespace FileTail

structure LineFormat where
  encoding : Encoding
  delimiter : Bytes
deriving Repr, Inhabited

/-- What a buffer was cut into. -/
structure Split where
  lines : List String
  /-- How many of the lines held malformed text. -/
  malformed : Nat
  /-- Length of the fragment at the start that was left out. -/
  dropped : Nat
  /-- Length of the unfinished line at the end. -/
  remainder : Nat
deriving Repr, DecidableEq, Inhabited

namespace LineFormat

def ofText (encoding : Encoding) (delimiter : String) : LineFormat :=
  ⟨encoding, encoding.encode delimiter⟩

def width (f : LineFormat) : Nat := f.encoding.width

/-- Look for `d` at the positions `i`, `i + 1`, … that are multiples of `width`. -/
def search (width : Nat) (d : Bytes) : Nat → Bytes → Option Nat
  | _, [] => none
  | i, b :: r =>
    if i % width = 0 ∧ d.isPrefixOf (b :: r) = true then some i else search width d (i + 1) r

/-- The position of the first delimiter. An empty delimiter occurs nowhere. -/
def find? (f : LineFormat) (bytes : Bytes) : Option Nat :=
  if f.delimiter.isEmpty then none else search f.width f.delimiter 0 bytes

theorem search_bound {width : Nat} {d : Bytes} :
    ∀ {bytes : Bytes} {i j : Nat}, search width d i bytes = some j →
      i ≤ j ∧ j - i + d.length ≤ bytes.length := by
  intro bytes
  induction bytes with
  | nil => intro i j h; simp [search] at h
  | cons b r ih =>
    intro i j h
    simp only [search] at h
    split at h
    · rename_i hp
      cases h
      have := (List.isPrefixOf_iff_prefix.1 hp.2).length_le
      exact ⟨Nat.le_refl _, by omega⟩
    · obtain ⟨h₁, h₂⟩ := ih h
      exact ⟨by omega, by simp only [List.length_cons]; omega⟩

theorem find?_bound {f : LineFormat} {bytes : Bytes} {i : Nat} (h : f.find? bytes = some i) :
    0 < f.delimiter.length ∧ i + f.delimiter.length ≤ bytes.length := by
  unfold find? at h
  split at h
  · cases h
  · rename_i hd
    have hpos : 0 < f.delimiter.length := by
      cases hl : f.delimiter with
      | nil => simp [hl] at hd
      | cons _ _ => simp
    have := search_bound h
    exact ⟨hpos, by omega⟩

/-- Cut segments off the front of `bytes`; `done` holds those cut before, the last one first. -/
def cutFrom (f : LineFormat) (done : List Bytes) (bytes : Bytes) : List Bytes × Bytes :=
  match _h : f.find? bytes with
  | none => (done.reverse, bytes)
  | some i => f.cutFrom (bytes.take i :: done) (bytes.drop (i + f.delimiter.length))
termination_by bytes.length
decreasing_by
  have := find?_bound _h
  simp only [List.length_drop]
  omega

/-- The delimited segments, without their delimiters, and the rest behind the last delimiter. -/
def segments (f : LineFormat) (bytes : Bytes) : List Bytes × Bytes := f.cutFrom [] bytes

theorem cutFrom_none {f : LineFormat} {bytes : Bytes} (done : List Bytes)
    (h : f.find? bytes = none) : f.cutFrom done bytes = (done.reverse, bytes) := by
  unfold cutFrom
  split
  · rfl
  · rename_i i hi; rw [h] at hi; cases hi

theorem cutFrom_some {f : LineFormat} {bytes : Bytes} {i : Nat} (done : List Bytes)
    (h : f.find? bytes = some i) :
    f.cutFrom done bytes =
      f.cutFrom (bytes.take i :: done) (bytes.drop (i + f.delimiter.length)) := by
  conv => lhs; unfold cutFrom
  split
  · rename_i hn; rw [h] at hn; cases hn
  · rename_i j hj; rw [h] at hj; cases hj; rfl

/-- The segments cut before only stand in front. -/
theorem cutFrom_done (f : LineFormat) (done : List Bytes) (bytes : Bytes) :
    f.cutFrom done bytes = (done.reverse ++ (f.segments bytes).1, (f.segments bytes).2) := by
  have general : ∀ (n : Nat) (done : List Bytes) (bytes : Bytes), bytes.length ≤ n →
      f.cutFrom done bytes = (done.reverse ++ (f.segments bytes).1, (f.segments bytes).2) := by
    intro n
    induction n with
    | zero =>
      intro done bytes hn
      cases h : f.find? bytes with
      | none => simp [segments, cutFrom_none _ h]
      | some i => have := find?_bound h; omega
    | succ n ih =>
      intro done bytes hn
      cases h : f.find? bytes with
      | none => simp [segments, cutFrom_none _ h]
      | some i =>
        have hb := find?_bound h
        have hl : (bytes.drop (i + f.delimiter.length)).length ≤ n := by
          simp only [List.length_drop]; omega
        rw [segments, cutFrom_some _ h, cutFrom_some _ h, ih _ _ hl, ih _ _ hl]
        simp
  exact general _ done bytes (Nat.le_refl _)

theorem segments_none {f : LineFormat} {bytes : Bytes} (h : f.find? bytes = none) :
    f.segments bytes = ([], bytes) := cutFrom_none [] h

theorem segments_some {f : LineFormat} {bytes : Bytes} {i : Nat} (h : f.find? bytes = some i) :
    f.segments bytes =
      (bytes.take i :: (f.segments (bytes.drop (i + f.delimiter.length))).1,
       (f.segments (bytes.drop (i + f.delimiter.length))).2) := by
  rw [segments, cutFrom_some _ h, cutFrom_done]
  simp

/-- How many bytes at the start belong to a line that began before the buffer: up to and with the
first delimiter, or all of them. -/
def fragmentLength (f : LineFormat) (bytes : Bytes) : Nat :=
  match f.find? bytes with
  | some i => i + f.delimiter.length
  | none => bytes.length

/-- The text of the segments that are not empty. -/
def readings (f : LineFormat) (segments : List Bytes) : List Reading :=
  (segments.filter (!·.isEmpty)).map f.encoding.decode

/-- Cut a buffer into lines. With `midLine` the buffer starts within a line, whose end is left
out. -/
def split (f : LineFormat) (bytes : Bytes) (midLine : Bool) : Split :=
  let dropped := if midLine then f.fragmentLength bytes else 0
  let cut := f.segments (bytes.drop dropped)
  let readings := f.readings cut.1
  { lines := readings.map (·.text)
    malformed := readings.countP (·.malformed)
    dropped := dropped
    remainder := cut.2.length }

theorem fragmentLength_le (f : LineFormat) (bytes : Bytes) :
    f.fragmentLength bytes ≤ bytes.length := by
  unfold fragmentLength
  split
  · rename_i i h; exact (find?_bound h).2
  · exact Nat.le_refl _

theorem segments_rest_length (f : LineFormat) (bytes : Bytes) :
    (f.segments bytes).2.length ≤ bytes.length := by
  have general : ∀ (n : Nat) (bytes : Bytes), bytes.length ≤ n →
      (f.segments bytes).2.length ≤ bytes.length := by
    intro n
    induction n with
    | zero =>
      intro bytes hn
      cases h : f.find? bytes with
      | none => simp [segments_none h]
      | some i => have := find?_bound h; omega
    | succ n ih =>
      intro bytes hn
      cases h : f.find? bytes with
      | none => simp [segments_none h]
      | some i =>
        have hb := find?_bound h
        rw [segments_some h]
        have hl : (bytes.drop (i + f.delimiter.length)).length ≤ n := by
          simp only [List.length_drop]; omega
        have := ih _ hl
        simp only [List.length_drop] at this ⊢
        omega
  exact general _ bytes (Nat.le_refl _)

theorem split_dropped_le (f : LineFormat) (bytes : Bytes) (midLine : Bool) :
    (f.split bytes midLine).dropped ≤ bytes.length := by
  simp only [split]
  split
  · exact f.fragmentLength_le bytes
  · exact Nat.zero_le _

theorem split_remainder_le (f : LineFormat) (bytes : Bytes) (midLine : Bool) :
    (f.split bytes midLine).remainder ≤ bytes.length :=
  Nat.le_trans (f.segments_rest_length _) (List.drop_suffix _ _).length_le

end LineFormat
end FileTail
