import FileTail.Proofs.Rows
import FileTail.Word

/-!
# FileTail.Proofs.Indices

Cutting into lines, index by index. A buffer is gone through with indices into it, which must not
pass `top`, the largest index there is; a slice must lie within the buffer, and a loop must end
within the rounds that it is given. Where one of these fails there is no result.

* `LineFormat.seek?_eq`: looking for the delimiter always ends, and finds what `find?` finds.
* `LineFormat.cut?_eq`: each round of the loop cuts off one segment.
* `LineFormat.split?_eq`: cutting gives what `split` gives.
-/

namespace FileTail

namespace Word

def addUpTo? (top a b : Nat) : Option Nat := if a + b ≤ top then some (a + b) else none

def sub? (a b : Nat) : Option Nat := if b ≤ a then some (a - b) else none

theorem addUpTo?_eq {top a b : Nat} (h : a + b ≤ top) : addUpTo? top a b = some (a + b) := if_pos h

theorem sub?_eq {a b : Nat} (h : b ≤ a) : sub? a b = some (a - b) := if_pos h

end Word

namespace Bytes

def slice? (bytes : Bytes) (i j : Nat) : Option Bytes :=
  if i ≤ j ∧ j ≤ bytes.length then some (bytes.between i j) else none

def from? (bytes : Bytes) (i : Nat) : Option Bytes :=
  if i ≤ bytes.length then some (bytes.drop i) else none

theorem slice?_eq {bytes : Bytes} {i j : Nat} (hij : i ≤ j) (hj : j ≤ bytes.length) :
    bytes.slice? i j = some (bytes.between i j) := if_pos ⟨hij, hj⟩

theorem from?_eq {bytes : Bytes} {i : Nat} (h : i ≤ bytes.length) :
    bytes.from? i = some (bytes.drop i) := if_pos h

end Bytes

namespace LineFormat

/-! ## The search, position by position -/

/-- Positions at which the delimiter does not stand can be passed over. -/
theorem search_pass {width : Nat} {d : Bytes} : ∀ {n k : Nat} {bytes : Bytes},
    (∀ m < n, ¬ ((k + m) % width = 0 ∧ d <+: bytes.drop m)) →
    search width d k bytes = search width d (k + n) (bytes.drop n)
  | 0, _, _, _ => rfl
  | _ + 1, _, [], _ => by simp [search]
  | n + 1, k, b :: r, h => by
    have hfirst : ¬ (k % width = 0 ∧ d.isPrefixOf (b :: r) = true) := by
      simpa [List.isPrefixOf_iff_prefix] using h 0 (by omega)
    rw [search, if_neg hfirst, search_pass (n := n) fun m hm => ?_]
    · rw [List.drop_succ_cons, Nat.add_assoc, Nat.add_comm 1]
    · simpa [Nat.add_assoc, Nat.add_comm 1] using h (m + 1) (by omega)

theorem search_skip {width k : Nat} {d bytes : Bytes} (hk : k % width = 0)
    (h : ¬ d <+: bytes) : search width d k bytes = search width d (k + width) (bytes.drop width) := by
  refine search_pass fun m hm hat => ?_
  rw [Nat.add_mod, hk, Nat.zero_add, Nat.mod_mod, Nat.mod_eq_of_lt hm] at hat
  obtain ⟨rfl, hprefix⟩ := hat
  exact h hprefix

theorem search_here {width k : Nat} {d bytes : Bytes} (hd : d ≠ []) (hk : k % width = 0)
    (h : d <+: bytes) : search width d k bytes = some k := by
  simpa using (@search_eq_some_iff width d hd bytes k 0).2
    ⟨⟨by simpa using hk, by simpa using h⟩, by simp⟩

theorem search_short {width k : Nat} {d bytes : Bytes} (h : bytes.length < d.length) :
    search width d k bytes = none := by
  cases hs : search width d k bytes with
  | none => rfl
  | some j =>
    have := (search_bound hs).2
    omega

/-! ## The loops -/

/-- Look for the delimiter at `i`, one code unit further on, and so forth. -/
def seek? (top : Nat) (f : LineFormat) (bytes : Bytes) : (rounds i : Nat) → Option (Option Nat)
  | 0, _ => none
  | rounds + 1, i => do
    let stop ← Word.addUpTo? top i f.delimiter.length
    if bytes.length < stop then some none
    else
      let rest ← bytes.from? i
      if f.delimiter.isPrefixOf rest then some (some i)
      else
        let next ← Word.addUpTo? top i f.width
        seek? top f bytes rounds next

/-- Cut segments off from `start` on; `done` holds those cut before, the last one first. -/
def cut? (top : Nat) (f : LineFormat) (bytes : Bytes) :
    (rounds start : Nat) → (done : List Bytes) → Option (List Bytes × Nat)
  | 0, _, _ => none
  | rounds + 1, start, done => do
    match ← f.seek? top bytes (bytes.length + 1) start with
    | none => some (done.reverse, start)
    | some stop => do
      let segment ← bytes.slice? start stop
      let next ← Word.addUpTo? top stop f.delimiter.length
      cut? top f bytes rounds next (segment :: done)

def splitFrom? (top : Nat) (f : LineFormat) (bytes : Bytes) (start : Nat) : Option Split := do
  let (segments, stop) ← f.cut? top bytes (bytes.length + 1) start []
  let remainder ← Word.sub? bytes.length stop
  let readings := f.readings segments
  some ⟨readings.map (·.text), readings.countP (·.malformed), start, remainder⟩

def split? (top : Nat) (f : LineFormat) (bytes : Bytes) (midLine : Bool) : Option Split :=
  if midLine then do
    match ← f.seek? top bytes (bytes.length + 1) 0 with
    | none => some ⟨[], 0, bytes.length, 0⟩
    | some stop => do
      let start ← Word.addUpTo? top stop f.delimiter.length
      f.splitFrom? top bytes start
  else f.splitFrom? top bytes 0

variable {top : Nat} {f : LineFormat} {bytes : Bytes}

/-- Enough rounds bring the search to its end. It started at `start`, `k` bytes before. -/
theorem seek?_eq_search (hd : f.delimiter ≠ []) (htop : bytes.length + f.delimiter.length < top)
    {start k rounds : Nat} (hk : k % f.width = 0)
    (hi : start + k + f.delimiter.length ≤ top) (hrounds : bytes.length ≤ start + k + rounds) :
    f.seek? top bytes (rounds + 1) (start + k) =
      some ((search f.width f.delimiter k (bytes.drop (start + k))).map (start + ·)) := by
  have hdelim := List.length_pos_iff.2 hd
  have hwidth : 0 < f.width := f.encoding.width_pos
  have htwo := f.width_le_two
  induction rounds generalizing k with
  | zero =>
    -- no round is left, and no delimiter fits into what is left of the buffer
    rw [search_short (by simp only [List.length_drop]; omega), seek?, Word.addUpTo?_eq hi]
    simp only [Option.bind_eq_bind, Option.bind_some, Option.map_none]
    rw [if_pos (by omega)]
  | succ rounds ih =>
    rw [seek?, Word.addUpTo?_eq hi]
    simp only [Option.bind_eq_bind, Option.bind_some]
    by_cases hend : bytes.length < start + k + f.delimiter.length
    · rw [if_pos hend, search_short (by simp only [List.length_drop]; omega), Option.map_none]
    · rw [if_neg hend, Bytes.from?_eq (by omega), Option.bind_some]
      by_cases hhere : f.delimiter <+: bytes.drop (start + k)
      · rw [if_pos (List.isPrefixOf_iff_prefix.2 hhere), search_here hd hk hhere, Option.map_some]
      · rw [if_neg (fun h => hhere (List.isPrefixOf_iff_prefix.1 h)), search_skip hk hhere,
          List.drop_drop, Word.addUpTo?_eq (by omega), Option.bind_some, Nat.add_assoc]
        exact ih (by simpa using hk) (by omega) (by omega)

theorem seek?_eq (hd : f.delimiter ≠ []) (htop : bytes.length + f.delimiter.length < top)
    {start : Nat} (hstart : start ≤ bytes.length) :
    f.seek? top bytes (bytes.length + 1) start =
      some ((f.find? (bytes.drop start)).map (start + ·)) := by
  have hempty : f.delimiter.isEmpty = false := by simpa using hd
  rw [find?, hempty]
  exact seek?_eq_search (k := 0) hd htop (Nat.zero_mod _) (by omega) (by omega)

theorem cut?_eq (hd : f.delimiter ≠ []) (htop : bytes.length + f.delimiter.length < top)
    {start rounds : Nat} (hstart : start ≤ bytes.length) (hrounds : bytes.length ≤ start + rounds)
    (done : List Bytes) :
    f.cut? top bytes (rounds + 1) start done =
      some (done.reverse ++ (f.segments (bytes.drop start)).1,
        bytes.length - (f.segments (bytes.drop start)).2.length) := by
  have hdelim := List.length_pos_iff.2 hd
  induction rounds generalizing start done with
  | zero =>
    have hnone : f.find? (bytes.drop start) = none := by
      cases h : f.find? (bytes.drop start) with
      | none => rfl
      | some i =>
        have := (find?_bound h).2
        simp only [List.length_drop] at this
        omega
    rw [cut?, seek?_eq hd htop hstart, hnone, segments_none hnone]
    simp only [Option.map_none, Option.bind_eq_bind, Option.bind_some, List.append_nil,
      List.length_drop]
    rw [Nat.sub_sub_self hstart]
  | succ rounds ih =>
    rw [cut?, seek?_eq hd htop hstart]
    cases h : f.find? (bytes.drop start) with
    | none =>
      rw [segments_none h]
      simp only [Option.map_none, Option.bind_eq_bind, Option.bind_some, List.append_nil,
        List.length_drop]
      rw [Nat.sub_sub_self hstart]
    | some i =>
      have hbound := (find?_bound h).2
      simp only [List.length_drop] at hbound
      simp only [Option.map_some, Option.bind_eq_bind, Option.bind_some]
      rw [Bytes.slice?_eq (by omega) (by omega), Option.bind_some, Word.addUpTo?_eq (by omega),
        Option.bind_some, ih (by omega) (by omega), segments_some h, List.drop_drop]
      simp [Bytes.between, List.drop_take, Nat.add_assoc]

theorem splitFrom?_eq (hd : f.delimiter ≠ []) (htop : bytes.length + f.delimiter.length < top)
    {start : Nat} (hstart : start ≤ bytes.length) :
    f.splitFrom? top bytes start =
      some
        { lines := (f.readings (f.segments (bytes.drop start)).1).map (·.text)
          malformed := (f.readings (f.segments (bytes.drop start)).1).countP (·.malformed)
          dropped := start
          remainder := (f.segments (bytes.drop start)).2.length } := by
  have hrest := f.segments_rest_length (bytes.drop start)
  rw [List.length_drop] at hrest
  rw [splitFrom?, cut?_eq hd htop hstart (by omega)]
  simp only [Option.bind_eq_bind, Option.bind_some, List.reverse_nil, List.nil_append]
  rw [Word.sub?_eq (by omega), Nat.sub_sub_self (by omega)]
  rfl

/-- Cutting a buffer into lines goes through, whatever it holds. -/
theorem split?_eq (hd : f.delimiter ≠ []) (htop : bytes.length + f.delimiter.length < top)
    (midLine : Bool) : f.split? top bytes midLine = some (f.split bytes midLine) := by
  cases midLine with
  | false => rw [split?, if_neg (by simp), splitFrom?_eq hd htop (Nat.zero_le _)]; rfl
  | true =>
    rw [split?, if_pos rfl, seek?_eq hd htop (Nat.zero_le _), List.drop_zero]
    cases h : f.find? bytes with
    | none =>
      have hnil : f.segments [] = ([], []) := segments_none <| (find?_eq_none_iff hd).2 <|
        not_hasDelimiter_nil hd
      simp [split, fragmentLength, h, hnil, readings]
    | some i =>
      have hbound := (find?_bound h).2
      simp only [Option.map_some, Option.bind_eq_bind, Option.bind_some, Nat.zero_add]
      rw [Word.addUpTo?_eq (by omega), Option.bind_some, splitFrom?_eq hd htop hbound]
      simp [split, fragmentLength, h]

end LineFormat
end FileTail
