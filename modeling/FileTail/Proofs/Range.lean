import Mathlib.Algebra.Group.Nat.Defs
import FileTail.Proofs.Indices
import FileTail.Proofs.Tailing

/-!
# FileTail.Proofs.Range

All arithmetic on sizes and offsets stays within 64 bits. The definitions with a question mark do
what those without it do, operation by operation; where a result would be negative or more than
`Word.limit`, where a shift would be by a whole word, or where an index would lie outside its buffer,
they have none. Only where a size is to stop at the limit, or a difference at zero, it may.

* `Head.follows?_eq`: comparing heads under a mask is comparing their first bytes.
* `Limits.plan?_eq`, `Limits.harvest?_eq`: a plan and what a read amounts to.
* `Track.InRange`: sizes, offsets and windows that fit, which every moment keeps.
* `arithmetic_in_range`: no operation fails, whatever sizes, heads and bytes there are.
-/

namespace FileTail

namespace Word

def add? (a b : Nat) : Option Nat := addUpTo? limit a b

def mul? (a b : Nat) : Option Nat := if a * b ≤ limit then some (a * b) else none

def divUp? (a b : Nat) : Option Nat :=
  if b = 0 then none else if a % b = 0 then some (a / b) else add? (a / b) 1

/-- Shift to the left, where bits may be shifted out. -/
def shl? (a n : Nat) : Option Nat := if n < 64 then some (a <<< n % 2 ^ 64) else none

theorem add?_eq {a b : Nat} (h : a + b ≤ limit) : add? a b = some (a + b) := if_pos h

theorem mul?_eq {a b : Nat} (h : a * b ≤ limit) : mul? a b = some (a * b) := if_pos h

theorem shl?_eq {a n : Nat} (h : n < 64) : shl? a n = some (a <<< n % 2 ^ 64) := if_pos h

/-- The largest value of which the lowest `k` bits are shifted out masks the multiples of `2 ^ k`. -/
theorem and_mask {v k : Nat} (hv : v ≤ limit) :
    v &&& limit <<< k % 2 ^ 64 = v / 2 ^ k * 2 ^ k := by
  have hv' : v < 2 ^ 64 := by simp only [limit] at hv; omega
  have hlimit : limit = 2 ^ 64 - 1 := rfl
  rw [← Nat.shiftRight_eq_div_pow, ← Nat.shiftLeft_eq]
  refine Nat.eq_of_testBit_eq fun i => ?_
  rw [hlimit, Nat.testBit_and, Nat.testBit_mod_two_pow, Nat.testBit_shiftLeft,
    Nat.testBit_shiftLeft, Nat.testBit_shiftRight, Nat.testBit_two_pow_sub_one]
  by_cases hk : k ≤ i
  · rw [Nat.add_sub_cancel' hk]
    by_cases hi : i < 64
    · have hsub : i - k < 64 := by omega
      simp [hk, hi, hsub]
    · have hzero : v.testBit i = false :=
        Nat.testBit_lt_two_pow (Nat.lt_of_lt_of_le hv' (Nat.pow_le_pow_right (by omega) (by omega)))
      simp [hzero]
  · simp [hk]

end Word

/-! ## Heads and records -/

namespace Head

def Packed (h : Head) : Prop := ∃ bytes, h = .ofBytes bytes

theorem weight_eq (n : Nat) : Bytes.weight n = 2 ^ (8 * n) := by
  induction n with
  | zero => rfl
  | succ n ih => rw [Bytes.weight, ih, show 8 * (n + 1) = 8 * n + 8 by omega, Nat.pow_add]

theorem Packed.length_le {h : Head} (hp : h.Packed) : h.length ≤ capacity := by
  obtain ⟨bytes, rfl⟩ := hp
  rw [length_ofBytes]
  exact Nat.min_le_left _ _

theorem Packed.value_le {h : Head} (hp : h.Packed) : h.value ≤ Word.limit := by
  obtain ⟨bytes, rfl⟩ := hp
  have hlen : (bytes.take capacity).length ≤ capacity := List.length_take_le _ _
  have hlt := Nat.mul_lt_mul_of_pos_right (Bytes.bigEndian_lt (bytes.take capacity))
    (Bytes.weight_pos (capacity - (bytes.take capacity).length))
  rw [← Bytes.weight_add, Nat.add_sub_cancel' hlen] at hlt
  have hweight : Bytes.weight capacity = Word.limit + 1 := by decide
  simp only [ofBytes]
  omega

/-- Whether a head can follow an earlier one: under a mask of as many bytes as the earlier one has,
both are the same. -/
def follows? (later earlier : Head) : Option Bool :=
  if later.length < earlier.length then some false
  else if earlier.length = 0 then some true
  else do
    let rest ← Word.sub? capacity earlier.length
    let bits ← Word.mul? 8 rest
    let mask ← Word.shl? Word.limit bits
    some (later.value &&& mask == earlier.value &&& mask)

theorem follows?_eq {later earlier : Head} (hl : later.Packed) (he : earlier.Packed) :
    later.follows? earlier = some (later.follows earlier) := by
  have hcapacity : capacity = 8 := rfl
  have hlen := he.length_le
  have hvl := hl.value_le
  have hve := he.value_le
  unfold follows?
  by_cases hshort : later.length < earlier.length
  · have hnot : ¬ earlier.length ≤ later.length := by omega
    rw [if_pos hshort, follows]
    simp [hnot]
  · have hle : earlier.length ≤ later.length := by omega
    rw [if_neg hshort]
    by_cases hzero : earlier.length = 0
    · have hnone : ∀ {h : Head}, h.value ≤ Word.limit → h.leading 0 = 0 := fun hv =>
        Nat.div_eq_of_lt (Nat.lt_of_le_of_lt hv (by decide))
      rw [if_pos hzero, follows, hzero, hnone hvl, hnone hve]
      simp
    -- only for an empty head, which is taken care of, the shift would be by a whole word
    · have hbits : 8 * (capacity - earlier.length) < 64 := by omega
      rw [if_neg hzero, Word.sub?_eq hlen]
      simp only [Option.bind_eq_bind, Option.bind_some]
      rw [Word.mul?_eq (by simp only [Word.limit]; omega), Option.bind_some, Word.shl?_eq hbits,
        Option.bind_some, Word.and_mask hvl, Word.and_mask hve, follows, leading, leading, weight_eq,
        decide_eq_true hle, Bool.true_and]
      congr 1
      rw [Bool.eq_iff_iff, beq_iff_eq, beq_iff_eq]
      exact Nat.mul_left_inj (Nat.pos_iff_ne_zero.1 (Nat.two_pow_pos _))

end Head

namespace FileRecord

def look? (r : FileRecord) (chunk? : Option Nat) (seen : Fingerprint) :
    Option (FileRecord × Option Change) :=
  match r.last with
  | none => some ({ r with last := some seen, handedOut := r.handed chunk? seen.size }, none)
  | some last => do
    let follows ← seen.head.follows? last.head
    let size := r.reported chunk? seen.size !follows
    if seen.modified = last.modified ∧ size = last.size ∧ follows = true ∧ r.revisit = false then
      some (⟨some last, r.handed chunk? size, false⟩, none)
    else
      some (⟨some { seen with size := size }, r.handed chunk? size, false⟩,
        some ⟨!follows, size, last.size⟩)

theorem look?_eq {r : FileRecord} {seen : Fingerprint} (chunk? : Option Nat)
    (hseen : seen.head.Packed) (hlast : ∀ last, r.last = some last → last.head.Packed) :
    r.look? chunk? seen = some (r.look chunk? seen) := by
  cases h : r.last with
  | none => simp only [look?, h, look_first h]
  | some last =>
    simp only [look?, h, Head.follows?_eq hseen (hlast last h), look_later h, Option.bind_eq_bind,
      Option.bind_some, Bool.not_eq_false']
    split <;> rfl

end FileRecord

/-! ## Plans and reads -/

namespace Limits

variable {l : Limits} {f : LineFormat} {c : Change} {w : Window} {bytes : Bytes} {width offset : Nat}

/-- The end of the unread content. What is given up before it is said in a message. -/
def tailWindow? (l : Limits) (width offset size : Nat) : Option Window := do
  let rest ← Word.sub? size l.maxRead
  let units ← Word.divUp? rest width
  let position ← Word.mul? units width
  let _ ← Word.sub? position offset
  let length ← Word.sub? size position
  some ⟨position, length, true, false⟩

def plan? (l : Limits) (width : Nat) (offset? : Option Nat) (c : Change) : Option (Nat × Plan) :=
  let offset := l.resume offset? c
  if c.replaced then some (offset, .skip .revisit)
  else if c.size < l.minFile then some (offset, .skip .settled)
  else do
    let unread ← Word.sub? c.size offset
    if unread = 0 ∨ unread < l.minRead then some (offset, .skip .settled)
    else if l.patience < unread then do
      let w ← l.tailWindow? width offset c.size
      some (offset, .read w)
    else if l.maxRead < unread then some (offset, .read ⟨offset, l.maxRead, false, true⟩)
    else some (offset, .read ⟨offset, unread, false, false⟩)

def body? (f : LineFormat) (w : Window) (bytes : Bytes) : Option Bytes :=
  if w.position = 0 then bytes.from? (f.encoding.markLength bytes) else some bytes

def harvest? (top : Nat) (l : Limits) (f : LineFormat) (offset : Nat) (w : Window)
    (bytes : Bytes) : Option Harvest := do
  let jumped := if w.midLine then w.position - offset else 0
  let stop ← Word.add? w.position bytes.length
  let body ← body? f w bytes
  let cut ← f.split? top body w.midLine
  let overlong := l.isOverlong bytes body cut
  let lines := if overlong then cut.lines ++ [(f.encoding.decode body).text] else cut.lines
  let offset ← Word.sub? stop (if overlong then 0 else cut.remainder)
  let skipped ← Word.add? jumped cut.dropped
  some ⟨lines, skipped, offset, if w.backlog ∨ bytes.length < w.length then .revisit else .settled⟩

theorem divUp?_eq {n : Nat} (hw : 0 < width) (hn : n < Word.limit) :
    Word.divUp? n width = some ((n + width - 1) / width) := by
  have hn' := Nat.div_add_mod n width
  have hlt := Nat.mod_lt n hw
  rw [Word.divUp?, if_neg (by omega)]
  by_cases hr : n % width = 0
  · have hrest : (width - 1) / width = 0 := Nat.div_eq_of_lt (by omega)
    rw [if_pos hr, show n + width - 1 = width * (n / width) + (width - 1) by omega,
      Nat.mul_add_div hw, hrest, Nat.add_zero]
  · have hrest : (n % width - 1) / width = 0 := Nat.div_eq_of_lt (by omega)
    have hsum : n + width - 1 = width * (n / width + 1) + (n % width - 1) := by
      rw [Nat.mul_succ]
      omega
    have hle : n / width + 1 ≤ Word.limit := by
      have := Nat.div_le_self n width
      omega
    rw [if_neg hr, Word.add?_eq hle, hsum, Nat.mul_add_div hw, hrest, Nat.add_zero]

theorem tailWindow?_eq {size : Nat} (hpos : 0 < l.maxRead) (hw : 0 < width)
    (hM : width ≤ l.maxRead + 1) (hs : size ≤ Word.limit) (hunread : l.patience < size - offset) :
    l.tailWindow? width offset size = some (l.tailWindow width size) := by
  have hpatience : l.patience = min (l.maxRead * 2) Word.limit := rfl
  obtain ⟨hlow, hhigh⟩ := alignUp_bounds (n := size - l.maxRead) hw
  have hposition : (size - l.maxRead + width - 1) / width * width =
      alignUp width (size - l.maxRead) := rfl
  rw [tailWindow?, Word.sub?_eq (by omega)]
  simp only [Option.bind_eq_bind, Option.bind_some]
  rw [divUp?_eq hw (by omega), Option.bind_some, Word.mul?_eq (by omega), Option.bind_some,
    hposition, Word.sub?_eq (by omega), Option.bind_some, Word.sub?_eq (by omega), Option.bind_some]
  rfl

theorem plan?_eq (hpos : 0 < l.maxRead) (hw : 0 < width) (hM : width ≤ l.maxRead + 1)
    (hs : c.size ≤ Word.limit) (offset? : Option Nat) :
    l.plan? width offset? c = some (l.plan width offset? c) := by
  have hresume := l.resume_le offset? c
  unfold plan? plan
  by_cases hreplaced : c.replaced = true
  · simp only [hreplaced, if_true]
  · by_cases hfile : c.size < l.minFile
    · simp only [hreplaced, hfile, if_true, true_or, Bool.false_eq_true, if_false]
    · simp only [hreplaced, hfile, false_or, Bool.false_eq_true, if_false, Word.sub?_eq hresume,
        Option.bind_eq_bind, Option.bind_some]
      split
      · rfl
      · rw [window]
        split
        · rename_i hpatience
          rw [tailWindow?_eq hpos hw hM hs hpatience]
          rfl
        · split <;> rfl

theorem body?_eq (f : LineFormat) (w : Window) (bytes : Bytes) :
    body? f w bytes = some (body f w bytes) := by
  unfold body? body
  split
  · exact Bytes.from?_eq (f.encoding.markLength_le bytes)
  · rfl

theorem harvest?_eq {top : Nat} (hd : f.delimiter ≠ [])
    (htop : bytes.length + f.delimiter.length < top) (hw : w.position + bytes.length ≤ Word.limit)
    (l : Limits) (offset : Nat) :
    l.harvest? top f offset w bytes = some (l.harvest f offset w bytes) := by
  have hle := (body_suffix f w bytes).length_le
  have hbody : (body f w bytes).length + f.delimiter.length < top := by omega
  have hsplit := LineFormat.split?_eq hd hbody w.midLine
  have hdropped := f.split_dropped_le (body f w bytes) w.midLine
  have hremainder := f.split_remainder_le (body f w bytes) w.midLine
  rw [harvest?, Word.add?_eq hw, body?_eq]
  simp only [Option.bind_eq_bind, Option.bind_some]
  rw [hsplit, Option.bind_some, Word.sub?_eq (by split <;> omega), Option.bind_some,
    Word.add?_eq (by split <;> omega), Option.bind_some]
  rfl

end Limits

/-! ## One file -/

namespace Track

def see? (r : Rules) (t : Track) (seen : Fingerprint) : Option (Track × News) := do
  match ← t.record.look? r.chunk? seen with
  | (record, none) => some ({ t with record := record }, .quiet)
  | (record, some c) => do
    match ← r.limits.plan? r.format.width t.offset? c with
    | (offset, .skip v) =>
      some (⟨record.conclude v, some offset, none⟩, .planned c offset (.skip v))
    | (offset, .read w) => some (⟨record, some offset, some w⟩, .planned c offset (.read w))

def fetch? (top : Nat) (r : Rules) (t : Track) (w : Window) :
    Except ReadFailure Bytes → Option (Track × News)
  | .error _ => some (⟨t.record.conclude .revisit, t.offset?, none⟩, .failed w)
  | .ok bytes =>
    match t.offset? with
    | none => some (⟨t.record, none, none⟩, .quiet)
    | some o => do
      let h ← r.limits.harvest? top r.format o w bytes
      some (⟨t.record.conclude h.verdict, some h.offset, none⟩,
        .taken w bytes h.lines h.skipped h.offset)

def step? (top : Nat) (r : Rules) (t : Track) (m : Moment) : Option (Track × News) :=
  match m, t.reading? with
  | .probed (.seen seen), none => t.see? r seen
  | .fetched answer, some w => t.fetch? top r w (answer w)
  | _, _ => some (t, .quiet)

def run? (top : Nat) (r : Rules) (t : Track) : List Moment → Option (Track × List News)
  | [] => some (t, [])
  | m :: ms => do
    let (t, news) ← t.step? top r m
    let (t, more) ← t.run? top r ms
    some (t, news :: more)

end Track

/-- What can come from outside: sizes that fit 64 bits, heads of some bytes, and answers that are no
longer than asked for. A buffer and a delimiter fit into memory together. -/
def Moment.InRange (top : Nat) (f : LineFormat) : Moment → Prop
  | .probed (.seen seen) => seen.size ≤ Word.limit ∧ seen.head.Packed
  | .probed _ => True
  | .fetched answer => ∀ w bytes, answer w = .ok bytes →
    bytes.length ≤ w.length ∧ bytes.length + f.delimiter.length < top

structure Track.InRange (t : Track) : Prop where
  packed : ∀ last, t.record.last = some last → last.head.Packed
  size_le : ∀ last, t.record.last = some last → last.size ≤ Word.limit
  handed_le : ∀ n, t.record.handedOut = some n → n ≤ Word.limit
  offset_le : ∀ o, t.offset? = some o → o ≤ Word.limit
  window_le : ∀ w, t.reading? = some w → w.position + w.length ≤ Word.limit

namespace Track.InRange

variable {top : Nat} {r : Rules} {t t' : Track} {m : Moment} {n : News} {record : FileRecord}
  {seen : Fingerprint} {c : Change} {o : Nat} {w : Window}

theorem fresh : Track.fresh.InRange where
  packed := fun _ h => by cases h
  size_le := fun _ h => by cases h
  handed_le := fun _ h => by cases h
  offset_le := fun _ h => by cases h
  window_le := fun _ h => by cases h

theorem handed (h : t.InRange) {size k : Nat} (hsize : size ≤ Word.limit)
    (hk : t.record.handed r.chunk? size = some k) : k ≤ Word.limit := by
  unfold FileRecord.handed at hk
  split at hk
  · cases hk
    exact hsize
  · exact h.handed_le k hk

theorem change_le (hseen : seen.size ≤ Word.limit)
    (hlook : t.record.look r.chunk? seen = (record, some c)) : c.size ≤ Word.limit := by
  obtain ⟨-, -, -, hsize, -, -⟩ := FileRecord.look_change hlook
  rw [hsize]
  exact Nat.le_trans (FileRecord.reported_le _ _ _ _) hseen

theorem unchanged (h : t.InRange) (hm : (Moment.probed (.seen seen)).InRange top r.format)
    (hlook : t.record.look r.chunk? seen = (record, none)) :
    Track.InRange ⟨record, t.offset?, none⟩ := by
  obtain ⟨hsize, hpacked⟩ := hm
  obtain ⟨-, rfl⟩ | ⟨last, hlast, -, -, -, rfl⟩ := FileRecord.look_quiet hlook
  · exact
      { packed := fun last hl => Option.some.inj hl ▸ hpacked
        size_le := fun last hl => Option.some.inj hl ▸ hsize
        handed_le := fun k hk => h.handed hsize hk
        offset_le := h.offset_le
        window_le := fun _ hw => by cases hw }
  · exact
      { packed := fun last' hl => Option.some.inj hl ▸ h.packed last hlast
        size_le := fun last' hl => Option.some.inj hl ▸ h.size_le last hlast
        handed_le := fun k hk => h.handed (h.size_le last hlast) hk
        offset_le := h.offset_le
        window_le := fun _ hw => by cases hw }

theorem planned (h : t.InRange) (hm : (Moment.probed (.seen seen)).InRange top r.format)
    (hlook : t.record.look r.chunk? seen = (record, some c)) (v : Verdict)
    (ho : o ≤ c.size) {reading? : Option Window}
    (hw : ∀ w, reading? = some w → w.position + w.length ≤ c.size) :
    Track.InRange ⟨record.conclude v, some o, reading?⟩ := by
  obtain ⟨hsize, hpacked⟩ := hm
  have hc := change_le hsize hlook
  obtain ⟨-, -, -, -, -, rfl⟩ := FileRecord.look_change hlook
  exact
    { packed := fun last hl => by
        rw [FileRecord.conclude_last] at hl
        exact Option.some.inj hl ▸ hpacked
      size_le := fun last hl => by
        rw [FileRecord.conclude_last] at hl
        exact Option.some.inj hl ▸ hc
      handed_le := fun k hk => by
        rw [FileRecord.conclude_handedOut] at hk
        exact h.handed hc hk
      offset_le := fun o' ho' => Option.some.inj ho' ▸ Nat.le_trans ho hc
      window_le := fun w hr => Nat.le_trans (hw w hr) hc }

theorem concluded (h : t.InRange) (v : Verdict) {offset? : Option Nat}
    (ho : ∀ o, offset? = some o → o ≤ Word.limit) :
    Track.InRange ⟨t.record.conclude v, offset?, none⟩ where
  packed := fun last hl => h.packed last (by rwa [FileRecord.conclude_last] at hl)
  size_le := fun last hl => h.size_le last (by rwa [FileRecord.conclude_last] at hl)
  handed_le := fun k hk => h.handed_le k (by rwa [FileRecord.conclude_handedOut] at hk)
  offset_le := ho
  window_le := fun _ hw => by cases hw

theorem turn (h : t.InRange) (hm : m.InRange top r.format) (hturn : Turn r t m t' n) :
    t'.InRange := by
  cases hturn with
  | ignored => exact h
  | unchanged _ hlook => exact h.unchanged hm hlook
  | @skipped seen record c o v _ hlook hplan =>
    obtain ⟨rfl, -⟩ := Limits.plan_skip hplan
    exact h.planned hm hlook v (r.limits.resume_le _ _) fun w hw => by cases hw
  | @started seen record c o w _ hlook hplan =>
    obtain ⟨rfl, -, -, hpos, -, rfl⟩ := Limits.plan_read hplan
    refine h.planned hm hlook .settled (r.limits.resume_le _ _) fun w hw => ?_
    rw [← Option.some.inj hw]
    exact (Limits.window_end r.format.encoding.width_pos r.width_le (by omega)).1
  | failed _ _ => exact h.concluded .revisit h.offset_le
  | lost _ _ _ => exact h.concluded .settled fun o ho => by cases ho
  | @taken answer w bytes o y hreading hanswer _ hy =>
    refine h.concluded y.verdict fun o' ho' => ?_
    have hwindow := h.window_le w hreading
    have hbytes := (hm w bytes hanswer).1
    have hoffset := (r.limits.harvest_offset r.delimiter_ne o w bytes).2
    rw [hy, Option.some.inj ho'] at hoffset
    omega

theorem see?_eq (h : t.InRange) (hm : (Moment.probed (.seen seen)).InRange top r.format) :
    t.see? r seen = some (t.see r seen) := by
  obtain ⟨hsize, hpacked⟩ := hm
  unfold see? see
  rw [FileRecord.look?_eq _ hpacked h.packed]
  rcases hlook : t.record.look r.chunk? seen with ⟨record, _ | c⟩
  · rfl
  · have hplan : r.limits.plan? r.format.width t.offset? c =
        some (r.limits.plan r.format.width t.offset? c) :=
      Limits.plan?_eq r.maxRead_pos r.format.encoding.width_pos r.width_le (change_le hsize hlook) _
    simp only [Option.bind_eq_bind, Option.bind_some, hplan]
    rcases r.limits.plan r.format.width t.offset? c with ⟨o, v | w⟩ <;> rfl

theorem fetch?_eq (h : t.InRange) {answer : Window → Except ReadFailure Bytes}
    (hm : (Moment.fetched answer).InRange top r.format) (hreading : t.reading? = some w) :
    t.fetch? top r w (answer w) = some (t.fetch r w (answer w)) := by
  cases hanswer : answer w with
  | error e => rfl
  | ok bytes =>
    obtain ⟨hlen, htop⟩ := hm w bytes hanswer
    have hwindow := h.window_le w hreading
    cases ho : t.offset? with
    | none => simp only [fetch?, fetch, ho]
    | some o =>
      simp only [fetch?, fetch, ho, Limits.harvest?_eq r.delimiter_ne htop
        (Nat.le_trans (Nat.add_le_add_left hlen _) hwindow) r.limits o, Option.bind_eq_bind,
        Option.bind_some]

theorem step?_eq (h : t.InRange) (hm : m.InRange top r.format) :
    t.step? top r m = some (t.step r m) := by
  cases hreading : t.reading? with
  | none =>
    cases m with
    | probed s =>
      cases s with
      | seen seen =>
        simp only [step?, step, hreading]
        exact h.see?_eq hm
      | _ => simp only [step?, step]
    | fetched answer => simp only [step?, step, hreading]
  | some w =>
    cases m with
    | probed s => simp only [step?, step, hreading]
    | fetched answer =>
      simp only [step?, step, hreading]
      exact h.fetch?_eq hm hreading

/-- No operation of a run fails, and its end is in range. -/
theorem run?_eq (h : t.InRange) {ms : List Moment} (hms : ∀ m ∈ ms, m.InRange top r.format) :
    t.run? top r ms = some (t.run r ms) ∧ (t.run r ms).1.InRange := by
  induction ms generalizing t with
  | nil => exact ⟨rfl, h⟩
  | cons m ms ih =>
    have hm := hms m List.mem_cons_self
    obtain ⟨hrun, hrange⟩ := ih (h.turn hm (t.step_turn r m)) fun m' hm' =>
      hms m' (List.mem_cons_of_mem _ hm')
    refine ⟨?_, hrange⟩
    simp only [run?, h.step?_eq hm, Option.bind_eq_bind, Option.bind_some, hrun]
    rfl

end Track.InRange

/-- Whatever sizes a file is seen with, however it grows, shrinks or is replaced, and whatever bytes
are read of it: no operation on its sizes and offsets leaves 64 bits, no index lies outside its
buffer, and no loop goes on for ever. A delimiter has at least one byte, so that cutting a buffer
into lines ends whatever the buffer holds. -/
theorem arithmetic_in_range {s : Settings} {f : LineFormat} {codecs : EastAsian → Codec}
    (hs : s.fault? = none) (hf : s.lineFormat? codecs = some f) {p : Path} (hp : p ∈ s.paths)
    {top : Nat} {hap : List Happening} (hrange : ∀ m ∈ Happening.of p hap, m.InRange top f) :
    (∃ t, ((Tailing.start s f).run hap).1.track? p = some t ∧ t.InRange ∧
      Track.fresh.run? top (s.rules f hs hf) (Happening.of p hap) =
        some (t, News.of p ((Tailing.start s f).run hap).2)) ∧
    f.delimiter ≠ [] ∧
    ∀ (bytes : Bytes) (midLine : Bool), bytes.length + f.delimiter.length < top →
      f.split? top bytes midLine = some (f.split bytes midLine) := by
  have hd : f.delimiter ≠ [] := (s.rules f hs hf).delimiter_ne
  obtain ⟨ht, hnews⟩ := Tailing.run_track (Tailing.start_follows hs hf)
    (Tailing.track?_start s f hp) hap
  obtain ⟨hrun, hin⟩ := Track.InRange.fresh.run?_eq (r := s.rules f hs hf) hrange
  refine ⟨⟨_, ht, hin, ?_⟩, hd, fun bytes midLine htop => LineFormat.split?_eq hd htop midLine⟩
  rw [hrun, hnews]

/-- A file of two-byte code units that grows up to the largest size there is: what is read of it is
its last five bytes, which start with a code unit. -/
theorem arithmetic_in_range_at_limit :
    let p : Path := .ofString "/a"
    let s : Settings :=
      { Settings.default with paths := [p], maxReadSize := 6, encodingLabel := "utf-16le" }
    let tail : Bytes := [0x0A, 0, 0x61, 0, 0x0A]
    let hap := Happening.alone p
      [.probed (.seen ⟨none, 3, .ofBytes []⟩), .probed (.seen ⟨none, Word.limit, .ofBytes []⟩),
        .fetched fun w => .ok (tail.take w.length)]
    ∃ t : Track, ((Tailing.start s (.ofText (.utf16 .little) "\n")).run hap).1.track? p = some t ∧
      t.InRange ∧ t.offset? = some (Word.limit - 3) := by
  intro p s tail hap
  have hrange : ∀ m ∈ Happening.of p hap, m.InRange Word.limit (.ofText (.utf16 .little) "\n") := by
    rw [Happening.of_alone]
    simp only [List.mem_cons, List.not_mem_nil, or_false]
    rintro m (rfl | rfl | rfl)
    · exact ⟨by decide, _, rfl⟩
    · exact ⟨by decide, _, rfl⟩
    · intro w bytes hbytes
      cases hbytes
      have hdelimiter : (LineFormat.ofText (.utf16 .little) "\n").delimiter.length = 2 := by decide +kernel
      have htail : (tail.take w.length).length ≤ 5 := List.length_take_le' _ _
      rw [hdelimiter]
      exact ⟨List.length_take_le _ _, Nat.lt_of_le_of_lt (Nat.add_le_add_right htail 2) (by decide)⟩
  have hf : s.lineFormat? = some (.ofText (.utf16 .little) "\n") :=
    Settings.lineFormat?_of_encoding (Encoding.ofLabel?_utf16le _)
  obtain ⟨⟨t, ht, hin, -⟩, -⟩ := arithmetic_in_range (by decide +kernel) hf
    (List.mem_singleton.2 rfl) hrange
  refine ⟨t, ht, hin, ?_⟩
  have hoffset : (((Tailing.start s (.ofText (.utf16 .little) "\n")).run hap).1.track? p).map
      (·.offset?) = some (some (Word.limit - 3)) := by
    decide +kernel
  rw [ht] at hoffset
  exact Option.some.inj hoffset

end FileTail
