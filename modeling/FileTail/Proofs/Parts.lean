import FileTail.Proofs.Advance
import FileTail.Proofs.Delivery
import FileTail.Proofs.Harvest

/-!
# FileTail.Proofs.Parts

Lines of any length. A line that is longer than a full read is given in parts, each of them a full
read or what follows the last one. The parts of a line make up the line: what was given of a line
before its end is the start of it, and the first delimiter in the next read closes it, because no
delimiter began before. That fails where a full read ends within a delimiter of several bytes, for
then the delimiter is taken for a part of a line.

* `LineFormat.Parted`: the parts given of closed lines, and of the line that reading stands in.
* `Parted.extend`, `Parted.close`: a read of an overlong line, and one in which the line ends.
* `parts_make_lines`: the whole run, as long as no full read ends within a delimiter.
* `delimiter_cut_in_two`: a full read can end within a delimiter, even behind a short line.
-/

namespace FileTail
namespace LineFormat

/-- The lines from the anchor on are given in parts up to `offset`: `closed` are the parts of each
line that ends before `start`, and `current` those of the line that starts there. -/
structure Parted (f : LineFormat) (full : Bytes) (anchor offset start : Nat)
    (closed : List (List Bytes)) (current : List Bytes) : Prop where
  anchor_le : anchor ≤ start
  start_le : start ≤ offset
  lines : f.Rows (full.between anchor start) (closed.map List.flatten)
  current_eq : current.flatten = full.between start offset
  /-- All parts of `current` are of one line. -/
  unclosed : ∀ i, start ≤ i → i < offset → ¬ f.OccursAt full i
  ne_nil : ∀ part ∈ closed.flatten ++ current, part ≠ []

/-- `lines` are the parts of the lines between the anchor and `offset`, one after the other. -/
def GivenInParts (f : LineFormat) (full : Bytes) (anchor offset : Nat) (lines : List String) :
    Prop :=
  ∃ start closed current, f.Parted full anchor offset start closed current ∧
    lines = (closed.flatten ++ current).map fun part => (f.encoding.decode part).text

/-- The parts of a line that is given as a whole. An empty line is not given. -/
def whole (segment : Bytes) : List Bytes := if segment.isEmpty then [] else [segment]

theorem flatten_whole (segment : Bytes) : (whole segment).flatten = segment := by
  cases segment with
  | nil => rfl
  | cons b r => exact List.append_nil _

theorem map_flatten_whole (segments : List Bytes) :
    (segments.map whole).map List.flatten = segments := by
  simp [Function.comp_def, flatten_whole]

theorem ne_nil_of_mem_whole {segment part : Bytes} (h : part ∈ whole segment) : part ≠ [] := by
  cases segment with
  | nil => cases h
  | cons b r =>
    rw [List.mem_singleton.1 h]
    exact List.cons_ne_nil b r

theorem texts_whole (f : LineFormat) (segments : List Bytes) :
    f.texts segments =
      (segments.map whole).flatten.map fun part => (f.encoding.decode part).text := by
  induction segments with
  | nil => rfl
  | cons segment segments ih =>
    rw [List.map_cons, List.flatten_cons, List.map_append, ← ih]
    cases segment <;> rfl

namespace Parted

variable {f : LineFormat} {full : Bytes} {anchor o start : Nat} {closed : List (List Bytes)}
  {current : List Bytes}

/-- Before anything is given. -/
theorem initial (f : LineFormat) (full : Bytes) (anchor : Nat) :
    f.Parted full anchor anchor anchor [] [] where
  anchor_le := Nat.le_refl _
  start_le := Nat.le_refl _
  lines := by
    rw [Bytes.between_of_le full (Nat.le_refl _)]
    exact .nil
  current_eq := by
    rw [Bytes.between_of_le full (Nat.le_refl _)]
    rfl
  unclosed := fun i hi hio => by omega
  ne_nil := fun part hpart => by cases hpart

/-- A part is added to the line that reading stands in. -/
theorem extend (h : f.Parted full anchor o start closed current) {o' : Nat} (ho : o < o')
    (ho' : o' ≤ full.length) (hno : ∀ i, o ≤ i → i < o' → ¬ f.OccursAt full i) :
    f.Parted full anchor o' start closed (current ++ [full.between o o']) where
  anchor_le := h.anchor_le
  start_le := Nat.le_trans h.start_le (Nat.le_of_lt ho)
  lines := h.lines
  current_eq := by
    rw [List.flatten_append, h.current_eq, List.flatten_singleton,
      Bytes.between_append_between full h.start_le (Nat.le_of_lt ho)]
  unclosed := fun i hi hio => by
    rcases Nat.lt_or_ge i o with hlt | hge
    · exact h.unclosed i hi hlt
    · exact hno i hge hio
  ne_nil := fun part hpart => by
    rw [← List.append_assoc, List.mem_append, List.mem_singleton] at hpart
    rcases hpart with hpart | rfl
    · exact h.ne_nil part hpart
    · refine List.length_pos_iff.1 ?_
      rw [Bytes.length_between full ho']
      omega

/-- The first delimiter of what follows closes the line that reading stands in. -/
theorem firstAt (h : f.Parted full anchor o start closed current) (hunit : f.width = 1)
    (hd : f.delimiter ≠ []) {segment : Bytes}
    (hsegment : segment ++ f.delimiter = full.between o (o + segment.length + f.delimiter.length))
    (hbound : o + segment.length + f.delimiter.length ≤ full.length)
    (hfirst : f.FirstAt (segment ++ f.delimiter) segment.length) :
    f.FirstAt (current.flatten ++ segment ++ f.delimiter) (current.flatten ++ segment).length := by
  have hmod := mod_width hunit
  have hstart := h.start_le
  have hline : current.flatten ++ segment ++ f.delimiter =
      full.between start (o + segment.length + f.delimiter.length) := by
    rw [List.append_assoc, hsegment, h.current_eq,
      Bytes.between_append_between full hstart (by omega)]
  have hlength := congrArg List.length h.current_eq
  rw [Bytes.length_between full (by omega)] at hlength
  refine ⟨⟨hmod _, [], by rw [List.append_nil, List.drop_left]⟩, fun j hj hocc => ?_⟩
  rw [hline, occursAt_between hd full (hmod _)] at hocc
  rw [List.length_append, hlength] at hj
  rcases Nat.lt_or_ge (start + j) o with hlt | hge
  · exact h.unclosed _ (Nat.le_add_right _ _) hlt hocc.1
  · refine hfirst.2 (start + j - o) (by omega) ?_
    rw [hsegment, occursAt_between hd full (hmod _), Nat.add_sub_cancel' hge]
    exact ⟨hocc.1, by omega⟩

/-- The line that reading stands in is closed, and so are the lines that follow. -/
theorem close (h : f.Parted full anchor o start closed current) (hunit : f.width = 1)
    (hd : f.delimiter ≠ []) {o' : Nat} (ho : o ≤ o') (ho' : o' ≤ full.length) {segment : Bytes}
    {segments : List Bytes} (hrows : f.Rows (full.between o o') (segment :: segments)) :
    f.Parted full anchor o' o' (closed ++ (current ++ whole segment) :: segments.map whole) [] := by
  have hanchor := h.anchor_le
  have hstart := h.start_le
  generalize hrow : full.between o o' = row at hrows
  cases hrows with
  | @cons _ rest _ hfirst hrest =>
    have hlength := congrArg List.length hrow
    simp only [Bytes.length_between full ho', List.length_append] at hlength
    have htake := full.take_between (i := o) (j := o') (segment ++ f.delimiter).length
      (by rw [List.length_append]; omega)
    rw [hrow, List.take_left, List.length_append, ← Nat.add_assoc] at htake
    have hclosed := h.lines.append
      (.cons (h.firstAt hunit hd htake (by omega) hfirst) hrest)
    have hbytes : full.between anchor start ++
        (current.flatten ++ segment ++ f.delimiter ++ rest) = full.between anchor o' := by
      rw [List.append_assoc current.flatten, List.append_assoc current.flatten, ← hrow,
        h.current_eq, Bytes.between_append_between full hstart ho,
        Bytes.between_append_between full hanchor (by omega)]
    rw [hbytes] at hclosed
    exact
      { anchor_le := by omega
        start_le := Nat.le_refl _
        lines := by
          rw [List.map_append, List.map_cons, List.flatten_append, flatten_whole, map_flatten_whole]
          exact hclosed
        current_eq := by rw [Bytes.between_of_le full (Nat.le_refl _)]; rfl
        unclosed := fun i hi hio => by omega
        ne_nil := fun part hpart => by
          have hold := h.ne_nil part
          simp only [List.flatten_append, List.flatten_cons, List.append_nil, List.mem_append,
            List.mem_flatten, List.mem_map] at hpart hold
          rcases hpart with hpart | (hpart | hpart) | ⟨_, ⟨_, -, rfl⟩, hpart⟩
          · exact hold (.inl hpart)
          · exact hold (.inr hpart)
          · exact ne_nil_of_mem_whole hpart
          · exact ne_nil_of_mem_whole hpart }

end Parted
end LineFormat

/-- A read that is given as a part of an overlong line does not end within a delimiter. -/
def Limits.CutsNoDelimiter (l : Limits) (f : LineFormat) (full : Bytes) (w : Window)
    (bytes : Bytes) : Prop :=
  l.overlong f w bytes = true → ∀ i < w.position + bytes.length, w.position ≤ i →
    w.position + bytes.length < i + f.delimiter.length → ¬ f.OccursAt full i

instance (l : Limits) (f : LineFormat) (full : Bytes) (w : Window) (bytes : Bytes) :
    Decidable (l.CutsNoDelimiter f full w bytes) :=
  inferInstanceAs (Decidable (_ → ∀ i < w.position + bytes.length, _ → _ → ¬ (_ ∧ _)))

/-- A delimiter of a single byte is never cut. -/
theorem Limits.cutsNoDelimiter_of_length_eq_one (l : Limits) {f : LineFormat}
    (hsingle : f.delimiter.length = 1) (full : Bytes) (w : Window) (bytes : Bytes) :
    l.CutsNoDelimiter f full w bytes := by
  intro _ i hi _ hend
  omega

def News.CutsNoDelimiter (l : Limits) (f : LineFormat) (full : Bytes) : News → Prop
  | taken w bytes _ _ _ => l.CutsNoDelimiter f full w bytes
  | _ => True

instance (l : Limits) (f : LineFormat) (full : Bytes) :
    DecidablePred (News.CutsNoDelimiter l f full)
  | .taken w bytes _ _ _ => inferInstanceAs (Decidable (l.CutsNoDelimiter f full w bytes))
  | .quiet | .planned _ _ _ | .failed _ => inferInstanceAs (Decidable True)

namespace LineFormat.GivenInParts

variable {r : Rules} {full bytes : Bytes} {anchor o size : Nat} {w : Window} {lines : List String}

/-- A read that is given as a part of an overlong line. -/
theorem overlong (h : r.format.GivenInParts full anchor o lines) (hunit : r.format.width = 1)
    (hbody : Limits.body r.format w bytes = bytes) (hposition : w.position = o)
    (hgiven : bytes <+: full.drop w.position) (hend : o + bytes.length ≤ full.length)
    (hover : r.limits.overlong r.format w bytes = true)
    (hcut : r.limits.CutsNoDelimiter r.format full w bytes) :
    r.format.GivenInParts full anchor (r.limits.harvest r.format o w bytes).offset
      (lines ++ (r.limits.harvest r.format o w bytes).lines) := by
  obtain ⟨start, closed, current, hparted, rfl⟩ := h
  have hd := r.delimiter_ne
  have hclean := hcut hover
  obtain ⟨-, hne, hno, -, hnone⟩ := Limits.overlong_cut hd hover
  rw [hbody] at hne hno
  have hpos := List.length_pos_iff.2 hne
  have hbytes := Bytes.eq_between_of_prefix hgiven
  rw [hposition] at hbytes hclean
  have hlines : (r.limits.harvest r.format o w bytes).lines =
      [(r.format.encoding.decode bytes).text] := by
    rw [Limits.harvest_eq, hover, hnone, hbody]
    rfl
  have hoffset : (r.limits.harvest r.format o w bytes).offset = o + bytes.length := by
    rw [Limits.harvest_eq, hover, hposition]
    rfl
  rw [hlines, hoffset]
  refine ⟨start, closed, current ++ [bytes], ?_, by simp⟩
  conv => arg 7; rw [hbytes]
  refine hparted.extend (by omega) hend fun i hi hio hocc => ?_
  -- a delimiter that begins in the read ends behind it, because the read holds none
  rcases Nat.lt_or_ge (o + bytes.length) (i + r.format.delimiter.length) with hlt | hge
  · exact hclean i hio hi hlt hocc
  · refine hno ⟨i - o, ?_⟩
    rw [hbytes, occursAt_between hd full (mod_width hunit _), Nat.add_sub_cancel' hi]
    exact ⟨hocc, by omega⟩

/-- A read of rows, or of bytes that are left to the next read. -/
theorem rows (h : r.format.GivenInParts full anchor o lines) (hunit : r.format.width = 1) {o' : Nat}
    (ho : o ≤ o') (ho' : o' ≤ full.length) {segments : List Bytes}
    (hrows : r.format.Rows (full.between o o') segments) :
    r.format.GivenInParts full anchor o' (lines ++ r.format.texts segments) := by
  obtain ⟨start, closed, current, hparted, rfl⟩ := h
  cases segments with
  | nil =>
    have hlength := Bytes.length_between full (i := o) ho'
    generalize full.between o o' = row at hrows hlength
    cases hrows
    rw [List.length_nil] at hlength
    rw [show o' = o by omega]
    exact ⟨start, closed, current, hparted, List.append_nil _⟩
  | cons segment segments =>
    refine ⟨_, _, _, hparted.close hunit r.delimiter_ne ho ho' hrows, ?_⟩
    rw [texts_whole]
    simp

/-- Each read goes on with the parts that follow. -/
theorem taken (h : r.format.GivenInParts full anchor o lines) (hunit : r.format.width = 1)
    (hmark : r.format.encoding.markLength full = 0) (hlim : full.length ≤ Word.limit)
    (hhaul : Haul r full o size w bytes) (hslow : size - o ≤ 2 * r.limits.maxRead)
    (hcut : r.limits.CutsNoDelimiter r.format full w bytes) :
    r.format.GivenInParts full anchor (r.limits.harvest r.format o w bytes).offset
      (lines ++ (r.limits.harvest r.format o w bytes).lines) := by
  have hsize := hhaul.size_le
  have hend := hhaul.end_le
  have hlength := hhaul.length_le
  have hbody := Limits.body_eq_of_markLength hmark hhaul.given
  obtain ⟨hposition, hmid⟩ := hhaul.slow hlim hslow
  cases hover : r.limits.overlong r.format w bytes with
  | true => exact h.overlong hunit hbody hposition hhaul.given (by omega) hover hcut
  | false =>
    obtain ⟨hlow, hhigh⟩ := hhaul.offset_bounds hlim
    obtain ⟨-, hrows⟩ := r.limits.harvest_rows r.delimiter_ne hbody hhaul.given hover o
    have hfragment : Limits.fragment r.format w bytes = 0 := by rw [Limits.fragment, hmid]; rfl
    rw [hposition, hfragment, Nat.add_zero] at hrows
    rw [r.limits.harvest_lines hover]
    exact h.rows hunit hlow (by omega) hrows

end LineFormat.GivenInParts

/-- A growing file without a mark is given line by line, the lines that are longer than a full read
in parts: each text is that of a part of one line, and the parts of a line that has ended make up
the line. -/
theorem parts_make_lines {s : Settings} {f : LineFormat} {codecs : EastAsian → Codec}
    (hs : s.fault? = none) (hf : s.lineFormat? codecs = some f) (hunit : f.width = 1)
    {p : Path} (hp : p ∈ s.paths) {full : Bytes} (hlim : full.length ≤ Word.limit) (hmark : f.encoding.markLength full = 0)
    {hap : List Happening} (hgrow : Along (Shows full) 0 (Happening.of p hap)) {news : List News}
    (hnews : News.of p ((Tailing.start s f).run hap).2 = news)
    (hslow : ∀ unread ∈ news.filterMap News.unread?, unread ≤ 2 * s.maxReadSize)
    (hcut : ∀ n ∈ news, n.CutsNoDelimiter (Limits.ofSettings s) f full) :
    ∃ t, ((Tailing.start s f).run hap).1.track? p = some t ∧
      f.GivenInParts full ((Limits.ofSettings s).anchorOf (Happening.of p hap))
        (t.offset?.getD ((Limits.ofSettings s).anchorOf (Happening.of p hap)))
        (news.flatMap News.lines) := by
  subst hnews
  obtain ⟨t, ht, h⟩ := Tailing.advances hs hf hp hlim hgrow
    (q := fun news o => (∀ unread ∈ news.filterMap News.unread?, unread ≤ 2 * s.maxReadSize) →
      (∀ n ∈ news, n.CutsNoDelimiter (Limits.ofSettings s) f full) →
      f.GivenInParts full ((Limits.ofSettings s).anchorOf (Happening.of p hap)) o
        (news.flatMap News.lines))
    (fun _ _ => ⟨_, [], [], .initial f full _, rfl⟩)
    (by
      intro before o n h hblank hslow hcut
      rw [List.filterMap_append, List.forall_mem_append] at hslow
      rw [List.forall_mem_append] at hcut
      rw [List.flatMap_append, List.flatMap_singleton, hblank.lines, List.append_nil]
      exact h hslow.1 hcut.1)
    (by
      intro before o c w bytes y h hplanned hhaul hy hslow hcut
      rw [List.filterMap_append, List.forall_mem_append] at hslow
      rw [List.forall_mem_append, List.forall_mem_singleton] at hcut
      rw [List.flatMap_append, List.flatMap_singleton, ← hy]
      exact LineFormat.GivenInParts.taken (r := s.rules f hs hf) (h hslow.1 hcut.1) hunit hmark hlim
        hhaul (hslow.1 _ (List.mem_filterMap.2 ⟨_, hplanned, rfl⟩)) hcut.2)
  exact ⟨t, ht, h hslow hcut⟩

/-- A line of six bytes is given in two parts, the second of which is read with its delimiter. -/
theorem parts_make_lines_two_parts :
    let p : Path := .ofString "/a"
    let s : Settings := { Settings.default with paths := [p], maxReadSize := 4, delimiter := "\r\n" }
    let f : LineFormat := .ofText .utf8 "\r\n"
    let full := Utf8.encode "abcdef\r\nhi\r\n"
    let hap := Happening.alone p (Moment.cycles full [0, 8, 12, 12])
    let lines := (News.of p ((Tailing.start s f).run hap).2).flatMap News.lines
    lines = ["abcd", "ef", "hi"] ∧ f.GivenInParts full 0 12 lines := by
  intro p s f full hap lines
  have hf : s.lineFormat? = some f := Settings.lineFormat?_of_encoding (Encoding.ofLabel?_utf8 _)
  have hgrow : Along (Shows full) 0 (Happening.of p hap) :=
    (Happening.along_cycles p (by decide) (by decide +kernel)).mono fun _ _ _ => Serves.shows
  have hanchor : (Limits.ofSettings s).anchorOf (Happening.of p hap) = 0 := by decide +kernel
  obtain ⟨t, ht, h⟩ := parts_make_lines (by decide +kernel) hf rfl (List.mem_singleton.2 rfl)
    (by decide +kernel) (by decide +kernel) hgrow rfl (by decide +kernel) (by decide +kernel)
  have ho : t.offset? = some 12 := Tailing.offset?_of_track? ht (by decide +kernel)
  rw [ho, hanchor] at h
  exact ⟨by decide +kernel, h⟩

/-! ## A delimiter cut in two -/

/-- Where a delimiter begins before the offset and has not ended there, no line is given in parts.
-/
theorem LineFormat.not_givenInParts {f : LineFormat} {full : Bytes} {anchor offset i : Nat}
    {lines : List String} (hno : ¬ f.HasDelimiter (full.between anchor offset)) (hi : anchor ≤ i)
    (hio : i < offset) (hocc : f.OccursAt full i) (hoffset : offset ≤ full.length) :
    ¬ f.GivenInParts full anchor offset lines := by
  rintro ⟨start, closed, current, h, -⟩
  have hall := Bytes.between_append_between full h.anchor_le h.start_le
  obtain ⟨hnil, -⟩ := h.lines.eq_nil (hall.symm ▸ hno)
  have hlength := congrArg List.length hnil
  have hstart := h.start_le
  rw [Bytes.length_between full (by omega), List.length_nil] at hlength
  exact h.unclosed i (by omega) hio hocc

/-- It is not enough that no unread content is given up: a full read of a line that ends within the
delimiter, which has two bytes, is given with the first of them. The line is shorter than a full
read. -/
theorem delimiter_cut_in_two :
    ¬ ∀ (s : Settings) (f : LineFormat) (p : Path) (full : Bytes) (hap : List Happening)
        (news : List News),
      s.fault? = none → s.lineFormat? = some f → f.width = 1 → p ∈ s.paths →
      full.length ≤ Word.limit → f.encoding.markLength full = 0 →
      Along (Shows full) 0 (Happening.of p hap) →
      News.of p ((Tailing.start s f).run hap).2 = news →
      (∀ unread ∈ news.filterMap News.unread?, unread ≤ 2 * s.maxReadSize) →
      ∃ t, ((Tailing.start s f).run hap).1.track? p = some t ∧
        f.GivenInParts full ((Limits.ofSettings s).anchorOf (Happening.of p hap))
          (t.offset?.getD ((Limits.ofSettings s).anchorOf (Happening.of p hap)))
          (news.flatMap News.lines) := by
  intro h
  let p : Path := .ofString "/a"
  let s : Settings := { Settings.default with paths := [p], maxReadSize := 5, delimiter := "\r\n" }
  let f : LineFormat := .ofText .utf8 "\r\n"
  let full := Utf8.encode "abcd\r\nef\r\n"
  let hap := Happening.alone p (Moment.cycles full [0, 10])
  have hgrow : Along (Shows full) 0 (Happening.of p hap) :=
    (Happening.along_cycles p (by decide) (by decide +kernel)).mono fun _ _ _ => Serves.shows
  have hanchor : (Limits.ofSettings s).anchorOf (Happening.of p hap) = 0 := by decide +kernel
  have hf : s.lineFormat? = some f := Settings.lineFormat?_of_encoding (Encoding.ofLabel?_utf8 _)
  obtain ⟨t, ht, hparts⟩ := h s f p full hap _ (by decide +kernel) hf rfl
    (List.mem_singleton.2 rfl) (by decide +kernel) (by decide +kernel) hgrow rfl (by decide +kernel)
  have ho : t.offset? = some 5 := Tailing.offset?_of_track? ht (by decide +kernel)
  rw [ho, hanchor] at hparts
  refine LineFormat.not_givenInParts (i := 4) ?_ (by decide) (by decide) (by decide +kernel)
    (by decide +kernel) hparts
  exact (LineFormat.find?_eq_none_iff (by decide +kernel)).1 (by decide +kernel)

end FileTail
