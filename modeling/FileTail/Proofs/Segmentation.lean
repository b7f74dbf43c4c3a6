import Mathlib.Data.List.DropRight
import FileTail.Proofs.Rows

/-!
# FileTail.Proofs.Segmentation

There is one way to write a buffer as a fragment, segments that are each closed by the first delimiter
from their start on, and a rest without a delimiter. So whatever is found in that form is what
`LineFormat.split` finds.

A buffer may therefore be cut before its end is known. The delimiters found in it stay the first ones
when more bytes come, and its rest is cut again with these bytes behind it, like a buffer of its own.
That holds for a delimiter of which only the start is there, and for one that overlaps itself.

* `Rows.segments_eq`: rows and a rest are found again.
* `decomposes_iff`: `Decomposes` holds of what `split` finds, and of nothing else.
* `segments_append`: cutting goes on with the rest.
* `split_decomposes`: a buffer is cut in one way, and nothing of it is lost.
* `split_resumes`: the lines do not depend on how the bytes were cut into reads.
-/

namespace FileTail

/-- What was found in two parts of a text, the second of which goes on where the first one stopped. -/
def Split.andThen (first next : Split) : Split where
  lines := first.lines ++ next.lines
  malformed := first.malformed + next.malformed
  dropped := first.dropped
  remainder := next.remainder

namespace LineFormat

variable {f : LineFormat} {bytes a row rest : Bytes} {segments : List Bytes} {i : Nat}

/-! ## One way to cut -/

theorem OccursAt.of_append {more : Bytes} (h : f.OccursAt (bytes ++ more) i)
    (hi : i + f.delimiter.length ≤ bytes.length) : f.OccursAt bytes i := by
  refine ⟨h.1, ?_⟩
  have hpre := h.2
  rw [List.drop_append_of_le_length (by omega)] at hpre
  exact List.prefix_of_prefix_length_le hpre (List.prefix_append _ _)
    (by rw [List.length_drop]; omega)

/-- The first delimiter stays the first one, whatever comes behind it. -/
theorem FirstAt.append_right (hd : f.delimiter ≠ []) (h : f.FirstAt bytes i) (more : Bytes) :
    f.FirstAt (bytes ++ more) i := by
  have hbound := h.1.bound hd
  exact ⟨h.1.append_right more (by omega), fun j hj hocc => h.2 j hj (hocc.of_append (by omega))⟩

/-- What goes up to the first delimiter: whole code units, and no delimiter starts in them. -/
theorem firstAt_length_iff {segment : Bytes} :
    f.FirstAt (segment ++ f.delimiter) segment.length ↔
      segment.length % f.width = 0 ∧
        ∀ i < segment.length, ¬ f.OccursAt (segment ++ f.delimiter) i := by
  have hclosed : f.delimiter <+: (segment ++ f.delimiter).drop segment.length := by simp
  rw [FirstAt, OccursAt, and_iff_left hclosed]

theorem rows_iff : f.Rows row segments ↔
    row = segments.flatMap (· ++ f.delimiter) ∧
      ∀ segment ∈ segments, f.FirstAt (segment ++ f.delimiter) segment.length := by
  constructor
  · intro h
    induction h with
    | nil => exact ⟨rfl, fun _ hmem => absurd hmem List.not_mem_nil⟩
    | cons hfirst _ ih =>
      obtain ⟨rfl, hall⟩ := ih
      exact ⟨by rw [List.flatMap_cons], List.forall_mem_cons.2 ⟨hfirst, hall⟩⟩
  · rintro ⟨rfl, hall⟩
    induction segments with
    | nil => exact .nil
    | cons segment segments ih =>
      obtain ⟨hfirst, hall⟩ := List.forall_mem_cons.1 hall
      rw [List.flatMap_cons]
      exact .cons hfirst (ih hall)

/-- A row and a rest without a delimiter are found again. -/
theorem Rows.segments_eq (hd : f.delimiter ≠ []) (h : f.Rows row segments)
    (hno : ¬ f.HasDelimiter rest) : f.segments (row ++ rest) = (segments, rest) := by
  induction h with
  | nil => exact segments_none ((find?_eq_none_iff hd).2 hno)
  | @cons segment more segments hfirst _ ih =>
    rw [List.append_assoc (segment ++ f.delimiter)]
    have hfind : f.find? (segment ++ f.delimiter ++ (more ++ rest)) = some segment.length :=
      (find?_eq_some_iff hd).2 (hfirst.append_right hd _)
    rw [segments_some hfind, ← List.length_append, List.drop_left, ih, List.append_assoc,
      List.take_left]

/-- A buffer written as what is dropped, closed segments and a rest. With `midLine` the buffer starts
within a line. -/
structure Decomposes (f : LineFormat) (bytes : Bytes) (midLine : Bool) (dropped : Bytes)
    (segments : List Bytes) (rest : Bytes) : Prop where
  whole : bytes = dropped ++ segments.flatMap (· ++ f.delimiter) ++ rest
  lineStart : midLine = false → dropped = []
  fragment : midLine = true → ∀ i, f.FirstAt bytes i → dropped = bytes.take (i + f.delimiter.length)
  noLine : midLine = true → ¬ f.HasDelimiter bytes → dropped = bytes ∧ segments = [] ∧ rest = []
  units : ∀ segment ∈ segments, segment.length % f.width = 0
  first : ∀ segment ∈ segments, ∀ i < segment.length, ¬ f.OccursAt (segment ++ f.delimiter) i
  unfinished : ¬ f.HasDelimiter rest

theorem Decomposes.rows {midLine : Bool} {dropped : Bytes}
    (h : f.Decomposes bytes midLine dropped segments rest) :
    f.Rows (segments.flatMap (· ++ f.delimiter)) segments :=
  rows_iff.2 ⟨rfl, fun segment hmem => firstAt_length_iff.2 ⟨h.units segment hmem, h.first segment hmem⟩⟩

theorem Decomposes.dropped_eq (hd : f.delimiter ≠ []) {midLine : Bool} {dropped : Bytes}
    (h : f.Decomposes bytes midLine dropped segments rest) :
    dropped = bytes.take (f.split bytes midLine).dropped := by
  cases midLine with
  | false => simp [split, h.lineStart rfl]
  | true =>
    cases hfind : f.find? bytes with
    | none =>
      simp [split, fragmentLength, hfind, h.noLine rfl ((find?_eq_none_iff hd).1 hfind)]
    | some i =>
      simp [split, fragmentLength, hfind, h.fragment rfl i ((find?_eq_some_iff hd).1 hfind)]

theorem decomposes_iff (hd : f.delimiter ≠ []) {midLine : Bool} {dropped : Bytes} :
    f.Decomposes bytes midLine dropped segments rest ↔
      dropped = bytes.take (f.split bytes midLine).dropped ∧
        f.segments (bytes.drop (f.split bytes midLine).dropped) = (segments, rest) := by
  constructor
  · intro h
    have hdropped := h.dropped_eq hd
    have hbehind : bytes.drop (f.split bytes midLine).dropped =
        segments.flatMap (· ++ f.delimiter) ++ rest := by
      have hwhole := h.whole
      rw [hdropped, List.append_assoc] at hwhole
      conv at hwhole => lhs; rw [← List.take_append_drop (f.split bytes midLine).dropped bytes]
      exact List.append_cancel_left hwhole
    rw [hbehind]
    exact ⟨hdropped, h.rows.segments_eq hd h.unfinished⟩
  · rintro ⟨rfl, hcut⟩
    obtain ⟨row, hrow, hrows, hno⟩ := exists_rows hd (bytes.drop (f.split bytes midLine).dropped)
    rw [hcut] at hrow hrows hno
    obtain ⟨rfl, hfirst⟩ := rows_iff.1 hrows
    exact
      { whole := by rw [List.append_assoc, ← hrow, List.take_append_drop]
        lineStart := by
          rintro rfl
          exact List.take_zero
        fragment := by
          rintro rfl i hi
          simp [split, fragmentLength, (find?_eq_some_iff hd).2 hi]
        noLine := by
          rintro rfl hnone
          have hfind := (find?_eq_none_iff hd).2 hnone
          have hnil := segments_none ((find?_eq_none_iff hd).2 (not_hasDelimiter_nil hd))
          simp only [split, fragmentLength, hfind, if_true, List.drop_length, hnil,
            Prod.mk.injEq] at hcut
          simp [split, fragmentLength, hfind, ← hcut.1, ← hcut.2]
        units := fun segment hmem => (firstAt_length_iff.1 (hfirst segment hmem)).1
        first := fun segment hmem => (firstAt_length_iff.1 (hfirst segment hmem)).2
        unfinished := hno }

/-- What is found behind the fragment. -/
theorem split_eq (f : LineFormat) (bytes : Bytes) (midLine : Bool) :
    f.split bytes midLine =
      let cut := f.segments (bytes.drop (f.split bytes midLine).dropped)
      { lines := f.texts cut.1
        malformed := (f.readings cut.1).countP (·.malformed)
        dropped := (f.split bytes midLine).dropped
        remainder := cut.2.length } := by
  simp only [split, texts]

/-- A buffer can be written in one way only as a fragment, segments each closed by the first delimiter
from their start on, and a rest without a delimiter; and `split` gives the text of the segments that are
not empty, how many of them were malformed, and the lengths of the fragment and of the rest. -/
theorem split_decomposes {f : LineFormat} (hd : f.delimiter ≠ []) (bytes : Bytes) (midLine : Bool) :
    ∃ dropped segments rest, f.Decomposes bytes midLine dropped segments rest ∧
      (∀ dropped' segments' rest', f.Decomposes bytes midLine dropped' segments' rest' →
        dropped' = dropped ∧ segments' = segments ∧ rest' = rest) ∧
      f.split bytes midLine =
        { lines := (segments.filter (· ≠ [])).map fun segment => (f.encoding.decode segment).text
          malformed := (segments.filter (· ≠ [])).countP fun segment =>
            (f.encoding.decode segment).malformed
          dropped := dropped.length
          remainder := rest.length } := by
  let n := (f.split bytes midLine).dropped
  let cut := f.segments (bytes.drop n)
  refine ⟨bytes.take n, cut.1, cut.2, (decomposes_iff hd).2 ⟨rfl, rfl⟩, ?_, ?_⟩
  · intro dropped segments rest h
    obtain ⟨hdropped, hcut⟩ := (decomposes_iff hd).1 h
    exact ⟨hdropped, (congrArg Prod.fst hcut).symm, (congrArg Prod.snd hcut).symm⟩
  · have hnonempty : cut.1.filter (fun segment => !segment.isEmpty) = cut.1.filter (· ≠ []) :=
      List.filter_congr fun segment _ => by cases segment <;> rfl
    have hlength : (bytes.take n).length = n :=
      List.length_take_of_le (f.split_dropped_le bytes midLine)
    refine (split_eq f bytes midLine).trans ((Split.mk.injEq ..).mpr ⟨?_, ?_, hlength.symm, rfl⟩)
    · rw [texts, readings, hnonempty, List.map_map]
      rfl
    · rw [readings, hnonempty, List.countP_map]
      rfl

/-- A delimiter that overlaps itself, at the end of the buffer too, and an empty segment. -/
theorem split_decomposes_overlapping :
    let f : LineFormat := .ofText .utf8 "aa"
    let bytes := Utf8.encode "xaaabaaaac"
    f.delimiter ≠ [] ∧
      f.Decomposes bytes true (Utf8.encode "xaa") [Utf8.encode "ab", []] (Utf8.encode "c") ∧
      f.split bytes true = { lines := ["ab"], malformed := 0, dropped := 3, remainder := 1 } := by
  intro f bytes
  have hd : f.delimiter ≠ [] := by decide +kernel
  obtain ⟨dropped, segments, rest, -, hunique, hsplit⟩ := split_decomposes hd bytes true
  have h : f.Decomposes bytes true (Utf8.encode "xaa") [Utf8.encode "ab", []] (Utf8.encode "c") :=
    (decomposes_iff hd).2 ⟨by decide +kernel, by decide +kernel⟩
  obtain ⟨rfl, rfl, rfl⟩ := hunique _ _ _ h
  exact ⟨hd, h, hsplit.trans (by decide +kernel)⟩

/-! ## Cutting goes on -/

theorem readings_append (f : LineFormat) (s t : List Bytes) :
    f.readings (s ++ t) = f.readings s ++ f.readings t := by
  rw [readings, List.filter_append, List.map_append]
  rfl

theorem segments_append (hd : f.delimiter ≠ []) (a b : Bytes) :
    f.segments (a ++ b) =
      ((f.segments a).1 ++ (f.segments ((f.segments a).2 ++ b)).1,
        (f.segments ((f.segments a).2 ++ b)).2) := by
  obtain ⟨row, hrow, hrows, -⟩ := exists_rows hd a
  obtain ⟨more, hmore, hnext, hno⟩ := exists_rows hd ((f.segments a).2 ++ b)
  have hwhole := (hrows.append hnext).segments_eq hd hno
  rwa [List.append_assoc, ← hmore, ← List.append_assoc, ← hrow] at hwhole

/-- A fragment ends at the first delimiter, so that what comes behind the delimiter is no part of it. -/
theorem dropped_append (hd : f.delimiter ≠ []) {midLine : Bool}
    (h : midLine = true → f.HasDelimiter a) (b : Bytes) :
    (f.split (a ++ b) midLine).dropped = (f.split a midLine).dropped := by
  cases midLine with
  | false => rfl
  | true =>
    obtain ⟨i, hi⟩ := Option.isSome_iff_exists.1 ((hasDelimiter_iff hd).1 (h rfl))
    have hmore := (find?_eq_some_iff hd).2 (((find?_eq_some_iff hd).1 hi).append_right hd b)
    simp [split, fragmentLength, hi, hmore]

/-- As many bytes as remain are the rest itself. -/
theorem rtake_remainder (hd : f.delimiter ≠ []) (bytes : Bytes) (midLine : Bool) :
    bytes.rtake (f.split bytes midLine).remainder =
      (f.segments (bytes.drop (f.split bytes midLine).dropped)).2 := by
  obtain ⟨row, hrow, -, -⟩ := exists_rows hd (bytes.drop (f.split bytes midLine).dropped)
  have hrest : (f.segments (bytes.drop (f.split bytes midLine).dropped)).2 <:+
      bytes.drop (f.split bytes midLine).dropped := ⟨row, hrow.symm⟩
  exact (List.suffix_iff_eq_drop.1 (hrest.trans (List.drop_suffix _ _))).symm

/-- A buffer of which more bytes come is cut as it is, and its rest is cut with these bytes behind it. -/
theorem split_append (hd : f.delimiter ≠ []) {midLine : Bool}
    (h : midLine = true → f.HasDelimiter a) (b : Bytes) :
    f.split (a ++ b) midLine =
      (f.split a midLine).andThen (f.split (a.rtake (f.split a midLine).remainder ++ b) false) := by
  have hbehind : (a ++ b).drop (f.split a midLine).dropped =
      a.drop (f.split a midLine).dropped ++ b :=
    List.drop_append_of_le_length (f.split_dropped_le a midLine)
  rw [rtake_remainder hd, split_eq f (a ++ b), dropped_append hd h, hbehind, segments_append hd]
  refine (Split.mk.injEq ..).mpr ⟨texts_append f _ _, ?_, rfl, rfl⟩
  rw [readings_append, List.countP_append]
  rfl

/-- Reads one after the other, each with the bytes in front of it that the one before left over. -/
def splitReads (f : LineFormat) (rest : Bytes) : List Bytes → Split
  | [] => { lines := [], malformed := 0, dropped := 0, remainder := rest.length }
  | read :: reads =>
    let cut := f.split (rest ++ read) false
    cut.andThen (f.splitReads ((rest ++ read).rtake cut.remainder) reads)

theorem splitReads_eq (hd : f.delimiter ≠ []) (reads : List Bytes) :
    ∀ {rest : Bytes}, ¬ f.HasDelimiter rest →
      f.splitReads rest reads = f.split (rest ++ reads.flatten) false := by
  induction reads with
  | nil =>
    intro rest hno
    have hrest := segments_none ((find?_eq_none_iff hd).2 hno)
    rw [List.flatten_nil, List.append_nil, split_eq]
    simp [splitReads, split, hrest, texts, readings]
  | cons read reads ih =>
    intro rest _
    obtain ⟨-, -, -, hno⟩ := exists_rows hd (rest ++ read)
    have hleft : ¬ f.HasDelimiter ((rest ++ read).rtake (f.split (rest ++ read) false).remainder) := by
      rw [rtake_remainder hd]
      exact hno
    rw [splitReads, ih hleft, List.flatten_cons, ← List.append_assoc]
    exact (split_append hd (fun h => absurd h Bool.false_ne_true) reads.flatten).symm

/-- Whatever the bytes are and wherever they are parted: what is found in all of them is what is found in
the first part, then what is found in the second part behind the bytes that remained of the first. With
`midLine` the first part has to hold the delimiter that ends the fragment. So reads that each start with
what the one before left over give the same lines as one read of everything. -/
theorem split_resumes {f : LineFormat} (hd : f.delimiter ≠ []) :
    (∀ (a b : Bytes) (midLine : Bool), (midLine = true → f.HasDelimiter a) →
      f.split (a ++ b) midLine =
        (f.split a midLine).andThen (f.split (a.rtake (f.split a midLine).remainder ++ b) false)) ∧
    (∀ (a : Bytes) (reads : List Bytes) (midLine : Bool), (midLine = true → f.HasDelimiter a) →
      f.split (a ++ reads.flatten) midLine =
        (f.split a midLine).andThen (f.splitReads (a.rtake (f.split a midLine).remainder) reads)) ∧
    ∀ reads : List Bytes, f.split reads.flatten false = f.splitReads [] reads := by
  refine ⟨fun a b midLine h => split_append hd h b, fun a reads midLine h => ?_, fun reads => ?_⟩
  · obtain ⟨-, -, -, hno⟩ := exists_rows hd (a.drop (f.split a midLine).dropped)
    rw [← rtake_remainder hd] at hno
    rw [splitReads_eq hd reads hno]
    exact split_append hd h reads.flatten
  · rw [splitReads_eq hd reads (not_hasDelimiter_nil hd), List.nil_append]

/-- The first read ends within a code unit, the second one within a delimiter. -/
theorem split_resumes_within_delimiter :
    let f : LineFormat := .ofText (.utf16 .little) "\r\n"
    let bytes := f.encoding.encode "x\r\n\u00E9\r\nb\r\n"
    let a := bytes.take 7
    let reads := [(bytes.drop 7).take 3, bytes.drop 10]
    f.HasDelimiter a ∧ bytes = a ++ reads.flatten ∧ (f.split a true).remainder = 1 ∧
      (f.splitReads (a.rtake 1) reads).lines = ["\u00E9", "b"] ∧
      f.split bytes true = (f.split a true).andThen (f.splitReads (a.rtake 1) reads) := by
  intro f bytes a reads
  have hd : f.delimiter ≠ [] := by decide +kernel
  have ha : f.HasDelimiter a := (hasDelimiter_iff hd).2 (by decide +kernel)
  have hbytes : bytes = a ++ reads.flatten := by decide +kernel
  have hremainder : (f.split a true).remainder = 1 := by decide +kernel
  have hreads := (split_resumes hd).2.1 a reads true fun _ => ha
  rw [← hbytes, hremainder] at hreads
  exact ⟨ha, hbytes, hremainder, by decide +kernel, hreads⟩

end LineFormat
end FileTail
