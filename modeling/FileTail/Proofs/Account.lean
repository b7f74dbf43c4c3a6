import Mathlib.Algebra.GroupWithZero.Nat
import FileTail.Proofs.Advance
import FileTail.Proofs.Harvest

/-!
# FileTail.Proofs.Account

Every byte of a growing file up to the offset is accounted for, however fast the file grows, however
long its lines are, and whatever its reads give. A read cuts its bytes into pieces: the mark at the
start of the file, segments with their delimiters, parts of overlong lines. The bytes between the
pieces are given up, and they are what the reads count as skipped.

* `Piece`, `Limits.pieces`: what the bytes of a read are taken for.
* `LineFormat.Covers`: bytes that are made of pieces, one behind the other, and of gaps.
* `Haul.covers`: the bytes by which a read moves the offset.
* `bytes_accounted`: the bytes from the anchor to the offset, at every time.
-/

namespace FileTail

/-- What some bytes of a file are taken for. -/
inductive Piece where
  | mark
  /-- The bytes up to a delimiter, which follows them. -/
  | segment (bytes : Bytes)
  /-- A full read out of an overlong line. -/
  | part (bytes : Bytes)
deriving Repr, DecidableEq

namespace Piece

def raw (f : LineFormat) : Piece → Bytes
  | mark => f.encoding.mark
  | segment bytes => bytes ++ f.delimiter
  | part bytes => bytes

/-- The line that a piece is given as. -/
def text? (f : LineFormat) : Piece → Option String
  | mark => none
  | segment bytes => if bytes.isEmpty then none else some (f.encoding.decode bytes).text
  | part bytes => some (f.encoding.decode bytes).text

def markLength (f : LineFormat) : Piece → Nat
  | mark => f.encoding.mark.length
  | _ => 0

/-- The length of a segment, which may be empty, with its delimiter. -/
def segmentLength (f : LineFormat) : Piece → Nat
  | segment bytes => bytes.length + f.delimiter.length
  | _ => 0

def partLength : Piece → Nat
  | part bytes => bytes.length
  | _ => 0

theorem length_raw (f : LineFormat) (x : Piece) :
    (x.raw f).length = x.markLength f + x.segmentLength f + x.partLength := by
  cases x with
  | mark => rfl
  | segment bytes => simp [raw, markLength, segmentLength, partLength]
  | part bytes => simp [raw, markLength, segmentLength, partLength]

theorem filterMap_text?_segments (f : LineFormat) (segments : List Bytes) :
    (segments.map segment).filterMap (text? f) = f.texts segments := by
  induction segments with
  | nil => rfl
  | cons bytes segments ih =>
    rw [List.map_cons, List.filterMap_cons, ih]
    cases bytes with
    | nil => rfl
    | cons b bytes => rfl

end Piece

namespace LineFormat

/-- The bytes are made of the pieces, in their order, and of gaps of `skipped` bytes in all. -/
inductive Covers (f : LineFormat) : Bytes → List Piece → Nat → Prop where
  | nil : Covers f [] [] 0
  | piece {bytes : Bytes} {pieces : List Piece} {skipped : Nat} (x : Piece) :
      Covers f bytes pieces skipped → Covers f (bytes ++ x.raw f) (pieces ++ [x]) skipped
  | gap {bytes : Bytes} {pieces : List Piece} {skipped : Nat} (more : Bytes) :
      Covers f bytes pieces skipped → Covers f (bytes ++ more) pieces (skipped + more.length)

namespace Covers

variable {f : LineFormat} {bytes bytes' : Bytes} {pieces pieces' : List Piece}
  {skipped skipped' : Nat}

theorem append (h : f.Covers bytes pieces skipped) (h' : f.Covers bytes' pieces' skipped') :
    f.Covers (bytes ++ bytes') (pieces ++ pieces') (skipped + skipped') := by
  induction h' with
  | nil => simpa using h
  | piece x _ ih =>
    rw [← List.append_assoc, ← List.append_assoc]
    exact .piece x ih
  | gap more _ ih =>
    rw [← List.append_assoc, ← Nat.add_assoc]
    exact .gap more ih

theorem single (x : Piece) : f.Covers (x.raw f) [x] 0 := .piece x .nil

theorem skip (bytes : Bytes) : f.Covers bytes [] bytes.length := by
  have h := Covers.gap bytes (.nil (f := f))
  rwa [List.nil_append, Nat.zero_add] at h

theorem of_rows {row : Bytes} {segments : List Bytes} (h : f.Rows row segments) :
    f.Covers row (segments.map .segment) 0 := by
  induction h with
  | nil => exact .nil
  | @cons segment rest segments _ _ ih =>
    exact (single (.segment segment)).append ih

/-- No byte is counted twice, and none is left out. -/
theorem length_eq (h : f.Covers bytes pieces skipped) :
    bytes.length = skipped + (pieces.map (Piece.markLength f)).sum +
      (pieces.map (Piece.segmentLength f)).sum + (pieces.map Piece.partLength).sum := by
  induction h with
  | nil => rfl
  | piece x _ ih =>
    simp only [List.length_append, List.map_append, List.sum_append, List.map_cons, List.map_nil,
      List.sum_cons, List.sum_nil, Piece.length_raw]
    omega
  | gap more _ ih =>
    rw [List.length_append]
    omega

end Covers
end LineFormat

/-! ## Reads -/

namespace Limits

/-- The mark, where a read lost one. -/
def marks (f : LineFormat) (w : Window) (bytes : Bytes) : List Piece :=
  if (body f w bytes).length < bytes.length then [.mark] else []

/-- What the bytes of a read are taken for, those that are left out or read again aside. -/
def pieces (l : Limits) (f : LineFormat) (w : Window) (bytes : Bytes) : List Piece :=
  marks f w bytes ++ (cut f w bytes).1.map .segment ++
    if l.overlong f w bytes then [.part (body f w bytes)] else []

variable {l : Limits} {f : LineFormat} {w : Window} {bytes : Bytes}

/-- Only bytes from the start of a file lose a mark. -/
theorem position_eq_zero_of_body_lt (h : (body f w bytes).length < bytes.length) :
    w.position = 0 ∧ 0 < f.encoding.mark.length := by
  have hne : body f w bytes ≠ bytes := fun heq => by simp [heq] at h
  refine ⟨Classical.byContradiction fun hzero => hne (by simp [body, hzero]),
    List.length_pos_iff.2 fun hnil => hne ?_⟩
  simp [body, Encoding.markLength, hnil]

/-- What comes before the body is the mark. -/
theorem exists_mark (f : LineFormat) (w : Window) (bytes : Bytes) :
    ∃ front, bytes = front ++ body f w bytes ∧ f.Covers front (marks f w bytes) 0 := by
  by_cases hlost : (body f w bytes).length < bytes.length
  · obtain ⟨hstart, -⟩ := position_eq_zero_of_body_lt hlost
    have hmarked : f.encoding.mark <+: bytes := by
      refine Classical.byContradiction fun hno => ?_
      simp [body, hstart, Encoding.markLength, List.isPrefixOf_iff_prefix, hno] at hlost
    obtain ⟨text, rfl⟩ := hmarked
    refine ⟨f.encoding.mark, by simp [body, hstart, Encoding.markLength], ?_⟩
    rw [marks, if_pos hlost]
    exact .single .mark
  · have hall := (body_suffix f w bytes).eq_of_length_le (Nat.le_of_not_lt hlost)
    refine ⟨[], by rw [List.nil_append, hall], ?_⟩
    rw [marks, if_neg hlost]
    exact .nil

/-- A read takes in its pieces, and gives up the end of a line that began before it. -/
theorem covers_pieces (hd : f.delimiter ≠ []) (o : Nat) :
    f.Covers (bytes.take ((l.harvest f o w bytes).offset - w.position)) (l.pieces f w bytes)
      (fragment f w bytes) := by
  obtain ⟨front, hbytes, hmark⟩ := exists_mark f w bytes
  cases hover : l.overlong f w bytes with
  | true =>
    obtain ⟨-, -, -, hfragment, hcut⟩ := overlong_cut hd hover
    have hgot := hmark.append (.single (.part (body f w bytes)))
    rw [Piece.raw, ← hbytes] at hgot
    rw [harvest_eq, hover, pieces, hover, hcut, hfragment]
    simpa using hgot
  | false =>
    obtain ⟨row, hrow, hrows, -⟩ := exists_cut hd w bytes
    have hoffset := l.harvest_offset_add hover o
    have hbody : body f w bytes =
        (body f w bytes).take (fragment f w bytes) ++ (row ++ (cut f w bytes).2) := by
      rw [← hrow, List.take_append_drop]
    have hfragment := LineFormat.Covers.skip (f := f) ((body f w bytes).take (fragment f w bytes))
    rw [List.length_take_of_le (fragment_le f w bytes)] at hfragment
    have hgot := (hmark.append hfragment).append (LineFormat.Covers.of_rows hrows)
    rw [Nat.zero_add, Nat.add_zero, List.append_nil] at hgot
    have hpre : front ++ (body f w bytes).take (fragment f w bytes) ++ row <+: bytes := by
      refine ⟨(cut f w bytes).2, ?_⟩
      rw [List.append_assoc, List.append_assoc, ← hbody, ← hbytes]
    have hlength := congrArg List.length hbytes
    have hbodyLength := congrArg List.length hbody
    simp only [List.length_append] at hlength hbodyLength
    have htake := List.prefix_iff_eq_take.1 hpre
    rw [List.length_append, List.length_append, show front.length +
      ((body f w bytes).take (fragment f w bytes)).length + row.length =
        (l.harvest f o w bytes).offset - w.position by omega] at htake
    rw [pieces, hover, ← htake]
    simpa using hgot

theorem pieces_lines (l : Limits) (f : LineFormat) (o : Nat) (w : Window) (bytes : Bytes) :
    (l.pieces f w bytes).filterMap (Piece.text? f) = (l.harvest f o w bytes).lines := by
  have hmark : (marks f w bytes).filterMap (Piece.text? f) = [] := by
    rw [marks]
    split <;> rfl
  rw [harvest_eq, pieces, List.filterMap_append, List.filterMap_append, hmark, List.nil_append,
    Piece.filterMap_text?_segments]
  cases l.overlong f w bytes <;> rfl

theorem count_mark (l : Limits) (f : LineFormat) (w : Window) (bytes : Bytes) :
    (l.pieces f w bytes).count .mark = if (body f w bytes).length < bytes.length then 1 else 0 := by
  have hsegments : ((cut f w bytes).1.map Piece.segment).count .mark = 0 :=
    List.count_eq_zero_of_not_mem (by simp)
  rw [pieces, marks, List.count_append, List.count_append, hsegments]
  cases l.overlong f w bytes <;> split <;> simp

end Limits

/-- A read accounts for all bytes by which it moves the offset. -/
theorem Haul.covers {r : Rules} {full bytes : Bytes} {o size : Nat} {w : Window} {y : Harvest}
    (h : Haul r full o size w bytes) (hlim : full.length ≤ Word.limit)
    (hy : r.limits.harvest r.format o w bytes = y) :
    r.format.Covers (full.between o y.offset) (r.limits.pieces r.format w bytes) y.skipped := by
  subst hy
  have hlow := h.le_position hlim
  obtain ⟨hposition, hend⟩ := r.limits.harvest_offset r.delimiter_ne o w bytes
  have hgap := LineFormat.Covers.skip (f := r.format) (full.between o w.position)
  have hjump : (full.between o w.position).length = Limits.jump o w := by
    have hle := h.end_le
    have hsize := h.size_le
    rw [Bytes.length_between full (by omega), Limits.jump]
    split
    · rfl
    · rename_i hmid
      rw [h.position_eq (by simpa using hmid), Nat.sub_self]
  have hread : r.format.Covers (bytes.take _) _ _ :=
    Limits.covers_pieces (l := r.limits) (w := w) r.delimiter_ne o
  rw [Bytes.take_eq_between h.given (by omega), Nat.add_sub_cancel' hposition] at hread
  have hall := hgap.append hread
  rw [hjump, List.nil_append, Bytes.between_append_between full hlow hposition] at hall
  have hskipped : (r.limits.harvest r.format o w bytes).skipped =
      Limits.jump o w + Limits.fragment r.format w bytes := by rw [Limits.harvest_eq]
  rw [hskipped]
  exact hall

/-! ## Runs -/

/-- What is newly taken in. -/
def News.pieces (l : Limits) (f : LineFormat) : News → List Piece
  | .taken w bytes _ _ _ => l.pieces f w bytes
  | _ => []

theorem News.totalSkipped_concat (news : List News) (n : News) :
    totalSkipped (news ++ [n]) = totalSkipped news + n.skipped := by
  induction news with
  | nil => simp [totalSkipped]
  | cons m news ih => rw [List.cons_append, totalSkipped, ih, totalSkipped, Nat.add_assoc]

/-- How the news account for the bytes from the anchor to the offset. -/
structure Tallied (l : Limits) (f : LineFormat) (full : Bytes) (anchor : Nat) (news : List News)
    (o : Nat) : Prop where
  offset_eq : o = anchor + (full.between anchor o).length
  covers : f.Covers (full.between anchor o) (news.flatMap (News.pieces l f))
    (News.totalSkipped news)
  marks : (news.flatMap (News.pieces l f)).count .mark ≤ 1
  lines : (news.flatMap (News.pieces l f)).filterMap (Piece.text? f) = news.flatMap News.lines

namespace Tallied

variable {r : Rules} {l : Limits} {f : LineFormat} {full bytes : Bytes} {anchor o size : Nat}
  {w : Window} {news : List News} {n : News} {y : Harvest}

theorem start (l : Limits) (f : LineFormat) (full : Bytes) (anchor : Nat) :
    Tallied l f full anchor [] anchor where
  offset_eq := by rw [Bytes.between_of_le full (Nat.le_refl _)]; rfl
  covers := by rw [Bytes.between_of_le full (Nat.le_refl _)]; exact .nil
  marks := Nat.zero_le _
  lines := rfl

theorem blank (h : Tallied l f full anchor news o) (hn : n.Blank) :
    Tallied l f full anchor (news ++ [n]) o := by
  have hpieces : n.pieces l f = [] := by
    cases n with
    | taken _ _ _ _ _ => cases hn
    | _ => rfl
  have hskipped : n.skipped = 0 := by
    cases n with
    | taken _ _ _ _ _ => cases hn
    | _ => rfl
  have hall : (news ++ [n]).flatMap (News.pieces l f) = news.flatMap (News.pieces l f) := by
    simp [hpieces]
  exact
    { offset_eq := h.offset_eq
      covers := by
        rw [hall, News.totalSkipped_concat, hskipped]
        exact h.covers
      marks := hall ▸ h.marks
      lines := by
        rw [hall, h.lines]
        simp [hn.lines] }

/-- A mark is only taken off the first bytes of a file, of which no others were taken in before. -/
theorem count_mark_eq_zero (h : Tallied l f full anchor news o) (ho : o = 0)
    (hmark : 0 < f.encoding.mark.length) : (news.flatMap (News.pieces l f)).count .mark = 0 := by
  have hlength := h.covers.length_eq
  rw [ho, Bytes.between_of_le full (Nat.zero_le _), List.length_nil] at hlength
  refine List.count_eq_zero_of_not_mem fun hmem => ?_
  have hpos := List.sum_pos_iff_exists_pos_nat.2
    ⟨_, List.mem_map_of_mem (f := Piece.markLength f) hmem, hmark⟩
  omega

/-- Each read accounts for the bytes by which it moves the offset. -/
theorem taken (h : Tallied r.limits r.format full anchor news o) (hlim : full.length ≤ Word.limit)
    (hhaul : Haul r full o size w bytes) (hy : r.limits.harvest r.format o w bytes = y) :
    Tallied r.limits r.format full anchor
      (news ++ [.taken w bytes y.lines y.skipped y.offset]) y.offset := by
  have hcovers := hhaul.covers hlim hy
  obtain ⟨hlow, hhigh⟩ := hhaul.offset_bounds hlim
  rw [hy] at hlow hhigh
  have hoffset := h.offset_eq
  have hsize := hhaul.size_le
  exact
    { offset_eq := by
        rw [Bytes.length_between full (by omega)]
        omega
      covers := by
        rw [List.flatMap_append, News.totalSkipped_concat,
          ← Bytes.between_append_between full (show anchor ≤ o by omega) hlow]
        simpa [News.pieces, News.skipped] using h.covers.append hcovers
      marks := by
        have hbefore := h.marks
        rw [List.flatMap_append, List.count_append]
        simp only [List.flatMap_cons, List.flatMap_nil, List.append_nil, News.pieces,
          Limits.count_mark]
        split
        · rename_i hbody
          obtain ⟨hposition, hmark⟩ := Limits.position_eq_zero_of_body_lt hbody
          have hstart := hhaul.le_position hlim
          have hnone := h.count_mark_eq_zero (by omega) hmark
          omega
        · exact hbefore
      lines := by
        have hread := r.limits.pieces_lines r.format o w bytes
        rw [hy] at hread
        rw [List.flatMap_append, List.flatMap_append, List.filterMap_append, h.lines]
        simp [News.pieces, News.lines, hread] }

end Tallied

/-- The bytes of a growing file from the anchor to the offset are those that were skipped, a mark,
the segments with their delimiters and the parts of overlong lines, each counted once. -/
theorem bytes_accounted {s : Settings} {f : LineFormat} {codecs : EastAsian → Codec}
    (hs : s.fault? = none) (hf : s.lineFormat? codecs = some f) {p : Path} (hp : p ∈ s.paths)
    {full : Bytes} (hlim : full.length ≤ Word.limit) {hap : List Happening}
    (hgrow : Along (Shows full) 0 (Happening.of p hap)) {news : List News}
    (hnews : News.of p ((Tailing.start s f).run hap).2 = news) {pieces : List Piece}
    (hpieces : news.flatMap (News.pieces (Limits.ofSettings s) f) = pieces) :
    ∃ t, ((Tailing.start s f).run hap).1.track? p = some t ∧
      ∃ o, t.offset?.getD ((Limits.ofSettings s).anchorOf (Happening.of p hap)) = o ∧
        o = (Limits.ofSettings s).anchorOf (Happening.of p hap) + News.totalSkipped news +
          (pieces.map (Piece.markLength f)).sum + (pieces.map (Piece.segmentLength f)).sum +
          (pieces.map Piece.partLength).sum ∧
        f.Covers (full.between ((Limits.ofSettings s).anchorOf (Happening.of p hap)) o) pieces
          (News.totalSkipped news) ∧
        pieces.count .mark ≤ 1 ∧
        pieces.filterMap (Piece.text? f) = news.flatMap News.lines := by
  subst hnews hpieces
  obtain ⟨t, ht, h⟩ := Tailing.advances hs hf hp hlim hgrow
    (q := Tallied (Limits.ofSettings s) f full
      ((Limits.ofSettings s).anchorOf (Happening.of p hap)))
    (Tallied.start _ _ _ _) (Tallied.blank)
    (fun h _ hhaul hy => Tallied.taken (r := s.rules f hs hf) h hlim hhaul hy)
  refine ⟨t, ht, _, rfl, ?_, h.covers, h.marks, h.lines⟩
  have hoffset := h.offset_eq
  have hlength := h.covers.length_eq
  omega

/-- A full read of a mark and one letter, a read of two lines, and a read of the end that is tried
twice: what it gives up is counted once. -/
theorem bytes_accounted_failed_read :
    let p : Path := .ofString "/a"
    let s : Settings :=
      { Settings.default with paths := [p], maxReadSize := 4, startAt := .beginning }
    let f : LineFormat := .ofText .utf8 "\n"
    let full := Utf8.encode "\uFEFFa\nbc\n\ndefghijklmnop\nq\n"
    let look (n : Nat) : Moment := .probed (.seen ⟨none, n, .ofBytes (full.take n)⟩)
    let read (n : Nat) : Moment :=
      .fetched fun w => .ok (((full.take n).drop w.position).take w.length)
    let hap := Happening.alone p
      [look 0, look 6, read 6, look 9, read 9, look 22, .fetched fun _ => .error (.reading "busy"),
        look 25, read 25]
    let news := News.of p ((Tailing.start s f).run hap).2
    let pieces := news.flatMap (News.pieces (Limits.ofSettings s) f)
    pieces = [.mark, .part [97], .segment [], .segment [98, 99], .segment [113]] ∧
      News.totalSkipped news = 15 ∧ f.Covers full pieces (News.totalSkipped news) ∧
      news.flatMap News.lines = ["a", "bc", "q"] := by
  intro p s f full look read hap news pieces
  have hf : s.lineFormat? = some f := Settings.lineFormat?_of_encoding (Encoding.ofLabel?_utf8 _)
  have hl : full.length = 25 := by decide +kernel
  have hlook : ∀ {n k}, n ≤ k → k ≤ 25 → Shows full n (look k) k := fun hn hk =>
    .seen hn (Nat.le_refl _) (by omega)
  have hread : ∀ {n}, n ≤ 25 → Shows full n (read n) n := fun hn =>
    (Serves.fetched (Nat.le_refl _) (by omega) fun _ => rfl).shows
  have hgrow : Along (Shows full) 0 (Happening.of p hap) := by
    rw [Happening.of_alone]
    refine .cons (hlook (Nat.le_refl _) (by decide)) ?_
    refine .cons (hlook (by decide) (by decide)) (.cons (hread (by decide)) ?_)
    refine .cons (hlook (by decide) (by decide)) (.cons (hread (by decide)) ?_)
    refine .cons (hlook (by decide) (by decide))
      (.cons (.fetched (Nat.le_refl _) (by omega) fun w bytes hfail => by cases hfail) ?_)
    exact .cons (hlook (by decide) (by decide)) (.cons (hread (by decide)) .nil)
  obtain ⟨t, ht, o, ho, -, hcovers, -, htexts⟩ := bytes_accounted (by decide +kernel) hf
    (List.mem_singleton.2 rfl) (by decide +kernel) hgrow rfl rfl
  have hanchor : (Limits.ofSettings s).anchorOf (Happening.of p hap) = 0 := by decide +kernel
  have hoffset : t.offset? = some 25 := Tailing.offset?_of_track? ht (by decide +kernel)
  rw [hoffset] at ho
  cases ho
  have hall : full.between 0 25 = full := by decide +kernel
  rw [hanchor, Option.getD_some, hall] at hcovers
  have hpieces : pieces = [.mark, .part [97], .segment [], .segment [98, 99], .segment [113]] := by
    decide +kernel
  exact ⟨hpieces, by decide +kernel, hcovers, htexts ▸ (by decide +kernel)⟩

end FileTail
