import FileTail.Proofs.Boundaries

/-!
# FileTail.Proofs.TextSplit

Bytes are cut as the text is that they stand for. To cut a text is to take off what stands before the
first occurrence of the delimiter, then to go on behind that occurrence, until there is none. The
library's `String.split` does that with characters, `LineFormat.segments` does it with bytes; in
UTF-8 and UTF-16 they agree, for a delimiter occurs in the bytes exactly where it occurs in the text.

* `Cut`: the pieces of a text, without the search.
* `cut_split`: `String.split` cuts.
* `LineFormat.segments_ofText`: so does the search in the bytes.
* `split_encode`: a buffer that holds a text is cut into the pieces of the text.
-/

namespace FileTail

/-- The delimiter does not occur in the text before position `n`. -/
def ClearTo (d : List Char) (n : Nat) (text : List Char) : Prop :=
  ∀ before after, text = before ++ d ++ after → n ≤ before.length

/-- A text cut at the first occurrence of the delimiter, and what follows it again, as long as there is
one. -/
inductive Cut (d : List Char) : List Char → List (List Char) → Prop where
  | rest {text : List Char} : ¬ d <:+: text → Cut d text [text]
  | piece {piece text : List Char} {pieces : List (List Char)} :
      ClearTo d piece.length (piece ++ d ++ text) → Cut d text pieces →
      Cut d (piece ++ d ++ text) (piece :: pieces)

variable {d text : List Char}

theorem ClearTo.zero : ClearTo d 0 text := fun _ _ _ => Nat.zero_le _

theorem ClearTo.next {passed : List Char} (h : ClearTo d passed.length (passed ++ text))
    (hno : ¬ d <+: text) : ClearTo d (passed.length + 1) (passed ++ text) := by
  intro before after heq
  refine Nat.lt_of_le_of_ne (h before after heq) fun hlength => hno ?_
  rw [List.append_assoc] at heq
  exact ⟨after, (List.append_inj_right heq hlength).symm⟩

/-- A text that was passed without an occurrence is the last piece. -/
theorem ClearTo.not_infix (hd : d ≠ []) (h : ClearTo d text.length text) : ¬ d <:+: text := by
  rintro ⟨before, after, heq⟩
  have hle := h before after heq.symm
  have hlength := congrArg List.length heq
  have hpos := List.length_pos_iff.2 hd
  rw [List.length_append, List.length_append] at hlength
  omega

/-! ## Text -/

section Model

open String.Slice.Pattern String.Slice.Pattern.Model

variable {d : String} {s : String.Slice}

/-- A delimiter that stands at a position of a text is matched there. -/
theorem matchesAt_of_starts {pos : s.Pos} {left right : String} (hpos : pos.Splits left right)
    (h : d.toList <+: right.toList) : MatchesAt d pos := by
  obtain ⟨after, hafter⟩ := h
  have hright : right = d ++ String.ofList after := by
    rw [← String.toList_inj, String.toList_append, String.toList_ofList, hafter]
  exact ForwardStringSearcher.matchesAt_iff_splits.2 ⟨left, String.ofList after, hright ▸ hpos⟩

/-- What is between two positions of a text. -/
theorem copy_subslice {first pos : s.Pos} (hle : first ≤ pos) {left passed right : String}
    (hfirst : first.Splits left (passed ++ right)) (hpos : pos.Splits (left ++ passed) right) :
    (s.subslice first pos hle).toSlice.copy = passed := by
  obtain ⟨_, hcopy⟩ := String.Slice.copy_slice_eq_iff_splits.2 ⟨left, right, hfirst, hpos⟩
  simpa using hcopy

/-- The search of the library from a position on, when it has passed some text since the end of the
last match. -/
theorem cut_model [StrictPatternModel d] (hd : d ≠ "") (pos : s.Pos) :
    ∀ (first : s.Pos) (hle : first ≤ pos) (left passed right : String),
      first.Splits left (passed ++ right) → pos.Splits (left ++ passed) right →
      ClearTo d.toList passed.toList.length (passed.toList ++ right.toList) →
      Cut d.toList (passed.toList ++ right.toList)
        ((Model.split d first pos hle).map fun piece => piece.toSlice.copy.toList) := by
  induction pos using WellFounded.induction String.Slice.Pos.wellFounded_gt with
  | h pos ih =>
    intro first hle left passed right hfirst hpos hclear
    have hcopy := copy_subslice hle hfirst hpos
    by_cases hend : pos = s.endPos
    · subst hend
      obtain rfl := hpos.eq_endPos_iff.1 rfl
      rw [String.toList_empty, List.append_nil] at hclear ⊢
      rw [split_endPos, List.map_singleton, hcopy]
      exact .rest (hclear.not_infix (mt String.toList_eq_nil_iff.1 hd))
    · by_cases hmatch : MatchesAt d pos
      · obtain ⟨stop, hstop⟩ := matchesAt_iff_exists_isLongestMatchAt.1 hmatch
        obtain ⟨before, after, hbefore, hafter⟩ :=
          ForwardStringSearcher.isLongestMatchAt_iff_splits.1 hstop
        obtain ⟨rfl, rfl⟩ := hpos.eq hbefore
        have hnext := ih stop hstop.lt stop (Std.le_refl _) (left ++ passed ++ d) "" after
          (by rwa [String.empty_append]) (by rwa [String.append_empty]) ClearTo.zero
        rw [split_eq_of_isLongestMatchAt hstop, List.map_cons, hcopy]
        rw [String.toList_append, ← List.append_assoc] at hclear ⊢
        exact .piece hclear hnext
      · obtain ⟨right, rfl⟩ := hpos.exists_eq_singleton_append hend
        have hskip := hclear.next fun h => hmatch (matchesAt_of_starts hpos h)
        have hnext := ih (pos.next hend) (by simp) first (Std.le_trans hle (by simp)) left
          (passed ++ String.singleton (pos.get hend)) right (by rwa [String.append_assoc])
          (by rw [← String.append_assoc]; exact hpos.next)
        rw [String.toList_append, String.toList_singleton, List.append_assoc, List.length_append,
          List.length_singleton] at hnext
        rw [split_eq_next_of_not_matchesAt hend hmatch, String.toList_append,
          String.toList_singleton]
        rw [String.toList_append, String.toList_singleton] at hskip
        exact hnext hskip

theorem cut_split (hd : d ≠ "") (t : String) :
    Cut d.toList t.toList (((t.split d).toList.map String.Slice.copy).map String.toList) := by
  have := ForwardStringSearcher.strictPatternModel hd
  have := ForwardStringSearcher.lawfulToForwardSearcherModel hd
  have hstart := String.Slice.splits_startPos t.toSlice
  rw [String.copy_toSlice] at hstart
  rw [String.split_eq_split_toSlice, String.Slice.toList_split_eq_splitToSubslice,
    toList_splitToSubslice_eq_modelSplit, List.map_map, List.map_map]
  exact cut_model hd t.toSlice.startPos t.toSlice.startPos (Std.le_refl _) "" "" t
    (by rwa [String.empty_append]) (by rwa [String.empty_append]) ClearTo.zero

end Model

/-! ## Bytes -/

namespace LineFormat

variable {e : Encoding} {d : String}

/-- The first occurrence in a text is the first one in its bytes. -/
theorem find?_ofText (he : e ∈ Encoding.universal) (hd : d ≠ "") {piece text : List Char}
    (hclear : ClearTo d.toList piece.length (piece ++ d.toList ++ text)) :
    (ofText e d).find? ((piece ++ d.toList ++ text).flatMap e.encodeChar) =
      some (piece.flatMap e.encodeChar).length := by
  refine (find?_eq_some_iff (e.encode_ne_nil hd)).2
    ⟨(occursAt_ofText he hd _ _).2 ⟨piece, text, rfl, rfl⟩, fun j hj hocc => ?_⟩
  obtain ⟨before, after, heq, rfl⟩ := (occursAt_ofText he hd _ _).1 hocc
  have hpiece : piece <+: piece ++ d.toList ++ text := by
    rw [List.append_assoc]
    exact List.prefix_append _ _
  have hbefore : before <+: piece ++ d.toList ++ text := by
    rw [heq, List.append_assoc]
    exact List.prefix_append _ _
  have hshort := List.prefix_of_prefix_length_le hpiece hbefore (hclear before after heq)
  exact Nat.not_le_of_lt hj (Encoding.length_flatMap_le hshort)

theorem find?_ofText_none (he : e ∈ Encoding.universal) (hd : d ≠ "") {text : List Char}
    (hno : ¬ d.toList <:+: text) : (ofText e d).find? (text.flatMap e.encodeChar) = none := by
  refine (find?_eq_none_iff (e.encode_ne_nil hd)).2 ?_
  rintro ⟨i, hocc⟩
  obtain ⟨before, after, rfl, -⟩ := (occursAt_ofText he hd _ _).1 hocc
  exact hno (List.infix_append _ _ _)

/-- The segments of a text are those of its pieces that a delimiter closes. -/
theorem segments_ofText (he : e ∈ Encoding.universal) (hd : d ≠ "") {text : List Char}
    {pieces : List (List Char)} (h : Cut d.toList text pieces) :
    ∃ closed last, pieces = closed ++ [last] ∧
      (ofText e d).segments (text.flatMap e.encodeChar) =
        (closed.map (·.flatMap e.encodeChar), last.flatMap e.encodeChar) := by
  induction h with
  | @rest text hno => exact ⟨[], text, rfl, segments_none (find?_ofText_none he hd hno)⟩
  | @piece piece text pieces hclear _ ih =>
    obtain ⟨closed, last, rfl, hsegments⟩ := ih
    refine ⟨piece :: closed, last, rfl, ?_⟩
    rw [segments_some (find?_ofText he hd hclear), ← List.drop_drop, List.append_assoc,
      List.flatMap_append, List.take_left, List.drop_left, List.flatMap_append,
      show (ofText e d).delimiter = d.toList.flatMap e.encodeChar from
        Encoding.encode_of_universal he d,
      List.drop_left, hsegments]
    rfl

/-- Pieces are read back, and an empty one has no bytes. -/
theorem readings_encode (he : e ∈ Encoding.universal) (pieces : List String) :
    (ofText e d).readings (pieces.map e.encode) =
      (pieces.filter (· ≠ "")).map (⟨·, false⟩) := by
  have hempty : ∀ piece, (!(e.encode piece).isEmpty) = decide (piece ≠ "") := by
    intro piece
    by_cases hpiece : piece = ""
    · rw [hpiece, Encoding.encode_of_universal he]
      rfl
    · have := e.encode_ne_nil hpiece
      simp [hpiece, this]
  have hfilter : pieces.filter ((fun bytes => !bytes.isEmpty) ∘ e.encode) =
      pieces.filter (· ≠ "") := List.filter_congr fun piece _ => hempty piece
  rw [readings, List.filter_map, List.map_map, hfilter]
  exact List.map_congr_left fun piece _ => Encoding.decode_encode he piece

/-- Segments that hold texts are given as these texts. -/
theorem split_of_segments (he : e ∈ Encoding.universal) {bytes : Bytes} {closed : List String}
    {last : String}
    (h : (ofText e d).segments bytes = (closed.map e.encode, e.encode last)) :
    (ofText e d).split bytes false =
      { lines := closed.filter (· ≠ "")
        malformed := 0
        dropped := 0
        remainder := (e.encode last).length } := by
  have hmalformed : ((closed.filter (· ≠ "")).map fun text => Reading.mk text false).countP
      (·.malformed) = 0 := by
    rw [List.countP_map]
    exact List.countP_eq_zero.2 fun _ _ => Bool.false_ne_true
  simp only [split, Bool.false_eq_true, if_false, List.drop_zero, h, readings_encode he, hmalformed,
    List.map_map, Split.mk.injEq, and_true]
  exact List.map_id _

theorem occursAt_encode (he : e ∈ Encoding.universal) (hd : d ≠ "") (t : String) (i : Nat) :
    (ofText e d).OccursAt (e.encode t) i ↔
      ∃ before after, t = before ++ d ++ after ∧ i = (e.encode before).length := by
  simp only [Encoding.encode_of_universal he]
  refine (occursAt_ofText he hd t.toList i).trans ?_
  constructor
  · rintro ⟨before, after, heq, rfl⟩
    refine ⟨String.ofList before, String.ofList after, ?_, ?_⟩
    · rw [← String.toList_inj, heq, String.toList_append, String.toList_append,
        String.toList_ofList, String.toList_ofList]
    · rw [String.toList_ofList]
  · rintro ⟨before, after, rfl, rfl⟩
    exact ⟨before.toList, after.toList, by rw [String.toList_append, String.toList_append], rfl⟩

end LineFormat

/-- A buffer that holds a text in UTF-8 or UTF-16 is cut as the text is, at the first occurrence of the
delimiter and so on: its lines are the pieces of the text that are not empty, without the last piece,
which is what remains. A delimiter is found where it occurs in the text, and nowhere else; and each
piece is read back as it is. -/
theorem split_encode {e : Encoding} (he : e ∈ Encoding.universal) {d : String} (hd : d ≠ "")
    (t : String) :
    let pieces := (t.split d).toList.map String.Slice.copy
    Cut d.toList t.toList (pieces.map String.toList) ∧
      (LineFormat.ofText e d).split (e.encode t) false =
        { lines := pieces.dropLast.filter (· ≠ "")
          malformed := 0
          dropped := 0
          remainder := (e.encode (pieces.getLastD "")).length } ∧
      (∀ i, (LineFormat.ofText e d).OccursAt (e.encode t) i ↔
        ∃ before after, t = before ++ d ++ after ∧ i = (e.encode before).length) ∧
      ∀ piece ∈ pieces, e.decode (e.encode piece) = ⟨piece, false⟩ := by
  intro pieces
  have hcut := cut_split hd t
  refine ⟨hcut, ?_, LineFormat.occursAt_encode he hd t,
    fun piece _ => Encoding.decode_encode he piece⟩
  obtain ⟨closed, last, hpieces, hsegments⟩ := LineFormat.segments_ofText he hd hcut
  -- the pieces as strings
  obtain ⟨before, after, hparts, rfl, hafter⟩ := List.map_eq_append_iff.1 hpieces
  obtain ⟨final, rfl, rfl⟩ := List.map_eq_singleton_iff.1 hafter
  rw [List.map_map] at hsegments
  rw [show pieces = before ++ [final] from hparts, List.dropLast_concat, List.getLastD_concat]
  refine LineFormat.split_of_segments he ?_
  rw [funext (Encoding.encode_of_universal he)]
  exact hsegments

/-- The low byte of a character and the high byte of the next one are those of a delimiter, but do not
make a code unit. -/
theorem split_encode_across_units :
    let f : LineFormat := .ofText (.utf16 .little) "\n"
    let bytes := f.encoding.encode "\u0A05\u0100\nb\n\nc"
    bytes.take 4 = [0x05, 0x0A, 0x00, 0x01] ∧ f.delimiter = [0x0A, 0x00] ∧
      (f.split bytes false).lines = ["\u0A05\u0100", "b"] ∧ (f.split bytes false).remainder = 2 ∧
      ((("\u0A05\u0100\nb\n\nc".split "\n").toList.map String.Slice.copy).dropLast.filter (· ≠ "")) =
        ["\u0A05\u0100", "b"] := by
  intro f bytes
  obtain ⟨-, hsplit, -⟩ := split_encode (e := .utf16 .little) (by simp [Encoding.universal])
    (d := "\n") (by decide) "\u0A05\u0100\nb\n\nc"
  have hlines : (f.split bytes false).lines = ["\u0A05\u0100", "b"] := by decide +kernel
  refine ⟨by decide +kernel, by decide +kernel, hlines, by decide +kernel, ?_⟩
  exact (congrArg Split.lines hsplit).symm.trans hlines

end FileTail
