import Mathlib.Data.Nat.Init
import FileTail.Proofs.Arguments

/-!
# FileTail.Proofs.Escapes

What is typed for a delimiter and what it stands for. A text is read from its start, one character or
one escape at a time. What was read before matters only if it ends on a backslash that still waits for
its letter: then the next character may be that letter.

* `endsOpenChars`: whether a backslash is left open. `endsOpenChars_replicate`: that depends on how many
  backslashes stand at the end.
* `expandChars_append_iff`: texts can be read piece by piece if none is left open, and only then.
* `expandChars_plain`, `expandChars_kept`: what stands for itself.
* `typed_delimiter_read_back`: every delimiter can be typed, on every command line.
-/

namespace FileTail
namespace Escape

/-! ## Reading from the start -/

/-- Whether the text, read from its start, ends on a backslash whose letter is still to come. -/
def endsOpenChars : List Char → Bool
  | [] => false
  | [c] => c = '\\'
  | c :: d :: r =>
    if c = '\\' ∧ (letter? d).isSome then endsOpenChars r else endsOpenChars (d :: r)

def endsOpen (raw : String) : Bool := endsOpenChars raw.toList

/-- What is no escape is taken character by character. -/
theorem expandChars_literal {c d : Char} (h : ¬ (c = '\\' ∧ (letter? d).isSome)) (r : List Char) :
    expandChars (c :: d :: r) = c :: expandChars (d :: r) := by
  by_cases hc : c = '\\'
  · have hd : letter? d = none := by simpa [hc] using h
    simp only [expandChars, if_pos hc, hd]
  · exact expandChars_cons hc (d :: r)

theorem endsOpenChars_cons {c : Char} (h : c ≠ '\\') (r : List Char) :
    endsOpenChars (c :: r) = endsOpenChars r := by
  cases r with
  | nil => simp [endsOpenChars, h]
  | cons d r => simp [endsOpenChars, h]

/-- Behind a text that is not open, reading starts over. -/
theorem expandChars_append {a : List Char} (h : endsOpenChars a = false) (b : List Char) :
    expandChars (a ++ b) = expandChars a ++ expandChars b := by
  fun_induction endsOpenChars a with
  | case1 => rfl
  | case2 c => exact expandChars_cons (by simpa using h) b
  | case3 c d r hescape ih =>
    obtain ⟨rfl, hd⟩ := hescape
    obtain ⟨e, he⟩ := Option.isSome_iff_exists.1 hd
    rw [List.cons_append, List.cons_append, expandChars_escape he, expandChars_escape he, ih h,
      List.cons_append]
  | case4 c d r hescape ih =>
    rw [expandChars_literal hescape, List.cons_append, List.cons_append, List.cons_append,
      expandChars_literal hescape, ← List.cons_append, ih h]

theorem endsOpenChars_append {a : List Char} (h : endsOpenChars a = false) (b : List Char) :
    endsOpenChars (a ++ b) = endsOpenChars b := by
  fun_induction endsOpenChars a with
  | case1 => rfl
  | case2 c => exact endsOpenChars_cons (by simpa using h) b
  | case3 c d r hescape ih =>
    rw [List.cons_append, List.cons_append, endsOpenChars, if_pos hescape, ih h]
  | case4 c d r hescape ih =>
    rw [List.cons_append, List.cons_append, endsOpenChars, if_neg hescape, ← List.cons_append, ih h]

/-- An open text is one that is not open, and a backslash. -/
theorem exists_of_endsOpenChars {a : List Char} (h : endsOpenChars a = true) :
    ∃ before, a = before ++ ['\\'] ∧ endsOpenChars before = false := by
  fun_induction endsOpenChars a with
  | case1 => cases h
  | case2 c =>
    obtain rfl : c = '\\' := by simpa using h
    exact ⟨[], rfl, rfl⟩
  | case3 c d r hescape ih =>
    obtain ⟨before, rfl, hbefore⟩ := ih h
    exact ⟨c :: d :: before, rfl, by rw [endsOpenChars, if_pos hescape, hbefore]⟩
  | case4 c d r hescape ih =>
    obtain ⟨before, hr, hbefore⟩ := ih h
    refine ⟨c :: before, by rw [hr, List.cons_append], ?_⟩
    cases before with
    | nil =>
      -- the text is a backslash behind `c`, so `c` is none
      obtain ⟨rfl, -⟩ := List.cons.inj hr
      have hc : c ≠ '\\' := fun hc => hescape ⟨hc, rfl⟩
      simpa [endsOpenChars] using hc
    | cons e before =>
      obtain ⟨rfl, -⟩ := List.cons.inj hr
      rw [endsOpenChars, if_neg hescape, hbefore]

/-- Only behind an open text it matters what comes before. -/
theorem expandChars_append_iff (a : List Char) :
    (∀ b, expandChars (a ++ b) = expandChars a ++ expandChars b) ↔ endsOpenChars a = false := by
  refine ⟨fun h => Bool.eq_false_iff.2 fun hopen => ?_, expandChars_append⟩
  obtain ⟨before, rfl, hbefore⟩ := exists_of_endsOpenChars hopen
  have hn := h ['n']
  rw [List.append_assoc, expandChars_append hbefore, expandChars_append hbefore, List.append_assoc]
    at hn
  exact absurd (List.append_cancel_left hn) (by decide)

/-- Of backslashes in a row two make an escape, so a text is open if it ends on an odd number of
them. -/
theorem endsOpenChars_replicate {a : List Char} (h : a.getLast? ≠ some '\\') (n : Nat) :
    endsOpenChars (a ++ List.replicate n '\\') = decide (n % 2 = 1) := by
  have hclosed : endsOpenChars a = false := Bool.eq_false_iff.2 fun hopen => by
    obtain ⟨before, rfl, -⟩ := exists_of_endsOpenChars hopen
    simp at h
  rw [endsOpenChars_append hclosed]
  induction n using Nat.twoStepInduction with
  | zero => rfl
  | one => rfl
  | more n ih _ =>
    rw [List.replicate_succ, List.replicate_succ, endsOpenChars, if_pos ⟨rfl, rfl⟩, ih]
    exact decide_eq_decide.2 (by omega)

/-! ## Texts without escapes -/

theorem expandChars_plain {s : List Char} (h : '\\' ∉ s) : expandChars s = s := by
  induction s with
  | nil => rfl
  | cons c r ih =>
    have hc : c ≠ '\\' := fun heq => h (heq ▸ List.mem_cons_self)
    rw [expandChars_cons hc, ih fun hr => h (List.mem_cons_of_mem _ hr)]

theorem expandChars_kept {d : Char} (h : letter? d = none) (r : List Char) :
    expandChars ('\\' :: d :: r) = '\\' :: d :: expandChars r := by
  have hd : d ≠ '\\' := by
    rintro rfl
    cases h
  rw [expandChars_literal (by simp [h]), expandChars_cons hd]

theorem letter?_eq_none_iff {d : Char} : letter? d = none ↔ d ∉ ['n', 'r', 't', '0', '\\'] := by
  unfold letter?
  split <;> simp_all

theorem expandChars_eq_nil_iff {s : List Char} : expandChars s = [] ↔ s = [] := by
  refine ⟨fun h => ?_, fun h => by rw [h]; rfl⟩
  unfold expandChars at h
  split at h
  · rfl
  · cases h
  · split at h
    · split at h <;> cases h
    · cases h

/-- What stands for a character can be typed. -/
theorem escapeChar_typed (d : Char) : ∀ c ∈ escapeChar d, c ∉ ['\n', '\r', '\t', '\x00'] := by
  unfold escapeChar
  split
  · simp
  · simp
  · simp
  · simp
  · simp
  · intro c hc
    obtain rfl := List.mem_singleton.1 hc
    simp_all

theorem escapeChars_typed (s : List Char) :
    ∀ c ∈ escapeChars s, c ∉ ['\n', '\r', '\t', '\x00'] := by
  intro c hc
  obtain ⟨d, -, hd⟩ := List.mem_flatMap.1 hc
  exact escapeChar_typed d c hd

/-! ## Texts -/

theorem expand_append_iff (a : String) :
    (∀ b, expand (a ++ b) = expand a ++ expand b) ↔ endsOpen a = false := by
  rw [endsOpen, ← expandChars_append_iff]
  refine ⟨fun h b => ?_, fun h b => ?_⟩
  · have hb := congrArg String.toList (h (String.ofList b))
    simpa [expand] using hb
  · simp [expand, h]

theorem expand_eq_empty_iff (raw : String) : expand raw = "" ↔ raw = "" := by
  rw [← String.toList_eq_nil_iff, ← String.toList_eq_nil_iff, expand, String.toList_ofList,
    expandChars_eq_nil_iff]

theorem expand_kept {c : Char} (h : c ∉ ['n', 'r', 't', '0', '\\']) (b : String) :
    expand (String.ofList ['\\', c] ++ b) = String.ofList ['\\', c] ++ expand b := by
  rw [← String.toList_inj]
  simp [expand, expandChars_kept (letter?_eq_none_iff.2 h)]

/-- Every text can be typed, and is the delimiter of every command line that it is added to: its typed
form holds no line break, tab or NUL and stands for it, and nothing else changes. Two texts one after the
other stand for what they stand for alone, whatever the second is, if and only if the first does not end
on a backslash that waits for its letter, which it does if an odd number of backslashes stands at its
end. What has no backslash stands for itself, and so does a backslash before a character that makes no
escape with it or at the end. Only of nothing comes nothing. -/
theorem typed_delimiter_read_back :
    (∀ s, expand (escape s) = s ∧
      (∀ c ∈ (escape s).toList, c ∉ ['\n', '\r', '\t', '\x00']) ∧
      ∀ (args : List String) (env : Environment),
        (∀ arg ∈ args, ¬ Shape.IsFlag .delimiter arg) →
        Invocation.ofArguments ("start" :: ("--tail-delimiter=" ++ escape s) :: args) env =
          (Invocation.ofArguments ("start" :: args) env).map (·.withDelimiter s)) ∧
    (∀ a, ((∀ b, expand (a ++ b) = expand a ++ expand b) ↔ endsOpen a = false) ∧
      (a.toList.getLast? ≠ some '\\' → ∀ n,
        endsOpen (a ++ String.ofList (List.replicate n '\\')) = decide (n % 2 = 1))) ∧
    (∀ raw : String, '\\' ∉ raw.toList → expand raw = raw) ∧
    (∀ a, endsOpen a = false →
      (∀ c ∉ ['n', 'r', 't', '0', '\\'], ∀ b,
        expand (a ++ String.ofList ['\\', c] ++ b) =
          expand a ++ String.ofList ['\\', c] ++ expand b) ∧
      expand (a ++ "\\") = expand a ++ "\\") ∧
    ∀ raw, expand raw = "" ↔ raw = "" := by
  refine ⟨fun s => ⟨expand_escape s, ?_, fun args env hargs => ?_⟩,
    fun a => ⟨expand_append_iff a, fun ha n => ?_⟩, fun raw hraw => ?_,
    fun a ha => ⟨fun c hc b => ?_, ?_⟩, expand_eq_empty_iff⟩
  · rw [escape, String.toList_ofList]
    exact escapeChars_typed s.toList
  · rw [Invocation.ofArguments_delimiter _ hargs, expand_escape]
  · rw [endsOpen, String.toList_append, String.toList_ofList]
    exact endsOpenChars_replicate ha n
  · rw [expand, expandChars_plain hraw, String.ofList_toList]
  · rw [String.append_assoc, (expand_append_iff a).2 ha, expand_kept hc, String.append_assoc]
  · rw [(expand_append_iff a).2 ha]
    rfl

/-- A line break on a command line, a backslash before a letter that makes no escape with it, and two
backslashes before one that does. -/
theorem typed_delimiter_read_back_line_break :
    let o : RunOptions := .ofValues (Values.empty.put .tailPaths [.ofString "/a"])
    Invocation.ofArguments ["start", "--tail-delimiter=\\r\\n", "--tail-paths=/a"] (fun _ => none) =
        .ok ⟨.text, .start (o.withDelimiter "\r\n")⟩ ∧
      expand "\\\\\\q|" = "\\\\q|" ∧ expand "\\\\n" = "\\n" := by
  intro o
  obtain ⟨hread, happend, -, hkept, -⟩ := typed_delimiter_read_back
  obtain ⟨-, -, hgiven⟩ := hread "\r\n"
  have hflags : ∀ arg ∈ ["--tail-paths=/a"], ¬ Shape.IsFlag .delimiter arg := by
    rintro _ hmem ⟨value, hshape⟩
    obtain rfl := List.mem_singleton.1 hmem
    have hname : Flag.tailPaths.name = Flag.delimiter.name := (Shape.long.inj hshape).1
    exact absurd hname (by decide)
  have hwithout : Invocation.ofArguments ["start", "--tail-paths=/a"] (fun _ => none) =
      .ok ⟨.text, .start o⟩ := by rfl
  refine ⟨?_, ?_, ?_⟩
  · have h := hgiven ["--tail-paths=/a"] (fun _ => none) hflags
    rw [hwithout] at h
    exact h
  · exact (hkept "\\\\" (by decide)).1 'q' (by decide) "|"
  · exact (happend "\\\\").1.2 (by decide) "n"

end Escape
end FileTail
