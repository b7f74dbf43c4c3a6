import FileTail.Proofs.Boundaries
import FileTail.Proofs.JsonReader
import FileTail.Proofs.Validity

/-!
# FileTail.Proofs.Documents

The output for a batch is one JSON document on each line, and the documents tell the lines of the batch.
A document ends where its line ends, because nothing but the end of a line is written as a control
character.

* `Record`: what a document tells of a line; `Record.read?` reads it from the bytes of a document.
* `Json.IsPlain`: texts without control characters; `Line.isPlain_document`: documents are.
* `Line.read?_document`: a document is read back.
* `batch_reads_back`: what that means for the output of a batch.
-/

namespace FileTail

/-- A line without the time at which it was read. -/
structure Record where
  path : Path
  fileName : Option String
  text : String
deriving Repr, DecidableEq, Inhabited

namespace Json.Value

def text? : Value → Option String
  | .text s => some s
  | _ => none

/-- The member of an object with that name. -/
def member? (v : Value) (name : String) : Option Value :=
  match v with
  | .object ms => ms.lookup name
  | _ => none

end Json.Value

namespace Record

/-- What an object tells of a line; only the file name may be absent. -/
def ofValue? (v : Json.Value) : Option Record :=
  match (v.member? "path").bind (·.text?), (v.member? "line").bind (·.text?) with
  | some path, some text =>
    match v.member? "file_name" with
    | none => some ⟨.ofString path, none, text⟩
    | some name => name.text?.map fun name => ⟨.ofString path, some name, text⟩
  | _, _ => none

/-- Read a document in UTF-8. -/
def read? (doc : Bytes) : Option Record :=
  (Utf8.decode? doc).bind fun s => (Json.read? s.toList).bind ofValue?

end Record

/-! ## Texts without control characters -/

namespace Json

def IsPlain (cs : List Char) : Prop := ∀ c ∈ cs, 0x20 ≤ c.toNat

instance (cs : List Char) : Decidable (IsPlain cs) :=
  decidable_of_iff (cs.all fun c => 0x20 ≤ c.toNat) (by simp [IsPlain])

theorem IsPlain.append {a b : List Char} (ha : IsPlain a) (hb : IsPlain b) : IsPlain (a ++ b) :=
  fun c hc => (List.mem_append.1 hc).elim (ha c) (hb c)

theorem isPlain_escapeChar (c : Char) : IsPlain (escapeChar c) := by
  have hhex : ∀ n < 16, 0x20 ≤ (Path.hexDigit n).toNat := by decide
  unfold escapeChar
  split
  · decide
  · decide
  · decide
  · decide
  · decide
  · decide
  · decide
  · split
    · refine IsPlain.append (a := ['\\', 'u', '0', '0']) (by decide) ?_
      exact List.forall_mem_cons.2 ⟨hhex _ (by omega), List.forall_mem_singleton.2 (hhex _ (by omega))⟩
    · rename_i hplain
      exact List.forall_mem_singleton.2 (Nat.not_lt.1 hplain)

theorem isPlain_quote (s : String) : IsPlain (quote s) := by
  have hescaped : IsPlain (s.toList.flatMap escapeChar) := by
    intro d hd
    obtain ⟨c, -, hc⟩ := List.mem_flatMap.1 hd
    exact isPlain_escapeChar c d hc
  exact (IsPlain.append (by decide) hescaped).append (by decide)

theorem isPlain_toDigits (n : Nat) : IsPlain (Nat.toDigits 10 n) := by
  intro c hc
  have hdigit := Char.isDigit_iff_toNat.1 (Nat.isDigit_of_mem_toDigits (by omega) (by omega) hc)
  exact Nat.le_trans (by decide) hdigit.1

theorem isPlain_members {ms : List (String × List Char)} (h : ∀ m ∈ ms, IsPlain m.2) :
    IsPlain (members ms) := by
  induction ms with
  | nil => exact List.forall_mem_nil _
  | cons m ms ih =>
    rw [List.forall_mem_cons] at h
    have hfirst : IsPlain (quote m.1 ++ [':'] ++ m.2) := ((isPlain_quote _).append (by decide)).append h.1
    cases ms with
    | nil => exact hfirst
    | cons next ms => exact (hfirst.append (by decide)).append (ih h.2)

theorem isPlain_object {ms : List (String × List Char)} (h : ∀ m ∈ ms, IsPlain m.2) :
    IsPlain (object ms) :=
  (IsPlain.append (by decide) (isPlain_members h)).append (by decide)

/-- Without control characters there is no end of a line. -/
theorem IsPlain.newline_not_mem {cs : List Char} (h : IsPlain cs) :
    0x0A ∉ Utf8.encode (String.ofList cs) := by
  rw [Utf8.encode, String.toList_ofList, List.mem_flatMap]
  rintro ⟨c, hc, hnewline⟩
  obtain ⟨b, rest, hbytes, -, hrest⟩ := Utf8.exists_encodeChar c
  rw [hbytes, List.mem_cons] at hnewline
  rcases hnewline with rfl | hnewline
  · -- the bytes of a newline start no other character
    have hstarts : Utf8.encodeChar '\n' <+: Utf8.encodeChar c := by
      rw [hbytes]
      exact List.cons_prefix_cons.2 ⟨rfl, List.nil_prefix⟩
    obtain rfl := Utf8.transcribes.eq_of_starts hstarts
    exact absurd (h _ hc) (by decide)
  · exact absurd (hrest _ hnewline).1 (by decide)

end Json

namespace Line

def record (l : Line) : Record := ⟨l.path, l.fileName, l.text⟩

/-- The members of the document of a line, where `path` is the text of its path. -/
def members (l : Line) (path : String) : List (String × Json.Value) :=
  [("path", .text path)] ++ l.fileName.toList.map (fun n => ("file_name", .text n)) ++
    [("line", .text l.text), ("observed_time_unix_nano", .number (Nat.toDigits 10 l.readAt))]

variable {l : Line}

theorem read?_toJson {path : String} {text : List Char} (hpath : l.path = .ofString path)
    (h : l.toJson = .ok text) : Json.read? text = some (.object (l.members path)) := by
  rw [toJson, hpath, Path.toText?_eq_some_iff.2 rfl] at h
  cases h
  refine Json.read?_object (List.cons_ne_nil _ _) ?_
  have hlast : List.Forall₂ (fun m v => m.1 = v.1 ∧ Json.Writes m.2 v.2)
      [("line", Json.quote l.text), ("observed_time_unix_nano", Nat.toDigits 10 l.readAt)]
      [("line", .text l.text), ("observed_time_unix_nano", .number (Nat.toDigits 10 l.readAt))] :=
    .cons ⟨rfl, Json.writes_quote _⟩ (.cons ⟨rfl, Json.writes_toDigits _⟩ .nil)
  refine .cons ⟨rfl, Json.writes_quote _⟩ ?_
  cases l.fileName with
  | none => exact hlast
  | some name => exact .cons ⟨rfl, Json.writes_quote _⟩ hlast

theorem ofValue?_members {path : String} (hpath : l.path = .ofString path) :
    Record.ofValue? (.object (l.members path)) = some l.record := by
  rw [record, hpath, members]
  cases l.fileName <;> rfl

theorem isPlain_toJson {text : List Char} (h : l.toJson = .ok text) : Json.IsPlain text := by
  unfold toJson at h
  split at h
  · cases h
  · cases h
    refine Json.isPlain_object fun m hm => ?_
    simp only [List.mem_append, List.mem_map, List.mem_cons, List.not_mem_nil,
      or_false] at hm
    rcases hm with (rfl | ⟨name, -, rfl⟩) | rfl | rfl
    · exact Json.isPlain_quote _
    · exact Json.isPlain_quote _
    · exact Json.isPlain_quote _
    · exact Json.isPlain_toDigits _

/-- A line whose path is text has a document, which is on one line and tells of it. -/
theorem exists_document (h : l.path.IsText) :
    ∃ text, l.toJson = .ok text ∧ 0x0A ∉ Utf8.encode (String.ofList text) ∧
      Record.read? (Utf8.encode (String.ofList text)) = some l.record := by
  obtain ⟨text, htext⟩ := toJson_ok (Path.isText_iff.1 h)
  obtain ⟨path, hpath⟩ := h
  refine ⟨text, htext, (isPlain_toJson htext).newline_not_mem, ?_⟩
  rw [Record.read?, Utf8.decode?_eq_some_iff.2 rfl, Option.bind_some, String.toList_ofList,
    read?_toJson hpath htext, Option.bind_some, ofValue?_members hpath]

/-- The documents of a batch, each with the end of its line. -/
theorem exists_documents {batch : List Line} (h : ∀ l ∈ batch, l.path.IsText) :
    ∃ (text : List Char) (docs : List Bytes), batchToJson batch = .ok text ∧
      Utf8.encode (String.ofList text) = docs.flatMap (· ++ [0x0A]) ∧
      (∀ doc ∈ docs, 0x0A ∉ doc) ∧ docs.map Record.read? = batch.map fun l => some l.record := by
  induction batch with
  | nil => exact ⟨[], [], rfl, rfl, List.forall_mem_nil _, rfl⟩
  | cons l batch ih =>
    rw [List.forall_mem_cons] at h
    obtain ⟨first, hfirst, hnewline, hread⟩ := exists_document h.1
    obtain ⟨text, docs, htext, hout, hdocs, hreads⟩ := ih h.2
    refine ⟨first ++ ['\n'] ++ text, Utf8.encode (String.ofList first) :: docs, ?_, ?_, ?_, ?_⟩
    · simp only [batchToJson, hfirst, htext]
    · rw [Utf8.encode_append, Utf8.encode_append, hout, List.flatMap_cons]
      rfl
    · exact List.forall_mem_cons.2 ⟨hnewline, hdocs⟩
    · rw [List.map_cons, List.map_cons, hread, hreads]

end Line

/-- Documents without the end of a line among them have as many of these as they are. -/
theorem count_newline_flatMap {docs : List Bytes} (h : ∀ doc ∈ docs, 0x0A ∉ doc) :
    (docs.flatMap (· ++ [0x0A])).count 0x0A = docs.length := by
  induction docs with
  | nil => rfl
  | cons doc docs ih =>
    rw [List.forall_mem_cons] at h
    rw [List.flatMap_cons, List.count_append, List.count_append, ih h.2, List.count_eq_zero_of_not_mem h.1,
      List.length_cons, List.count_singleton_self]
    omega

/-- What is written for a batch whose paths are text. There is an end of a line for each line of the
batch and no other, each behind one document, and the documents tell the paths, file names and texts of
the lines, one after the other. The output for two batches in one is that of the first followed by that
of the second. -/
theorem batch_reads_back {batch : List Line} (h : ∀ l ∈ batch, l.path.IsText) :
    ∃ text, Line.batchToJson batch = .ok text ∧
      let out := Utf8.encode (String.ofList text)
      out.count 0x0A = batch.length ∧
      (∃ docs : List Bytes, out = docs.flatMap (· ++ [0x0A]) ∧ (∀ doc ∈ docs, 0x0A ∉ doc) ∧
        docs.map Record.read? = batch.map fun l => some l.record) ∧
      ∀ more text', Line.batchToJson more = .ok text' →
        Line.batchToJson (batch ++ more) = .ok (text ++ text') ∧
        Utf8.encode (String.ofList (text ++ text')) = out ++ Utf8.encode (String.ofList text') := by
  obtain ⟨text, docs, htext, hout, hdocs, hreads⟩ := Line.exists_documents h
  refine ⟨text, htext, ?_, ⟨docs, hout, hdocs, hreads⟩, fun more text' hmore => ?_⟩
  · have hlength : docs.length = batch.length := by
      simpa using congrArg List.length hreads
    rw [hout, count_newline_flatMap hdocs, hlength]
  · exact ⟨Line.batchToJson_append htext hmore, Utf8.encode_append _ _⟩

/-- Texts with the end of a line, quotes, a backslash, control characters and a character of four bytes,
and a line without a file name. -/
theorem batch_reads_back_escapes :
    let batch : List Line :=
      [⟨.ofString "/a\n\"b\"", some "a\n\"b\"", "x\ny\x00\\\x1f", 7⟩, ⟨.ofString "/", none, "😀", 0⟩]
    (∀ l ∈ batch, l.path.IsText) ∧ ∃ text, Line.batchToJson batch = .ok text ∧
      (Utf8.encode (String.ofList text)).count 0x0A = 2 ∧
      ∃ docs : List Bytes, Utf8.encode (String.ofList text) = docs.flatMap (· ++ [0x0A]) ∧
        docs.map Record.read? =
          [some ⟨.ofString "/a\n\"b\"", some "a\n\"b\"", "x\ny\x00\\\x1f"⟩,
            some ⟨.ofString "/", none, "😀"⟩] := by
  intro batch
  have hpaths : ∀ l ∈ batch, l.path.IsText :=
    List.forall_mem_cons.2 ⟨⟨_, rfl⟩, List.forall_mem_singleton.2 ⟨_, rfl⟩⟩
  obtain ⟨text, htext, hcount, ⟨docs, hout, -, hreads⟩, -⟩ := batch_reads_back hpaths
  exact ⟨hpaths, text, htext, hcount, docs, hout, hreads⟩

end FileTail
