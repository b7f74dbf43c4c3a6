import FileTail.Proofs.Range
import FileTail.Proofs.Succession

/-!
# FileTail.Proofs.Heads

The head of a file is compared as one number under a mask, and what that compares is the first bytes:
a later head follows an earlier one exactly if the bytes of the earlier one begin those of the later
one. So heads are ordered by it, and a file of which every head follows the one before it still begins
as it did at first.

* `Bytes.bigEndian_inj`: of a given length, different bytes are different numbers.
* `Head.follows_ofBytes_iff`, `Head.ofBytes_eq_iff`: following and equality of heads, as lists of bytes.
* `Head.follows_trans`: following goes on over any number of heads.
* `Head.follows_tests_prefix`: all of it, with the comparison in 64 bits.
* `FileRecord.notes_head`: until a replacement is reported, every head seen of a file follows the
  first one; `Call.beginning_kept`: so the file begins as it did.
-/

namespace FileTail

namespace Bytes

theorem bigEndian_replicate_zero (n : Nat) : bigEndian (List.replicate n 0) = 0 := by
  induction n with
  | zero => rfl
  | succ n ih =>
    rw [List.replicate_succ, bigEndian_cons, ih]
    simp

theorem bigEndian_inj {a b : Bytes} (hlen : a.length = b.length)
    (h : bigEndian a = bigEndian b) : a = b := by
  induction a generalizing b with
  | nil => exact (List.length_eq_zero_iff.1 hlen.symm).symm
  | cons x a ih =>
    cases b with
    | nil => cases hlen
    | cons y b =>
      have hrest : a.length = b.length := Nat.succ.inj hlen
      have ha := bigEndian_lt a
      have hb := bigEndian_lt b
      rw [hrest] at ha
      rw [bigEndian_cons, bigEndian_cons, hrest, Nat.mul_comm, Nat.mul_comm y.toNat] at h
      -- the first byte is the quotient by the weight of the others, and they are what is left
      have hfirst := congrArg (· / weight b.length) h
      have hmore := congrArg (· % weight b.length) h
      simp only [Nat.mul_add_div (weight_pos _), Nat.div_eq_of_lt ha, Nat.div_eq_of_lt hb,
        Nat.add_zero] at hfirst
      simp only [Nat.mul_add_mod, Nat.mod_eq_of_lt ha, Nat.mod_eq_of_lt hb] at hmore
      rw [UInt8.toNat_inj.1 hfirst, ih hrest hmore]

end Bytes

namespace Head

/-! ## Heads as bytes -/

/-- What is packed are the first bytes with zeros behind them. -/
theorem value_ofBytes (bytes : Bytes) :
    (ofBytes bytes).value =
      Bytes.bigEndian (bytes.take capacity ++ List.replicate (capacity - bytes.length) 0) := by
  have hlen : capacity - (bytes.take capacity).length = capacity - bytes.length := by
    rw [List.length_take]
    omega
  rw [Bytes.bigEndian_append, Bytes.bigEndian_replicate_zero, List.length_replicate, Nat.add_zero,
    ← hlen]
  rfl

/-- Zeros at the end of a short file do not show in the number. -/
theorem value_append_zeros {bytes : Bytes} {n : Nat} (h : bytes.length + n ≤ capacity) :
    (ofBytes (bytes ++ List.replicate n 0)).value = (ofBytes bytes).value := by
  have hlen : (bytes ++ List.replicate n (0 : UInt8)).length = bytes.length + n := by simp
  have hrest : n + (capacity - (bytes.length + n)) = capacity - bytes.length := by omega
  rw [value_ofBytes, value_ofBytes, List.take_of_length_le (by omega),
    List.take_of_length_le (by omega), hlen, List.append_assoc, List.replicate_append_replicate,
    hrest]

theorem follows_iff {later earlier : Head} :
    later.follows earlier = true ↔ earlier.length ≤ later.length ∧
      later.leading earlier.length = earlier.leading earlier.length := by
  rw [follows, Bool.and_eq_true, decide_eq_true_iff, beq_iff_eq]

theorem follows_ofBytes_iff (a b : Bytes) :
    (ofBytes a).follows (ofBytes b) = true ↔ b.take capacity <+: a.take capacity := by
  refine ⟨fun h => ?_, fun h => ?_⟩
  · obtain ⟨hle, hlead⟩ := follows_iff.1 h
    rw [leading_ofBytes a hle, leading_ofBytes b (Nat.le_refl _), length_ofBytes] at hlead
    rw [length_ofBytes, length_ofBytes] at hle
    have hcut : a.take (min capacity b.length) = b.take (min capacity b.length) := by
      refine Bytes.bigEndian_inj ?_ hlead
      rw [List.length_take, List.length_take]
      omega
    rw [List.take_eq_take_min, ← hcut]
    exact List.take_prefix_take_left (Nat.min_le_left _ _)
  · rw [← ofBytes_take a, ← ofBytes_take b]
    exact follows_of_prefix h

theorem ofBytes_eq_iff (a b : Bytes) :
    ofBytes a = ofBytes b ↔ a.take capacity = b.take capacity := by
  refine ⟨fun h => ?_, fun h => by rw [← ofBytes_take a, h, ofBytes_take]⟩
  have hab := (follows_ofBytes_iff a b).1 (h ▸ follows_self _)
  have hba := (follows_ofBytes_iff b a).1 (h ▸ follows_self _)
  exact hba.eq_of_length (Nat.le_antisymm hba.length_le hab.length_le)

/-! ## The order of heads -/

theorem Packed.antisymm {h k : Head} (hp : h.Packed) (kp : k.Packed) (hk : h.follows k = true)
    (kh : k.follows h = true) : h = k := by
  obtain ⟨a, rfl⟩ := hp
  obtain ⟨b, rfl⟩ := kp
  have hba := (follows_ofBytes_iff a b).1 hk
  have hab := (follows_ofBytes_iff b a).1 kh
  exact (ofBytes_eq_iff a b).2 (hab.eq_of_length (Nat.le_antisymm hab.length_le hba.length_le))

/-- The first of more leading bytes. -/
theorem leading_of_le (h : Head) {m n : Nat} (hle : m ≤ n) :
    h.leading m = h.leading n / Bytes.weight (capacity - m - (capacity - n)) := by
  have hsplit : capacity - m = capacity - n + (capacity - m - (capacity - n)) := by omega
  rw [leading, leading, Nat.div_div_eq_div_mul, ← Bytes.weight_add, ← hsplit]

theorem follows_trans {earliest earlier later : Head} (h : later.follows earlier = true)
    (h' : earlier.follows earliest = true) : later.follows earliest = true := by
  obtain ⟨hle, hlead⟩ := follows_iff.1 h
  obtain ⟨hle', hlead'⟩ := follows_iff.1 h'
  refine follows_iff.2 ⟨Nat.le_trans hle' hle, ?_⟩
  rw [← hlead', later.leading_of_le hle', earlier.leading_of_le hle', hlead]

theorem follows_of_isChain {first : Head} {heads : List Head}
    (h : (first :: heads).IsChain fun earlier later => later.follows earlier = true) :
    ∀ head ∈ first :: heads, head.follows first = true := by
  induction heads generalizing first with
  | nil =>
    intro head hmem
    rw [List.mem_singleton.1 hmem]
    exact follows_self first
  | cons next heads ih =>
    obtain ⟨hnext, hrest⟩ := List.isChain_cons_cons.1 h
    intro head hmem
    rcases List.mem_cons.1 hmem with rfl | hmem
    · exact follows_self head
    · exact follows_trans (ih hrest head hmem) hnext

/-- A head follows another one exactly if the first bytes of the other file are a beginning of those of
its own, and the comparison in 64 bits says so for all bytes. Equal heads are heads of the same first
bytes: zeros at the end do not show in the number, but the length tells them apart. So following is a
partial order on heads, in which a file comes after itself when bytes are appended, and if each of a
row of heads follows the one before it, the last follows the first. -/
theorem follows_tests_prefix :
    (∀ a b : Bytes,
      ((ofBytes a).follows (ofBytes b) = true ↔ b.take capacity <+: a.take capacity) ∧
      (ofBytes a).follows? (ofBytes b) = some ((ofBytes a).follows (ofBytes b)) ∧
      (ofBytes a = ofBytes b ↔ a.take capacity = b.take capacity) ∧
      (ofBytes (a ++ b)).follows (ofBytes a) = true) ∧
    (∀ (a : Bytes) (n : Nat), 0 < n → a.length + n ≤ capacity →
      (ofBytes (a ++ List.replicate n 0)).value = (ofBytes a).value ∧
      ofBytes (a ++ List.replicate n 0) ≠ ofBytes a) ∧
    (∀ h : Head, h.follows h = true) ∧
    (∀ h k : Head, h.Packed → k.Packed → h.follows k = true → k.follows h = true → h = k) ∧
    (∀ h k l : Head, l.follows k = true → k.follows h = true → l.follows h = true) ∧
    ∀ heads : List Head,
      heads.IsChain (fun earlier later => later.follows earlier = true) →
      ∀ first ∈ heads.head?, ∀ last ∈ heads.getLast?, last.follows first = true := by
  refine ⟨fun a b => ⟨follows_ofBytes_iff a b, follows?_eq ⟨a, rfl⟩ ⟨b, rfl⟩, ofBytes_eq_iff a b,
    follows_of_prefix (List.prefix_append a b)⟩, fun a n hn hfits => ?_, follows_self,
    fun h k => Packed.antisymm, fun h k l => follows_trans,
    fun heads hchain first hfirst last hlast => ?_⟩
  · refine ⟨value_append_zeros hfits, fun heq => ?_⟩
    have hlen := congrArg Head.length heq
    rw [length_ofBytes, length_ofBytes, List.length_append, List.length_replicate] at hlen
    omega
  · obtain ⟨rest, rfl⟩ := List.head?_eq_some_iff.1 hfirst
    exact follows_of_isChain hchain last (List.mem_of_getLast? hlast)

/-- A file that grows from nothing over a NUL byte to more than a head, and two heads of which the files
differ behind them. -/
theorem follows_tests_prefix_nul :
    let full : Bytes := [0, 0, 1, 2, 3, 4, 5, 6, 7]
    let other : Bytes := [0, 0, 1, 2, 3, 4, 5, 6, 8]
    (ofBytes full).follows (ofBytes []) = true ∧ ofBytes full = ofBytes other ∧
      (ofBytes ([] ++ List.replicate 1 0)).value = (ofBytes []).value ∧
      ofBytes ([] ++ List.replicate 1 0) ≠ ofBytes [] := by
  intro full other
  obtain ⟨-, hzeros, -, hantisymm, -, hchain⟩ := follows_tests_prefix
  refine ⟨?_, ?_, hzeros [] 1 (by decide) (by decide)⟩
  · exact hchain [ofBytes [], ofBytes [0], ofBytes [0, 0], ofBytes full] (by decide +kernel) _ rfl _
      rfl
  · exact hantisymm _ _ ⟨full, rfl⟩ ⟨other, rfl⟩ (by decide +kernel) (by decide +kernel)

end Head

/-! ## Heads that were seen -/

namespace FileRecord

variable {chunk? : Option Nat} {r : FileRecord} {last first : Fingerprint}

/-- Without a replacement what is recorded then, and what was seen, follows what was recorded before. -/
theorem note_head (hlast : r.last = some last) (n : Note)
    (hkept : ∀ c ∈ (r.note chunk? n).2, c.replaced = false) :
    (∃ last', (r.note chunk? n).1.last = some last' ∧ last'.head.follows last.head = true) ∧
      ∀ seen, n = .seen seen → seen.head.follows last.head = true := by
  cases n with
  | concluded v =>
    refine ⟨⟨last, ?_, Head.follows_self _⟩, by rintro seen ⟨⟩⟩
    rw [note, conclude_last]
    exact hlast
  | seen fingerprint =>
    rcases hlook : r.look chunk? fingerprint with ⟨r', _ | c⟩
    · obtain ⟨hnone, -⟩ | ⟨last', hlast', hfollows, -, -, rfl⟩ := look_quiet hlook
      · rw [hlast] at hnone
        cases hnone
      · obtain rfl : last = last' := Option.some.inj (hlast.symm.trans hlast')
        rw [note, hlook]
        exact ⟨⟨last, rfl, Head.follows_self _⟩, by rintro seen ⟨⟩; exact hfollows⟩
    · obtain ⟨last', hlast', hreplaced, -, -, rfl⟩ := look_change hlook
      obtain rfl : last = last' := Option.some.inj (hlast.symm.trans hlast')
      have hfollows : fingerprint.head.follows last.head = true := by
        rw [hkept c (by rw [note, hlook]; rfl)] at hreplaced
        simpa using hreplaced.symm
      rw [note, hlook]
      exact ⟨⟨_, rfl, hfollows⟩, by rintro seen ⟨⟩; exact hfollows⟩

/-- As long as no replacement is reported, every head that is seen follows the first one. -/
theorem notes_head (hfirst : r.last = some first) {ns : List Note}
    (hkept : ∀ c ∈ (r.notes chunk? ns).2, c.replaced = false) :
    ∀ seen, .seen seen ∈ ns → seen.head.follows first.head = true := by
  induction ns generalizing r first with
  | nil => simp
  | cons n ns ih =>
    rw [notes_cons] at hkept
    obtain ⟨⟨last, hlast, hfollows⟩, hn⟩ := note_head hfirst n fun c hc =>
      hkept c (List.mem_append_left _ (Option.mem_toList.2 hc))
    intro seen hmem
    rcases List.mem_cons.1 hmem with rfl | hmem
    · exact hn seen rfl
    · have hrest := ih hlast (fun c hc => hkept c (List.mem_append_right _ hc)) seen hmem
      exact Head.follows_trans hrest hfollows

end FileRecord

/-- Until a replacement of a file is reported, it begins at every look as it did when it was recorded. -/
theorem Call.beginning_kept {x : Watcher × Reader} {p : Path} {r : FileRecord}
    (h : x.1.record? p = some r) {first : Fingerprint} (hfirst : r.last = some first) {old : Bytes}
    (hold : first.head = .ofBytes old) {calls : List Call}
    (hkept : ∀ c ∈ changes p.key x calls, c.replaced = false) {seen : Fingerprint}
    (hseen : .seen seen ∈ calls.filterMap (note? p.key)) {new : Bytes}
    (hnew : seen.head = .ofBytes new) : old.take Head.capacity <+: new.take Head.capacity := by
  rw [(run_record h calls).2] at hkept
  have hfollows := FileRecord.notes_head hfirst hkept seen hseen
  rw [hold, hnew] at hfollows
  exact (Head.follows_ofBytes_iff new old).1 hfollows

end FileTail
