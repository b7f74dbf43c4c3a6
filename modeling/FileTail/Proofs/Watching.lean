import Mathlib.Data.List.Nodup
import FileTail.Watch.Watcher

/-!
# FileTail.Proofs.Watching

All watched files together: which there are, in what order, and which of them are reserved.

* `Watcher.new_watches`: each file of the settings is watched once, under its first spelling.
* `Watches.look`, `Watches.release`, `Watches.startRound`: the watched files stay the same.
* `isReserved_look`, `isReserved_release`, `Watches.isReserved_startRound`: only a round reserves,
  and only a release ends that.
* `Watches.idlePaths_eq`: a round takes the files that are not reserved, in watch order.
-/

namespace FileTail

namespace Path

/-- The paths without those that name the file of an earlier one. -/
def distinct (ps : List Path) : List Path := ps.eraseDupsBy fun p q => p.key == q.key

theorem distinct_cons (p : Path) (ps : List Path) :
    distinct (p :: ps) = p :: distinct (ps.filter fun q => q.key ≠ p.key) := by
  simp [distinct, List.eraseDupsBy_cons]

theorem distinct_sublist : (ps : List Path) → (distinct ps).Sublist ps
  | [] => .slnil
  | p :: ps => by
    rw [distinct_cons]
    exact ((distinct_sublist _).trans List.filter_sublist).cons_cons p
termination_by ps => ps.length
decreasing_by exact Nat.lt_succ_of_le (List.length_filter_le _ _)

theorem distinct_nodup : (ps : List Path) → ((distinct ps).map key).Nodup
  | [] => .nil
  | p :: ps => by
    rw [distinct_cons, List.map_cons, List.nodup_cons]
    refine ⟨fun hp => ?_, distinct_nodup _⟩
    obtain ⟨q, hq, hkey⟩ := List.mem_map.1 hp
    have hne := (List.mem_filter.1 ((distinct_sublist _).mem hq)).2
    simp [hkey] at hne
termination_by ps => ps.length
decreasing_by exact Nat.lt_succ_of_le (List.length_filter_le _ _)

theorem mem_keys_distinct {p : Path} : {ps : List Path} → p ∈ ps → p.key ∈ (distinct ps).map key
  | q :: ps, h => by
    rw [distinct_cons, List.map_cons, List.mem_cons]
    by_cases hkey : p.key = q.key
    · exact .inl hkey
    · have hp : p ∈ ps := (List.mem_cons.1 h).resolve_left fun hpq => hkey (hpq ▸ rfl)
      exact .inr (mem_keys_distinct (List.mem_filter.2 ⟨hp, by simpa using hkey⟩))
termination_by ps => ps.length
decreasing_by exact Nat.lt_succ_of_le (List.length_filter_le _ _)

end Path

namespace Watcher

variable {w : Watcher} {ps : List Path}

/-- The watched files are `ps`, in this order. -/
def Watches (w : Watcher) (ps : List Path) : Prop :=
  w.files.entries.map (fun e => (e.1, e.2.path)) = ps.map fun p => (p.key, p)

theorem watch_entries (files : Table Path.Key Watched) (p : Path) :
    (watch files p).entries =
      files.entries ++ if files.contains p.key then [] else [(p.key, ⟨p, .fresh, false⟩)] := by
  unfold watch
  split
  · simp
  · rename_i h
    exact Table.entries_put_new _ (by simpa [Table.contains] using h)

theorem contains_watch (files : Table Path.Key Watched) (p : Path) (k : Path.Key) :
    (watch files p).contains k = (files.contains k || decide (k = p.key)) := by
  unfold watch
  split
  · rename_i h
    by_cases hk : k = p.key
    · rw [hk, h]
      simp
    · simp [hk]
  · by_cases hk : k = p.key
    · rw [hk]
      simp [Table.contains, Table.get?_put_same]
    · simp only [Table.contains, Table.get?_put_other _ _ (Ne.symm hk), hk, decide_false, Bool.or_false]

theorem foldl_watch_entries (files : Table Path.Key Watched) (ps : List Path) :
    (ps.foldl watch files).entries = files.entries ++
      (Path.distinct (ps.filter fun p => !files.contains p.key)).map
        fun p => (p.key, ⟨p, .fresh, false⟩) := by
  induction ps generalizing files with
  | nil => simp [Path.distinct, List.eraseDupsBy, List.eraseDupsBy.loop]
  | cons p ps ih =>
    rw [List.foldl_cons, ih, watch_entries]
    simp only [contains_watch]
    cases h : files.contains p.key with
    | true =>
      have hsame : ps.filter (fun q => !(files.contains q.key || decide (q.key = p.key))) =
          ps.filter fun q => !files.contains q.key := by
        refine List.filter_congr fun q _ => ?_
        by_cases hkey : q.key = p.key
        · simp [hkey, h]
        · simp [hkey]
      rw [hsame, List.filter_cons_of_neg (by simp [h]), if_pos rfl, List.append_nil]
    | false =>
      have hother : ps.filter (fun q => !(files.contains q.key || decide (q.key = p.key))) =
          (ps.filter fun q => !files.contains q.key).filter fun q => q.key ≠ p.key := by
        rw [List.filter_filter]
        refine List.filter_congr fun q _ => ?_
        by_cases hkey : q.key = p.key <;> simp [hkey]
      rw [hother, List.filter_cons_of_pos (by simp [h]), Path.distinct_cons]
      simp

theorem new_watches (ps : List Path) (chunk? : Option Nat) (threshold cooldown : Nat) :
    (new ps chunk? threshold cooldown).Watches (Path.distinct ps) := by
  have hentries := foldl_watch_entries .empty ps
  have hall : ps.filter (fun p => !(Table.empty : Table Path.Key Watched).contains p.key) = ps := by
    simp [Table.contains, Table.get?_empty]
  rw [hall] at hentries
  rw [Watches, new, hentries, Table.empty, List.nil_append, List.map_map]
  rfl

/-- At first nothing is known of a file, and none is reserved. -/
theorem new_file {ps : List Path} {chunk? : Option Nat} {threshold cooldown : Nat} {k : Path.Key}
    {f : Watched} (h : (new ps chunk? threshold cooldown).files.get? k = some f) :
    ∃ q, f = ⟨q, .fresh, false⟩ := by
  have hmem := Table.mem_of_get? h
  simp only [new, foldl_watch_entries, Table.empty, List.nil_append, List.mem_map] at hmem
  obtain ⟨q, -, hq⟩ := hmem
  exact ⟨q, (Prod.mk.inj hq).2.symm⟩

theorem new_isReserved (ps : List Path) (chunk? : Option Nat) (threshold cooldown : Nat)
    (p : Path) : (new ps chunk? threshold cooldown).isReserved p = false := by
  unfold isReserved
  split
  · rfl
  · rename_i f hf
    obtain ⟨q, rfl⟩ := new_file hf
    rfl

theorem new_record {ps : List Path} {chunk? : Option Nat} {threshold cooldown : Nat} {p : Path}
    {r : FileRecord} (h : (new ps chunk? threshold cooldown).record? p = some r) : r = .fresh := by
  obtain ⟨f, hf, rfl⟩ := Option.map_eq_some_iff.1 h
  obtain ⟨q, rfl⟩ := new_file hf
  rfl

theorem Watches.keys (h : w.Watches ps) : w.files.entries.map (·.1) = ps.map Path.key := by
  have := congrArg (List.map Prod.fst) h
  simpa [Function.comp_def] using this

theorem Watches.paths (h : w.Watches ps) : w.paths = ps := by
  have := congrArg (List.map Prod.snd) h
  simpa [Watcher.paths, Table.values, Function.comp_def] using this

theorem Watches.path_key (h : w.Watches ps) {e : Path.Key × Watched} (he : e ∈ w.files.entries) :
    e.2.path.key = e.1 := by
  have hmem : (e.1, e.2.path) ∈ ps.map fun p => (p.key, p) := by
    rw [← h]
    exact List.mem_map.2 ⟨e, he, rfl⟩
  obtain ⟨p, -, hp⟩ := List.mem_map.1 hmem
  obtain ⟨hkey, hpath⟩ := Prod.mk.inj hp
  rw [← hpath, hkey]

theorem isReserved_of_key (w : Watcher) {p q : Path} (h : q.key = p.key) :
    w.isReserved q = w.isReserved p := by
  simp only [isReserved, h]

/-! ## What a look, a release and a round change -/

theorem Watches.adjust (h : w.Watches ps) {w' : Watcher} {k : Path.Key} (f : Watched → Watched)
    (hw : w'.files = w.files.adjust k f) (hf : ∀ e, (f e).path = e.path) : w'.Watches ps := by
  unfold Watches
  rw [hw, Table.map_entries_adjust _ _ fun e => by rw [hf]]
  exact h

theorem look_files (w : Watcher) (now : Nat) (p : Path) (s : Sighting) :
    (w.look now p s).1.files = w.files ∨
      ∃ record, (w.look now p s).1.files =
        w.files.adjust p.key fun f => { f with record := record } := by
  unfold look
  split
  · exact .inl rfl
  · cases s with
    | seen fingerprint => exact .inr ⟨_, rfl⟩
    | _ => exact .inl rfl

theorem Watches.look (h : w.Watches ps) (now : Nat) (p : Path) (s : Sighting) :
    (w.look now p s).1.Watches ps := by
  obtain hfiles | ⟨record, hfiles⟩ := w.look_files now p s
  · unfold Watches
    rw [hfiles]
    exact h
  · exact h.adjust _ hfiles fun _ => rfl

theorem Watches.release (h : w.Watches ps) (p : Path) (v : Verdict) : (w.release p v).Watches ps :=
  h.adjust _ rfl fun _ => rfl

theorem Watches.startRound (h : w.Watches ps) : w.startRound.2.Watches ps := by
  unfold Watches Watcher.startRound
  rw [List.map_map]
  exact h

theorem isReserved_look (w : Watcher) (now : Nat) (p : Path) (s : Sighting) (q : Path) :
    (w.look now p s).1.isReserved q = w.isReserved q := by
  obtain hfiles | ⟨record, hfiles⟩ := w.look_files now p s
  · simp only [isReserved, hfiles]
  · simp only [isReserved, hfiles]
    by_cases hk : p.key = q.key
    · rw [← hk, Table.get?_adjust_same]
      cases w.files.get? p.key <;> rfl
    · rw [Table.get?_adjust_other _ _ hk]

theorem isReserved_release (w : Watcher) (p : Path) (v : Verdict) (q : Path) :
    (w.release p v).isReserved q = (decide (q.key ≠ p.key) && w.isReserved q) := by
  simp only [isReserved, release]
  by_cases hk : p.key = q.key
  · rw [← hk, Table.get?_adjust_same]
    cases w.files.get? p.key <;> simp
  · rw [Table.get?_adjust_other _ _ hk]
    simp [Ne.symm hk]

theorem Watches.isReserved_startRound (h : w.Watches ps) (q : Path) :
    w.startRound.2.isReserved q = true ↔ q.key ∈ ps.map Path.key := by
  rw [← h.keys, Table.mem_keys_iff]
  simp only [isReserved, get?_startRound]
  cases w.files.get? q.key <;> simp

theorem Watches.mem_of_isReserved (h : w.Watches ps) {q : Path} (hq : w.isReserved q = true) :
    q.key ∈ ps.map Path.key := by
  rw [← h.keys, Table.mem_keys_iff]
  unfold isReserved at hq
  split at hq
  · cases hq
  · rename_i hget
    rw [hget]
    rfl

/-- A round takes the files that are not reserved, in watch order. -/
theorem Watches.idlePaths_eq (h : w.Watches ps) (hps : (ps.map Path.key).Nodup) :
    w.idlePaths = ps.filter fun p => !w.isReserved p := by
  have hentry : ∀ e ∈ w.files.entries, w.isReserved e.2.path = e.2.reserved := by
    intro e he
    have hget := Table.get?_of_mem (h.keys ▸ hps) he
    rw [← h.path_key he] at hget
    simp only [isReserved, hget]
  rw [← h.paths, Watcher.paths, Watcher.idlePaths, Table.values, List.map_map, List.filter_map,
    List.filter_map, List.map_map]
  congr 1
  exact List.filter_congr fun e he => by simp [hentry e he]

end Watcher
end FileTail
