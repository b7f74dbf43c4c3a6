import FileTail.Proofs.Reservation
import FileTail.Proofs.Tailing

/-!
# FileTail.Proofs.Isolation

Files do not see each other. What the watcher and the reader keep is kept in tables for all files, and
so are the counts of failures; but a call about one file answers from, and changes, only what is kept
under that file's key.

* `Call.reply`, `Call.transcript`: what calls give back, and the part of it that is about one file.
* `Watcher.View`, `Reader.View`: what is kept of one file.
* `Call.view_other`: a call about another file leaves the view alone.
* `Call.reply_congr`: what a call about the file gives, and the view after it, depend on the view only.
* `files_do_not_interfere`: hence all calls about other files can be left out.
-/

namespace FileTail

/-! ## What is kept of one file -/

namespace Throttle

variable {φ : Type} [DecidableEq φ]

/-- What is counted of one file. -/
@[ext]
structure View (φ : Type) where
  threshold : Nat
  cooldown : Nat
  tally? : φ → Option Tally

def view (t : Throttle (φ × Path.Key)) (k : Path.Key) : View φ :=
  ⟨t.threshold, t.cooldown, fun fault => t.tallies.get? (fault, k)⟩

variable {t u : Throttle (φ × Path.Key)} {j k : Path.Key}

theorem view_fail_other (t : Throttle (φ × Path.Key)) (now : Nat) (fault : φ) (h : j ≠ k) :
    (t.fail now (fault, j)).2.view k = t.view k := by
  refine View.ext rfl rfl (funext fun other => ?_)
  have hne : (fault, j) ≠ (other, k) := fun heq => h (Prod.mk.inj heq).2
  exact Table.get?_put_other _ _ hne

theorem view_clear_other (t : Throttle (φ × Path.Key)) (fault : φ) (h : j ≠ k) :
    (t.clear (fault, j)).view k = t.view k := by
  refine View.ext rfl rfl (funext fun other => ?_)
  have hne : (fault, j) ≠ (other, k) := fun heq => h (Prod.mk.inj heq).2
  exact Table.get?_adjust_other _ _ hne

/-- A failure is counted, and found worth a message, by what is counted of its file. -/
theorem fail_congr (h : t.view k = u.view k) (now : Nat) (fault : φ) :
    (t.fail now (fault, k)).1 = (u.fail now (fault, k)).1 ∧
      (t.fail now (fault, k)).2.failures (fault, k) = (u.fail now (fault, k)).2.failures (fault, k) ∧
      (t.fail now (fault, k)).2.view k = (u.fail now (fault, k)).2.view k := by
  obtain ⟨hthreshold, hcooldown, htallies⟩ := View.ext_iff.1 h
  have htallies : ∀ other, t.tallies.get? (other, k) = u.tallies.get? (other, k) :=
    fun other => congrFun htallies other
  have hthreshold : t.threshold = u.threshold := hthreshold
  have hcooldown : t.cooldown = u.cooldown := hcooldown
  have htally : t.tally (fault, k) = u.tally (fault, k) := by simp only [tally, htallies]
  refine ⟨?_, ?_, View.ext hthreshold hcooldown (funext fun other => ?_)⟩
  · simp only [fail, htally, hthreshold, hcooldown]
  · rw [failures_fail_same, failures_fail_same, failures, failures, htally]
  · simp only [view, fail, htally, hthreshold, hcooldown]
    by_cases hother : fault = other
    · rw [hother, Table.get?_put_same, Table.get?_put_same]
    · have hne : (fault, k) ≠ (other, k) := fun heq => hother (Prod.mk.inj heq).1
      rw [Table.get?_put_other _ _ hne, Table.get?_put_other _ _ hne, htallies]

theorem clear_congr (h : t.view k = u.view k) (fault : φ) :
    (t.clear (fault, k)).view k = (u.clear (fault, k)).view k := by
  obtain ⟨hthreshold, hcooldown, htallies⟩ := View.ext_iff.1 h
  have htallies : ∀ other, t.tallies.get? (other, k) = u.tallies.get? (other, k) :=
    fun other => congrFun htallies other
  refine View.ext hthreshold hcooldown (funext fun other => ?_)
  simp only [view, clear]
  by_cases hother : fault = other
  · rw [hother, Table.get?_adjust_same, Table.get?_adjust_same, htallies]
  · have hne : (fault, k) ≠ (other, k) := fun heq => hother (Prod.mk.inj heq).1
    rw [Table.get?_adjust_other _ _ hne, Table.get?_adjust_other _ _ hne, htallies]

end Throttle

namespace Watcher

/-- What the watcher keeps of one file. -/
@[ext]
structure View where
  chunk? : Option Nat
  file? : Option Watched
  throttle : Throttle.View LookFault

def view (w : Watcher) (k : Path.Key) : View := ⟨w.chunk?, w.files.get? k, w.throttle.view k⟩

variable {w w' : Watcher} {p q : Path} {k : Path.Key} {ps : List Path}

theorem view_look_other (w : Watcher) (now : Nat) (s : Sighting) (h : q.key ≠ k) :
    (w.look now q s).1.view k = w.view k := by
  unfold look
  split
  · rfl
  · cases s with
    | missing => rfl
    | metadataFailed why => exact View.ext rfl rfl (Throttle.view_fail_other _ _ _ h)
    | headFailed why => exact View.ext rfl rfl (Throttle.view_fail_other _ _ _ h)
    | seen seen =>
      refine View.ext rfl (Table.get?_adjust_other _ _ h) ?_
      exact (Throttle.view_clear_other _ _ h).trans (Throttle.view_clear_other _ _ h)

theorem view_release_other (w : Watcher) (v : Verdict) (h : q.key ≠ k) :
    (w.release q v).view k = w.view k :=
  View.ext rfl (Table.get?_adjust_other _ _ h) rfl

theorem lookFailed_congr (h : w.view p.key = w'.view p.key) (now : Nat) (fault : LookFault)
    (why : String) :
    (w.lookFailed now p fault why).2 = (w'.lookFailed now p fault why).2 ∧
      (w.lookFailed now p fault why).1.view p.key = (w'.lookFailed now p fault why).1.view p.key := by
  obtain ⟨hchunk, hfile, hthrottle⟩ := View.ext_iff.1 h
  obtain ⟨hdue, hcount, hview⟩ := Throttle.fail_congr hthrottle now fault
  refine ⟨?_, View.ext hchunk hfile hview⟩
  simp only [lookFailed, hdue, hcount]

theorem look_congr (h : w.view p.key = w'.view p.key) (now : Nat) (s : Sighting) :
    (w.look now p s).2 = (w'.look now p s).2 ∧
      (w.look now p s).1.view p.key = (w'.look now p s).1.view p.key := by
  obtain ⟨hchunk, hfile, hthrottle⟩ := View.ext_iff.1 h
  have hfile : w.files.get? p.key = w'.files.get? p.key := hfile
  have hchunk : w.chunk? = w'.chunk? := hchunk
  cases hrecord : w.record? p with
  | none =>
    have hrecord' : w'.record? p = none := by rw [← hrecord, record?, record?, hfile]
    simp only [look, hrecord, hrecord', true_and]
    exact h
  | some record =>
    have hrecord' : w'.record? p = some record := by rw [← hrecord, record?, record?, hfile]
    cases s with
    | missing =>
      simp only [look, hrecord, hrecord', true_and]
      exact h
    | metadataFailed why =>
      obtain ⟨hentries, hview⟩ := lookFailed_congr h now .metadata why
      simp only [look, hrecord, hrecord', hentries, true_and]
      exact hview
    | headFailed why =>
      obtain ⟨hentries, hview⟩ := lookFailed_congr h now .head why
      simp only [look, hrecord, hrecord', hentries, true_and]
      exact hview
    | seen seen =>
      simp only [look, hrecord, hrecord', hchunk, true_and]
      refine View.ext hchunk ?_ (Throttle.clear_congr (Throttle.clear_congr hthrottle _) _)
      simp only [view, setRecord, lookSucceeded]
      rw [Table.get?_adjust_same, Table.get?_adjust_same, hfile]

theorem release_congr (h : w.view p.key = w'.view p.key) (v : Verdict) :
    (w.release p v).view p.key = (w'.release p v).view p.key := by
  obtain ⟨hchunk, hfile, hthrottle⟩ := View.ext_iff.1 h
  have hfile : w.files.get? p.key = w'.files.get? p.key := hfile
  refine View.ext hchunk ?_ hthrottle
  simp only [view, release]
  rw [Table.get?_adjust_same, Table.get?_adjust_same, hfile]

theorem startRound_congr (h : w.view k = w'.view k) :
    w.startRound.2.view k = w'.startRound.2.view k := by
  obtain ⟨hchunk, hfile, hthrottle⟩ := View.ext_iff.1 h
  have hfile : w.files.get? k = w'.files.get? k := hfile
  refine View.ext hchunk ?_ hthrottle
  simp only [view, get?_startRound, hfile]

/-- Of one file a round says only whether that file is idle. -/
theorem Watches.idlePaths_key (h : w.Watches ps) (hps : (ps.map Path.key).Nodup) (k : Path.Key) :
    w.idlePaths.filter (fun p => p.key = k) =
      ((w.view k).file?.toList.filter (!·.reserved)).map (·.path) := by
  have hkey : ∀ e ∈ w.files.entries, e.2.path.key = e.1 := fun e he => h.path_key he
  have hentries := Table.filter_key (h.keys ▸ hps) k
  have hown : (w.files.entries.filter fun e => e.2.path.key = k) =
      w.files.entries.filter fun e => e.1 = k :=
    List.filter_congr fun e he => by rw [hkey e he]
  calc w.idlePaths.filter (fun p => p.key = k)
      = ((w.files.entries.filter fun e => !e.2.reserved).filter
          fun e => e.2.path.key = k).map (·.2.path) := by
        rw [idlePaths, Table.values, List.filter_map, List.filter_map, List.filter_map, List.map_map]
        rfl
    _ = ((w.files.entries.filter fun e => e.1 = k).filter
          fun e => !e.2.reserved).map (·.2.path) := by
        rw [List.filter_comm, hown]
    _ = ((w.view k).file?.toList.filter (!·.reserved)).map (·.path) := by
        rw [hentries, List.filter_map, List.map_map]
        rfl

/-- The watcher with all files but one left out. -/
def only (w : Watcher) (p : Path) : Watcher :=
  { w with files := ⟨w.files.entries.filter fun e => e.1 = p.key⟩ }

theorem view_only (w : Watcher) (p : Path) : (w.only p).view p.key = w.view p.key :=
  View.ext rfl (Table.get?_filter_key _ _) rfl

theorem Watches.only (h : w.Watches ps) (p : Path) :
    (w.only p).Watches (ps.filter fun q => q.key = p.key) := by
  have hfiltered := congrArg (List.filter fun e => decide (e.1 = p.key)) h
  rw [List.filter_map, List.filter_map] at hfiltered
  exact hfiltered

end Watcher

namespace Reader

/-- What the reader keeps of one file. -/
@[ext]
structure View where
  limits : Limits
  format : LineFormat
  includeFileName : Bool
  offset? : Option Nat
  throttle : Throttle.View ReadFault

def view (r : Reader) (k : Path.Key) : View :=
  ⟨r.limits, r.format, r.includeFileName, r.offsets.get? k, r.throttle.view k⟩

variable {r r' : Reader} {p q : Path} {k : Path.Key}

theorem view_plan_other (r : Reader) (now : Nat) (c : Change) (h : q.key ≠ k) :
    (r.plan now q c).1.view k = r.view k := by
  have hoffset := Table.get?_put_other r.offsets (r.limits.plan r.width (r.offset? q) c).1 h
  unfold plan
  dsimp only
  split
  · exact View.ext rfl rfl rfl hoffset rfl
  · split
    · exact View.ext rfl rfl rfl hoffset (Throttle.view_fail_other _ _ _ h)
    · split
      · exact View.ext rfl rfl rfl hoffset rfl
      · exact View.ext rfl rfl rfl hoffset (Throttle.view_clear_other _ _ h)

theorem view_readSucceeded_other (r : Reader) (h : q.key ≠ k) :
    (r.readSucceeded q).view k = r.view k :=
  View.ext rfl rfl rfl rfl
    ((Throttle.view_clear_other _ _ h).trans (Throttle.view_clear_other _ _ h))

theorem view_absorb_other (r : Reader) (clock : Clock) {q : Request}
    (result : Except ReadFailure Bytes) (h : q.path.key ≠ k) :
    (r.absorb clock q result).1.view k = r.view k := by
  have hsucceeded := r.view_readSucceeded_other h
  cases result with
  | error e => exact View.ext rfl rfl rfl rfl (Throttle.view_fail_other _ _ _ h)
  | ok bytes =>
    simp only [absorb]
    split
    · exact hsucceeded
    · exact View.ext rfl rfl rfl (Table.get?_put_other _ _ h) (View.ext_iff.1 hsucceeded).2.2.2.2

theorem plan_congr (h : r.view p.key = r'.view p.key) (now : Nat) (c : Change) :
    (r.plan now p c).2 = (r'.plan now p c).2 ∧
      (r.plan now p c).1.view p.key = (r'.plan now p c).1.view p.key := by
  obtain ⟨hlimits, hformat, hnames, hoffset, hthrottle⟩ := View.ext_iff.1 h
  have hlimits : r.limits = r'.limits := hlimits
  have hformat : r.format = r'.format := hformat
  have hnames : r.includeFileName = r'.includeFileName := hnames
  have hoffset : r.offset? p = r'.offset? p := hoffset
  have hplan : r.limits.plan r.width (r.offset? p) c = r'.limits.plan r'.width (r'.offset? p) c := by
    rw [hlimits, hoffset, width, width, hformat]
  simp only [plan, hplan]
  rcases r'.limits.plan r'.width (r'.offset? p) c with ⟨o, v | window⟩
  · refine ⟨rfl, View.ext hlimits hformat hnames ?_ hthrottle⟩
    simp only [view, Table.get?_put_same]
  · dsimp only
    have hput : (r.offsets.put p.key o).get? p.key = (r'.offsets.put p.key o).get? p.key := by
      rw [Table.get?_put_same, Table.get?_put_same]
    split
    · obtain ⟨hdue, hcount, hview⟩ := Throttle.fail_congr hthrottle now .oversize
      refine ⟨?_, View.ext hlimits hformat hnames hput hview⟩
      simp only [noteOversize, hdue, hcount]
    · split
      · exact ⟨rfl, View.ext hlimits hformat hnames hput hthrottle⟩
      · exact ⟨rfl, View.ext hlimits hformat hnames hput (Throttle.clear_congr hthrottle _)⟩

theorem absorb_congr {q : Request} (h : r.view q.path.key = r'.view q.path.key) (clock : Clock)
    (result : Except ReadFailure Bytes) :
    (r.absorb clock q result).2 = (r'.absorb clock q result).2 ∧
      (r.absorb clock q result).1.view q.path.key =
        (r'.absorb clock q result).1.view q.path.key := by
  obtain ⟨hlimits, hformat, hnames, hoffset, hthrottle⟩ := View.ext_iff.1 h
  have hlimits : r.limits = r'.limits := hlimits
  have hformat : r.format = r'.format := hformat
  have hnames : r.includeFileName = r'.includeFileName := hnames
  cases result with
  | error e =>
    obtain ⟨hdue, hcount, hview⟩ := Throttle.fail_congr hthrottle clock.now e.fault
    refine ⟨?_, View.ext hlimits hformat hnames hoffset hview⟩
    simp only [absorb, readFailed, hdue, hcount]
  | ok bytes =>
    have hcleared : (r.readSucceeded q.path).throttle.view q.path.key =
        (r'.readSucceeded q.path).throttle.view q.path.key :=
      Throttle.clear_congr (Throttle.clear_congr hthrottle _) _
    cases ho : r.offset? q.path with
    | none =>
      have ho' : r'.offset? q.path = none := Eq.trans hoffset.symm ho
      rw [r.absorb_unknown clock bytes ho, r'.absorb_unknown clock bytes ho']
      exact ⟨rfl, View.ext hlimits hformat hnames hoffset hcleared⟩
    | some o =>
      have ho' : r'.offset? q.path = some o := Eq.trans hoffset.symm ho
      rw [r.absorb_ok clock bytes ho, r'.absorb_ok clock bytes ho']
      refine ⟨?_, View.ext hlimits hformat hnames ?_ hcleared⟩
      · have hline : r.lineOf clock q.path = r'.lineOf clock q.path := by
          funext text
          rw [lineOf, lineOf, hnames]
        simp only [hlimits, hformat, hline]
      · simp only [view, hlimits, hformat, Table.get?_put_same]

end Reader

/-! ## Calls -/

/-- What a call gives back. -/
inductive Reply where
  | started (paths : List Path)
  | looked (change? : Option Change) (entries : List LogEntry)
  | planned (plan : Plan) (entries : List LogEntry)
  | absorbed (yield : Yield) (entries : List LogEntry)
  | released

namespace Reply

/-- What is said of one file. -/
def about (k : Path.Key) : Reply → Reply
  | started paths => started (paths.filter fun p => p.key = k)
  | r => r

end Reply

namespace Call

def reply (parts : Watcher × Reader) : Call → Reply
  | round => .started parts.1.startRound.1
  | look p now s => .looked (parts.1.look now p s).2.1 (parts.1.look now p s).2.2
  | plan p now c => .planned (parts.2.plan now p c).2.1 (parts.2.plan now p c).2.2
  | absorb clock q result =>
    .absorbed (parts.2.absorb clock q result).2.1 (parts.2.absorb clock q result).2.2
  | release _ _ => .released

/-- The call is about the file, or about all files. -/
def Concerns (k : Path.Key) (c : Call) : Prop := c.key? = none ∨ c.key? = some k

instance (k : Path.Key) (c : Call) : Decidable (c.Concerns k) :=
  inferInstanceAs (Decidable (_ ∨ _))

/-- All that a run of calls gives back about one file. -/
def transcript (k : Path.Key) (parts : Watcher × Reader) : List Call → List Reply
  | [] => []
  | c :: calls =>
    (if c.Concerns k then [(c.reply parts).about k] else []) ++ transcript k (c.apply parts) calls

/-- What is kept of one file. -/
def view (k : Path.Key) (parts : Watcher × Reader) : Watcher.View × Reader.View :=
  (parts.1.view k, parts.2.view k)

variable {k : Path.Key} {c : Call} {x y : Watcher × Reader} {ps qs : List Path}

/-- A call about another file is not seen. -/
theorem view_other (h : ¬ c.Concerns k) (x : Watcher × Reader) : view k (c.apply x) = view k x := by
  have hne : ∀ p : Path, c.key? = some p.key → p.key ≠ k := by
    intro p hp hkey
    exact h (.inr (by rw [hp, hkey]))
  cases c with
  | round => exact absurd (.inl rfl) h
  | look p now s => exact Prod.ext (x.1.view_look_other now s (hne p rfl)) rfl
  | plan p now change => exact Prod.ext rfl (x.2.view_plan_other now change (hne p rfl))
  | absorb clock q result => exact Prod.ext rfl (x.2.view_absorb_other clock result (hne q.path rfl))
  | release p v => exact Prod.ext (x.1.view_release_other v (hne p rfl)) rfl

theorem watches_apply (h : x.1.Watches ps) (c : Call) : (c.apply x).1.Watches ps := by
  cases c with
  | round => exact h.startRound
  | look p now s => exact h.look now p s
  | plan p now change => exact h
  | absorb clock q result => exact h
  | release p v => exact h.release p v

/-- A call about a file answers from the view of that file, and changes it in the same way. -/
theorem reply_congr (hc : c.Concerns k) (h : view k x = view k y) (hx : x.1.Watches ps)
    (hps : (ps.map Path.key).Nodup) (hy : y.1.Watches qs) (hqs : (qs.map Path.key).Nodup) :
    (c.reply x).about k = (c.reply y).about k ∧ view k (c.apply x) = view k (c.apply y) := by
  have hwatcher : x.1.view k = y.1.view k := (Prod.mk.inj h).1
  have hreader : x.2.view k = y.2.view k := (Prod.mk.inj h).2
  have hkey : ∀ p : Path, c.key? = some p.key → p.key = k := by
    intro p hp
    rcases hc with hnone | hsome
    · rw [hp] at hnone
      cases hnone
    · exact Option.some.inj (hp.symm.trans hsome)
  cases c with
  | round =>
    refine ⟨?_, Prod.ext (Watcher.startRound_congr hwatcher) hreader⟩
    have hidle : x.1.idlePaths.filter (fun p => p.key = k) =
        y.1.idlePaths.filter fun p => p.key = k := by
      rw [hx.idlePaths_key hps, hy.idlePaths_key hqs, hwatcher]
    exact congrArg Reply.started hidle
  | look p now s =>
    obtain rfl := hkey p rfl
    obtain ⟨hgives, hview⟩ := Watcher.look_congr hwatcher now s
    refine ⟨?_, Prod.ext hview hreader⟩
    simp only [reply, Reply.about, hgives]
  | plan p now change =>
    obtain rfl := hkey p rfl
    obtain ⟨hgives, hview⟩ := Reader.plan_congr hreader now change
    refine ⟨?_, Prod.ext hwatcher hview⟩
    simp only [reply, Reply.about, hgives]
  | absorb clock q result =>
    obtain rfl := hkey q.path rfl
    obtain ⟨hgives, hview⟩ := Reader.absorb_congr hreader clock result
    refine ⟨?_, Prod.ext hwatcher hview⟩
    simp only [reply, Reply.about, hgives]
  | release p v =>
    obtain rfl := hkey p rfl
    exact ⟨rfl, Prod.ext (Watcher.release_congr hwatcher v) hreader⟩

/-- Of two states in which the same is kept of a file, one makes all calls and the other only those
that are about the file: no difference is ever seen at the file. -/
theorem run_congr (h : view k x = view k y) (hx : x.1.Watches ps) (hps : (ps.map Path.key).Nodup)
    (hy : y.1.Watches qs) (hqs : (qs.map Path.key).Nodup) (calls : List Call) :
    transcript k x calls = transcript k y (calls.filter (·.Concerns k)) ∧
      view k (calls.foldl apply x) = view k ((calls.filter (·.Concerns k)).foldl apply y) := by
  induction calls generalizing x y with
  | nil => exact ⟨rfl, h⟩
  | cons c calls ih =>
    by_cases hc : c.Concerns k
    · obtain ⟨hreply, hview⟩ := reply_congr hc h hx hps hy hqs
      obtain ⟨hrest, hend⟩ := ih hview (watches_apply hx c) (watches_apply hy c)
      rw [List.filter_cons_of_pos (by simpa using hc)]
      refine ⟨?_, hend⟩
      rw [transcript, transcript, if_pos hc, if_pos hc, hreply, hrest]
    · obtain ⟨hrest, hend⟩ := ih ((view_other hc x).trans h) (watches_apply hx c) hy
      rw [List.filter_cons_of_neg (by simpa using hc)]
      refine ⟨?_, hend⟩
      rw [transcript, if_neg hc, List.nil_append, hrest]

end Call

/-- Whatever calls are made about whatever files at whatever times: all that they give back about one
file, messages included, and all that is kept of it in the end, is the same when every call about
another file is left out. It is also the same when the other files are not watched at all, so that a
round is a round of this file alone. Files are told apart by the keys of their paths. -/
theorem files_do_not_interfere (s : Settings) (format : LineFormat) (p : Path) (calls : List Call) :
    let watcher := Watcher.new s.paths s.chunk? s.reportThreshold s.reportCooldown
    let reader := Reader.new s format
    let own := calls.filter (·.Concerns p.key)
    let Same (start : Watcher × Reader) : Prop :=
      Call.transcript p.key (watcher, reader) calls = Call.transcript p.key start own ∧
        Call.view p.key (calls.foldl Call.apply (watcher, reader)) =
          Call.view p.key (own.foldl Call.apply start)
    Same (watcher, reader) ∧ Same (watcher.only p, reader) := by
  intro watcher reader own Same
  have hwatches : watcher.Watches (Path.distinct s.paths) := Watcher.new_watches _ _ _ _
  have hps := Path.distinct_nodup s.paths
  have honly := hwatches.only p
  have hqs := hps.sublist ((List.filter_sublist (p := fun q => decide (q.key = p.key))).map Path.key)
  have hview : Call.view p.key (watcher.only p, reader) = Call.view p.key (watcher, reader) :=
    Prod.ext (watcher.view_only p) rfl
  exact ⟨Call.run_congr rfl hwatches hps hwatches hps calls,
    Call.run_congr hview.symm hwatches hps honly hqs calls⟩

end FileTail
