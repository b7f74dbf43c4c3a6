import FileTail.Follow.Follower
import FileTail.Proofs.Watching

/-!
# FileTail.Proofs.Reservation

Each watched file has one cycle at a time: a round reserves it, a probe of it is looked at, a read is
planned and its bytes are absorbed, and at whatever point the cycle ends the file is released. The
stage that a cycle waits for is under way as long as the file is reserved, so that no file is
forgotten, and none waits for another.

* `Call`, `Follower.trace`: the calls on watcher and reader that the events lead to.
* `Standing.next`: the order of the calls of a cycle.
* `Follower.Move`: all that an event can do, one constructor for each outcome.
* `Orderly.step`: an event keeps the reservations, the stages and the calls in agreement.
* `one_cycle_at_a_time`: what that means for every run of the loop.
-/

namespace FileTail

/-- A call on the watcher or the reader. -/
inductive Call where
  | round
  | look (path : Path) (now : Nat) (sighting : Sighting)
  | plan (path : Path) (now : Nat) (change : Change)
  | absorb (clock : Clock) (request : Request) (result : Except ReadFailure Bytes)
  | release (path : Path) (verdict : Verdict)

namespace Call

def apply (parts : Watcher × Reader) : Call → Watcher × Reader
  | round => (parts.1.startRound.2, parts.2)
  | look p now s => ((parts.1.look now p s).1, parts.2)
  | plan p now c => (parts.1, (parts.2.plan now p c).1)
  | absorb clock q result => (parts.1, (parts.2.absorb clock q result).1)
  | release p v => (parts.1.release p v, parts.2)

/-- The file that a call is about. A round is about all files. -/
@[simp]
def key? : Call → Option Path.Key
  | round => none
  | look p _ _ | plan p _ _ | release p _ => some p.key
  | absorb _ q _ => some q.path.key

end Call

/-- How far the cycle of a file has come. -/
inductive Standing where
  | idle
  | reserved
  | looked
  | planned
  | absorbed
deriving DecidableEq

namespace Standing

/-- The calls of a cycle in their order. A round passes over a file whose cycle has not ended; any
other call out of order is none that the cycle allows. -/
@[simp]
def next : Standing → Call → Option Standing
  | idle, .round => some reserved
  | st, .round => some st
  | reserved, .look .. => some looked
  | looked, .plan .. => some planned
  | planned, .absorb .. => some absorbed
  | looked, .release .. | planned, .release .. | absorbed, .release .. => some idle
  | _, _ => none

def after (k : Path.Key) (st : Standing) (c : Call) : Option Standing :=
  if c.key? = none ∨ c.key? = some k then st.next c else some st

def run (k : Path.Key) (st : Standing) (calls : List Call) : Option Standing :=
  calls.foldlM (after k) st

variable {k : Path.Key} {st : Standing}

theorem run_append (calls more : List Call) :
    run k st (calls ++ more) = (run k st calls).bind fun st => run k st more :=
  List.foldlM_append

theorem run_own {c : Call} (h : c.key? = none ∨ c.key? = some k) (calls : List Call) :
    run k st (c :: calls) = (st.next c).bind fun st => run k st calls := by
  rw [run, List.foldlM_cons, after, if_pos h]
  rfl

theorem run_other {j : Path.Key} (hne : k ≠ j) {calls : List Call}
    (h : ∀ c ∈ calls, c.key? = some j) : run k st calls = some st := by
  induction calls with
  | nil => rfl
  | cons c calls ih =>
    have hc : after k st c = some st := by
      have hother : ¬ (c.key? = none ∨ c.key? = some k) := by
        rw [h c List.mem_cons_self]
        simp [Ne.symm hne]
      rw [after, if_neg hother]
    rw [run, List.foldlM_cons, hc]
    exact ih fun c hc => h c (List.mem_cons_of_mem _ hc)

theorem next_round (h : st ≠ idle) : st.next .round = some st := by
  cases st with
  | idle => exact absurd rfl h
  | _ => rfl

end Standing

namespace Stage

@[simp]
def standing : Stage → Standing
  | probing _ => .reserved
  | reading _ => .planned

@[simp]
theorem path_probing (p : Path) : (probing p).path = p := rfl

@[simp]
theorem path_reading (q : Request) : (reading q).path = q.path := rfl

end Stage

namespace Follower

/-- The stages of one file that are under way. -/
def inFlight (f : Follower) (p : Path) : List Stage := f.underWay.filter (·.path.key = p.key)

/-- The cycles that have not ended. -/
def cycles (f : Follower) : Table Path.Key Standing :=
  ⟨f.underWay.map (fun stage => (stage.path.key, stage.standing)) ++
    match f.phase with
    | .sending p _ _ => [(p.key, .absorbed)]
    | _ => []⟩

def standing (f : Follower) (k : Path.Key) : Standing := (f.cycles.get? k).getD .idle

def callsOnProbed (f : Follower) (now : Nat) (p : Path) (s : Sighting) : List Call :=
  .look p now s ::
    match (f.watcher.look now p s).2.1 with
    | none => [.release p .settled]
    | some c =>
      .plan p now c ::
        match (f.reader.plan now p c).2.1 with
        | .skip v => [.release p v]
        | .read _ => []

def callsOnFetched (f : Follower) (clock : Clock) (q : Request)
    (result : Except ReadFailure Bytes) : List Call :=
  let y := (f.reader.absorb clock q result).2.1
  .absorb clock q result ::
    if y.lines = [] ∨ f.hasOutput = false then [.release q.path y.verdict] else []

/-- The calls that an event leads to. -/
def calls (f : Follower) (clock : Clock) (e : Event) : List Call :=
  match f.phase with
  | .stopped => []
  | .sending p v _ =>
    match e with
    | .sent | .refused | .cancelled => [.release p v]
    | _ => []
  | .polling =>
    match e with
    | .ticked => [.round]
    | .probed p s => if .probing p ∈ f.underWay then f.callsOnProbed clock.now p s else []
    | .fetched q result =>
      if .reading q ∈ f.underWay then f.callsOnFetched clock q result else []
    | _ => []

def trace (f : Follower) : List (Clock × Event) → List Call
  | [] => []
  | (clock, e) :: es => f.calls clock e ++ (f.step clock e).1.trace es

/-- The phase waits for the event. -/
def Awaits (f : Follower) : Event → Prop
  | .cancelled => f.phase ≠ .stopped
  | .ticked => f.phase = .polling
  | .probed p _ => f.phase = .polling ∧ .probing p ∈ f.underWay
  | .fetched q _ => f.phase = .polling ∧ .reading q ∈ f.underWay
  | .sent | .refused => ∃ p v batch, f.phase = .sending p v batch

/-- What an event can do: the state after it, the actions and the calls. -/
inductive Move (f : Follower) (clock : Clock) :
    Event → Follower → List Action → List Call → Prop where
  | ignored {e : Event} : ¬ f.Awaits e → Move f clock e f [] []
  | stopped : f.phase = .polling →
      Move f clock .cancelled { f with phase := .stopped }
        [.log (.info .follower "Tail receiver cancelled, shutting down"), stopping] []
  | ticked : f.phase = .polling →
      Move f clock .ticked
        { f with
          watcher := f.watcher.startRound.2
          underWay := f.underWay ++ f.watcher.idlePaths.map .probing }
        (f.watcher.idlePaths.map .probe) [.round]
  | unchanged {p : Path} {s : Sighting} {w : Watcher} {entries : List LogEntry} :
      f.phase = .polling → .probing p ∈ f.underWay →
      f.watcher.look clock.now p s = (w, none, entries) →
      Move f clock (.probed p s)
        { f with watcher := w.release p .settled, underWay := f.underWay.erase (.probing p) }
        (entries.map .log) [.look p clock.now s, .release p .settled]
  | skipped {p : Path} {s : Sighting} {w : Watcher} {c : Change} {entries more : List LogEntry}
      {r : Reader} {v : Verdict} :
      f.phase = .polling → .probing p ∈ f.underWay →
      f.watcher.look clock.now p s = (w, some c, entries) →
      f.reader.plan clock.now p c = (r, .skip v, more) →
      Move f clock (.probed p s)
        { f with watcher := w.release p v, reader := r, underWay := f.underWay.erase (.probing p) }
        ((entries ++ more).map .log)
        [.look p clock.now s, .plan p clock.now c, .release p v]
  | started {p : Path} {s : Sighting} {w : Watcher} {c : Change} {entries more : List LogEntry}
      {r : Reader} {window : Window} :
      f.phase = .polling → .probing p ∈ f.underWay →
      f.watcher.look clock.now p s = (w, some c, entries) →
      f.reader.plan clock.now p c = (r, .read window, more) →
      Move f clock (.probed p s)
        { f with
          watcher := w
          reader := r
          underWay := f.underWay.erase (.probing p) ++ [.reading ⟨p, window⟩] }
        ((entries ++ more).map Action.log ++ [.read ⟨p, window⟩])
        [.look p clock.now s, .plan p clock.now c]
  | taken {q : Request} {result : Except ReadFailure Bytes} {r : Reader} {y : Yield}
      {entries : List LogEntry} :
      f.phase = .polling → .reading q ∈ f.underWay →
      f.reader.absorb clock q result = (r, y, entries) → y.lines = [] ∨ f.hasOutput = false →
      Move f clock (.fetched q result)
        { f with
          watcher := f.watcher.release q.path y.verdict
          reader := r
          underWay := f.underWay.erase (.reading q)
          counters := { f.counters with skipped := f.counters.skipped + y.skipped } }
        (entries.map .log) [.absorb clock q result, .release q.path y.verdict]
  | batched {q : Request} {result : Except ReadFailure Bytes} {r : Reader} {y : Yield}
      {entries : List LogEntry} :
      f.phase = .polling → .reading q ∈ f.underWay →
      f.reader.absorb clock q result = (r, y, entries) → ¬ (y.lines = [] ∨ f.hasOutput = false) →
      Move f clock (.fetched q result)
        { f with
          reader := r
          underWay := f.underWay.erase (.reading q)
          counters := { f.counters with skipped := f.counters.skipped + y.skipped }
          phase := .sending q.path y.verdict y.lines }
        (entries.map Action.log ++ [.send y.lines]) [.absorb clock q result]
  | sent {p : Path} {v : Verdict} {batch : List Line} :
      f.phase = .sending p v batch →
      Move f clock .sent (f.onSent p v batch).1 [] [.release p v]
  | refused {p : Path} {v : Verdict} {batch : List Line} :
      f.phase = .sending p v batch →
      Move f clock .refused (f.onRefused p v batch)
        [.log (.error .follower "Output channel closed, stopping tail receiver" []), stopping]
        [.release p v]
  | brokenOff {p : Path} {v : Verdict} {batch : List Line} :
      f.phase = .sending p v batch →
      Move f clock .cancelled (f.onRefused p v batch) [stopping] [.release p v]

theorem probed_move {f : Follower} (clock : Clock) {p : Path} (s : Sighting)
    (hphase : f.phase = .polling) (hp : .probing p ∈ f.underWay) :
    Move f clock (.probed p s) (f.onProbed clock.now p s).1 (f.onProbed clock.now p s).2
      (f.callsOnProbed clock.now p s) := by
  rcases hlook : f.watcher.look clock.now p s with ⟨w, _ | c, entries⟩
  · simp only [onProbed, callsOnProbed, hlook]
    exact .unchanged hphase hp hlook
  · rcases hplan : f.reader.plan clock.now p c with ⟨r, v | window, more⟩
    · simp only [onProbed, callsOnProbed, hlook, hplan]
      exact .skipped hphase hp hlook hplan
    · simp only [onProbed, callsOnProbed, hlook, hplan]
      exact .started hphase hp hlook hplan

theorem fetched_move {f : Follower} (clock : Clock) {q : Request}
    (result : Except ReadFailure Bytes) (hphase : f.phase = .polling)
    (hq : .reading q ∈ f.underWay) :
    Move f clock (.fetched q result) (f.onFetched clock q result).1 (f.onFetched clock q result).2
      (f.callsOnFetched clock q result) := by
  rcases habsorb : f.reader.absorb clock q result with ⟨r, y, entries⟩
  by_cases hdone : y.lines = [] ∨ f.hasOutput = false
  · simp only [onFetched, callsOnFetched, habsorb, if_pos hdone]
    exact .taken hphase hq habsorb hdone
  · simp only [onFetched, callsOnFetched, habsorb, if_neg hdone]
    exact .batched hphase hq habsorb hdone

theorem step_move (f : Follower) (clock : Clock) (e : Event) :
    Move f clock e (f.step clock e).1 (f.step clock e).2 (f.calls clock e) := by
  unfold step calls
  cases hphase : f.phase with
  | stopped =>
    refine .ignored ?_
    cases e <;> simp [Awaits, hphase]
  | sending p v batch =>
    cases e with
    | cancelled => exact .brokenOff hphase
    | sent => exact .sent hphase
    | refused => exact .refused hphase
    | _ => exact .ignored (by simp [Awaits, hphase])
  | polling =>
    cases e with
    | cancelled => exact .stopped hphase
    | ticked => exact .ticked hphase
    | probed p s =>
      by_cases hp : .probing p ∈ f.underWay
      · simp only [if_pos hp]
        exact probed_move clock s hphase hp
      · simp only [if_neg hp]
        exact .ignored (by simp [Awaits, hp])
    | fetched q result =>
      by_cases hq : .reading q ∈ f.underWay
      · simp only [if_pos hq]
        exact fetched_move clock result hphase hq
      · simp only [if_neg hq]
        exact .ignored (by simp [Awaits, hq])
    | sent => exact .ignored (by simp [Awaits, hphase])
    | refused => exact .ignored (by simp [Awaits, hphase])

/-- The calls are all that changes the watcher and the reader. -/
theorem Move.apply_calls {f f' : Follower} {clock : Clock} {e : Event} {actions : List Action}
    {calls : List Call} (h : Move f clock e f' actions calls) :
    calls.foldl Call.apply (f.watcher, f.reader) = (f'.watcher, f'.reader) := by
  cases h with
  | unchanged _ _ hlook => simp [Call.apply, hlook]
  | skipped _ _ hlook hplan => simp [Call.apply, hlook, hplan]
  | started _ _ hlook hplan => simp [Call.apply, hlook, hplan]
  | taken _ _ habsorb _ => simp [Call.apply, habsorb]
  | batched _ _ habsorb _ => simp [Call.apply, habsorb]
  | _ => rfl

theorem apply_trace (f : Follower) (es : List (Clock × Event)) :
    (f.trace es).foldl Call.apply (f.watcher, f.reader) =
      ((f.run es).1.watcher, (f.run es).1.reader) := by
  induction es generalizing f with
  | nil => rfl
  | cons e es ih =>
    rw [trace, List.foldl_append, (f.step_move e.1 e.2).apply_calls]
    exact ih _

/-! ## What every event keeps -/

theorem cycles_of_not_sending {f : Follower} (h : ∀ p v batch, f.phase ≠ .sending p v batch) :
    f.cycles.entries = f.underWay.map fun stage => (stage.path.key, stage.standing) := by
  cases hphase : f.phase with
  | sending p v batch => exact absurd hphase (h p v batch)
  | _ => simp [cycles, hphase]

theorem cycles_polling {f : Follower} (h : f.phase = .polling) :
    f.cycles.entries = f.underWay.map fun stage => (stage.path.key, stage.standing) :=
  cycles_of_not_sending fun p v batch hsending => by
    rw [h] at hsending
    cases hsending

theorem cycles_sending {f : Follower} {p : Path} {v : Verdict} {batch : List Line}
    (h : f.phase = .sending p v batch) :
    f.cycles.entries = f.underWay.map (fun stage => (stage.path.key, stage.standing)) ++
      [(p.key, .absorbed)] := by
  simp [cycles, h]

theorem cycles_ne_idle {f : Follower} {c : Path.Key × Standing} (h : c ∈ f.cycles.entries) :
    c.2 ≠ .idle := by
  rcases List.mem_append.1 h with h | h
  · obtain ⟨stage, -, rfl⟩ := List.mem_map.1 h
    cases stage <;> simp [Stage.standing]
  · split at h
    · rw [List.mem_singleton.1 h]
      simp
    · cases h

theorem cycles_perm {f : Follower} (hphase : f.phase = .polling) {stage : Stage}
    (h : stage ∈ f.underWay) :
    f.cycles.entries.Perm ((stage.path.key, stage.standing) ::
      (f.underWay.erase stage).map fun stage => (stage.path.key, stage.standing)) := by
  rw [cycles_polling hphase]
  exact (List.perm_cons_erase h).map _

/-- Reservations, stages under way and calls agree: a file is reserved as long as it has a cycle, it
has no second one, and the calls up to now have brought it to where its stage stands. -/
structure Orderly (ps : List Path) (before : List Call) (f : Follower) : Prop where
  watches : f.watcher.Watches ps
  single : (f.cycles.entries.map (·.1)).Nodup
  reserved : ∀ p, f.watcher.isReserved p = true ↔ p.key ∈ f.cycles.entries.map (·.1)
  protocol : ∀ k ∈ ps.map Path.key, Standing.run k .idle before = some (f.standing k)

theorem standing_of_mem {f : Follower} (h : (f.cycles.entries.map (·.1)).Nodup) {k : Path.Key}
    {st : Standing} (hmem : (k, st) ∈ f.cycles.entries) : f.standing k = st := by
  rw [standing, Table.get?_of_mem h hmem, Option.getD_some]

theorem standing_of_not_mem {f : Follower} {k : Path.Key}
    (h : k ∉ f.cycles.entries.map (·.1)) : f.standing k = .idle := by
  rw [Table.mem_keys_iff, Option.isSome_iff_ne_none, not_not] at h
  rw [standing, h, Option.getD_none]

theorem standing_congr {f f' : Follower} {k : Path.Key}
    (h : (f.cycles.entries.map (·.1)).Nodup) (h' : (f'.cycles.entries.map (·.1)).Nodup)
    (hsame : ∀ st, (k, st) ∈ f'.cycles.entries ↔ (k, st) ∈ f.cycles.entries) :
    f'.standing k = f.standing k := by
  by_cases hk : k ∈ f.cycles.entries.map (·.1)
  · obtain ⟨⟨j, st⟩, hmem, rfl⟩ := List.mem_map.1 hk
    rw [standing_of_mem h hmem, standing_of_mem h' ((hsame st).2 hmem)]
  · have hk' : k ∉ f'.cycles.entries.map (·.1) := by
      intro hk'
      obtain ⟨⟨j, st⟩, hmem, rfl⟩ := List.mem_map.1 hk'
      exact hk (List.mem_map_of_mem ((hsame st).1 hmem))
    rw [standing_of_not_mem hk, standing_of_not_mem hk']

namespace Orderly

variable {ps : List Path} {before calls : List Call} {f f' : Follower} {p : Path}
  {st st' : Standing} {rest : List (Path.Key × Standing)}

theorem stages_nodup (h : Orderly ps before f) : (f.underWay.map (·.path.key)).Nodup := by
  have hsingle := h.single
  rw [cycles, List.map_append, List.map_map] at hsingle
  exact (List.nodup_append.1 hsingle).1

theorem new (s : Settings) (format : LineFormat) (hasOutput : Bool) :
    Orderly (Path.distinct s.paths) [] (.new s format hasOutput) where
  watches := Watcher.new_watches _ _ _ _
  single := .nil
  reserved := fun p => by
    have hidle := Watcher.new_isReserved s.paths s.chunk? s.reportThreshold s.reportCooldown p
    simp [Follower.new, cycles, hidle]
  protocol := fun _ _ => rfl

/-- The calls of one file's cycle leave the other files where they stand. -/
theorem protocol_turn (h : Orderly ps before f) (hbefore : f.standing p.key = st)
    (hcalls : ∀ c ∈ calls, c.key? = some p.key) (hrun : Standing.run p.key st calls = some st')
    (hafter : f'.standing p.key = st') (hother : ∀ k ≠ p.key, f'.standing k = f.standing k)
    {k : Path.Key} (hk : k ∈ ps.map Path.key) :
    Standing.run k .idle (before ++ calls) = some (f'.standing k) := by
  rw [Standing.run_append, h.protocol k hk, Option.bind_some]
  by_cases hkey : k = p.key
  · rw [hkey, hbefore, hrun, hafter]
  · rw [Standing.run_other hkey hcalls, hother k hkey]

/-- A cycle goes on: the file stays reserved. -/
theorem handed (h : Orderly ps before f) (hin : f.cycles.entries.Perm ((p.key, st) :: rest))
    (hout : f'.cycles.entries.Perm ((p.key, st') :: rest)) (hwatches : f'.watcher.Watches ps)
    (hreserved : ∀ q, f'.watcher.isReserved q = f.watcher.isReserved q)
    (hcalls : ∀ c ∈ calls, c.key? = some p.key) (hrun : Standing.run p.key st calls = some st') :
    Orderly ps (before ++ calls) f' := by
  have hkeys : (f.cycles.entries.map (·.1)).Perm (f'.cycles.entries.map (·.1)) :=
    (hin.map _).trans (hout.map Prod.fst).symm
  have hsingle := hkeys.nodup_iff.1 h.single
  exact
    { watches := hwatches
      single := hsingle
      reserved := fun q => by rw [hreserved, h.reserved, hkeys.mem_iff]
      protocol := fun k hk => by
        refine h.protocol_turn (standing_of_mem h.single (hin.mem_iff.2 List.mem_cons_self)) hcalls
          hrun (standing_of_mem hsingle (hout.mem_iff.2 List.mem_cons_self)) (fun j hj => ?_) hk
        refine standing_congr h.single hsingle fun x => ?_
        rw [hin.mem_iff, hout.mem_iff]
        simp [hj] }

/-- A cycle ends: the file is released. -/
theorem ended (h : Orderly ps before f) (hin : f.cycles.entries.Perm ((p.key, st) :: rest))
    (hout : f'.cycles.entries.Perm rest) (hwatches : f'.watcher.Watches ps)
    (hreserved : ∀ q, f'.watcher.isReserved q = (decide (q.key ≠ p.key) && f.watcher.isReserved q))
    (hcalls : ∀ c ∈ calls, c.key? = some p.key) (hrun : Standing.run p.key st calls = some .idle) :
    Orderly ps (before ++ calls) f' := by
  have hkeys := hin.map Prod.fst
  have hrest := hout.map Prod.fst
  obtain ⟨hgone, hnodup⟩ := List.nodup_cons.1 (hkeys.nodup_iff.1 h.single)
  have hsingle := hrest.nodup_iff.2 hnodup
  have hnot : p.key ∉ f'.cycles.entries.map (·.1) := fun hmem => hgone (hrest.mem_iff.1 hmem)
  exact
    { watches := hwatches
      single := hsingle
      reserved := fun q => by
        have hq := h.reserved q
        rw [hkeys.mem_iff, List.map_cons, List.mem_cons] at hq
        rw [hreserved, hrest.mem_iff, Bool.and_eq_true, hq, decide_eq_true_iff]
        constructor
        · rintro ⟨hne, heq | hmem⟩
          · exact absurd heq hne
          · exact hmem
        · intro hmem
          exact ⟨fun heq => hgone (heq ▸ hmem), .inr hmem⟩
      protocol := fun k hk => by
        refine h.protocol_turn (standing_of_mem h.single (hin.mem_iff.2 List.mem_cons_self)) hcalls
          hrun (standing_of_not_mem hnot) (fun j hj => ?_) hk
        refine standing_congr h.single hsingle fun x => ?_
        rw [hin.mem_iff, hout.mem_iff]
        simp [hj] }

theorem round (h : Orderly ps before f) (hps : (ps.map Path.key).Nodup)
    (hphase : f.phase = .polling) :
    Orderly ps (before ++ [.round])
      { f with
        watcher := f.watcher.startRound.2
        underWay := f.underWay ++ f.watcher.idlePaths.map .probing } := by
  have hidle := h.watches.idlePaths_eq hps
  have hmem_idle : ∀ q, q ∈ f.watcher.idlePaths ↔
      q ∈ ps ∧ q.key ∉ f.cycles.entries.map (·.1) := by
    intro q
    rw [hidle, List.mem_filter, ← h.reserved]
    simp
  generalize hf' : ({ f with
    watcher := f.watcher.startRound.2
    underWay := f.underWay ++ f.watcher.idlePaths.map .probing } : Follower) = f'
  have hwatcher : f'.watcher = f.watcher.startRound.2 := hf' ▸ rfl
  have hentries : f'.cycles.entries =
      f.cycles.entries ++ f.watcher.idlePaths.map fun q => (q.key, .reserved) := by
    rw [cycles_polling hphase, cycles_polling (hf' ▸ hphase), ← hf', List.map_append, List.map_map]
    rfl
  have hkeys : f'.cycles.entries.map (·.1) =
      f.cycles.entries.map (·.1) ++ f.watcher.idlePaths.map Path.key := by
    rw [hentries, List.map_append, List.map_map]
    rfl
  -- a file with a cycle is reserved, so none of the new cycles is a second one
  have hsingle : (f'.cycles.entries.map (·.1)).Nodup := by
    rw [hkeys, List.nodup_append]
    refine ⟨h.single, ?_, fun k hk j hj => ?_⟩
    · rw [hidle]
      exact hps.sublist (List.filter_sublist.map _)
    · obtain ⟨q, hq, rfl⟩ := List.mem_map.1 hj
      exact fun heq => ((hmem_idle q).1 hq).2 (heq ▸ hk)
  exact
    { watches := hwatcher ▸ h.watches.startRound
      single := hsingle
      reserved := fun q => by
        rw [hwatcher, h.watches.isReserved_startRound, hkeys, List.mem_append]
        constructor
        · intro hq
          by_cases hbusy : q.key ∈ f.cycles.entries.map (·.1)
          · exact .inl hbusy
          · obtain ⟨p, hp, hkey⟩ := List.mem_map.1 hq
            rw [← hkey] at hbusy ⊢
            exact .inr (List.mem_map_of_mem ((hmem_idle p).2 ⟨hp, hbusy⟩))
        · rintro (hbusy | hq)
          · exact h.watches.mem_of_isReserved ((h.reserved q).2 hbusy)
          · obtain ⟨p, hp, hkey⟩ := List.mem_map.1 hq
            exact List.mem_map.2 ⟨p, ((hmem_idle p).1 hp).1, hkey⟩
      protocol := fun k hk => by
        rw [Standing.run_append, h.protocol k hk, Option.bind_some]
        by_cases hbusy : k ∈ f.cycles.entries.map (·.1)
        · obtain ⟨⟨j, st⟩, hmem, rfl⟩ := List.mem_map.1 hbusy
          have hstays : (j, st) ∈ f'.cycles.entries := hentries ▸ List.mem_append_left _ hmem
          rw [standing_of_mem h.single hmem, standing_of_mem hsingle hstays]
          rw [Standing.run_own (.inl rfl), Standing.next_round (cycles_ne_idle hmem)]
          rfl
        · obtain ⟨p, hp, rfl⟩ := List.mem_map.1 hk
          have hstarts : (p.key, .reserved) ∈ f'.cycles.entries := by
            rw [hentries]
            exact List.mem_append_right _
              (List.mem_map.2 ⟨p, (hmem_idle p).2 ⟨hp, hbusy⟩, rfl⟩)
          rw [standing_of_not_mem hbusy, standing_of_mem hsingle hstarts]
          rfl }

theorem sendEnded (h : Orderly ps before f) {v : Verdict} {batch : List Line}
    (hphase : f.phase = .sending p v batch) (hwatcher : f'.watcher = f.watcher.release p v)
    (hstages : f'.underWay = f.underWay) (hphase' : ∀ q u more, f'.phase ≠ .sending q u more) :
    Orderly ps (before ++ [.release p v]) f' := by
  have hin : f.cycles.entries.Perm ((p.key, .absorbed) ::
      f.underWay.map fun stage => (stage.path.key, stage.standing)) := by
    rw [cycles_sending hphase]
    exact List.perm_append_singleton _ _
  refine h.ended hin ?_ (hwatcher ▸ h.watches.release p v)
    (hwatcher ▸ Watcher.isReserved_release _ _ _) (by simp [Call.key?])
    (by simp [Standing.run, Standing.after, Standing.next, Call.key?])
  rw [cycles_of_not_sending hphase', hstages]

theorem stageEnded (h : Orderly ps before f) (hphase : f.phase = .polling) {stage : Stage}
    (hin : stage ∈ f.underWay) {w : Watcher} (hwatches : w.Watches ps)
    (hreserved : ∀ q, w.isReserved q = f.watcher.isReserved q) {v : Verdict}
    (hwatcher : f'.watcher = w.release stage.path v) (hstages : f'.underWay = f.underWay.erase stage)
    (hphase' : f'.phase = .polling) (hcalls : ∀ c ∈ calls, c.key? = some stage.path.key)
    (hrun : Standing.run stage.path.key stage.standing calls = some .idle) :
    Orderly ps (before ++ calls) f' := by
  refine h.ended (cycles_perm hphase hin) ?_ (hwatcher ▸ hwatches.release _ _) (fun q => ?_) hcalls
    hrun
  · rw [cycles_polling hphase', hstages]
  · rw [hwatcher, Watcher.isReserved_release, hreserved]

theorem move (h : Orderly ps before f) (hps : (ps.map Path.key).Nodup) {clock : Clock} {e : Event}
    {actions : List Action} (hmove : Move f clock e f' actions calls) :
    Orderly ps (before ++ calls) f' := by
  cases hmove with
  | ignored _ => simpa using h
  | stopped hphase =>
    -- what is under way when the loop ends stays so
    have hcycles : f.cycles = ({ f with phase := .stopped } : Follower).cycles := by
      simp [cycles, hphase]
    rw [List.append_nil]
    exact
      { watches := h.watches
        single := hcycles ▸ h.single
        reserved := hcycles ▸ h.reserved
        protocol := fun k hk => by
          rw [h.protocol k hk, standing, standing, hcycles] }
  | ticked hphase => exact h.round hps hphase
  | @unchanged p s w entries hphase hp hlook =>
    obtain rfl : (f.watcher.look clock.now p s).1 = w := by rw [hlook]
    exact h.stageEnded hphase hp (h.watches.look _ _ _) (Watcher.isReserved_look _ _ _ _) rfl rfl
      hphase (by simp) (by simp [Standing.run, Standing.after])
  | @skipped p s w c entries more r v hphase hp hlook hplan =>
    obtain rfl : (f.watcher.look clock.now p s).1 = w := by rw [hlook]
    exact h.stageEnded hphase hp (h.watches.look _ _ _) (Watcher.isReserved_look _ _ _ _) rfl rfl
      hphase (by simp) (by simp [Standing.run, Standing.after])
  | @started p s w c entries more r window hphase hp hlook hplan =>
    obtain rfl : (f.watcher.look clock.now p s).1 = w := by rw [hlook]
    have hrun : Standing.run p.key .reserved [.look p clock.now s, .plan p clock.now c] =
        some .planned := by
      simp [Standing.run, Standing.after]
    refine h.handed (cycles_perm hphase hp) ?_ (h.watches.look _ _ _)
      (Watcher.isReserved_look _ _ _ _) (by simp) hrun
    rw [cycles_polling (by exact hphase), List.map_append]
    exact List.perm_append_singleton _ _
  | taken hphase hq habsorb hdone =>
    exact h.stageEnded hphase hq h.watches (fun _ => rfl) rfl rfl hphase (by simp)
      (by simp [Standing.run, Standing.after])
  | @batched q result r y entries hphase hq habsorb hdone =>
    have hrun : Standing.run q.path.key .planned [.absorb clock q result] = some .absorbed := by
      simp [Standing.run, Standing.after]
    refine h.handed (cycles_perm hphase hq) ?_ h.watches (fun _ => rfl) (by simp) hrun
    rw [cycles_sending rfl]
    exact List.perm_append_singleton _ _
  | sent hphase => exact h.sendEnded hphase rfl rfl (by simp [onSent, release])
  | refused hphase => exact h.sendEnded hphase rfl rfl (by simp [onRefused, release])
  | brokenOff hphase => exact h.sendEnded hphase rfl rfl (by simp [onRefused, release])

theorem stage_unique (h : Orderly ps before f) {stage stage' : Stage} (hin : stage ∈ f.underWay)
    (hin' : stage' ∈ f.underWay) (hkey : stage.path.key = stage'.path.key) : stage = stage' :=
  List.inj_on_of_nodup_map h.stages_nodup hin hin' hkey

theorem mem_erase (h : Orderly ps before f) {stage stage' : Stage} (hin : stage ∈ f.underWay) :
    stage' ∈ f.underWay.erase stage ↔ stage' ∈ f.underWay ∧ stage'.path.key ≠ stage.path.key := by
  rw [(List.Nodup.of_map _ h.stages_nodup).mem_erase_iff]
  constructor
  · rintro ⟨hne, hin'⟩
    exact ⟨hin', fun hkey => hne (h.stage_unique hin' hin hkey)⟩
  · rintro ⟨hin', hkey⟩
    exact ⟨fun heq => hkey (heq ▸ rfl), hin'⟩

theorem run (h : Orderly ps before f) (hps : (ps.map Path.key).Nodup)
    (es : List (Clock × Event)) : Orderly ps (before ++ f.trace es) (f.run es).1 := by
  induction es generalizing f before with
  | nil => simpa [trace, Follower.run] using h
  | cons e es ih =>
    rw [trace, ← List.append_assoc]
    exact ih (h.move hps (f.step_move e.1 e.2))

theorem inFlight_le_one (h : Orderly ps before f)
    (hphase : ∀ p v batch, f.phase ≠ .sending p v batch) (p : Path) :
    (f.inFlight p).length ≤ 1 ∧ (f.watcher.isReserved p = true ↔ (f.inFlight p).length = 1) := by
  have hkeys : f.cycles.entries.map (·.1) = f.underWay.map (·.path.key) := by
    rw [cycles_of_not_sending hphase, List.map_map]
    rfl
  have hcount : (f.inFlight p).length = (f.underWay.map (·.path.key)).count p.key := by
    simp only [inFlight, List.count, List.countP_map, ← List.countP_eq_length_filter]
    exact List.countP_congr fun stage _ => by simp
  have hle := List.nodup_iff_count_le_one.1 h.stages_nodup p.key
  have hmem := h.reserved p
  rw [hkeys, ← List.count_pos_iff] at hmem
  rw [hcount, hmem]
  omega

end Orderly

theorem orderly (s : Settings) (format : LineFormat) (hasOutput : Bool)
    (es : List (Clock × Event)) :
    Orderly (Path.distinct s.paths) ((new s format hasOutput).trace es)
      ((new s format hasOutput).run es).1 := by
  simpa using (Orderly.new s format hasOutput).run (Path.distinct_nodup s.paths) es

/-- All that is under way is under way for watched files, under the spellings they are watched by. -/
structure Spelled (ps : List Path) (f : Follower) : Prop where
  watches : f.watcher.Watches ps
  stages : ∀ stage ∈ f.underWay, stage.path ∈ ps

namespace Spelled

variable {ps : List Path} {f f' : Follower}

theorem new (s : Settings) (format : LineFormat) (hasOutput : Bool) :
    Spelled (Path.distinct s.paths) (.new s format hasOutput) where
  watches := Watcher.new_watches _ _ _ _
  stages := fun stage hstage => by cases hstage

theorem of_subset (h : Spelled ps f) (hwatches : f'.watcher.Watches ps)
    (hstages : ∀ stage ∈ f'.underWay, stage ∈ f.underWay) : Spelled ps f' :=
  ⟨hwatches, fun stage hstage => h.stages stage (hstages stage hstage)⟩

theorem move (h : Spelled ps f) {clock : Clock} {e : Event} {actions : List Action}
    {calls : List Call} (hmove : Move f clock e f' actions calls) : Spelled ps f' := by
  have herase : ∀ stage, ∀ other ∈ f.underWay.erase stage, other ∈ f.underWay :=
    fun stage other hother => List.mem_of_mem_erase hother
  cases hmove with
  | ignored _ => exact h
  | stopped _ => exact ⟨h.watches, h.stages⟩
  | ticked _ =>
    refine ⟨h.watches.startRound, fun stage hstage => ?_⟩
    rcases List.mem_append.1 hstage with hold | hnew
    · exact h.stages stage hold
    · obtain ⟨p, hp, rfl⟩ := List.mem_map.1 hnew
      rw [Stage.path_probing, ← h.watches.paths]
      exact (List.filter_sublist.map _).subset hp
  | @unchanged p s w entries _ _ hlook =>
    obtain rfl : (f.watcher.look clock.now p s).1 = w := by rw [hlook]
    exact h.of_subset ((h.watches.look _ _ _).release _ _) (herase _)
  | @skipped p s w c entries more r v _ _ hlook _ =>
    obtain rfl : (f.watcher.look clock.now p s).1 = w := by rw [hlook]
    exact h.of_subset ((h.watches.look _ _ _).release _ _) (herase _)
  | @started p s w c entries more r window _ hp hlook _ =>
    obtain rfl : (f.watcher.look clock.now p s).1 = w := by rw [hlook]
    refine ⟨h.watches.look _ _ _, fun stage hstage => ?_⟩
    rcases List.mem_append.1 hstage with hold | hnew
    · exact h.stages stage (herase _ _ hold)
    · rw [List.mem_singleton.1 hnew]
      exact h.stages (.probing p) hp
  | taken _ _ _ _ => exact h.of_subset (h.watches.release _ _) (herase _)
  | batched _ _ _ _ => exact h.of_subset h.watches (herase _)
  | sent _ => exact h.of_subset (h.watches.release _ _) fun _ => id
  | refused _ => exact h.of_subset (h.watches.release _ _) fun _ => id
  | brokenOff _ => exact h.of_subset (h.watches.release _ _) fun _ => id

theorem step (h : Spelled ps f) (clock : Clock) (e : Event) : Spelled ps (f.step clock e).1 :=
  h.move (f.step_move clock e)

theorem run (h : Spelled ps f) (es : List (Clock × Event)) : Spelled ps (f.run es).1 := by
  induction es generalizing f with
  | nil => exact h
  | cons e es ih => exact ih (h.step e.1 e.2)

end Spelled

end Follower

/-- Whatever paths are watched and in whatever order events come, each file has one cycle at a time.

Between two turns of the loop a file is reserved if and only if one stage of it is under way, and
there are never two. A tick probes each file that is not reserved, once and in watch order, so that
the only stage which keeps a file from being probed is its own. The calls on watcher and reader, which
are all that changes them, come for each file in the order of a cycle, one cycle after the other. -/
theorem one_cycle_at_a_time (s : Settings) (format : LineFormat) (hasOutput : Bool)
    (es : List (Clock × Event)) :
    let start := Follower.new s format hasOutput
    let f := (start.run es).1
    ((∀ p v batch, f.phase ≠ .sending p v batch) → ∀ p : Path,
      (f.inFlight p).length ≤ 1 ∧
        (f.watcher.isReserved p = true ↔ (f.inFlight p).length = 1)) ∧
    (f.phase = .polling → ∀ clock : Clock,
      let due := (Path.distinct s.paths).filter fun p => !f.watcher.isReserved p
      (f.step clock .ticked).2 = due.map .probe ∧
        (f.step clock .ticked).1.underWay = f.underWay ++ due.map .probing ∧
        (due.map Path.key).Nodup ∧
        ∀ p ∈ s.paths, f.inFlight p = [] → p.key ∈ due.map Path.key) ∧
    (start.trace es).foldl Call.apply (start.watcher, start.reader) = (f.watcher, f.reader) ∧
    ∀ p ∈ s.paths, Standing.run p.key .idle (start.trace es) = some (f.standing p.key) := by
  intro start f
  have h : Follower.Orderly (Path.distinct s.paths) (start.trace es) f :=
    Follower.orderly s format hasOutput es
  have hps := Path.distinct_nodup s.paths
  refine ⟨h.inFlight_le_one, ?_, start.apply_trace es, fun p hp =>
    h.protocol p.key (Path.mem_keys_distinct hp)⟩
  intro hphase clock due
  have hidle : f.watcher.idlePaths = due := h.watches.idlePaths_eq hps
  have hstep : f.step clock .ticked = f.onTick := by simp [Follower.step, hphase]
  have hnot : ∀ p v batch, f.phase ≠ .sending p v batch := fun p v batch hsending => by
    rw [hphase] at hsending
    cases hsending
  rw [hstep, ← hidle]
  refine ⟨rfl, rfl, ?_, fun p hp hnone => ?_⟩
  · rw [hidle]
    exact hps.sublist (List.filter_sublist.map _)
  · have hfree : f.watcher.isReserved p = false := by
      have hiff := (h.inFlight_le_one hnot p).2
      rw [hnone] at hiff
      simpa using hiff
    obtain ⟨q, hq, hkey⟩ := List.mem_map.1 (Path.mem_keys_distinct hp)
    rw [hidle]
    refine List.mem_map.2 ⟨q, List.mem_filter.2 ⟨hq, ?_⟩, hkey⟩
    rw [Watcher.isReserved_of_key _ hkey, hfree]
    rfl

/-- While the probe of `/a`, which is listed twice, does not end, `/b` is probed at each tick. -/
theorem one_cycle_at_a_time_slow_probe :
    let a : Path := .ofString "/a"
    let b : Path := .ofString "/b"
    let s : Settings := { Settings.default with paths := [a, b, .ofString "//a"] }
    let start := Follower.new s (.ofText .utf8 "\n") true
    let f := (start.run [(default, .ticked), (default, .probed b .missing)]).1
    (f.inFlight a).length = 1 ∧ (f.step default .ticked).2 = [.probe b] := by
  intro a b s start f
  have hphase : f.phase = .polling := by decide +kernel
  obtain ⟨hstages, htick, -⟩ := one_cycle_at_a_time s (.ofText .utf8 "\n") true
    [(default, .ticked), (default, .probed b .missing)]
  have hreserved : f.watcher.isReserved a = true := by decide +kernel
  have hdue : (Path.distinct s.paths).filter (fun p => !f.watcher.isReserved p) = [b] := by
    decide +kernel
  obtain ⟨hactions, -⟩ := htick hphase default
  refine ⟨(hstages ?_ a).2.1 hreserved, ?_⟩
  · intro p v batch hsending
    rw [hphase] at hsending
    cases hsending
  · rw [hactions, hdue]
    rfl

end FileTail
