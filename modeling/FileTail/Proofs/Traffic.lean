import FileTail.Follow.Schedule
import FileTail.Proofs.Reservation

/-!
# FileTail.Proofs.Traffic

What the follower reads, what it sends and what it counts agree, in whatever order probes and reads
end, batches are taken from the channel, the consumer goes away or the follower is told to stop.

* `Schedule.Turn`: all that the follower can do next, in any order and at any time.
* `Traffic`: runs of the follower together with the other end of its channel.
* `Balance`: the batches that were read are those that were put on the channel, and at most one more.
* `Balance.turn`, `Traffic.balance`: each turn and so each run keeps it.
* `output_and_counters_agree`: what it means at every point of a run.
-/

namespace FileTail

namespace Yield

/-- The batches that reads make. A read without lines makes none. -/
def batches (ys : List Yield) : List (List Line) := (ys.map (·.lines)).filter (· ≠ [])

/-- The bytes that were given up. -/
def totalSkipped : List Yield → Nat
  | [] => 0
  | y :: ys => y.skipped + totalSkipped ys

theorem batches_append (ys more : List Yield) : batches (ys ++ more) = batches ys ++ batches more := by
  simp only [batches, List.map_append, List.filter_append]

theorem totalSkipped_append (ys more : List Yield) :
    totalSkipped (ys ++ more) = totalSkipped ys + totalSkipped more := by
  induction ys with
  | nil => simp [totalSkipped]
  | cons y ys ih => rw [List.cons_append, totalSkipped, ih, totalSkipped, Nat.add_assoc]

end Yield

namespace Action

def batch? : Action → Option (List Line)
  | send batch => some batch
  | _ => none

end Action

namespace Follower

/-- The reads that an event completes. -/
def yields (f : Follower) (clock : Clock) (e : Event) : List Yield :=
  match f.phase, e with
  | .polling, .fetched q result =>
    if .reading q ∈ f.underWay then [(f.reader.absorb clock q result).2.1] else []
  | _, _ => []

/-- What an event does to a follower that sends nothing: it sends the batch of the read that was
completed, or there is none. -/
inductive Polled (f : Follower) (ys : List Yield) (f' : Follower) (actions : List Action) : Prop where
  | quiet : f'.phase = .polling ∨ f'.phase = .stopped → Yield.batches ys = [] →
      (∀ a ∈ actions, a.batch? = none) → Polled f ys f' actions
  | batched {p : Path} {v : Verdict} {batch : List Line} {entries : List LogEntry} :
      f'.phase = .sending p v batch → Yield.batches ys = [batch] →
      actions = entries.map .log ++ [.send batch] → Polled f ys f' actions

variable {f : Follower} {clock : Clock} {e : Event}

theorem yields_ignored (h : ¬ f.Awaits e) : f.yields clock e = [] := by
  cases hphase : f.phase with
  | polling =>
    cases e with
    | fetched q result =>
      have hq : .reading q ∉ f.underWay := fun hq => h ⟨hphase, hq⟩
      simp [yields, hphase, hq]
    | _ => simp [yields, hphase]
  | _ => simp [yields, hphase]

/-- Only a read that ends completes one. -/
theorem yields_of_ne_fetched (h : ∀ q result, e ≠ .fetched q result) : f.yields clock e = [] := by
  cases e with
  | fetched q result => exact absurd rfl (h q result)
  | _ => simp [yields]

theorem yields_fetched (hphase : f.phase = .polling) {q : Request} (hq : .reading q ∈ f.underWay)
    {result : Except ReadFailure Bytes} {r : Reader} {y : Yield} {entries : List LogEntry}
    (habsorb : f.reader.absorb clock q result = (r, y, entries)) :
    f.yields clock (.fetched q result) = [y] := by
  simp [yields, hphase, hq, habsorb]

theorem batch?_logs (entries : List LogEntry) : ∀ a ∈ entries.map Action.log, a.batch? = none := by
  intro a ha
  obtain ⟨entry, -, rfl⟩ := List.mem_map.1 ha
  rfl

theorem polled (hphase : f.phase = .polling) (hout : f.hasOutput = true) (clock : Clock) (e : Event) :
    Polled f (f.yields clock e) (f.step clock e).1 (f.step clock e).2 ∧
      (f.step clock e).1.hasOutput = true ∧
      (f.step clock e).1.counters = { f.counters with
        skipped := f.counters.skipped + Yield.totalSkipped (f.yields clock e) } := by
  have hmove := f.step_move clock e
  generalize (f.step clock e).1 = f' at hmove ⊢
  generalize (f.step clock e).2 = actions at hmove ⊢
  generalize f.calls clock e = calls at hmove
  cases hmove with
  | ignored hnot =>
    rw [yields_ignored hnot]
    exact ⟨.quiet (.inl hphase) rfl (by simp), hout, rfl⟩
  | stopped _ =>
    rw [yields_of_ne_fetched (by simp)]
    exact ⟨.quiet (.inr rfl) rfl (by simp [stopping, Action.batch?]), hout, rfl⟩
  | ticked _ =>
    rw [yields_of_ne_fetched (by simp)]
    exact ⟨.quiet (.inl hphase) rfl (by simp [Action.batch?]), hout, rfl⟩
  | unchanged _ _ _ =>
    rw [yields_of_ne_fetched (by simp)]
    exact ⟨.quiet (.inl hphase) rfl (batch?_logs _), hout, rfl⟩
  | skipped _ _ _ _ =>
    rw [yields_of_ne_fetched (by simp)]
    exact ⟨.quiet (.inl hphase) rfl (batch?_logs _), hout, rfl⟩
  | started _ _ _ _ =>
    rw [yields_of_ne_fetched (by simp)]
    refine ⟨.quiet (.inl hphase) rfl fun a ha => ?_, hout, rfl⟩
    rcases List.mem_append.1 ha with ha | ha
    · exact batch?_logs _ a ha
    · rw [List.mem_singleton.1 ha]
      rfl
  | @taken q result r y entries _ hq habsorb hdone =>
    have hnil : y.lines = [] := hdone.resolve_right (by simp [hout])
    rw [yields_fetched hphase hq habsorb]
    exact ⟨.quiet (.inl hphase) (by simp [Yield.batches, hnil]) (batch?_logs _), hout, rfl⟩
  | @batched q result r y entries _ hq habsorb hdone =>
    have hsome : y.lines ≠ [] := fun hnil => hdone (.inl hnil)
    rw [yields_fetched hphase hq habsorb]
    exact ⟨.batched rfl (by simp [Yield.batches, hsome]) rfl, hout, rfl⟩
  | sent hsending => rw [hphase] at hsending; cases hsending
  | refused hsending => rw [hphase] at hsending; cases hsending
  | brokenOff hsending => rw [hphase] at hsending; cases hsending

/-- The end of a send, whatever it is, asks for no more of the channel. -/
theorem step_sending {p : Path} {v : Verdict} {batch : List Line}
    (hphase : f.phase = .sending p v batch) (clock : Clock) :
    (f.step clock .sent).1 = (f.onSent p v batch).1 ∧
      (f.step clock .refused).1 = f.onRefused p v batch ∧
      (f.step clock .cancelled).1 = f.onRefused p v batch ∧
      ∀ e, ∀ a ∈ (f.step clock e).2, a.batch? = none := by
  unfold step
  rw [hphase]
  refine ⟨rfl, rfl, rfl, fun e => ?_⟩
  cases e <;> simp [onSent, stopping, Action.batch?]

end Follower

/-! ## The channel -/

namespace Channel

variable {α : Type} {c d : Channel α} {a : α}

theorem receive_kept (h : c.receive = (d, .item a)) :
    d.senders = c.senders ∧ d.pending = c.pending ∧ d.receiving = c.receiving ∧
      ∃ n, d.waiting = c.waiting.drop n := by
  unfold receive at h
  split at h
  · cases h
  · dsimp only at h
    split at h
    · cases h
      exact ⟨rfl, rfl, rfl, _, rfl⟩
    · split at h <;> cases h

theorem items_of_nothing_waiting (h : c.waiting = []) : c.items = c.queue := by
  simp [items, h]

/-- The channel without its only send. -/
theorem forget_only {ticket : Nat} (hw : c.waiting = [] ∨ c.waiting = [(ticket, a)])
    (hp : c.pending = [ticket]) : c.forget ticket = { c with waiting := [], pending := [] } := by
  rcases hw with hw | hw <;> simp [forget, hw, hp]

theorem poll_entered {ticket : Nat} (hw : c.waiting = []) (hp : c.pending = [ticket]) :
    c.poll ticket = (c.forget ticket, .sent) := by
  simp [poll, hw, hp]

theorem poll_waiting {ticket : Nat} (hw : c.waiting = [(ticket, a)]) (hp : c.pending = [ticket]) :
    c.poll ticket = if c.receiving then (c, .waiting) else (c.forget ticket, .disconnected) := by
  simp [poll, hw, hp]

end Channel

/-! ## Turns -/

namespace Schedule

/-- Hand an event to the follower at some time. -/
def applyAt (files : Files) (clock : Clock) (s : Schedule) (e : Event) : Schedule :=
  let (follower, actions) := s.follower.step clock e
  actions.foldl (perform files) { s with follower := follower }

/-- The same follower at the same channel. Time, the jobs under way and the marks may differ. -/
structure Agrees (s s' : Schedule) : Prop where
  follower : s'.follower = s.follower
  channel : s'.channel = s.channel
  ticket : s'.ticket = s.ticket
  sending : s'.sending = s.sending

/-- What the follower can do next: whatever event comes, at whatever time. A send can be broken off
before it is tried or as long as it waits. -/
inductive Turn : Schedule → List Yield → Schedule → Prop where
  | happened {s : Schedule} (files : Files) (clock : Clock) (e : Event) :
      s.follower.phase = .polling →
      Turn s (s.follower.yields clock e) (s.applyAt files clock e)
  | forestalled {s : Schedule} {p : Path} {v : Verdict} {batch : List Line} (clock later : Clock)
      (e : Event) :
      s.follower.phase = .polling → (s.follower.step clock e).1.phase = .sending p v batch →
      Turn s (s.follower.yields clock e)
        { s with follower := ((s.follower.step clock e).1.step later .cancelled).1 }
  | sent {s : Schedule} {p : Path} {v : Verdict} {batch : List Line} (files : Files) (clock : Clock) :
      s.follower.phase = .sending p v batch → s.checkSend.sending = .sent →
      Turn s [] (s.checkSend.applyAt files clock .sent)
  | refused {s : Schedule} {p : Path} {v : Verdict} {batch : List Line} (files : Files)
      (clock : Clock) :
      s.follower.phase = .sending p v batch → s.checkSend.sending ≠ .sent →
      s.checkSend.sending ≠ .waiting → Turn s [] (s.checkSend.applyAt files clock .refused)
  | brokenOff {s : Schedule} {p : Path} {v : Verdict} {batch : List Line} (files : Files)
      (clock : Clock) :
      s.follower.phase = .sending p v batch → s.checkSend.sending = .waiting →
      Turn s [] (s.checkSend.giveUpSend.applyAt files clock .cancelled)
  | passed {s s' : Schedule} : s.Agrees s' → Turn s [] s'

/-- One turn after the other. -/
inductive Turns (s : Schedule) : List Yield → Schedule → Prop where
  | none : Turns s [] s
  | turn {ys more : List Yield} {s' s'' : Schedule} :
      Turns s ys s' → s'.Turn more s'' → Turns s (ys ++ more) s''

end Schedule

/-- The runs of a follower with the other end of its channel: the reads that were completed and the
batches that were taken from the channel, in their order. -/
inductive Traffic (start : Schedule) : List Yield → List (List Line) → Schedule → Prop where
  | start : Traffic start [] [] start
  | turned {ys more : List Yield} {taken : List (List Line)} {s s' : Schedule} :
      Traffic start ys taken s → s.Turn more s' → Traffic start (ys ++ more) taken s'
  | taken {ys : List Yield} {taken : List (List Line)} {s : Schedule} {c : Channel (List Line)}
      {batch : List Line} :
      Traffic start ys taken s → s.channel.receive = (c, .item batch) →
      Traffic start ys (taken ++ [batch]) { s with channel := c }
  | left {ys : List Yield} {taken : List (List Line)} {s : Schedule} :
      Traffic start ys taken s → Traffic start ys taken { s with channel := s.channel.dropReceiver }
  | hungUp {ys : List Yield} {taken : List (List Line)} {s : Schedule} :
      Traffic start ys taken s → s.follower.phase = .stopped →
      Traffic start ys taken { s with channel := s.channel.dropSender 0 }

namespace Schedule

variable {files : Files} {s s' s'' : Schedule} {clock : Clock} {e : Event}

theorem checkSend_follower (s : Schedule) : s.checkSend.follower = s.follower := by
  unfold checkSend
  split <;> rfl

namespace Agrees

theorem refl (s : Schedule) : Agrees s s := ⟨rfl, rfl, rfl, rfl⟩

theorem trans (h : Agrees s s') (h' : Agrees s' s'') : Agrees s s'' where
  follower := h'.follower.trans h.follower
  channel := h'.channel.trans h.channel
  ticket := h'.ticket.trans h.ticket
  sending := h'.sending.trans h.sending

theorem perform (files : Files) (s : Schedule) {a : Action} (h : a.batch? = none) :
    Agrees s (s.perform files a) := by
  cases a with
  | send batch => cases h
  | _ => exact ⟨rfl, rfl, rfl, rfl⟩

theorem performAll (files : Files) {actions : List Action} (h : ∀ a ∈ actions, a.batch? = none)
    (s : Schedule) : Agrees s (actions.foldl (Schedule.perform files) s) := by
  induction actions generalizing s with
  | nil => exact refl s
  | cons a actions ih =>
    exact (perform files s (h a List.mem_cons_self)).trans
      (ih (fun other hother => h other (List.mem_cons_of_mem _ hother)) _)

theorem applyAt (files : Files) (h : ∀ a ∈ (s.follower.step clock e).2, a.batch? = none) :
    Agrees { s with follower := (s.follower.step clock e).1 } (s.applyAt files clock e) :=
  performAll files h _

end Agrees

/-! ### The schedule takes such turns -/

theorem Turn.single {ys : List Yield} (h : s.Turn ys s') : s.Turns ys s' := by
  have hturns := Turns.none.turn h
  rwa [List.nil_append] at hturns

theorem Turns.trans {ys more : List Yield} (h : s.Turns ys s') (h' : s'.Turns more s'') :
    s.Turns (ys ++ more) s'' := by
  induction h' with
  | none => rwa [List.append_nil]
  | turn _ hturn ih =>
    rw [← List.append_assoc]
    exact ih.turn hturn

theorem apply_turns (hphase : s.follower.phase = .polling) (files : Files) (e : Event) :
    ∃ ys, s.Turns ys (s.apply files e) :=
  ⟨_, (Turn.happened files ⟨s.now, 0⟩ e hphase).single⟩

theorem resume_turns (hphase : s.follower.phase = .polling) (files : Files) (job : Job) :
    ∃ ys, s.Turns ys (s.resume files job) := by
  unfold resume
  split
  · split
    · exact apply_turns hphase files _
    · exact apply_turns hphase files _
  · have hslept : s.Agrees { s with
        sleeping := insertSleeper ⟨s.now + job.delay, ⟨job.stage, 0⟩⟩ s.sleeping } :=
      ⟨rfl, rfl, rfl, rfl⟩
    exact ⟨[], (Turn.passed hslept).single⟩

/-- What the follower does next by its schedule is one of its turns. -/
theorem turn_turns (h : s.turn files = some s') : ∃ ys, s.Turns ys s' := by
  unfold turn at h
  split at h
  · cases h
  · rename_i p v batch hphase
    dsimp only at h
    split at h
    · rename_i hsent
      cases h
      exact ⟨[], (Turn.sent files ⟨s.checkSend.now, 0⟩ hphase hsent).single⟩
    · rename_i hwaits
      split at h
      · cases h
        exact ⟨[], (Turn.brokenOff files ⟨s.checkSend.giveUpSend.now, 0⟩ hphase hwaits).single⟩
      · cases h
    · rename_i hsent hwaits
      cases h
      exact ⟨[], (Turn.refused files ⟨s.checkSend.now, 0⟩ hphase hsent hwaits).single⟩
  · rename_i hphase
    split at h
    · cases h
      exact apply_turns hphase files _
    · split at h
      · rename_i job r _
        cases h
        have hready : s.Turn [] { s with ready := r } := .passed ⟨rfl, rfl, rfl, rfl⟩
        obtain ⟨ys, hturns⟩ := resume_turns (s := { s with ready := r }) hphase files job
        exact ⟨_, hready.single.trans hturns⟩
      · split at h
        · cases h
          have htick : s.Turn [] { s with nextTick := tickAfter s.period s.nextTick s.now } :=
            .passed ⟨rfl, rfl, rfl, rfl⟩
          obtain ⟨ys, hturns⟩ := apply_turns
            (s := { s with nextTick := tickAfter s.period s.nextTick s.now }) hphase files .ticked
          exact ⟨_, htick.single.trans hturns⟩
        · cases h

theorem turns_turns (s : Schedule) (files : Files) (fuel : Nat) :
    ∃ ys, s.Turns ys (s.turns files fuel) := by
  induction fuel generalizing s with
  | zero => exact ⟨[], .none⟩
  | succ fuel ih =>
    unfold turns
    split
    · exact ⟨[], .none⟩
    · rename_i hturn
      obtain ⟨ys, hfirst⟩ := turn_turns hturn
      obtain ⟨more, hrest⟩ := ih _
      exact ⟨_, hfirst.trans hrest⟩

theorem wake_turn (s : Schedule) (t : Nat) : s.Turn [] (s.wake t) := .passed ⟨rfl, rfl, rfl, rfl⟩

end Schedule

theorem Traffic.turns {start s s' : Schedule} {ys more : List Yield} {taken : List (List Line)}
    (h : Traffic start ys taken s) (hturns : s.Turns more s') :
    Traffic start (ys ++ more) taken s' := by
  induction hturns with
  | none => rwa [List.append_nil]
  | turn _ hturn ih =>
    rw [← List.append_assoc]
    exact ih.turned hturn

/-! ## The balance -/

/-- How the send of a batch fares: the batch lies in the queue, waits for room or has been let in since,
or has not come to the channel. -/
inductive Offer (c : Channel (List Line)) (ticket : Nat) (batch : List Line) :
    SendState → List (List Line) → Prop where
  | entered : c.waiting = [] → c.pending = [] → Offer c ticket batch .sent [batch]
  | waiting : c.waiting = [] ∨ c.waiting = [(ticket, batch)] → c.pending = [ticket] →
      Offer c ticket batch .waiting [batch]
  | declined {state : SendState} : state ≠ .sent → state ≠ .waiting → c.waiting = [] →
      c.pending = [] → Offer c ticket batch state []

/-- How the follower stands with its channel: the batches that were read and are not accepted, and of
these the one that is on the channel. -/
inductive Outlet (f : Follower) (c : Channel (List Line)) (ticket : Nat) (state : SendState) :
    List (List Line) → List (List Line) → Prop where
  | idle : f.phase = .polling → f.counters.refused = 0 → c.senders = [0] → c.waiting = [] →
      c.pending = [] → Outlet f c ticket state [] []
  | sending {p : Path} {v : Verdict} {batch : List Line} {offered : List (List Line)} :
      f.phase = .sending p v batch → f.counters.refused = 0 → c.senders = [0] →
      Offer c ticket batch state offered → Outlet f c ticket state [batch] offered
  | ended {rest : List (List Line)} :
      f.phase = .stopped → f.counters.refused = rest.flatten.length → rest.length ≤ 1 →
      c.waiting = [] → c.pending = [] → Outlet f c ticket state rest []

/-- The other end can only let in what waits. -/
theorem Offer.received {c d : Channel (List Line)} {ticket : Nat} {batch : List Line}
    {state : SendState} {offered : List (List Line)} (h : Offer c ticket batch state offered)
    (hpending : d.pending = c.pending) {n : Nat} (hwaiting : d.waiting = c.waiting.drop n) :
    Offer d ticket batch state offered := by
  have hnone : c.waiting = [] → d.waiting = [] := fun hw => by rw [hwaiting, hw, List.drop_nil]
  cases h with
  | entered hw hp => exact .entered (hnone hw) (hpending.trans hp)
  | declined hsent hwaits hw hp => exact .declined hsent hwaits (hnone hw) (hpending.trans hp)
  | waiting hw hp =>
    refine .waiting ?_ (hpending.trans hp)
    rcases hw with hw | hw
    · exact .inl (hnone hw)
    · cases n with
      | zero => exact .inr (hwaiting.trans hw)
      | succ n => exact .inl (by rw [hwaiting, hw, List.drop_succ_cons, List.drop_nil])

theorem Outlet.received {f : Follower} {c d : Channel (List Line)} {ticket : Nat} {state : SendState}
    {rest offered : List (List Line)} (h : Outlet f c ticket state rest offered)
    (hsenders : d.senders = c.senders) (hpending : d.pending = c.pending) {n : Nat}
    (hwaiting : d.waiting = c.waiting.drop n) : Outlet f d ticket state rest offered := by
  have hnone : c.waiting = [] → d.waiting = [] := fun hw => by rw [hwaiting, hw, List.drop_nil]
  cases h with
  | idle hphase hrefused hs hw hp =>
    exact .idle hphase hrefused (hsenders.trans hs) (hnone hw) (hpending.trans hp)
  | sending hphase hrefused hs hoffer =>
    exact .sending hphase hrefused (hsenders.trans hs) (hoffer.received hpending hwaiting)
  | ended hphase hrefused hrest hw hp =>
    exact .ended hphase hrefused hrest (hnone hw) (hpending.trans hp)

/-- The counters, and the batches that were read: those that are accepted and those that are not. -/
structure Counted (ys : List Yield) (put rest : List (List Line)) (f : Follower) : Prop where
  hasOutput : f.hasOutput = true
  batches : Yield.batches ys = put ++ rest
  accepted : f.counters.accepted = put.flatten.length
  skipped : f.counters.skipped = Yield.totalSkipped ys

/-- What was taken from the channel and what is there was accepted or is on offer. -/
structure Balance (ys : List Yield) (taken put rest offered : List (List Line)) (s : Schedule) :
    Prop where
  counted : Counted ys put rest s.follower
  channel : taken ++ s.channel.items = put ++ offered
  outlet : Outlet s.follower s.channel s.ticket s.sending rest offered

namespace Balance

variable {ys more : List Yield} {taken put rest offered : List (List Line)} {s s' : Schedule}
  {f : Follower} {p : Path} {v : Verdict} {batch : List Line} {clock : Clock} {e : Event}

theorem new (settings : Settings) (format : LineFormat) (period capacity : Nat) :
    Balance [] [] [] [] [] (.new (.new settings format true) period capacity) where
  counted := ⟨rfl, rfl, rfl, rfl⟩
  channel := rfl
  outlet := .idle rfl rfl rfl rfl rfl

theorem agrees (h : Balance ys taken put rest offered s) (hs : s.Agrees s') :
    Balance ys taken put rest offered s' where
  counted := by rw [hs.follower]; exact h.counted
  channel := by rw [hs.channel]; exact h.channel
  outlet := by rw [hs.follower, hs.channel, hs.ticket, hs.sending]; exact h.outlet

/-! ### The other end of the channel -/

theorem received (h : Balance ys taken put rest offered s) {c : Channel (List Line)}
    (hc : s.channel.receive = (c, .item batch)) :
    Balance ys (taken ++ [batch]) put rest offered { s with channel := c } := by
  obtain ⟨hsenders, hpending, -, n, hwaiting⟩ := Channel.receive_kept hc
  have hitems : taken ++ [batch] ++ c.items = taken ++ s.channel.items := by
    rw [Channel.receive_items _ hc, List.append_assoc, List.singleton_append]
  exact
    { h with
      channel := hitems.trans h.channel
      outlet := h.outlet.received hsenders hpending hwaiting }

theorem left (h : Balance ys taken put rest offered s) :
    Balance ys taken put rest offered { s with channel := s.channel.dropReceiver } :=
  { h with
    channel := h.channel
    outlet := h.outlet.received rfl rfl (List.drop_zero).symm }

/-! ### Where the follower stands -/

/-- While the follower polls nothing is open. -/
theorem polling (h : Balance ys taken put rest offered s) (hphase : s.follower.phase = .polling) :
    rest = [] ∧ offered = [] ∧ s.follower.counters.refused = 0 ∧ s.channel.senders = [0] ∧
      s.channel.waiting = [] ∧ s.channel.pending = [] := by
  cases h.outlet with
  | idle _ hrefused hs hw hp => exact ⟨rfl, rfl, hrefused, hs, hw, hp⟩
  | sending hsending => rw [hphase] at hsending; cases hsending
  | ended hstopped => rw [hphase] at hstopped; cases hstopped

/-- While a batch is being sent it is the only one that is open. -/
theorem sending (h : Balance ys taken put rest offered s)
    (hphase : s.follower.phase = .sending p v batch) :
    rest = [batch] ∧ s.follower.counters.refused = 0 ∧ s.channel.senders = [0] ∧
      Offer s.channel s.ticket batch s.sending offered := by
  cases h.outlet with
  | idle hpolling => rw [hphase] at hpolling; cases hpolling
  | ended hstopped => rw [hphase] at hstopped; cases hstopped
  | sending hsending hrefused hs hoffer =>
    obtain ⟨rfl, rfl, rfl⟩ := Phase.sending.inj (hphase.symm.trans hsending)
    exact ⟨rfl, hrefused, hs, hoffer⟩

theorem stopped (h : Balance ys taken put rest offered s) (hphase : s.follower.phase = .stopped) :
    offered = [] ∧ s.follower.counters.refused = rest.flatten.length ∧ rest.length ≤ 1 ∧
      s.channel.waiting = [] ∧ s.channel.pending = [] := by
  cases h.outlet with
  | idle hpolling => rw [hphase] at hpolling; cases hpolling
  | sending hsending => rw [hphase] at hsending; cases hsending
  | ended _ hrefused hrest hw hp => exact ⟨rfl, hrefused, hrest, hw, hp⟩

/-- A batch that waits alone and is taken back was not put on the channel. -/
theorem taken_back (h : Balance ys taken put [batch] [batch] s) {ticket : Nat}
    (hw : s.channel.waiting = [(ticket, batch)]) : taken ++ s.channel.queue = put := by
  have hchannel := h.channel
  simp only [Channel.items, hw, List.map_cons, List.map_nil, ← List.append_assoc] at hchannel
  exact List.append_cancel_right hchannel

/-- The batch that is being sent is in the queue, behind those that are accepted, or not yet. -/
theorem queue_of_sending (h : Balance ys taken put rest offered s)
    (hphase : s.follower.phase = .sending p v batch) :
    taken ++ s.channel.queue = put ∨ taken ++ s.channel.queue = put ++ [batch] := by
  obtain ⟨rfl, -, -, hoffer⟩ := h.sending hphase
  have hchannel := h.channel
  generalize s.sending = state at hoffer
  cases hoffer with
  | entered hw _ =>
    rw [Channel.items_of_nothing_waiting hw] at hchannel
    exact .inr hchannel
  | declined _ _ hw _ =>
    rw [Channel.items_of_nothing_waiting hw, List.append_nil] at hchannel
    exact .inl hchannel
  | waiting hw _ =>
    rcases hw with hw | hw
    · rw [Channel.items_of_nothing_waiting hw] at hchannel
      exact .inr hchannel
    · exact .inl (h.taken_back hw)

theorem hungUp (h : Balance ys taken put rest offered s) (hstopped : s.follower.phase = .stopped) :
    Balance ys taken put rest offered { s with channel := s.channel.dropSender 0 } := by
  obtain ⟨rfl, hrefused, hrest, hw, hp⟩ := h.stopped hstopped
  exact ⟨h.counted, h.channel, .ended hstopped hrefused hrest hw hp⟩

/-! ### Turns of the follower -/

/-- Reads that were completed are counted when the follower knows of them. -/
theorem counted_more (h : Counted ys put [] s.follower) (hout : f.hasOutput = true)
    (hcounters : f.counters = { s.follower.counters with
      skipped := s.follower.counters.skipped + Yield.totalSkipped more })
    (hmore : Yield.batches more = rest) : Counted (ys ++ more) put rest f where
  hasOutput := hout
  batches := by rw [Yield.batches_append, h.batches, hmore, List.append_nil]
  accepted := by rw [hcounters]; exact h.accepted
  skipped := by rw [hcounters, Yield.totalSkipped_append, ← h.skipped]

/-- A batch is offered to a channel at which nothing waits. -/
theorem offer (files : Files) (hcounted : Counted ys put [batch] s.follower)
    (hphase : s.follower.phase = .sending p v batch) (hrefused : s.follower.counters.refused = 0)
    (hsenders : s.channel.senders = [0]) (hw : s.channel.waiting = [])
    (hp : s.channel.pending = []) (hput : taken ++ s.channel.items = put) :
    ∃ offered, Balance ys taken put [batch] offered (s.perform files (.send batch)) := by
  have hqueue : taken ++ s.channel.queue = put := by
    rw [← Channel.items_of_nothing_waiting hw, hput]
  simp only [Schedule.perform]
  rcases hsend : s.channel.send 0 (s.ticket + 1) batch with ⟨c, state⟩
  unfold Channel.send at hsend
  rw [if_pos (by rw [hsenders]; exact List.mem_cons_self)] at hsend
  split at hsend
  · cases hsend
    exact ⟨[], hcounted, hput.trans (List.append_nil _).symm,
      .sending hphase hrefused hsenders (.declined (by simp) (by simp) hw hp)⟩
  · split at hsend
    · cases hsend
      refine ⟨[batch], hcounted, ?_, .sending hphase hrefused hsenders (.entered hw hp)⟩
      simp only [Channel.items, hw, List.map_nil, List.append_nil]
      rw [← List.append_assoc, hqueue]
    · cases hsend
      refine ⟨[batch], hcounted, ?_, .sending hphase hrefused hsenders
        (.waiting (.inr (by rw [hw]; rfl)) (by rw [hp]; rfl))⟩
      simp only [Channel.items, hw, List.nil_append, List.map_cons, List.map_nil]
      rw [← List.append_assoc, hqueue]

theorem happened (h : Balance ys taken put rest offered s) (hphase : s.follower.phase = .polling)
    (files : Files) (clock : Clock) (e : Event) :
    ∃ rest offered,
      Balance (ys ++ s.follower.yields clock e) taken put rest offered (s.applyAt files clock e) := by
  obtain ⟨rfl, rfl, hrefused, hsenders, hw, hp⟩ := h.polling hphase
  obtain ⟨hpolled, hout, hcounters⟩ := Follower.polled hphase h.counted.hasOutput clock e
  have hrefused' : (s.follower.step clock e).1.counters.refused = 0 := by
    rw [hcounters]
    exact hrefused
  cases hpolled with
  | quiet hphase' hnone hactions =>
    have hcounted := counted_more h.counted hout hcounters hnone
    refine ⟨[], [], agrees (s := { s with follower := (s.follower.step clock e).1 })
      ⟨hcounted, h.channel, ?_⟩ (Schedule.Agrees.applyAt files hactions)⟩
    rcases hphase' with hpolling | hstopped
    · exact .idle hpolling hrefused' hsenders hw hp
    · exact .ended hstopped hrefused' (Nat.zero_le _) hw hp
  | @batched p v batch entries hphase' hmore hactions =>
    have hlogs := Schedule.Agrees.performAll files (Follower.batch?_logs entries)
      { s with follower := (s.follower.step clock e).1 }
    have hcounted := counted_more h.counted hout hcounters hmore
    have hput := h.channel.trans (List.append_nil _)
    simp only [Schedule.applyAt, hactions, List.foldl_append, List.foldl_cons, List.foldl_nil]
    generalize (entries.map Action.log).foldl (Schedule.perform files)
      { s with follower := (s.follower.step clock e).1 } = x at hlogs ⊢
    obtain ⟨hfollower, hchannel, -, -⟩ := hlogs
    dsimp only at hfollower hchannel
    rw [← hfollower] at hphase' hrefused' hcounted
    rw [← hchannel] at hsenders hw hp hput
    obtain ⟨offered, hoffer⟩ := offer files hcounted hphase' hrefused' hsenders hw hp hput
    exact ⟨[batch], offered, hoffer⟩

/-- The follower ends with a batch of which nothing is on the channel. -/
theorem given_up (hcounted : Counted ys put [batch] f) (hrefused : f.counters.refused = 0)
    (hput : taken ++ s.channel.items = put ++ []) (hw : s.channel.waiting = [])
    (hp : s.channel.pending = []) (p : Path) (v : Verdict) :
    Balance ys taken put [batch] [] { s with follower := f.onRefused p v batch } where
  counted := ⟨hcounted.hasOutput, hcounted.batches, hcounted.accepted, hcounted.skipped⟩
  channel := hput
  outlet := .ended rfl (by simp [Follower.onRefused, Follower.release, hrefused]) (Nat.le_refl 1) hw hp

/-- A batch whose send is broken off before it is tried does not come to the channel. -/
theorem forestalled (h : Balance ys taken put rest offered s) (hphase : s.follower.phase = .polling)
    (hsending : (s.follower.step clock e).1.phase = .sending p v batch) (later : Clock) :
    Balance (ys ++ s.follower.yields clock e) taken put [batch] []
      { s with follower := ((s.follower.step clock e).1.step later .cancelled).1 } := by
  obtain ⟨rfl, rfl, hrefused, hsenders, hw, hp⟩ := h.polling hphase
  obtain ⟨hpolled, hout, hcounters⟩ := Follower.polled hphase h.counted.hasOutput clock e
  cases hpolled with
  | quiet hphase' =>
    rcases hphase' with hpolling | hstopped
    · rw [hsending] at hpolling; cases hpolling
    · rw [hsending] at hstopped; cases hstopped
  | @batched p' v' batch' entries hphase' hmore hactions =>
    rw [hsending] at hphase'
    cases hphase'
    have hcounted := counted_more h.counted hout hcounters hmore
    obtain ⟨-, -, hstep, -⟩ := Follower.step_sending hsending later
    rw [hstep]
    exact given_up hcounted (by rw [hcounters]; exact hrefused) h.channel hw hp p v

/-- The follower asks how its send fares. A batch that still waits has not come into the queue. -/
theorem checked (h : Balance ys taken put rest offered s)
    (hphase : s.follower.phase = .sending p v batch) :
    ∃ offered, Balance ys taken put [batch] offered s.checkSend ∧
      (s.checkSend.sending = .waiting →
        s.checkSend.channel.waiting = [(s.checkSend.ticket, batch)]) := by
  obtain ⟨rfl, hrefused, hs, hoffer⟩ := h.sending hphase
  generalize hstate : s.sending = state at hoffer
  cases hoffer with
  | entered _ _ =>
    have hcheck : s.checkSend = s := by simp only [Schedule.checkSend, hstate]
    rw [hcheck]
    exact ⟨_, h, fun hwaits => by rw [hstate] at hwaits; cases hwaits⟩
  | declined _ hwaits _ _ =>
    have hcheck : s.checkSend = s := by
      unfold Schedule.checkSend
      split
      · exact absurd (hstate.symm.trans ‹_›) hwaits
      · rfl
    rw [hcheck]
    exact ⟨_, h, fun hnow => absurd (hstate.symm.trans hnow) hwaits⟩
  | waiting hw hp =>
    have hforget := Channel.forget_only hw hp
    rcases hw with hw | hw
    · -- a receive has let the batch in
      have hcheck : s.checkSend =
          { s with channel := { s.channel with waiting := [], pending := [] }, sending := .sent } := by
        simp only [Schedule.checkSend, hstate, Channel.poll_entered hw hp, hforget]
      have hchannel := h.channel
      rw [Channel.items_of_nothing_waiting hw] at hchannel
      rw [hcheck]
      exact ⟨[batch], ⟨h.counted, by simpa [Channel.items] using hchannel,
        .sending hphase hrefused hs (.entered rfl rfl)⟩, by simp⟩
    · cases hreceiving : s.channel.receiving with
      | true =>
        have hcheck : s.checkSend = { s with sending := .waiting } := by
          simp only [Schedule.checkSend, hstate, Channel.poll_waiting hw hp, hreceiving, if_true]
        rw [hcheck]
        exact ⟨_, ⟨h.counted, h.channel, .sending hphase hrefused hs (.waiting (.inr hw) hp)⟩,
          fun _ => hw⟩
      | false =>
        have hcheck : s.checkSend = { s with
            channel := { s.channel with waiting := [], pending := [] }, sending := .disconnected } := by
          simp only [Schedule.checkSend, hstate, Channel.poll_waiting hw hp, hreceiving, hforget,
            Bool.false_eq_true, if_false]
        have hchannel := h.taken_back hw
        rw [hcheck]
        exact ⟨[], ⟨h.counted, by simpa [Channel.items] using hchannel,
          .sending hphase hrefused hs (.declined (by simp) (by simp) rfl rfl)⟩, by simp⟩

/-- The batch is accepted. -/
theorem sent (h : Balance ys taken put rest offered s)
    (hphase : s.follower.phase = .sending p v batch) (hsent : s.sending = .sent) (files : Files)
    (clock : Clock) : Balance ys taken (put ++ [batch]) [] [] (s.applyAt files clock .sent) := by
  obtain ⟨rfl, hrefused, hs, hoffer⟩ := h.sending hphase
  obtain ⟨hstep, -, -, hquiet⟩ := Follower.step_sending hphase clock
  rw [hsent] at hoffer
  cases hoffer with
  | declined hne => exact absurd rfl hne
  | entered hw hp =>
    refine agrees (s := { s with follower := (s.follower.onSent p v batch).1 })
      ⟨⟨h.counted.hasOutput, ?_, ?_, h.counted.skipped⟩, ?_, .idle rfl hrefused hs hw hp⟩
      (hstep ▸ Schedule.Agrees.applyAt files (hquiet .sent))
    · rw [h.counted.batches, List.append_nil]
    · rw [List.flatten_append, List.length_append, ← h.counted.accepted]
      simp [Follower.onSent, Follower.release]
    · rw [List.append_nil]
      exact h.channel

theorem refused (h : Balance ys taken put rest offered s)
    (hphase : s.follower.phase = .sending p v batch) (hsent : s.sending ≠ .sent)
    (hwaits : s.sending ≠ .waiting) (files : Files) (clock : Clock) :
    Balance ys taken put rest [] (s.applyAt files clock .refused) := by
  obtain ⟨rfl, hrefused, -, hoffer⟩ := h.sending hphase
  obtain ⟨-, hstep, -, hquiet⟩ := Follower.step_sending hphase clock
  generalize s.sending = state at hoffer hsent hwaits
  cases hoffer with
  | entered => exact absurd rfl hsent
  | waiting => exact absurd rfl hwaits
  | declined _ _ hw hp =>
    exact (given_up h.counted hrefused h.channel hw hp p v).agrees
      (hstep ▸ Schedule.Agrees.applyAt files (hquiet .refused))

/-- A send that waits is broken off. -/
theorem brokenOff (h : Balance ys taken put rest offered s)
    (hphase : s.follower.phase = .sending p v batch) (hwaits : s.sending = .waiting)
    (hwaiting : s.channel.waiting = [(s.ticket, batch)]) (files : Files) (clock : Clock) :
    Balance ys taken put rest [] (s.giveUpSend.applyAt files clock .cancelled) := by
  obtain ⟨rfl, hrefused, -, hoffer⟩ := h.sending hphase
  have hphase' : s.giveUpSend.follower.phase = .sending p v batch := hphase
  obtain ⟨-, -, hstep, hquiet⟩ := Follower.step_sending hphase' clock
  rw [hwaits] at hoffer
  cases hoffer with
  | declined _ hne => exact absurd rfl hne
  | waiting hw hp =>
    have hchannel := h.taken_back hwaiting
    have habandon : s.channel.abandon s.ticket = { s.channel with waiting := [], pending := [] } := by
      rw [Channel.abandon, if_pos (by rw [hp]; exact List.mem_cons_self), Channel.forget_only hw hp]
    have hgiven : s.giveUpSend = { s with
        channel := { s.channel with waiting := [], pending := [] }, sending := .unknown } := by
      rw [Schedule.giveUpSend, habandon]
    refine agrees (s := { s.giveUpSend with follower := s.follower.onRefused p v batch }) ?_
      (hstep ▸ Schedule.Agrees.applyAt files (hquiet .cancelled))
    rw [hgiven]
    exact given_up (s := { s with
        channel := { s.channel with waiting := [], pending := [] }, sending := .unknown })
      h.counted hrefused (by simpa [Channel.items] using hchannel) rfl rfl p v

/-- Each turn keeps the balance, and accepts one batch at most. -/
theorem turn (h : Balance ys taken put rest offered s) (hturn : s.Turn more s') :
    ∃ put rest offered, Balance (ys ++ more) taken put rest offered s' := by
  cases hturn with
  | happened files clock e hphase => exact ⟨put, h.happened hphase files clock e⟩
  | forestalled clock later e hphase hsending =>
    exact ⟨put, _, _, h.forestalled hphase hsending later⟩
  | sent files clock hphase hsent =>
    obtain ⟨offered, hchecked, -⟩ := h.checked hphase
    rw [List.append_nil]
    exact ⟨_, _, _, hchecked.sent (s.checkSend_follower ▸ hphase) hsent files clock⟩
  | refused files clock hphase hsent hwaits =>
    obtain ⟨offered, hchecked, -⟩ := h.checked hphase
    rw [List.append_nil]
    exact ⟨put, _, _, hchecked.refused (s.checkSend_follower ▸ hphase) hsent hwaits files clock⟩
  | brokenOff files clock hphase hwaits =>
    obtain ⟨offered, hchecked, hwaiting⟩ := h.checked hphase
    rw [List.append_nil]
    exact ⟨put, _, _, hchecked.brokenOff (s.checkSend_follower ▸ hphase) hwaits (hwaiting hwaits)
      files clock⟩
  | passed hs =>
    rw [List.append_nil]
    exact ⟨put, rest, offered, h.agrees hs⟩

end Balance

/-- Every run keeps the balance. -/
theorem Traffic.balance {settings : Settings} {format : LineFormat} {period capacity : Nat}
    {ys : List Yield} {taken : List (List Line)} {s : Schedule}
    (h : Traffic (.new (.new settings format true) period capacity) ys taken s) :
    ∃ put rest offered, Balance ys taken put rest offered s := by
  induction h with
  | start => exact ⟨_, _, _, .new settings format period capacity⟩
  | turned _ hturn ih =>
    obtain ⟨put, rest, offered, hbalance⟩ := ih
    exact hbalance.turn hturn
  | taken _ hreceive ih =>
    obtain ⟨put, rest, offered, hbalance⟩ := ih
    exact ⟨put, rest, offered, hbalance.received hreceive⟩
  | left _ ih =>
    obtain ⟨put, rest, offered, hbalance⟩ := ih
    exact ⟨put, rest, offered, hbalance.left⟩
  | hungUp _ hstopped ih =>
    obtain ⟨put, rest, offered, hbalance⟩ := ih
    exact ⟨put, rest, offered, hbalance.hungUp hstopped⟩

theorem Follower.run_stopped {f : Follower} (h : f.phase = .stopped) (es : List (Clock × Event)) :
    f.run es = (f, []) := by
  induction es with
  | nil => rfl
  | cons e es ih =>
    have hstep : f.step e.1 e.2 = (f, []) := by simp [Follower.step, h]
    simp only [Follower.run, hstep, ih, List.append_nil]

theorem Follower.step_cancelled_phase (f : Follower) (clock : Clock) :
    (f.step clock .cancelled).1.phase = .stopped := by
  unfold step
  cases hphase : f.phase with
  | stopped => exact hphase
  | _ => rfl

/-- Output and counters agree at every point of every run: whatever events come in whatever order, and
whenever batches are taken from the channel, the consumer goes away or the follower is told to stop.

Between two sends the batches that were put on the channel are those of the completed reads, in their
order, and their lines are those that were accepted. While a batch is being sent it comes after these,
and is on the channel or not yet. At the end one batch at most is missing, the lines of which were
refused. Bytes that were given up are counted for each completed read. When the follower is told to
stop, or a batch is refused, it has stopped, and then nothing is probed, read or sent any more. -/
theorem output_and_counters_agree (settings : Settings) (format : LineFormat) (period capacity : Nat)
    {ys : List Yield} {taken : List (List Line)} {s : Schedule}
    (h : Traffic (.new (.new settings format true) period capacity) ys taken s) :
    let f := s.follower
    let batches := Yield.batches ys
    let put := taken ++ s.channel.queue
    f.counters.skipped = Yield.totalSkipped ys ∧
    (f.phase = .polling →
      batches = put ∧ f.counters.accepted = put.flatten.length ∧ f.counters.refused = 0) ∧
    (∀ p v batch, f.phase = .sending p v batch →
      ∃ before, batches = before ++ [batch] ∧ f.counters.accepted = before.flatten.length ∧
        f.counters.refused = 0 ∧ (put = before ∨ put = before ++ [batch])) ∧
    (f.phase = .stopped →
      ∃ rest, batches = put ++ rest ∧ rest.length ≤ 1 ∧
        f.counters.accepted = put.flatten.length ∧ f.counters.refused = rest.flatten.length) ∧
    (∀ clock, (f.step clock .cancelled).1.phase = .stopped) ∧
    (f.counters.refused ≠ 0 → f.phase = .stopped) ∧
    (f.phase = .stopped → ∀ es, f.run es = (f, [])) := by
  intro f batches put
  obtain ⟨before, rest, offered, hbalance⟩ := h.balance
  have hcounted := hbalance.counted
  refine ⟨hcounted.skipped, fun hphase => ?_, fun p v batch hphase => ?_, fun hphase => ?_,
    f.step_cancelled_phase, fun hrefused => ?_, fun hphase => f.run_stopped hphase⟩
  · obtain ⟨rfl, rfl, hrefused, -, hw, -⟩ := hbalance.polling hphase
    have hput : put = before := by
      rw [← List.append_nil before, ← hbalance.channel, Channel.items_of_nothing_waiting hw]
    rw [hput]
    exact ⟨hcounted.batches.trans (List.append_nil _), hcounted.accepted, hrefused⟩
  · have hput := hbalance.queue_of_sending hphase
    obtain ⟨rfl, hrefused, -, -⟩ := hbalance.sending hphase
    exact ⟨before, hcounted.batches, hcounted.accepted, hrefused, hput⟩
  · obtain ⟨rfl, hrefused, hrest, hw, -⟩ := hbalance.stopped hphase
    have hput : put = before := by
      rw [← List.append_nil before, ← hbalance.channel, Channel.items_of_nothing_waiting hw]
    rw [hput]
    exact ⟨rest, hcounted.batches, hrest, hcounted.accepted, hrefused⟩
  · cases hphase : f.phase with
    | stopped => rfl
    | polling => exact absurd (hbalance.polling hphase).2.2.1 hrefused
    | sending p v batch => exact absurd (hbalance.sending hphase).2.1 hrefused

/-- Two lines are read, and the consumer goes away while the second one waits for room: one is
accepted and one refused. -/
theorem output_and_counters_agree_consumer_gone :
    let a : Path := .ofString "/a"
    let settings : Settings := { Settings.default with paths := [a] }
    let files (n : Nat) : Files :=
      { look := fun _ => .seen ⟨some n, n, .ofBytes ((Utf8.encode "hello\nworld\n").take n)⟩
        fetch := fun q => .ok (((Utf8.encode "hello\nworld\n").drop q.window.position).take
          q.window.length)
        lookDelay := fun _ => 0
        fetchDelay := fun _ => 0 }
    let start : Schedule := .new (.new settings (.ofText .utf8 "\n") true) 1000 1
    let one := ((start.turns (files 0) 10).wake 1000).turns (files 6) 10
    let two := (one.wake 2000).turns (files 12) 10
    let last := { two with channel := two.channel.dropReceiver }.turns (files 12) 10
    ∃ ys, Traffic start ys [] last ∧
      ∃ rest, Yield.batches ys = last.channel.queue ++ rest ∧
        last.channel.queue.flatten.length = 1 ∧ rest.flatten.length = 1 := by
  intro a settings files start one two last
  have hrun : ∃ ys, Traffic start ys [] last := by
    obtain ⟨_, hempty⟩ := start.turns_turns (files 0) 10
    obtain ⟨_, hone⟩ := ((start.turns (files 0) 10).wake 1000).turns_turns (files 6) 10
    obtain ⟨_, htwo⟩ := (one.wake 2000).turns_turns (files 12) 10
    obtain ⟨_, hlast⟩ := { two with channel := two.channel.dropReceiver }.turns_turns (files 12) 10
    exact ⟨_, (((((Traffic.start.turns hempty).turned (Schedule.wake_turn _ 1000)).turns
      hone).turned (Schedule.wake_turn _ 2000)).turns htwo).left.turns hlast⟩
  have hcounters : last.follower.counters = ⟨1, 1, 0⟩ := by decide +kernel
  have hphase : last.follower.phase = .stopped := by decide +kernel
  clear_value last
  obtain ⟨ys, h⟩ := hrun
  obtain ⟨-, -, -, hstopped, -⟩ := output_and_counters_agree settings (.ofText .utf8 "\n") 1000 1 h
  obtain ⟨rest, hbatches, -, haccepted, hrefused⟩ := hstopped hphase
  rw [hcounters] at haccepted hrefused
  exact ⟨ys, h, rest, hbatches, haccepted.symm, hrefused.symm⟩

end FileTail
