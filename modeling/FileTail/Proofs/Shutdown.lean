import FileTail.Agent.Basic
import FileTail.Proofs.Loop
import FileTail.Proofs.Traffic

/-!
# FileTail.Proofs.Shutdown

What the follower counts as accepted is printed before the agent ends, however the agent is told to stop
and in whatever order its parts act: the follower stops first, so that an exporter that ends, by itself
or because it is told to, leaves nothing on the channel.

* `Output.Reliable.exportBatch`: a batch is printed whole, behind what was printed before.
* `Delivered`: the exporter has printed the batches that it took.
* `Delivered.deliver`, `Delivered.hurry`: it stays so, and the exporter ends with an empty channel.
* `Agent.History`, `Agent.Kept`: all that can happen to an agent, and what holds all along.
* `nothing_accepted_is_lost`: what was printed when the agent has ended.
-/

namespace FileTail

/-! ## What is printed of a batch -/

namespace Output

/-- An output that takes all it is given, if need be in pieces. -/
structure Reliable (o : Output) : Prop where
  room : o.room = none
  piece : o.piece ≠ some 0
  flushFault : o.flushFault = none

/-- The output with more bytes. -/
def plus (o : Output) (bytes : Bytes) : Output := { o with written := o.written ++ bytes }

variable {o : Output}

theorem Reliable.plus (h : o.Reliable) (bytes : Bytes) : (o.plus bytes).Reliable :=
  ⟨h.room, h.piece, h.flushFault⟩

theorem plus_plus (o : Output) (a b : Bytes) : (o.plus a).plus b = o.plus (a ++ b) := by
  simp only [Output.plus, List.append_assoc]

theorem plus_nil (o : Output) : o.plus [] = o := by
  simp only [Output.plus, List.append_nil]

theorem Reliable.share_pos (h : o.Reliable) {n : Nat} (hn : n ≠ 0) : o.share n ≠ 0 := by
  have hpiece := h.piece
  simp only [share, h.room]
  cases hk : o.piece with
  | none => exact hn
  | some k =>
    rw [hk] at hpiece
    have hk0 : k ≠ 0 := fun h0 => hpiece (by rw [h0])
    simp only
    omega

theorem Reliable.take (h : o.Reliable) (bytes : Bytes) (n : Nat) :
    o.take bytes n = o.plus (bytes.take n) := by
  simp only [Output.take, Output.plus, h.room, Option.map_none]

theorem Reliable.writeAll (h : o.Reliable) (bytes : Bytes) :
    o.writeAll bytes = (o.plus bytes, none) := by
  induction o, bytes using Output.writeAll.induct with
  | case1 o bytes hnil =>
    rw [List.length_eq_zero_iff.1 hnil, Output.writeAll, plus_nil]
    rfl
  | case2 o bytes hsome n hn => exact absurd hn (h.share_pos hsome)
  | case3 o bytes hsome n hn ih =>
    rw [Output.writeAll, if_neg hsome, dif_neg hn]
    rw [h.take] at ih ⊢
    rw [ih (h.plus _), plus_plus, List.take_append_drop]

theorem Reliable.exportBatch (h : o.Reliable) {batch : List Line} {text : List Char}
    (htext : Line.batchToJson batch = .ok text) :
    o.exportBatch batch = (o.plus (Utf8.encode (String.ofList text)), none) := by
  simp only [Output.exportBatch, htext, h.writeAll, flush, (h.plus _).flushFault, Option.map_none]

end Output

/-! ## What turns keep -/

namespace Channel

variable {α : Type}

theorem send_receiving (c : Channel α) (sender ticket : Nat) (a : α) :
    (c.send sender ticket a).1.receiving = c.receiving := by
  unfold send
  split
  · split
    · rfl
    · split <;> rfl
  · rfl

theorem poll_receiving (c : Channel α) (ticket : Nat) :
    (c.poll ticket).1.receiving = c.receiving := by
  unfold poll
  split
  · split
    · split <;> rfl
    · rfl
  · rfl

theorem abandon_receiving (c : Channel α) (ticket : Nat) :
    (c.abandon ticket).receiving = c.receiving := by
  unfold abandon
  split <;> rfl

theorem receive_closed {c d : Channel α} (h : c.receive = (d, .closed)) :
    d = c.refill (c.capacity + 1) ∧ d.queue = [] ∧ c.senders = [] := by
  unfold receive at h
  split at h
  · cases h
  · dsimp only at h
    split at h
    · cases h
    · rename_i hqueue
      split at h
      · rename_i hclosed
        cases h
        rw [isClosed, Bool.and_eq_true] at hclosed
        exact ⟨rfl, hqueue, List.isEmpty_iff.1 hclosed.1⟩
      · cases h

theorem receive_nothing {c d : Channel α} (h : c.receive = (d, .nothingYet)) :
    (c.refill (c.capacity + 1)).queue = [] := by
  unfold receive at h
  split at h
  · cases h
  · dsimp only at h
    split at h
    · cases h
    · assumption

theorem receive_unknown {c d : Channel α} (h : c.receive = (d, .unknown)) : c.receiving = false := by
  unfold receive at h
  split at h
  · rename_i hgone
    simpa using hgone
  · dsimp only at h
    split at h
    · cases h
    · split at h <;> cases h

theorem refill_of_nothing_waiting {c : Channel α} (h : c.waiting = []) (n : Nat) :
    c.refill n = c := by
  cases c
  cases h
  simp [refill]

end Channel

namespace Schedule

variable {files : Files} {s s' : Schedule} {clock : Clock} {e : Event} {ys : List Yield}
  {ps : List Path}

theorem perform_kept (files : Files) (s : Schedule) (a : Action) :
    (s.perform files a).follower = s.follower ∧
      (s.perform files a).channel.receiving = s.channel.receiving := by
  cases a with
  | send batch => exact ⟨rfl, s.channel.send_receiving 0 (s.ticket + 1) batch⟩
  | _ => exact ⟨rfl, rfl⟩

theorem performAll_kept (files : Files) (s : Schedule) (actions : List Action) :
    (actions.foldl (perform files) s).follower = s.follower ∧
      (actions.foldl (perform files) s).channel.receiving = s.channel.receiving := by
  induction actions generalizing s with
  | nil => exact ⟨rfl, rfl⟩
  | cons a actions ih =>
    obtain ⟨hfollower, hreceiving⟩ := perform_kept files s a
    obtain ⟨hfollower', hreceiving'⟩ := ih (s.perform files a)
    exact ⟨hfollower'.trans hfollower, hreceiving'.trans hreceiving⟩

theorem applyAt_kept (files : Files) (clock : Clock) (s : Schedule) (e : Event) :
    (s.applyAt files clock e).follower = (s.follower.step clock e).1 ∧
      (s.applyAt files clock e).channel.receiving = s.channel.receiving :=
  performAll_kept files _ _

theorem checkSend_receiving (s : Schedule) :
    s.checkSend.channel.receiving = s.channel.receiving := by
  unfold checkSend
  split
  · exact s.channel.poll_receiving s.ticket
  · rfl

/-- The follower does not let go of the other end of the channel. -/
theorem Turn.receiving (h : s.Turn ys s') : s'.channel.receiving = s.channel.receiving := by
  cases h with
  | happened files clock e _ => exact (applyAt_kept files clock s e).2
  | forestalled _ _ _ _ _ => rfl
  | sent files clock _ _ => exact (applyAt_kept files clock _ _).2.trans s.checkSend_receiving
  | refused files clock _ _ _ => exact (applyAt_kept files clock _ _).2.trans s.checkSend_receiving
  | brokenOff files clock _ _ =>
    exact (applyAt_kept files clock _ _).2.trans
      ((s.checkSend.channel.abandon_receiving s.checkSend.ticket).trans s.checkSend_receiving)
  | passed hs => rw [hs.channel]

/-- A follower that has stopped takes no turn. -/
theorem Turn.of_stopped (h : s.Turn ys s') (hstopped : s.follower.phase = .stopped) :
    ys = [] ∧ s.Agrees s' := by
  cases h with
  | happened _ _ _ hphase => rw [hstopped] at hphase; cases hphase
  | forestalled _ _ _ hphase _ => rw [hstopped] at hphase; cases hphase
  | sent _ _ hphase _ => rw [hstopped] at hphase; cases hphase
  | refused _ _ hphase _ _ => rw [hstopped] at hphase; cases hphase
  | brokenOff _ _ hphase _ => rw [hstopped] at hphase; cases hphase
  | passed hs => exact ⟨rfl, hs⟩

theorem Turn.spelled (h : s.Turn ys s') (hs : Follower.Spelled ps s.follower) :
    Follower.Spelled ps s'.follower := by
  cases h with
  | happened files clock e _ =>
    rw [(applyAt_kept files clock s e).1]
    exact hs.step clock e
  | forestalled clock later e _ _ => exact (hs.step clock e).step later .cancelled
  | sent files clock _ _ =>
    rw [(applyAt_kept files clock _ _).1, checkSend_follower]
    exact hs.step clock .sent
  | refused files clock _ _ _ =>
    rw [(applyAt_kept files clock _ _).1, checkSend_follower]
    exact hs.step clock .refused
  | brokenOff files clock _ _ =>
    rw [(applyAt_kept files clock _ _).1, giveUpSend, checkSend_follower]
    exact hs.step clock .cancelled
  | passed hsame =>
    rw [hsame.follower]
    exact hs

end Schedule

namespace Follower

/-- What is read at once comes from one of the paths that are watched. -/
theorem Spelled.yields {ps : List Path} {f : Follower} (h : Spelled ps f) (clock : Clock) (e : Event) :
    ∀ y ∈ f.yields clock e, ∃ p ∈ ps, ∀ l ∈ y.lines, l.path = p := by
  intro y hy
  unfold Follower.yields at hy
  split at hy
  · rename_i q result _
    split at hy
    · rename_i hq
      rw [List.mem_singleton.1 hy]
      exact ⟨q.path, h.stages _ hq, f.reader.absorb_lines_path clock q result⟩
    · cases hy
  · cases hy

end Follower

theorem Schedule.Turn.lines {s s' : Schedule} {ys : List Yield} {ps : List Path} (h : s.Turn ys s')
    (hs : Follower.Spelled ps s.follower) : ∀ y ∈ ys, ∃ p ∈ ps, ∀ l ∈ y.lines, l.path = p := by
  cases h with
  | happened _ clock e _ => exact hs.yields clock e
  | forestalled clock _ e _ _ => exact hs.yields clock e
  | _ => intro y hy; cases hy

/-- What is on the channel was read. -/
theorem Balance.mem_batches {ys : List Yield} {taken put rest offered : List (List Line)}
    {s : Schedule} {batch : List Line} (h : Balance ys taken put rest offered s)
    (hbatch : batch ∈ s.channel.items) : ∃ y ∈ ys, y.lines = batch := by
  have hoffered : ∀ b ∈ offered, b ∈ rest := by
    cases h.outlet with
    | idle => exact fun _ => id
    | ended => intro b hb; cases hb
    | sending _ _ _ hoffer =>
      generalize s.sending = state at hoffer
      cases hoffer with
      | declined => intro b hb; cases hb
      | _ => exact fun _ => id
  have hmem : batch ∈ put ++ offered := h.channel ▸ List.mem_append_right taken hbatch
  have hread : batch ∈ Yield.batches ys := by
    rw [h.counted.batches]
    rcases List.mem_append.1 hmem with hput | hoff
    · exact List.mem_append_left _ hput
    · exact List.mem_append_right _ (hoffered batch hoff)
  exact List.mem_map.1 (List.mem_filter.1 hread).1

/-- Nothing waits at the channel of a follower that has stopped. -/
theorem Balance.refill_of_stopped {ys : List Yield} {taken put rest offered : List (List Line)}
    {s : Schedule} (h : Balance ys taken put rest offered s) (hstopped : s.follower.phase = .stopped)
    (n : Nat) : s.channel.refill n = s.channel ∧ s.channel.items = s.channel.queue := by
  obtain ⟨-, -, -, hw, -⟩ := h.stopped hstopped
  exact ⟨Channel.refill_of_nothing_waiting hw n, Channel.items_of_nothing_waiting hw⟩

/-- A channel on which nothing can come any more: the follower has stopped. -/
theorem Balance.closed {ys : List Yield} {taken put rest offered : List (List Line)} {s : Schedule}
    {c : Channel (List Line)} (h : Balance ys taken put rest offered s)
    (hc : s.channel.receive = (c, .closed)) :
    c = s.channel ∧ s.follower.phase = .stopped ∧ s.channel.items = [] := by
  obtain ⟨rfl, hqueue, hnone⟩ := Channel.receive_closed hc
  have hstopped : s.follower.phase = .stopped := by
    cases h.outlet with
    | idle _ _ hs => rw [hnone] at hs; cases hs
    | sending _ _ hs => rw [hnone] at hs; cases hs
    | ended hstopped => exact hstopped
  obtain ⟨hrefill, hitems⟩ := h.refill_of_stopped hstopped (s.channel.capacity + 1)
  rw [hrefill] at hqueue ⊢
  exact ⟨rfl, hstopped, hitems.trans hqueue⟩

/-! ## The exporter -/

namespace Exporter

/-- What a delivery is. -/
theorem deliver?_cases {x : Exporter} {c : Channel (List Line)} {d : Delivery}
    (hd : x.deliver? c = some d) :
    x.ended = false ∧
      ((∃ c' batch, c.receive = (c', .item batch) ∧ d = x.take c' batch) ∨
        ∃ c', c.receive = (c', .closed) ∧ d = x.conclude c') := by
  unfold deliver? at hd
  split at hd
  · cases hd
  · rename_i hopen
    refine ⟨by simpa using hopen, ?_⟩
    split at hd
    · rename_i c' batch hc
      cases hd
      exact .inl ⟨c', batch, hc, rfl⟩
    · rename_i c' hc
      cases hd
      exact .inr ⟨c', hc, rfl⟩
    · cases hd

/-- The exporter has printed these batches and nothing else. -/
def Wrote (x : Exporter) (before : Output) (taken : List (List Line)) : Prop :=
  ∃ text, Line.batchToJson taken.flatten = .ok text ∧
    x.sink = .console (before.plus (Utf8.encode (String.ofList text)))

variable {x : Exporter} {before : Output} {taken : List (List Line)} {batch : List Line}

theorem Wrote.new (before : Output) : (Exporter.new (.console before)).Wrote before [] :=
  ⟨[], rfl, congrArg Sink.console before.plus_nil.symm⟩

theorem Wrote.flush (h : x.Wrote before taken) (hbefore : before.Reliable) : x.sink.flush = none := by
  obtain ⟨text, -, hsink⟩ := h
  rw [hsink, Sink.flush, Output.flush, (hbefore.plus _).flushFault, Option.map_none]

theorem Wrote.take (h : x.Wrote before taken) (hbefore : before.Reliable)
    (hbatch : ∀ l ∈ batch, l.path.toText?.isSome) (c : Channel (List Line)) :
    ∃ sink, x.take c batch = ⟨⟨sink, false⟩, c, none⟩ ∧
      (Exporter.mk sink false).Wrote before (taken ++ [batch]) := by
  obtain ⟨text, htext, hsink⟩ := h
  obtain ⟨more, hmore⟩ := Line.batchToJson_ok hbatch
  refine ⟨_, by simp only [Exporter.take, hsink, Sink.take, (hbefore.plus _).exportBatch hmore]; rfl,
    text ++ more, ?_, ?_⟩
  · rw [List.flatten_append, List.flatten_singleton]
    exact Line.batchToJson_append htext hmore
  · rw [Utf8.encode_append, ← Output.plus_plus]

end Exporter

/-- The follower and the exporter at the two ends of the channel: the batches that the exporter took
are printed, and it ends only when the follower has stopped and nothing is left. -/
structure Delivered (ps : List Path) (before : Output) (ys : List Yield) (taken : List (List Line))
    (s : Schedule) (x : Exporter) : Prop where
  balance : ∃ put rest offered, Balance ys taken put rest offered s
  spelled : Follower.Spelled ps s.follower
  lines : ∀ y ∈ ys, ∀ l ∈ y.lines, l.path ∈ ps
  wrote : x.Wrote before taken
  listening : x.ended = false → s.channel.receiving = true
  drained : x.ended = true → s.follower.phase = .stopped ∧ s.channel.items = []

namespace Delivered

variable {ps : List Path} {before : Output} {ys more : List Yield} {taken : List (List Line)}
  {s s' : Schedule} {x : Exporter} {batch : List Line} {c : Channel (List Line)} {d : Delivery}

theorem turn (h : Delivered ps before ys taken s x) (hturn : s.Turn more s') :
    Delivered ps before (ys ++ more) taken s' x where
  balance := by
    obtain ⟨put, rest, offered, hbalance⟩ := h.balance
    exact hbalance.turn hturn
  spelled := hturn.spelled h.spelled
  lines := fun y hy => (List.mem_append.1 hy).elim (h.lines y) fun hmore l hl => by
    obtain ⟨p, hp, hpath⟩ := hturn.lines h.spelled y hmore
    rwa [hpath l hl]
  wrote := h.wrote
  listening := fun hended => hturn.receiving.trans (h.listening hended)
  drained := fun hended => by
    obtain ⟨hstopped, hitems⟩ := h.drained hended
    obtain ⟨-, hsame⟩ := hturn.of_stopped hstopped
    rw [hsame.follower, hsame.channel]
    exact ⟨hstopped, hitems⟩

theorem agrees (h : Delivered ps before ys taken s x) (hs : s.Agrees s') :
    Delivered ps before ys taken s' x := by
  have hnext := h.turn (.passed hs)
  rwa [List.append_nil] at hnext

theorem hungUp (h : Delivered ps before ys taken s x) (hstopped : s.follower.phase = .stopped) :
    Delivered ps before ys taken { s with channel := s.channel.dropSender 0 } x :=
  { h with
    balance := by
      obtain ⟨put, rest, offered, hbalance⟩ := h.balance
      exact ⟨put, rest, offered, hbalance.hungUp hstopped⟩
    spelled := h.spelled
    listening := h.listening
    drained := h.drained }

/-- The exporter ends: the follower has stopped, and nothing is on the channel. -/
theorem conclude (h : Delivered ps before ys taken s x) (hbefore : before.Reliable)
    (hstopped : s.follower.phase = .stopped) (hitems : s.channel.items = []) :
    (x.conclude s.channel).fault = none ∧
      Delivered ps before ys taken { s with channel := (x.conclude s.channel).channel }
        (x.conclude s.channel).exporter :=
  ⟨h.wrote.flush hbefore,
    { balance := by
        obtain ⟨put, rest, offered, hbalance⟩ := h.balance
        exact ⟨put, rest, offered, hbalance.left⟩
      spelled := h.spelled
      lines := h.lines
      wrote := h.wrote
      listening := fun hended => by cases hended
      drained := fun _ => ⟨hstopped, hitems⟩ }⟩

theorem received (h : Delivered ps before ys taken s x) (hps : ∀ p ∈ ps, p.toText?.isSome)
    (hbefore : before.Reliable) (hopen : x.ended = false)
    (hc : s.channel.receive = (c, .item batch)) :
    (x.take c batch).fault = none ∧ (x.take c batch).channel = c ∧
      Delivered ps before ys (taken ++ [batch]) { s with channel := c } (x.take c batch).exporter := by
  obtain ⟨put, rest, offered, hbalance⟩ := h.balance
  have hitems := Channel.receive_items _ hc
  have hbatch : ∀ l ∈ batch, l.path.toText?.isSome := by
    obtain ⟨y, hy, rfl⟩ := hbalance.mem_batches (hitems ▸ List.mem_cons_self)
    exact fun l hl => hps _ (h.lines y hy l hl)
  obtain ⟨-, -, hreceiving, -⟩ := Channel.receive_kept hc
  obtain ⟨sink, htake, hwrote⟩ := h.wrote.take hbefore hbatch c
  rw [htake]
  exact ⟨rfl, rfl,
    { balance := ⟨put, rest, offered, hbalance.received hc⟩
      spelled := h.spelled
      lines := h.lines
      wrote := hwrote
      listening := fun _ => hreceiving.trans (h.listening hopen)
      drained := fun hended => by cases hended }⟩

/-- The exporter goes on: it prints the next batch, or it ends when there will be none. -/
theorem deliver (h : Delivered ps before ys taken s x) (hps : ∀ p ∈ ps, p.toText?.isSome)
    (hbefore : before.Reliable) (hd : x.deliver? s.channel = some d) :
    d.fault = none ∧ d.channel.items = s.channel.items.tail ∧
      ∃ taken, Delivered ps before ys taken { s with channel := d.channel } d.exporter := by
  obtain ⟨hopen, ⟨c, batch, hc, rfl⟩ | ⟨c, hc, rfl⟩⟩ := Exporter.deliver?_cases hd
  · obtain ⟨hfault, hchannel, hnext⟩ := h.received hps hbefore hopen hc
    rw [hchannel, Channel.receive_items _ hc]
    exact ⟨hfault, rfl, _, hnext⟩
  · obtain ⟨put, rest, offered, hbalance⟩ := h.balance
    obtain ⟨rfl, hstopped, hitems⟩ := hbalance.closed hc
    obtain ⟨hfault, hnext⟩ := h.conclude hbefore hstopped hitems
    refine ⟨hfault, ?_, taken, hnext⟩
    rw [hitems]
    exact hitems

/-- When the exporter cannot go on after the follower has stopped nothing is left. -/
theorem exhausted (h : Delivered ps before ys taken s x) (hstopped : s.follower.phase = .stopped)
    (hd : x.deliver? s.channel = none) : s.channel.items = [] := by
  cases hended : x.ended with
  | true => exact (h.drained hended).2
  | false =>
    have hlistening := h.listening hended
    obtain ⟨put, rest, offered, hbalance⟩ := h.balance
    obtain ⟨hrefill, hitems⟩ := hbalance.refill_of_stopped hstopped (s.channel.capacity + 1)
    unfold Exporter.deliver? at hd
    rw [if_neg (by simp [hended])] at hd
    rcases hc : s.channel.receive with ⟨c, receipt⟩
    rw [hc] at hd
    cases receipt with
    | item batch => cases hd
    | closed => cases hd
    | nothingYet =>
      have hqueue := Channel.receive_nothing hc
      rw [hrefill] at hqueue
      exact hitems.trans hqueue
    | unknown =>
      rw [Channel.receive_unknown hc] at hlistening
      cases hlistening

theorem deliverAll (h : Delivered ps before ys taken s x) (hps : ∀ p ∈ ps, p.toText?.isSome)
    (hbefore : before.Reliable) (hstopped : s.follower.phase = .stopped) {fuel : Nat}
    (hfuel : s.channel.items.length ≤ fuel) :
    let d := Exporter.deliverAll fuel ⟨x, s.channel, none⟩
    d.fault = none ∧ d.channel.items = [] ∧
      ∃ taken, Delivered ps before ys taken { s with channel := d.channel } d.exporter := by
  induction fuel generalizing s x taken with
  | zero =>
    have hitems := List.length_eq_zero_iff.1 (Nat.le_zero.1 hfuel)
    exact ⟨rfl, hitems, taken, h⟩
  | succ fuel ih =>
    cases hd : x.deliver? s.channel with
    | none =>
      have hall : Exporter.deliverAll (fuel + 1) ⟨x, s.channel, none⟩ = ⟨x, s.channel, none⟩ := by
        simp only [Exporter.deliverAll, hd]
      rw [hall]
      exact ⟨rfl, h.exhausted hstopped hd, taken, h⟩
    | some d =>
      obtain ⟨hfault, hitems, taken', hnext⟩ := h.deliver hps hbefore hd
      obtain ⟨x', c', fault⟩ := d
      dsimp only at hfault hitems hnext
      subst hfault
      simp only [Exporter.deliverAll, hd]
      refine ih hnext hstopped ?_
      rw [hitems, List.length_tail]
      omega

/-- An exporter that is told to end prints what is on the channel first. -/
theorem hurry (h : Delivered ps before ys taken s x) (hps : ∀ p ∈ ps, p.toText?.isSome)
    (hbefore : before.Reliable) (hstopped : s.follower.phase = .stopped) :
    (x.hurry s.channel).fault = none ∧
      ∃ taken, Delivered ps before ys taken { s with channel := (x.hurry s.channel).channel }
        (x.hurry s.channel).exporter := by
  obtain ⟨text, -, hsink⟩ := h.wrote
  obtain ⟨hfault, hitems, taken', hnext⟩ := h.deliverAll hps hbefore hstopped (Nat.le_succ _)
  simp only [Exporter.hurry, hsink, Sink.empties, if_true]
  generalize Exporter.deliverAll (s.channel.items.length + 1) ⟨x, s.channel, none⟩ = d at *
  split
  · exact ⟨hfault, taken', hnext⟩
  · obtain ⟨hflushed, hend⟩ := hnext.conclude hbefore hstopped hitems
    exact ⟨hflushed, taken', hend⟩

end Delivered

/-! ## The agent -/

namespace Agent

/-- What can happen next: the follower takes a turn, or lets go of the channel when it has stopped, or
another part of the agent moves. -/
inductive Act (a : Agent) : List Yield → Agent → Prop where
  | turned {ys : List Yield} {s : Schedule} : a.schedule.Turn ys s → Act a ys { a with schedule := s }
  | hungUp : Act a [] a.hangUp
  | moved {m : AgentMove} : (∀ files, m ≠ .follow files) → Act a [] (a.step m)

/-- Whatever can happen, in any order, with the reads that were completed. -/
inductive History (start : Agent) : List Yield → Agent → Prop where
  | start : History start [] start
  | act {ys more : List Yield} {a a' : Agent} :
      History start ys a → a.Act more a' → History start (ys ++ more) a'

/-- The parts of the agent are in step, and it stops the follower before the exporter. -/
structure Kept (ps : List Path) (before : Output) (ys : List Yield) (a : Agent) : Prop where
  delivered : ∃ taken, Delivered ps before ys taken a.schedule a.exporter
  stopped : a.phase = .stoppingExporter ∨ a.phase = .ended → a.schedule.follower.phase = .stopped
  ended : a.phase = .ended → a.exporter.ended = true

namespace History

variable {start a : Agent} {ys more : List Yield}

theorem turns (h : History start ys a) {s : Schedule} (hturns : a.schedule.Turns more s) :
    History start (ys ++ more) { a with schedule := s } := by
  induction hturns with
  | none => rwa [List.append_nil]
  | turn _ hturn ih =>
    rw [← List.append_assoc]
    exact ih.act (.turned hturn)

/-- The moves that the agent makes are of this kind. -/
theorem step (h : History start ys a) (m : AgentMove) :
    ∃ more, History start (ys ++ more) (a.step m) := by
  by_cases hm : ∃ files, m = .follow files
  · obtain ⟨files, rfl⟩ := hm
    cases hturn : a.schedule.turn files with
    | none =>
      refine ⟨[], ?_⟩
      rw [List.append_nil, Agent.step, Agent.move?, follow?, hturn]
      exact h
    | some s =>
      obtain ⟨more, hturns⟩ := Schedule.turn_turns hturn
      refine ⟨more ++ [], ?_⟩
      rw [← List.append_assoc, Agent.step, Agent.move?, follow?, hturn]
      exact (h.turns hturns).act .hungUp
  · exact ⟨[], h.act (.moved fun files hfiles => hm ⟨files, hfiles⟩)⟩

theorem run (h : History start ys a) (ms : List AgentMove) :
    ∃ more, History start (ys ++ more) (a.run ms) := by
  induction ms generalizing a ys with
  | nil => exact ⟨[], by rwa [List.append_nil]⟩
  | cons m ms ih =>
    obtain ⟨first, hfirst⟩ := h.step m
    obtain ⟨rest, hrest⟩ := ih hfirst
    exact ⟨first ++ rest, by rwa [← List.append_assoc]⟩

end History

namespace Kept

variable {ps : List Path} {before : Output} {ys more : List Yield} {a a' : Agent}

theorem new (options : RunOptions) (format : LineFormat) (before : Output)
    (hconsole : options.destination = .console) :
    Kept (Path.distinct options.settings.paths) before []
      (.new options (.new options.settings format true) before) where
  delivered := ⟨[],
    { balance := ⟨_, _, _, Balance.new options.settings format _ _⟩
      spelled := Follower.Spelled.new options.settings format true
      lines := fun y hy => by cases hy
      wrote := by
        simp only [Agent.new, hconsole, Destination.sink]
        exact Exporter.Wrote.new before
      listening := fun _ => rfl
      drained := fun hended => by cases hended }⟩
  stopped := fun hphase => by rcases hphase with hphase | hphase <;> cases hphase
  ended := fun hphase => by cases hphase

/-- A move that leaves follower, channel and exporter as they are. -/
theorem moved (h : Kept ps before ys a) (hs : a.schedule.Agrees a'.schedule)
    (hx : a'.exporter = a.exporter)
    (hstopped : a'.phase = .stoppingExporter ∨ a'.phase = .ended →
      a.schedule.follower.phase = .stopped)
    (hended : a'.phase = .ended → a.exporter.ended = true) : Kept ps before ys a' where
  delivered := by
    obtain ⟨taken, hdelivered⟩ := h.delivered
    rw [hx]
    exact ⟨taken, hdelivered.agrees hs⟩
  stopped := fun hphase => hs.follower ▸ hstopped hphase
  ended := fun hphase => hx ▸ hended hphase

theorem turned (h : Kept ps before ys a) {s : Schedule} (hturn : a.schedule.Turn more s) :
    Kept ps before (ys ++ more) { a with schedule := s } where
  delivered := by
    obtain ⟨taken, hdelivered⟩ := h.delivered
    exact ⟨taken, hdelivered.turn hturn⟩
  stopped := fun hphase => by
    have hstopped := h.stopped hphase
    obtain ⟨-, hs⟩ := hturn.of_stopped hstopped
    exact hs.follower ▸ hstopped
  ended := h.ended

theorem hungUp (h : Kept ps before ys a) : Kept ps before ys a.hangUp := by
  unfold Agent.hangUp
  split
  · rename_i hstopped
    obtain ⟨taken, hdelivered⟩ := h.delivered
    exact ⟨⟨taken, hdelivered.hungUp hstopped⟩, fun _ => hstopped, h.ended⟩
  · exact h

theorem stopFollower (h : Kept ps before ys a) : Kept ps before ys a.stopFollower :=
  h.moved ⟨rfl, rfl, rfl, rfl⟩ rfl
    (fun hphase => by rcases hphase with hphase | hphase <;> cases hphase)
    (fun hphase => by cases hphase)

theorem say (h : Kept ps before ys a) (entry : LogEntry) : Kept ps before ys (a.say entry) :=
  h.moved ⟨rfl, rfl, rfl, rfl⟩ rfl h.stopped h.ended

/-- The agent takes over what the exporter has done. -/
theorem withDelivery (h : Kept ps before ys a) {d : Delivery} (hfault : d.fault = none)
    (hd : ∃ taken, Delivered ps before ys taken { a.schedule with channel := d.channel } d.exporter)
    (hended : a.exporter.ended = true → d.exporter.ended = true) :
    Kept ps before ys (a.withDelivery d) := by
  unfold Agent.withDelivery
  rw [hfault]
  exact ⟨hd, h.stopped, fun hphase => hended (h.ended hphase)⟩

theorem deliver (h : Kept ps before ys a) (hps : ∀ p ∈ ps, p.toText?.isSome)
    (hbefore : before.Reliable) (hmove : a.deliver? = some a') : Kept ps before ys a' := by
  obtain ⟨taken, hdelivered⟩ := h.delivered
  obtain ⟨d, hd, rfl⟩ := Option.map_eq_some_iff.1 hmove
  obtain ⟨hfault, -, hnext⟩ := hdelivered.deliver hps hbefore hd
  refine h.withDelivery hfault hnext fun hended => ?_
  -- an exporter that has ended delivers nothing
  simp [Exporter.deliver?, hended] at hd

theorem attend (h : Kept ps before ys a) (hmove : a.attend? = some a') : Kept ps before ys a' := by
  unfold attend? at hmove
  split at hmove
  · split at hmove
    · cases hmove
      exact (h.say exporterGone).stopFollower
    · split at hmove
      · cases hmove
        exact (h.say followerGone).stopFollower
      · cases hmove
  · split at hmove
    · rename_i hstopped
      cases hmove
      exact h.moved ⟨rfl, rfl, rfl, rfl⟩ rfl (fun _ => hstopped) (fun hphase => by cases hphase)
    · cases hmove
  · rename_i hphase
    split at hmove
    · rename_i hended
      cases hmove
      exact h.moved ⟨rfl, rfl, rfl, rfl⟩ rfl (fun _ => h.stopped (.inl hphase)) (fun _ => hended)
    · cases hmove
  · cases hmove

theorem hurry (h : Kept ps before ys a) (hps : ∀ p ∈ ps, p.toText?.isSome)
    (hbefore : before.Reliable) (hmove : a.hurry? = some a') : Kept ps before ys a' := by
  obtain ⟨taken, hdelivered⟩ := h.delivered
  unfold hurry? at hmove
  split at hmove
  · rename_i hnow
    obtain ⟨hphase, hopen⟩ := hnow
    cases hmove
    obtain ⟨hfault, taken', hnext⟩ := hdelivered.hurry hps hbefore (h.stopped (.inl hphase))
    refine (h.say exporterSlow).withDelivery hfault ⟨taken', hnext.agrees ⟨rfl, rfl, rfl, rfl⟩⟩
      fun hended => ?_
    rw [show (a.say exporterSlow).exporter = a.exporter from rfl, hopen] at hended
    cases hended
  · cases hmove

theorem move (h : Kept ps before ys a) (hps : ∀ p ∈ ps, p.toText?.isSome) (hbefore : before.Reliable)
    {m : AgentMove} (hm : ∀ files, m ≠ .follow files) (hmove : a.move? m = some a') :
    Kept ps before ys a' := by
  cases m with
  | follow files => exact absurd rfl (hm files)
  | deliver => exact h.deliver hps hbefore hmove
  | attend => exact h.attend hmove
  | hurry => exact h.hurry hps hbefore hmove
  | cancel =>
    simp only [move?, cancel?] at hmove
    split at hmove
    · cases hmove
      exact h.stopFollower
    · cases hmove
  | wake time =>
    cases hmove
    exact h.moved ⟨rfl, rfl, rfl, rfl⟩ rfl h.stopped h.ended

theorem act (h : Kept ps before ys a) (hps : ∀ p ∈ ps, p.toText?.isSome) (hbefore : before.Reliable)
    (hact : a.Act more a') : Kept ps before (ys ++ more) a' := by
  cases hact with
  | turned hturn => exact h.turned hturn
  | hungUp =>
    rw [List.append_nil]
    exact h.hungUp
  | @moved m hm =>
    rw [List.append_nil, Agent.step]
    cases hmove : a.move? m with
    | none => exact h
    | some a' => exact h.move hps hbefore hm hmove

end Kept

theorem History.kept {ps : List Path} {before : Output} {start a : Agent} {ys : List Yield}
    (h : History start ys a) (hstart : Kept ps before [] start) (hps : ∀ p ∈ ps, p.toText?.isSome)
    (hbefore : before.Reliable) : Kept ps before ys a := by
  induction h with
  | start => exact hstart
  | act _ hact ih => exact ih.act hps hbefore hact

end Agent

/-- Nothing that was accepted is lost when the agent stops. Whatever order its parts act in, whatever
room the channel has and whether the exporter ends by itself or is told to end with batches left on the
channel: once the agent has ended, what was printed are the lines of all accepted batches, each once and
in the order in which they were read. They are those of all reads that were completed but for at most
one batch, which was refused. -/
theorem nothing_accepted_is_lost (options : RunOptions) (format : LineFormat) (before : Output)
    (hconsole : options.destination = .console) (hbefore : before.Reliable)
    (hpaths : ∀ p ∈ options.settings.paths, p.toText?.isSome) {ys : List Yield} {a : Agent}
    (h : Agent.History (.new options (.new options.settings format true) before) ys a)
    (hended : a.phase = .ended) :
    ∃ accepted refused text,
      Yield.batches ys = accepted ++ refused ∧ refused.length ≤ 1 ∧
      a.counters.accepted = accepted.flatten.length ∧
      a.counters.refused = refused.flatten.length ∧
      Line.batchToJson accepted.flatten = .ok text ∧
      a.printed = before.written ++ Utf8.encode (String.ofList text) := by
  have hps : ∀ p ∈ Path.distinct options.settings.paths, p.toText?.isSome :=
    fun p hp => hpaths p ((Path.distinct_sublist _).mem hp)
  obtain ⟨⟨taken, hdelivered⟩, -, hexporter⟩ := h.kept (.new options format before hconsole) hps hbefore
  obtain ⟨hstopped, hitems⟩ := hdelivered.drained (hexporter hended)
  obtain ⟨put, rest, offered, hbalance⟩ := hdelivered.balance
  obtain ⟨rfl, hrefused, hrest, -, -⟩ := hbalance.stopped hstopped
  obtain ⟨text, htext, hsink⟩ := hdelivered.wrote
  -- nothing is left on the channel, so that what was taken is what was accepted
  have htaken : taken = put := by
    have hchannel := hbalance.channel
    rwa [hitems, List.append_nil, List.append_nil] at hchannel
  subst htaken
  refine ⟨taken, rest, text, hbalance.counted.batches, hrest, hbalance.counted.accepted, hrefused,
    htext, ?_⟩
  rw [Agent.printed, hsink]
  rfl

/-- A line lies in the channel, of room for one batch, when the exporter is told to end: it is printed. -/
theorem nothing_accepted_is_lost_queued_line :
    let p : Path := .ofString "/a"
    let options : RunOptions := ⟨{ Settings.default with paths := [p] }, .console, 0⟩
    let files (n : Nat) : Files :=
      { look := fun _ => .seen ⟨some n, n, .ofBytes ((Utf8.encode "hello\n").take n)⟩
        fetch := fun _ => .ok (Utf8.encode "hello\n")
        lookDelay := fun _ => 0
        fetchDelay := fun _ => 0 }
    let start : Agent := .new options (.new options.settings (.ofText .utf8 "\n") true) .unlimited
    let queued := start.run
      [.follow (files 0), .follow (files 0), .wake 1000, .follow (files 6), .follow (files 6),
       .follow (files 6), .follow (files 6), .cancel, .follow (files 6), .attend]
    let last := queued.run [.hurry, .attend]
    queued.printed = [] ∧ queued.schedule.channel.queue.length = 1 ∧ last.phase = .ended ∧
      ∃ line text, Line.batchToJson [line] = .ok text ∧
        last.printed = Utf8.encode (String.ofList text) := by
  intro p options files start queued last
  have hended : last.phase = .ended := by decide +kernel
  have haccepted : last.counters.accepted = 1 := by decide +kernel
  refine ⟨by decide +kernel, by decide +kernel, hended, ?_⟩
  have hstart : Agent.History start [] start := .start
  obtain ⟨_, hqueued⟩ := hstart.run
    [.follow (files 0), .follow (files 0), .wake 1000, .follow (files 6), .follow (files 6),
     .follow (files 6), .follow (files 6), .cancel, .follow (files 6), .attend]
  obtain ⟨_, hlast⟩ := hqueued.run [.hurry, .attend]
  have hunlimited : Output.unlimited.Reliable := ⟨rfl, by simp [Output.unlimited], rfl⟩
  obtain ⟨accepted, refused, text, -, -, hcount, -, htext, hprinted⟩ :=
    nothing_accepted_is_lost options (.ofText .utf8 "\n") .unlimited rfl hunlimited
      (by decide +kernel) hlast hended
  have hone : accepted.flatten.length = 1 := hcount.symm.trans haccepted
  obtain ⟨line, hline⟩ := List.length_eq_one_iff.1 hone
  rw [hline] at htext
  exact ⟨line, text, htext, hprinted⟩

end FileTail
