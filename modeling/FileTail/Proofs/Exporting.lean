import FileTail.Proofs.Shutdown
import FileTail.Proofs.Validity

/-!
# FileTail.Proofs.Exporting

Which lines can be printed, and what one that cannot be printed does. A document holds the path of its
file as text, so that a batch can be written if and only if the paths of its lines are text. A batch that
cannot be written ends the exporter, and with it the agent.

* `Line.batchToJson_ok_iff`, `Output.exportBatch_of_not_text`, `Output.exportBatch_encode`: when a batch can be
  written.
* `Traffic.deliver`, `Agent.History.traffic`: whatever the agent does is traffic on the channel.
* `Traffic.lines`, `Traffic.mem_items`: what is on the channel comes from the paths that are watched.
* `Exporter.deliver?_encode_iff`, `Exporter.hurry_encode`: when the exporter fails to write a document.
* `printed_unless_path_not_text`: what that means for an agent.
-/

namespace FileTail

/-! ## Batches that can be written -/

namespace Line

variable {l : Line} {batch : List Line} {e : ExportFault}

theorem toJson_ok_iff : (∃ text, l.toJson = .ok text) ↔ l.path.IsText := by
  constructor
  · rintro ⟨text, htext⟩
    unfold toJson at htext
    split at htext
    · cases htext
    · rename_i s hs
      exact ⟨s, Path.toText?_eq_some_iff.1 hs⟩
  · intro h
    exact toJson_ok (Path.isText_iff.1 h)

theorem batchToJson_ok_iff :
    (∃ text, batchToJson batch = .ok text) ↔ ∀ l ∈ batch, l.path.IsText := by
  constructor
  · induction batch with
    | nil => exact fun _ => List.forall_mem_nil _
    | cons l batch ih =>
      rintro ⟨text, htext⟩
      unfold batchToJson at htext
      split at htext
      · cases htext
      · rename_i first hfirst
        split at htext
        · cases htext
        · rename_i rest hrest
          exact List.forall_mem_cons.2 ⟨toJson_ok_iff.1 ⟨first, hfirst⟩, ih ⟨rest, hrest⟩⟩
  · intro h
    exact batchToJson_ok fun l hl => Path.isText_iff.1 (h l hl)

/-- The fault of a line or a batch is always that of a path. -/
theorem batchToJson_error (h : batchToJson batch = .error e) :
    e = .encode "path contains invalid UTF-8 characters" := by
  induction batch with
  | nil => cases h
  | cons l batch ih =>
    unfold batchToJson at h
    split at h
    · rename_i hfirst
      cases h
      unfold toJson at hfirst
      split at hfirst
      · cases hfirst
        rfl
      · cases hfirst
    · split at h
      · rename_i hrest
        cases h
        exact ih hrest
      · cases h

end Line

namespace Output

variable {o : Output} {e : ExportFault}

theorem writeAll_fault (bytes : Bytes) (h : (o.writeAll bytes).2 = some e) : ∃ why, e = .io why := by
  induction o, bytes using Output.writeAll.induct with
  | case1 o bytes hnil =>
    rw [Output.writeAll, if_pos hnil] at h
    cases h
  | case2 o bytes hsome n hn =>
    rw [Output.writeAll, if_neg hsome, dif_pos hn] at h
    cases h
    exact ⟨_, rfl⟩
  | case3 o bytes hsome n hn ih =>
    rw [Output.writeAll, if_neg hsome, dif_neg hn] at h
    exact ih h

theorem exportBatch_of_not_text {batch : List Line} (h : ∃ l ∈ batch, ¬ l.path.IsText) :
    o.exportBatch batch = (o, some (.encode "path contains invalid UTF-8 characters")) := by
  cases hjson : Line.batchToJson batch with
  | ok text =>
    obtain ⟨l, hl, hpath⟩ := h
    exact absurd (Line.batchToJson_ok_iff.1 ⟨text, hjson⟩ l hl) hpath
  | error e =>
    simp only [exportBatch, hjson]
    rw [Line.batchToJson_error hjson]

/-- Nothing else makes a batch fail for the sake of a document. -/
theorem exportBatch_encode {batch : List Line} {why : String}
    (hfault : (o.exportBatch batch).2 = some (.encode why)) : ∃ l ∈ batch, ¬ l.path.IsText := by
  cases hjson : Line.batchToJson batch with
  | error e =>
    by_contra hnot
    obtain ⟨text, htext⟩ := Line.batchToJson_ok_iff.2 fun l hl => by_contra fun hpath => hnot ⟨l, hl, hpath⟩
    rw [hjson] at htext
    cases htext
  | ok text =>
    simp only [exportBatch, hjson] at hfault
    cases hwrite : o.writeAll (Utf8.encode (String.ofList text)) with
    | mk o' fault =>
      rw [hwrite] at hfault
      cases fault with
      | none =>
        obtain ⟨why', -, heq⟩ := Option.map_eq_some_iff.1 hfault
        cases heq
      | some e =>
        obtain ⟨why', rfl⟩ := writeAll_fault _ (congrArg Prod.snd hwrite)
        cases hfault

end Output

/-! ## What the exporter does with them -/

namespace Channel

variable {α : Type} {c d : Channel α}

/-- Where a receive finds nothing, nothing waits either. -/
theorem items_of_refill_empty (h : (c.refill (c.capacity + 1)).queue = []) : c.items = [] := by
  obtain ⟨hqueue, hentered⟩ := List.append_eq_nil_iff.1 h
  have hwaiting : c.waiting = [] := by
    rw [List.map_eq_nil_iff, List.take_eq_nil_iff, hqueue] at hentered
    exact hentered.resolve_left (Nat.succ_ne_zero _)
  rw [items, hqueue, hwaiting]
  rfl

end Channel

namespace Exporter

variable {x : Exporter} {c : Channel (List Line)} {batch : List Line} {d : Delivery} {why : String}

theorem take_spec (x : Exporter) (c : Channel (List Line)) (batch : List Line) :
    (x.take c batch).fault = (x.sink.take batch).2 ∧
      (x.take c batch).exporter.sink = (x.sink.take batch).1 ∧
      ((x.take c batch).channel = c ∨ (x.take c batch).channel = c.dropReceiver) := by
  unfold take
  split
  · rename_i heq
    rw [heq]
    exact ⟨rfl, rfl, .inl rfl⟩
  · rename_i heq
    rw [heq]
    exact ⟨rfl, rfl, .inr rfl⟩

theorem take_of_not_text (hconsole : x.sink.empties = true) (h : ∃ l ∈ batch, ¬ l.path.IsText) :
    x.take c batch =
      ⟨⟨x.sink, true⟩, c.dropReceiver, some (.encode "path contains invalid UTF-8 characters")⟩ := by
  cases hsink : x.sink with
  | blackhole dropped =>
    rw [hsink] at hconsole
    cases hconsole
  | console output => simp only [take, hsink, Sink.take, output.exportBatch_of_not_text h]

theorem take_encode (hfault : (x.take c batch).fault = some (.encode why)) :
    ∃ l ∈ batch, ¬ l.path.IsText := by
  rw [(x.take_spec c batch).1] at hfault
  cases hsink : x.sink with
  | blackhole dropped =>
    rw [hsink] at hfault
    cases hfault
  | console output =>
    rw [hsink] at hfault
    exact output.exportBatch_encode hfault

/-- A last flush is not the writing of a document. -/
theorem conclude_fault : (x.conclude c).fault ≠ some (.encode why) := by
  intro h
  cases hsink : x.sink with
  | blackhole dropped => simp only [conclude, hsink, Sink.flush, reduceCtorEq] at h
  | console output =>
    simp only [conclude, hsink, Sink.flush, Output.flush, Option.map_eq_some_iff, reduceCtorEq, and_false,
      exists_false] at h

/-- What is left on the channel was there before. -/
theorem deliver?_items (hd : x.deliver? c = some d) : d.channel.items ⊆ c.items := by
  obtain ⟨-, ⟨c', batch, hc, rfl⟩ | ⟨c', hc, rfl⟩⟩ := deliver?_cases hd
  · have hitems : (x.take c' batch).channel.items = c'.items := by
      rcases (x.take_spec c' batch).2.2 with hchannel | hchannel <;> rw [hchannel]
      rfl
    rw [hitems, Channel.receive_items _ hc]
    exact List.subset_cons_self _ _
  · obtain ⟨rfl, -⟩ := Channel.receive_closed hc
    rw [show (x.conclude _).channel.items = (c.refill (c.capacity + 1)).items from rfl,
      Channel.refill_items]
    exact List.Subset.refl _

/-- A delivery fails for the sake of a document if and only if a path in the next batch is not text. -/
theorem deliver?_encode_iff (hconsole : x.sink.empties = true) (hd : x.deliver? c = some d) :
    (∃ why, d.fault = some (.encode why)) ↔
      ∃ batch, c.items.head? = some batch ∧ ∃ l ∈ batch, ¬ l.path.IsText := by
  obtain ⟨-, ⟨c', batch, hc, rfl⟩ | ⟨c', hc, rfl⟩⟩ := deliver?_cases hd
  · simp only [Channel.receive_items _ hc, List.head?_cons, Option.some.injEq, exists_eq_left']
    constructor
    · rintro ⟨why, hfault⟩
      exact take_encode hfault
    · intro h
      rw [take_of_not_text hconsole h]
      exact ⟨_, rfl⟩
  · obtain ⟨rfl, hqueue, -⟩ := Channel.receive_closed hc
    rw [Channel.items_of_refill_empty hqueue]
    refine iff_of_false ?_ ?_
    · rintro ⟨why, hfault⟩
      exact conclude_fault hfault
    · rintro ⟨batch, hbatch, -⟩
      cases hbatch

theorem deliver?_encode (hd : x.deliver? c = some d) (hfault : d.fault = some (.encode why)) :
    ∃ batch ∈ c.items, ∃ l ∈ batch, ¬ l.path.IsText := by
  obtain ⟨-, ⟨c', batch, hc, rfl⟩ | ⟨c', hc, rfl⟩⟩ := deliver?_cases hd
  · have hfirst : batch ∈ c.items := by
      rw [Channel.receive_items _ hc]
      exact List.mem_cons_self
    exact ⟨batch, hfirst, take_encode hfault⟩
  · exact absurd hfault conclude_fault

theorem deliverAll_encode {fuel : Nat} {before : Delivery}
    (hfault : (deliverAll fuel before).fault = some (.encode why)) :
    before.fault = some (.encode why) ∨ ∃ batch ∈ before.channel.items, ∃ l ∈ batch, ¬ l.path.IsText := by
  induction fuel generalizing before with
  | zero => exact .inl hfault
  | succ fuel ih =>
    cases hd : before.exporter.deliver? before.channel with
    | none =>
      simp only [deliverAll, hd] at hfault
      exact .inl hfault
    | some d =>
      simp only [deliverAll, hd] at hfault
      rcases ih hfault with hlast | ⟨batch, hbatch, hpath⟩
      · exact .inr (deliver?_encode hd hlast)
      · exact .inr ⟨batch, deliver?_items hd hbatch, hpath⟩

/-- An exporter that is told to end fails for the sake of a document only if it is on the channel. -/
theorem hurry_encode (hfault : (x.hurry c).fault = some (.encode why)) :
    ∃ batch ∈ c.items, ∃ l ∈ batch, ¬ l.path.IsText := by
  simp only [hurry] at hfault
  split at hfault
  · split at hfault
    · exact (deliverAll_encode hfault).resolve_left fun h => by cases h
    · exact absurd hfault conclude_fault
  · split at hfault
    · cases hfault
    · exact absurd hfault conclude_fault

/-! ### The kind of the sink -/

theorem empties_deliver? (hd : x.deliver? c = some d) : d.exporter.sink.empties = x.sink.empties := by
  obtain ⟨-, ⟨c', batch, -, rfl⟩ | ⟨c', -, rfl⟩⟩ := deliver?_cases hd
  · rw [(x.take_spec c' batch).2.1]
    cases x.sink <;> rfl
  · rfl

theorem empties_deliverAll (fuel : Nat) (before : Delivery) :
    (deliverAll fuel before).exporter.sink.empties = before.exporter.sink.empties := by
  induction fuel generalizing before with
  | zero => rfl
  | succ fuel ih =>
    cases hd : before.exporter.deliver? before.channel with
    | none => simp only [deliverAll, hd]
    | some d =>
      simp only [deliverAll, hd]
      rw [ih, empties_deliver? hd]

theorem empties_hurry (x : Exporter) (c : Channel (List Line)) :
    (x.hurry c).exporter.sink.empties = x.sink.empties := by
  simp only [hurry]
  split
  · split
    · exact empties_deliverAll _ _
    · exact empties_deliverAll _ _
  · split <;> rfl

end Exporter

/-! ## The agent as traffic on the channel -/

namespace Traffic

variable {settings : Settings} {format : LineFormat} {period capacity : Nat} {ys : List Yield}
  {taken : List (List Line)} {start s s' : Schedule} {x : Exporter} {d : Delivery}

theorem agrees (h : Traffic start ys taken s) (hs : s.Agrees s') : Traffic start ys taken s' := by
  have hnext := h.turned (.passed hs)
  rwa [List.append_nil] at hnext

/-- A delivery takes a batch from the channel, or lets go of it, or both. -/
theorem deliver (h : Traffic (.new (.new settings format true) period capacity) ys taken s)
    (hd : x.deliver? s.channel = some d) :
    ∃ taken, Traffic (.new (.new settings format true) period capacity) ys taken
      { s with channel := d.channel } := by
  obtain ⟨-, ⟨c, batch, hc, rfl⟩ | ⟨c, hc, rfl⟩⟩ := Exporter.deliver?_cases hd
  · have hnext := h.taken hc
    rcases (x.take_spec c batch).2.2 with hchannel | hchannel
    · rw [hchannel]
      exact ⟨_, hnext⟩
    · rw [hchannel]
      exact ⟨_, hnext.left⟩
  · obtain ⟨put, rest, offered, hbalance⟩ := h.balance
    obtain ⟨rfl, -, -⟩ := hbalance.closed hc
    exact ⟨taken, h.left⟩

theorem deliverAll (fuel : Nat) {before : Delivery}
    (h : Traffic (.new (.new settings format true) period capacity) ys taken
      { s with channel := before.channel }) :
    ∃ taken, Traffic (.new (.new settings format true) period capacity) ys taken
      { s with channel := (Exporter.deliverAll fuel before).channel } := by
  induction fuel generalizing before taken with
  | zero => exact ⟨taken, h⟩
  | succ fuel ih =>
    cases hd : before.exporter.deliver? before.channel with
    | none =>
      simp only [Exporter.deliverAll, hd]
      exact ⟨taken, h⟩
    | some d =>
      simp only [Exporter.deliverAll, hd]
      obtain ⟨taken', hnext⟩ := h.deliver hd
      exact ih hnext

theorem hurry (h : Traffic (.new (.new settings format true) period capacity) ys taken s)
    (x : Exporter) :
    ∃ taken, Traffic (.new (.new settings format true) period capacity) ys taken
      { s with channel := (x.hurry s.channel).channel } := by
  have hstart : Traffic (.new (.new settings format true) period capacity) ys taken
      { s with channel := (Delivery.mk x s.channel none).channel } := h
  obtain ⟨taken', hall⟩ := hstart.deliverAll (s.channel.items.length + 1)
  simp only [Exporter.hurry]
  split
  · split
    · exact ⟨taken', hall⟩
    · exact ⟨taken', hall.left⟩
  · split
    · exact ⟨taken, h⟩
    · exact ⟨taken, h.left⟩

/-- What is read at once comes from one of the paths that are watched. -/
theorem lines (h : Traffic (.new (.new settings format true) period capacity) ys taken s) :
    Follower.Spelled (Path.distinct settings.paths) s.follower ∧
      ∀ y ∈ ys, ∃ p ∈ settings.paths, ∀ l ∈ y.lines, l.path = p := by
  induction h with
  | start => exact ⟨Follower.Spelled.new settings format true, List.forall_mem_nil _⟩
  | turned _ hturn ih =>
    obtain ⟨hspelled, hlines⟩ := ih
    refine ⟨hturn.spelled hspelled, List.forall_mem_append.2 ⟨hlines, fun y hy => ?_⟩⟩
    obtain ⟨p, hp, hpath⟩ := hturn.lines hspelled y hy
    exact ⟨p, (Path.distinct_sublist _).mem hp, hpath⟩
  | taken _ _ ih => exact ih
  | left _ ih => exact ih
  | hungUp _ _ ih => exact ih

theorem mem_items (h : Traffic (.new (.new settings format true) period capacity) ys taken s)
    {batch : List Line} (hbatch : batch ∈ s.channel.items) :
    ∃ p ∈ settings.paths, ∀ l ∈ batch, l.path = p := by
  obtain ⟨put, rest, offered, hbalance⟩ := h.balance
  obtain ⟨y, hy, rfl⟩ := hbalance.mem_batches hbatch
  exact h.lines.2 y hy

end Traffic

namespace Agent

variable {settings : Settings} {format : LineFormat} {period capacity : Nat} {start a a' : Agent}
  {ys more : List Yield} {taken : List (List Line)}

theorem agrees_withDelivery (a : Agent) (d : Delivery) :
    Schedule.Agrees { a.schedule with channel := d.channel } (a.withDelivery d).schedule := by
  unfold withDelivery
  split
  · exact .refl _
  · exact ⟨rfl, rfl, rfl, rfl⟩

theorem withDelivery_exporter (a : Agent) (d : Delivery) : (a.withDelivery d).exporter = d.exporter := by
  unfold withDelivery
  split <;> rfl

/-- A part of the agent that sees to the others leaves follower, channel and exporter as they are. -/
theorem attend?_kept (hmove : a.attend? = some a') :
    a.schedule.Agrees a'.schedule ∧ a'.exporter = a.exporter := by
  unfold attend? at hmove
  split at hmove
  · split at hmove
    · cases hmove
      exact ⟨⟨rfl, rfl, rfl, rfl⟩, rfl⟩
    · split at hmove
      · cases hmove
        exact ⟨⟨rfl, rfl, rfl, rfl⟩, rfl⟩
      · cases hmove
  · split at hmove
    · cases hmove
      exact ⟨.refl _, rfl⟩
    · cases hmove
  · split at hmove
    · cases hmove
      exact ⟨⟨rfl, rfl, rfl, rfl⟩, rfl⟩
    · cases hmove
  · cases hmove

/-- What a move that is not the follower's does to the channel and to the exporter. -/
theorem move_traffic {m : AgentMove} (hm : ∀ files, m ≠ .follow files) (hmove : a.move? m = some a')
    (h : Traffic (.new (.new settings format true) period capacity) ys taken a.schedule) :
    (∃ taken, Traffic (.new (.new settings format true) period capacity) ys taken a'.schedule) ∧
      a'.exporter.sink.empties = a.exporter.sink.empties := by
  cases m with
  | follow files => exact absurd rfl (hm files)
  | deliver =>
    obtain ⟨d, hd, rfl⟩ := Option.map_eq_some_iff.1 hmove
    obtain ⟨taken', hnext⟩ := h.deliver hd
    rw [withDelivery_exporter]
    exact ⟨⟨taken', hnext.agrees (a.agrees_withDelivery d)⟩, Exporter.empties_deliver? hd⟩
  | attend =>
    obtain ⟨hsame, hexporter⟩ := attend?_kept hmove
    rw [hexporter]
    exact ⟨⟨taken, h.agrees hsame⟩, rfl⟩
  | hurry =>
    simp only [move?, hurry?] at hmove
    split at hmove
    · cases hmove
      obtain ⟨taken', hnext⟩ := h.hurry a.exporter
      rw [withDelivery_exporter]
      refine ⟨⟨taken', (hnext.agrees ?_).agrees (agrees_withDelivery _ _)⟩, Exporter.empties_hurry _ _⟩
      exact ⟨rfl, rfl, rfl, rfl⟩
    · cases hmove
  | cancel =>
    simp only [move?, cancel?] at hmove
    split at hmove
    · cases hmove
      exact ⟨⟨taken, h.agrees ⟨rfl, rfl, rfl, rfl⟩⟩, rfl⟩
    · cases hmove
  | wake time =>
    cases hmove
    exact ⟨⟨taken, h.agrees ⟨rfl, rfl, rfl, rfl⟩⟩, rfl⟩

theorem Act.traffic (hact : a.Act more a')
    (h : Traffic (.new (.new settings format true) period capacity) ys taken a.schedule) :
    (∃ taken, Traffic (.new (.new settings format true) period capacity) (ys ++ more) taken a'.schedule) ∧
      a'.exporter.sink.empties = a.exporter.sink.empties := by
  cases hact with
  | turned hturn => exact ⟨⟨taken, h.turned hturn⟩, rfl⟩
  | hungUp =>
    rw [List.append_nil, hangUp]
    split
    · rename_i hstopped
      exact ⟨⟨taken, h.hungUp hstopped⟩, rfl⟩
    · exact ⟨⟨taken, h⟩, rfl⟩
  | @moved m hm =>
    rw [List.append_nil, step]
    cases hmove : a.move? m with
    | none => exact ⟨⟨taken, h⟩, rfl⟩
    | some a' => exact move_traffic hm hmove h

/-- Whatever happens to an agent, follower and channel go through what they can go through with any
consumer, and the exporter prints if it did at the start. -/
theorem History.traffic (h : History start ys a)
    (hstart : start.schedule = .new (.new settings format true) period capacity) :
    (∃ taken, Traffic (.new (.new settings format true) period capacity) ys taken a.schedule) ∧
      a.exporter.sink.empties = start.exporter.sink.empties := by
  induction h with
  | start => exact ⟨⟨[], hstart ▸ .start⟩, rfl⟩
  | act _ hact ih =>
    obtain ⟨⟨taken, htraffic⟩, hempties⟩ := ih
    obtain ⟨hnext, hempties'⟩ := hact.traffic htraffic
    exact ⟨hnext, hempties'.trans hempties⟩

end Agent

/-- What becomes of lines in an agent that prints, whatever its settings and in whatever order its parts
act. The lines of a batch come from one of the watched paths, and a document can be written for them if
and only if that path is text. A delivery fails for the sake of a document just when such a batch is next
and its path is not text; it ends the exporter, which has then let go of the channel. So if the watched
paths are text no delivery fails in that way, and on an output without faults an exporter that has ended
is one whose follower has stopped before. -/
theorem printed_unless_path_not_text (options : RunOptions) {codecs : EastAsian → Codec}
    {f : Follower} (before : Output) (hf : Follower.ofSettings options.settings true codecs = .ok f)
    (hconsole : options.destination = .console) {ys : List Yield} {a : Agent} (h : Agent.History (.new options f before) ys a) :
    (∀ batch ∈ Yield.batches ys, ∃ p ∈ options.settings.paths, (∀ l ∈ batch, l.path = p) ∧
      ((∃ text, Line.batchToJson batch = .ok text) ↔ p.IsText)) ∧
    (∀ d, a.exporter.deliver? a.schedule.channel = some d →
      ((∃ why, d.fault = some (.encode why)) ↔
        ∃ batch, a.schedule.channel.items.head? = some batch ∧ ∃ l ∈ batch, ¬ l.path.IsText) ∧
      ((∃ why, d.fault = some (.encode why)) →
        d.exporter = ⟨a.exporter.sink, true⟩ ∧ d.channel.receiving = false)) ∧
    ((∀ p ∈ options.settings.paths, p.IsText) →
      (∀ d, a.exporter.deliver? a.schedule.channel = some d → ∀ why, d.fault ≠ some (.encode why)) ∧
      (∀ why, (a.exporter.hurry a.schedule.channel).fault ≠ some (.encode why)) ∧
      (before.Reliable → a.exporter.ended = true → a.schedule.follower.phase = .stopped)) := by
  obtain ⟨format, rfl⟩ : ∃ format, f = .new options.settings format true := by
    unfold Follower.ofSettings at hf
    split at hf
    · cases hf
    · split at hf
      · cases hf
      · cases hf
        exact ⟨_, rfl⟩
  obtain ⟨⟨taken, htraffic⟩, hempties⟩ := h.traffic rfl
  have hprints : a.exporter.sink.empties = true := by
    rw [hempties, Agent.new, hconsole]
    rfl
  refine ⟨fun batch hbatch => ?_, fun d hd => ⟨Exporter.deliver?_encode_iff hprints hd, ?_⟩,
    fun hpaths => ?_⟩
  · obtain ⟨hread, hne⟩ := List.mem_filter.1 hbatch
    obtain ⟨y, hy, rfl⟩ := List.mem_map.1 hread
    obtain ⟨p, hp, hlines⟩ := htraffic.lines.2 y hy
    refine ⟨p, hp, hlines, ?_⟩
    rw [Line.batchToJson_ok_iff]
    constructor
    · intro htext
      obtain ⟨l, hl⟩ := List.exists_mem_of_ne_nil _ (of_decide_eq_true hne)
      exact hlines l hl ▸ htext l hl
    · intro htext l hl
      rw [hlines l hl]
      exact htext
  · intro hfault
    obtain ⟨batch, hfirst, hpath⟩ := (Exporter.deliver?_encode_iff hprints hd).1 hfault
    obtain ⟨-, ⟨c, batch', hc, rfl⟩ | ⟨c, hc, rfl⟩⟩ := Exporter.deliver?_cases hd
    · rw [Channel.receive_items _ hc] at hfirst
      cases hfirst
      rw [Exporter.take_of_not_text hprints hpath]
      exact ⟨rfl, rfl⟩
    · obtain ⟨why, hfault⟩ := hfault
      exact absurd hfault Exporter.conclude_fault
  · have hnone : ¬ ∃ batch ∈ a.schedule.channel.items, ∃ l ∈ batch, ¬ l.path.IsText := by
      rintro ⟨batch, hbatch, l, hl, hpath⟩
      obtain ⟨p, hp, hlines⟩ := htraffic.mem_items hbatch
      exact hpath (hlines l hl ▸ hpaths p hp)
    refine ⟨fun d hd why hfault => hnone (Exporter.deliver?_encode hd hfault),
      fun why hfault => hnone (Exporter.hurry_encode hfault), fun hbefore hended => ?_⟩
    have hps : ∀ p ∈ Path.distinct options.settings.paths, p.toText?.isSome :=
      fun p hp => Path.isText_iff.1 (hpaths p ((Path.distinct_sublist _).mem hp))
    obtain ⟨⟨taken, hdelivered⟩, -, -⟩ := h.kept (.new options format before hconsole) hps hbefore
    exact (hdelivered.drained hended).1

/-! ### Two files, the path of one of which is not text -/

namespace TwoFiles

def notText : Path := ⟨[0x2F, 0x61, 0xFF]⟩

def text : Path := .ofString "/b"

def options : RunOptions := ⟨{ Settings.default with paths := [notText, text] }, .console, 8⟩

def follower : Follower := .new options.settings (.ofText .utf8 "\n") true

def start : Agent := .new options follower .unlimited

/-- Both files hold the same line, or `n` bytes of it. -/
def files (n : Nat) : Files :=
  { look := fun _ => .seen ⟨some n, n, .ofBytes ((Utf8.encode "hello\n").take n)⟩
    fetch := fun _ => .ok (Utf8.encode "hello\n")
    lookDelay := fun _ => 0
    fetchDelay := fun _ => 0 }

/-- The files are seen empty, grow, and are read. -/
def moves : List AgentMove :=
  List.replicate 3 (.follow (files 0)) ++ [.wake 1000] ++ List.replicate 8 (.follow (files 6))

def ready : Agent := start.run moves

theorem ready_items :
    ready.schedule.channel.items = [[⟨notText, none, "hello", 0⟩], [⟨text, some "b", "hello", 0⟩]] := by
  decide +kernel

theorem ready_history : ∃ ys, Agent.History start ys ready := by
  have hstart : Agent.History start [] start := .start
  obtain ⟨ys, hys⟩ := hstart.run moves
  exact ⟨_, hys⟩

theorem ofSettings_options : Follower.ofSettings options.settings true = .ok follower := by
  have hfault : options.settings.fault? = none := by decide +kernel
  have hformat : options.settings.lineFormat? = some (.ofText .utf8 "\n") :=
    Settings.lineFormat?_of_encoding (Encoding.ofLabel?_utf8 _)
  simp only [Follower.ofSettings, hfault, hformat]
  rfl

theorem not_isText_notText : ¬ notText.IsText := by decide +kernel

end TwoFiles

/-- The line of the file whose path is not text is next on the channel. -/
theorem printed_unless_path_not_text_next_batch :
    Follower.ofSettings TwoFiles.options.settings true = .ok TwoFiles.follower ∧
      ∃ ys d, Agent.History (.new TwoFiles.options TwoFiles.follower .unlimited) ys TwoFiles.ready ∧
        TwoFiles.ready.exporter.deliver? TwoFiles.ready.schedule.channel = some d ∧
        (∃ why, d.fault = some (.encode why)) ∧ d.exporter.ended = true := by
  have hdelivers : (TwoFiles.ready.exporter.deliver? TwoFiles.ready.schedule.channel).isSome = true := by
    decide +kernel
  obtain ⟨ys, hrun⟩ := TwoFiles.ready_history
  obtain ⟨d, hd⟩ := Option.isSome_iff_exists.1 hdelivers
  obtain ⟨-, hdeliver, -⟩ := printed_unless_path_not_text TwoFiles.options .unlimited
    TwoFiles.ofSettings_options rfl hrun
  obtain ⟨hiff, hends⟩ := hdeliver d hd
  have hencode := hiff.2 ⟨_, by rw [TwoFiles.ready_items]; rfl, _, List.mem_singleton_self _,
    TwoFiles.not_isText_notText⟩
  refine ⟨TwoFiles.ofSettings_options, ys, d, hrun, hd, hencode, ?_⟩
  rw [(hends hencode).1]

/-- Two lines are accepted, one of a file whose path is not text and one of another file. Neither is
printed: the first one ends the exporter, and the agent stops following both files. -/
theorem path_not_text_stops_agent :
    let last := TwoFiles.ready.run [.deliver, .attend, .follow (TwoFiles.files 6), .attend, .attend]
    Follower.ofSettings TwoFiles.options.settings true = .ok TwoFiles.follower ∧
      TwoFiles.ready.phase = .running ∧
      TwoFiles.ready.schedule.channel.items =
        [[⟨TwoFiles.notText, none, "hello", 0⟩], [⟨TwoFiles.text, some "b", "hello", 0⟩]] ∧
      (¬ ∃ text, Line.batchToJson [⟨TwoFiles.notText, none, "hello", 0⟩] = .ok text) ∧
      last.counters.accepted = 2 ∧ last.printed = [] ∧ last.schedule.follower.phase = .stopped ∧
      last.phase = .ended := by
  refine ⟨TwoFiles.ofSettings_options, by decide +kernel, TwoFiles.ready_items, ?_, by decide +kernel⟩
  rw [Line.batchToJson_ok_iff]
  intro hall
  exact TwoFiles.not_isText_notText (hall _ (List.mem_singleton_self _))

end FileTail
