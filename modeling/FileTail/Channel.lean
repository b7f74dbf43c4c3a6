/-!
# FileTail.Channel

A bounded queue between senders and one receiver. A send that finds no room waits, and waiting
sends enter the queue in the order in which they came as soon as a receive makes room. A channel of
capacity zero hands an item from a waiting send to a receive.

Senders and sends are told apart by numbers that the callers choose. A send that waits keeps the
sending side open, also when its sender is gone.

* `send`, `poll`, `abandon` — begin a send, look how it fares, give it up.
* `receive` — take the oldest item.
* `receive_items` — what a receive takes out is the front of everything that was sent.
-/

namespace FileTail

/-- How a send fares. -/
inductive SendState where
  | sent
  | waiting
  /-- The receiving end is gone; the item was not taken. -/
  | disconnected
  /-- There is no such sender or send. -/
  | unknown
deriving Repr, DecidableEq, Inhabited

/-- What a receive gives. -/
inductive Receipt (α : Type) where
  | item (a : α)
  | nothingYet
  /-- The queue is empty and nothing can be sent any more. -/
  | closed
  /-- The receiving end is gone. -/
  | unknown
deriving Repr, DecidableEq, Inhabited

structure Channel (α : Type) where
  capacity : Nat
  /-- The oldest item first. -/
  queue : List α
  /-- Items that wait for room, with the numbers of their sends. -/
  waiting : List (Nat × α)
  /-- Sends that were told to wait and have not been told how they ended. -/
  pending : List Nat
  senders : List Nat
  receiving : Bool
deriving Repr

namespace Channel

variable {α : Type}

/-- An empty channel with the sender `0`. -/
def new (capacity : Nat) : Channel α := ⟨capacity, [], [], [], [0], true⟩

/-- Everything that was sent and not received, the oldest first. -/
def items (c : Channel α) : List α := c.queue ++ c.waiting.map (·.2)

def isClosed (c : Channel α) : Bool := c.senders.isEmpty && c.pending.isEmpty

/-- Begin the send numbered `ticket`. -/
def send (c : Channel α) (sender ticket : Nat) (a : α) : Channel α × SendState :=
  if sender ∈ c.senders then
    if !c.receiving then (c, .disconnected)
    else if c.queue.length < c.capacity then ({ c with queue := c.queue ++ [a] }, .sent)
    else
      ({ c with waiting := c.waiting ++ [(ticket, a)], pending := c.pending ++ [ticket] }, .waiting)
  else (c, .unknown)

/-- Drop all trace of a send. -/
def forget (c : Channel α) (ticket : Nat) : Channel α :=
  { c with
    waiting := c.waiting.filter (·.1 != ticket)
    pending := c.pending.filter (· != ticket) }

/-- See how a send fares that was told to wait. One that ended is forgotten. -/
def poll (c : Channel α) (ticket : Nat) : Channel α × SendState :=
  if ticket ∈ c.pending then
    if ticket ∈ c.waiting.map (·.1) then
      if c.receiving then (c, .waiting) else (c.forget ticket, .disconnected)
    else (c.forget ticket, .sent)
  else (c, .unknown)

/-- Give up a send. Its item is not delivered if it still waits. -/
def abandon (c : Channel α) (ticket : Nat) : Channel α :=
  if ticket ∈ c.pending then c.forget ticket else c

/-- Let waiting items enter until the queue holds `n`. -/
def refill (c : Channel α) (n : Nat) : Channel α :=
  let room := n - c.queue.length
  { c with
    queue := c.queue ++ (c.waiting.take room).map (·.2)
    waiting := c.waiting.drop room }

/-- Take the oldest item. The room it leaves is filled first, so that a waiting item can be taken
from a queue without room. -/
def receive (c : Channel α) : Channel α × Receipt α :=
  if !c.receiving then (c, .unknown)
  else
    let c := c.refill (c.capacity + 1)
    match c.queue with
    | a :: r => ({ c with queue := r }, .item a)
    | [] => (c, if c.isClosed then .closed else .nothingYet)

def addSender (c : Channel α) (sender new : Nat) : Channel α :=
  if sender ∈ c.senders ∧ new ∉ c.senders then { c with senders := c.senders ++ [new] } else c

def dropSender (c : Channel α) (sender : Nat) : Channel α :=
  { c with senders := c.senders.filter (· != sender) }

def dropReceiver (c : Channel α) : Channel α := { c with receiving := false }

theorem refill_items (c : Channel α) (n : Nat) : (c.refill n).items = c.items := by
  simp only [items, refill, List.append_assoc, ← List.map_append, List.take_append_drop]

theorem receive_items (c : Channel α) {d : Channel α} {a : α} (h : c.receive = (d, .item a)) :
    c.items = a :: d.items := by
  unfold receive at h
  split at h
  · cases h
  · dsimp only at h
    split at h
    · rename_i b r hq
      cases h
      rw [← refill_items c (c.capacity + 1), items, hq]
      rfl
    · split at h <;> cases h

end Channel
end FileTail
