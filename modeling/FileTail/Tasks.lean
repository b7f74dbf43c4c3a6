/-!
# FileTail.Tasks

Waiting for tasks that end by themselves, each at its time and in its way. A set of tasks is kept in
the order in which they end.

* `TaskSet.waitAny` — wait for the first task to end.
* `TaskSet.waitUntil` — wait for all of them, but no longer than until a deadline. The error of the
  task that ended last counts; running out of time counts more.
-/

namespace FileTail

inductive TaskEnd where
  | finished
  | failed (why : String)
  | panicked
deriving Repr, DecidableEq, Inhabited

structure Task where
  /-- The time at which it ends. -/
  endsAt : Nat
  ending : TaskEnd
deriving Repr, DecidableEq, Inhabited

inductive WaitFault where
  | task (why : String)
  | panicked
  | timedOut
deriving Repr, DecidableEq, Inhabited

/-- How a wait ended. -/
structure Waited where
  fault : Option WaitFault
  /-- The time at which it ended. -/
  now : Nat
  remaining : List Task
  /-- How many tasks panicked; each is worth a message. -/
  panics : Nat
deriving Repr, DecidableEq, Inhabited

namespace WaitFault

def message : WaitFault → String
  | .task why => why
  | .panicked => "task panicked"
  | .timedOut => "timed out waiting for tasks to complete"

end WaitFault

namespace TaskSet

/-- Tasks in the order in which they end. -/
def ofList (tasks : List Task) : List Task := tasks.mergeSort fun a b => a.endsAt ≤ b.endsAt

def waitAny (now : Nat) : List Task → Waited
  | [] => ⟨none, now, [], 0⟩
  | t :: r =>
    let fault :=
      match t.ending with
      | .finished => none
      | .failed why => some (.task why)
      | .panicked => some .panicked
    ⟨fault, max now t.endsAt, r, 0⟩

/-- Wait until `deadline`, after `fault` and `panics` were met before. A task that has ended already
is taken even when the deadline has passed. -/
def waitFrom (deadline : Nat) (fault : Option WaitFault) (panics : Nat) (now : Nat) :
    List Task → Waited
  | [] => ⟨fault, now, [], panics⟩
  | t :: r =>
    if t.endsAt ≤ max now deadline then
      let now := max now t.endsAt
      match t.ending with
      | .finished => waitFrom deadline fault panics now r
      | .failed why => waitFrom deadline (some (.task why)) panics now r
      | .panicked => waitFrom deadline fault (panics + 1) now r
    else ⟨some .timedOut, max now deadline, t :: r, panics⟩

def waitUntil (deadline now : Nat) (tasks : List Task) : Waited :=
  waitFrom deadline none 0 now tasks

end TaskSet
end FileTail
