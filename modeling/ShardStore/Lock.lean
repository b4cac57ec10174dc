/-
# ShardStore.Lock -- one lock per key

Every key has a lock from the first time a task asks for it.  A task that asks for a
free lock gets it; otherwise it waits, and waiting tasks are served in the order in
which they asked.  A task either does its work the moment it has the lock and gives it
back, or holds the lock until it is released; a release that comes early counts as
soon as the lock is had.

A task may carry a token.  Cancelling the token ends every task that is still waiting,
and every later one that asks; a lock already had is not taken away.

* `Lock.serve` hands a lock on along the queue;
* `Coordinator.step` is one action, `Coordinator.run` a sequence of them, each with the
  tasks that it settled, in order.
-/
import ShardStore.Assoc

namespace ShardStore

set_option autoImplicit false

namespace Lock

/-- A task that wants the lock of a key. -/
structure Task where
  id : String
  key : String
  token : Option String
  /-- Does it hold the lock until it is released? -/
  holds : Bool
deriving DecidableEq, Repr

/-- How a task ends its wait. -/
inductive Outcome where
  | ran
  | held
  | cancelled
deriving DecidableEq, Repr

/-- A task has ended its wait. -/
structure Event where
  task : String
  outcome : Outcome
deriving DecidableEq, Repr

/-- What a task does with the lock once it has it. -/
def Task.served (t : Task) : Event := ⟨t.id, if t.holds then .held else .ran⟩

/-- A task in the queue, and whether it gives the lock back at once. -/
structure Waiter where
  task : Task
  passing : Bool
deriving DecidableEq, Repr

end Lock

/-- The lock of one key. -/
structure Lock where
  holder : Option Lock.Task := none
  waiting : List Lock.Waiter := []
deriving DecidableEq, Repr

namespace Lock

/-- Gives a lock that nobody holds to the tasks of the queue, up to the first that keeps it. -/
def serve : List Waiter → Lock × List Event
  | [] => ({}, [])
  | w :: rest =>
    if w.passing then
      let (lock, events) := serve rest
      (lock, w.task.served :: events)
    else ({ holder := some w.task, waiting := rest }, [w.task.served])

def ask (lock : Lock) (t : Task) : Lock × List Event :=
  let waiter : Waiter := ⟨t, !t.holds⟩
  match lock.holder with
  | none => serve (lock.waiting ++ [waiter])
  | some _ => ({ lock with waiting := lock.waiting ++ [waiter] }, [])

/-- The task lets the lock go, or will as soon as it has it. -/
def release (lock : Lock) (id : String) : Lock × List Event :=
  if lock.holder.any (·.id = id) then serve lock.waiting
  else
    let waiting := lock.waiting.map fun w =>
      if w.task.id = id then { w with passing := true } else w
    ({ lock with waiting }, [])

/-- Ends the waits of the tasks that carry the token. -/
def cancel (lock : Lock) (token : String) : Lock × List Event :=
  let (gone, waiting) := lock.waiting.partition (·.task.token = some token)
  ({ lock with waiting }, gone.map fun w => ⟨w.task.id, .cancelled⟩)

/-! ## All locks -/

inductive Action where
  | ask (t : Task)
  | release (id : String)
  | cancel (token : String)
deriving DecidableEq, Repr

/-- The locks of all keys ever asked for, and the tokens cancelled. -/
structure Coordinator where
  locks : List (String × Lock) := []
  cancelled : List String := []

namespace Coordinator

/-- The lock of a key, free until someone asks for it. -/
def lockOf (c : Coordinator) (key : String) : Lock := (c.locks.lookup key).getD {}

/-- The number of keys ever asked for. -/
def tracked (c : Coordinator) : Nat := c.locks.length

/-- Makes sure that a key has its lock. -/
def touch (c : Coordinator) (key : String) : Coordinator :=
  { c with locks := Assoc.insert key (c.lockOf key) c.locks }

/-- Does the same to every lock. -/
def each (c : Coordinator) (f : Lock → Lock × List Event) : Coordinator × List Event :=
  ({ c with locks := c.locks.map fun p => (p.1, (f p.2).1) },
    c.locks.flatMap fun p => (f p.2).2)

def step (c : Coordinator) : Action → Coordinator × List Event
  | .ask t =>
    if t.token.any c.cancelled.contains then (c.touch t.key, [⟨t.id, .cancelled⟩])
    else
      let (lock, events) := (c.lockOf t.key).ask t
      ({ c with locks := Assoc.insert t.key lock c.locks }, events)
  | .release id => c.each (·.release id)
  | .cancel token =>
    let (c, events) := c.each (·.cancel token)
    ({ c with cancelled := token :: c.cancelled }, events)

/-- The state after each action, with what the action settled. -/
def run (c : Coordinator) : List Action → List (Coordinator × List Event)
  | [] => []
  | a :: rest => c.step a :: (c.step a).1.run rest

end Coordinator

end Lock

end ShardStore
