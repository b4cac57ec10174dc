/-
# ShardStore.Proofs.Store.Traffic -- writes as tasks that share a store

A write is not one step when others are under way.  A task asks for the lock of its key,
gets it, copies the entry, then stores the entry that it made of the copy or fails its
version, and lets the lock go.  Between any two of these steps every other task may take
steps of its own; a read looks into the map without a lock; and any token may be
cancelled at any time, which ends the tasks that wait with it.  A task that was handed
the lock, but finds its token cancelled before it goes on, lets the lock go again.

`Traffic` is a store with its tasks, `Step` one step of anyone.  It also keeps two
records that no step looks at: who got a lock, and what took effect (`Deed`).
-/
import ShardStore.Proofs.Lock
import ShardStore.Proofs.Store.History

namespace ShardStore.Store

set_option autoImplicit false

/-! ## Tasks -/

/-- A write that a task carries out. -/
structure Job where
  key : String
  write : Write
  expected : Option UInt64
  token : Option String := none

/-- The task at the lock. -/
def Job.request (job : Job) (id : String) : Lock.Task := ⟨id, job.key, job.token, true⟩

/-- How far a task has come. -/
inductive Stage where
  /-- It has asked for the lock. -/
  | waiting
  /-- It has the lock. -/
  | locked
  /-- It has the lock and a copy of the entry. -/
  | copied (current : Option Entry)
  /-- It has the lock and its result. -/
  | settled (result : Except Fault Record)
  /-- It is finished with this result. -/
  | done (result : Except Fault Record)
  /-- It was cancelled. -/
  | cancelled

namespace Stage

/-- Has the task the lock? -/
def Busy : Stage → Prop
  | .locked | .copied _ | .settled _ => True
  | _ => False

/-- Has the task the lock, with its effect still to come? -/
def Working : Stage → Prop
  | .locked | .copied _ => True
  | _ => False

/-- Is the task at its lock, with or without having it? -/
def Alive : Stage → Prop
  | .done _ | .cancelled => False
  | _ => True

/-- The result of a task that took effect. -/
def effect? : Stage → Option (Except Fault Record)
  | .settled result | .done result => some result
  | _ => none

end Stage

abbrev Tasks : Type := String → Option (Job × Stage)

namespace Tasks

def set (tasks : Tasks) (id : String) (job : Job) (stage : Stage) : Tasks :=
  fun x => if x = id then some (job, stage) else tasks x

/-- Ends the tasks whose wait was cancelled. -/
def note (tasks : Tasks) (events : List Lock.Event) : Tasks := fun id =>
  if ⟨id, .cancelled⟩ ∈ events then (tasks id).map fun p => (p.1, .cancelled) else tasks id

end Tasks

/-! ## Deeds -/

/-- A read, or a write of a task, that took effect. -/
inductive Deed where
  | read (key : String) (result : Except Fault Record)
  | write (id : String) (job : Job) (result : Except Fault Record)

namespace Deed

/-- The call that does the same when nobody else is there. -/
def call : Deed → Call
  | .read key _ => .get key
  | .write _ job _ => .write job.key job.write job.expected false

def answer : Deed → Answer
  | .read _ result | .write _ _ result => .record result

/-- The task that did it. -/
def task? : Deed → Option String
  | .read .. => none
  | .write id .. => some id

/-- The task that wrote to the key, if it asked for the lock. -/
def writer? (key : String) : Deed → Option String
  | .read .. => none
  | .write id job _ =>
    if job.key = key ∧ (clearance job.key job.write).isOk then some id else none

end Deed

/-! ## Traffic -/

structure Traffic where
  store : Store
  tasks : Tasks := fun _ => none
  /-- Who got a lock, with its key, in order. -/
  served : List (String × String) := []
  /-- What took effect, in order. -/
  log : List Deed := []

namespace Traffic

/-- The lock of a key. -/
def lock (t : Traffic) (key : String) : Lock := t.store.locks.lockOf key

def set (t : Traffic) (id : String) (job : Job) (stage : Stage) : Traffic :=
  { t with tasks := t.tasks.set id job stage }

def record (t : Traffic) (d : Deed) : Traffic := { t with log := t.log ++ [d] }

/-- An action on the locks, with what it means for the tasks. -/
def locking (t : Traffic) (a : Lock.Action) : Traffic :=
  { t with
    store := { t.store with locks := (t.store.locks.step a).1 }
    tasks := t.tasks.note (t.store.locks.step a).2 }

/-- The tasks that got the lock of a key, in order. -/
def servedOn (t : Traffic) (key : String) : List String :=
  (t.served.filter (·.1 = key)).map (·.2)

/-- The tasks that wrote to a key, in the order in which they took effect. -/
def writersOf (t : Traffic) (key : String) : List String := t.log.filterMap (Deed.writer? key)

/-- The versions that the successful writes of a key returned, in order. -/
def versions (t : Traffic) (key : String) : List UInt64 :=
  t.log.flatMap fun d => version key d.call d.answer

inductive Step : Traffic → Traffic → Prop where
  /-- A write that is refused before it asks for the lock. -/
  | refuse {t : Traffic} {id : String} {job : Job} {fault : Fault} (fresh : t.tasks id = none)
      (early : clearance job.key job.write = .error fault) :
      Step t ((t.set id job (.done (.error fault))).record (.write id job (.error fault)))
  /-- A task asks for the lock of its key. -/
  | arrive {t : Traffic} {id : String} {job : Job} (fresh : t.tasks id = none)
      (cleared : clearance job.key job.write = .ok ()) :
      Step t ((t.set id job .waiting).locking (.ask (job.request id)))
  /-- A task goes on with the lock that it was handed. -/
  | enter {t : Traffic} {id : String} {job : Job} (waits : t.tasks id = some (job, .waiting))
      (handed : (t.lock job.key).holder = some (job.request id)) :
      Step t { t.set id job .locked with served := t.served ++ [(job.key, id)] }
  /-- It copies what the map has. -/
  | copy {t : Traffic} {id : String} {job : Job} (has : t.tasks id = some (job, .locked)) :
      Step t (t.set id job (.copied (t.store.find? job.key)))
  /-- It stores what it made of its copy. -/
  | insert {t : Traffic} {id : String} {job : Job} {current : Option Entry} {e : Entry}
      (has : t.tasks id = some (job, .copied current))
      (next : Entry.next job.key current job.write job.expected = .ok e) :
      Step t ({ t.set id job (.settled (.ok (e.record job.key))) with
        store := t.store.store job.key e }.record (.write id job (.ok (e.record job.key))))
  /-- Its copy has another version than it expects. -/
  | fail {t : Traffic} {id : String} {job : Job} {current : Option Entry} {fault : Fault}
      (has : t.tasks id = some (job, .copied current))
      (late : Entry.next job.key current job.write job.expected = .error fault) :
      Step t ((t.set id job (.settled (.error fault))).record (.write id job (.error fault)))
  /-- It lets the lock go. -/
  | release {t : Traffic} {id : String} {job : Job} {result : Except Fault Record}
      (has : t.tasks id = some (job, .settled result)) :
      Step t ((t.set id job (.done result)).locking (.release id))
  /-- A task that was handed the lock finds its token cancelled. -/
  | leave {t : Traffic} {id : String} {job : Job} (waits : t.tasks id = some (job, .waiting))
      (handed : (t.lock job.key).holder = some (job.request id))
      (cancelled : job.token.any t.store.locks.cancelled.contains) :
      Step t ((t.set id job .cancelled).locking (.release id))
  /-- A token is cancelled, and with it the tasks that wait. -/
  | cancel {t : Traffic} (token : String) : Step t (t.locking (.cancel token))
  /-- A read, which takes no lock. -/
  | read {t : Traffic} (key : String) : Step t (t.record (.read key (t.store.get key)))

/-- What any number of steps make of a store. -/
inductive Reachable (s : Store) : Traffic → Prop where
  | start : Reachable s { store := s }
  | step {t u : Traffic} (before : Reachable s t) (next : Step t u) : Reachable s u

end Traffic

end ShardStore.Store
