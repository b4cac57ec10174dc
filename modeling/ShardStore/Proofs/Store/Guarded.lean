/-
# ShardStore.Proofs.Store.Guarded -- one task at a time

`Guarded` ties the tasks to the locks: whoever is at a lock is a task that is alive, once,
and wants that key; and a task that has come past the lock holds it.  So of the tasks of
one key at most one is past the lock.  Every action on the locks keeps this, with what
it means for the tasks (`Guarded.arrive`, `Guarded.release`, `Guarded.cancel`).

No action on a lock ends a task that has the lock: only waiters are cancelled
(`Guarded.note_cancel`).
-/
import ShardStore.Proofs.Store.Traffic

namespace ShardStore.Store

set_option autoImplicit false

open Lock (Coordinator)

theorem Stage.Busy.alive {stage : Stage} (h : stage.Busy) : stage.Alive := by
  cases stage <;> trivial

theorem Stage.Working.busy {stage : Stage} (h : stage.Working) : stage.Busy := by
  cases stage <;> trivial

namespace Tasks

variable {tasks : Tasks} {id x : String} {job : Job} {stage : Stage}

@[simp] theorem set_same : tasks.set id job stage id = some (job, stage) := if_pos rfl

theorem set_other (h : x ≠ id) : tasks.set id job stage x = tasks x := if_neg h

theorem set_cases {job' : Job} {stage' : Stage}
    (h : tasks.set id job stage x = some (job', stage')) :
    (x = id ∧ job' = job ∧ stage' = stage) ∨ (x ≠ id ∧ tasks x = some (job', stage')) := by
  by_cases mine : x = id
  · subst mine
    rw [set_same] at h
    cases h
    exact Or.inl ⟨rfl, rfl, rfl⟩
  · exact Or.inr ⟨mine, (set_other mine).symm.trans h⟩

/-- Ending waits brings no task. -/
theorem note_eq_none {events : List Lock.Event} : tasks.note events x = none ↔ tasks x = none := by
  unfold note
  split
  · exact Option.map_eq_none_iff
  · exact Iff.rfl

theorem note_quiet {events : List Lock.Event} (h : ∀ e ∈ events, e.outcome ≠ .cancelled) :
    tasks.note events = tasks := by
  funext x
  exact if_neg fun member => h _ member rfl

end Tasks

structure Guarded (locks : Coordinator) (tasks : Tasks) : Prop where
  sorted : Assoc.Sorted locks.locks
  patient : ∀ key, (locks.lockOf key).Patient
  once : ∀ key, ((locks.lockOf key).crew.map (·.id)).Nodup
  present : ∀ key, ∀ t ∈ (locks.lockOf key).crew, ∃ job stage,
    tasks t.id = some (job, stage) ∧ stage.Alive ∧ job.key = key ∧ t = job.request t.id
  busy : ∀ id job stage, tasks id = some (job, stage) → stage.Busy →
    (locks.lockOf job.key).holder = some (job.request id)
  cleared : ∀ id job stage, tasks id = some (job, stage) → stage.Alive →
    clearance job.key job.write = .ok ()

/-- Nobody is at the locks of an idle store. -/
structure Idle (s : Store) : Prop where
  sorted : Assoc.Sorted s.locks.locks
  free : ∀ key, s.locks.lockOf key = {}

theorem Idle.guarded {s : Store} (h : Idle s) : Guarded s.locks fun _ => none where
  sorted := h.sorted
  patient key := by rw [h.free]; exact Lock.patient_empty
  once key := by simp [h.free]
  present key t member := by simp [h.free] at member
  busy _ _ _ found := by cases found
  cleared _ _ _ found := by cases found

theorem idle_empty : Idle empty := ⟨List.Pairwise.nil, fun _ => rfl⟩

namespace Guarded

variable {locks : Coordinator} {tasks : Tasks} {id x : String} {job : Job} {stage next : Stage}

/-! ## What is known at a lock -/

theorem notMem_waiting (g : Guarded locks tasks) {key : String} {t : Lock.Task}
    (holder : (locks.lockOf key).holder = some t) :
    ∀ w ∈ (locks.lockOf key).waiting, w.task.id ≠ t.id := by
  intro w member same
  have once := g.once key
  rw [Lock.crew, holder, Option.toList_some, List.singleton_append, List.map_cons,
    List.nodup_cons] at once
  refine once.1 (same ▸ List.mem_map_of_mem (List.mem_map_of_mem member))

/-- Whoever waits at a lock waits. -/
theorem waiting (g : Guarded locks tasks) {key : String} {w : Lock.Waiter}
    (member : w ∈ (locks.lockOf key).waiting) :
    ∃ job, tasks w.task.id = some (job, .waiting) ∧ job.key = key ∧
      w.task = job.request w.task.id := by
  obtain ⟨job, stage, found, alive, rfl, same⟩ :=
    g.present key w.task (List.mem_append_right _ (List.mem_map_of_mem member))
  have notBusy : ¬ stage.Busy := fun busy =>
    g.notMem_waiting (g.busy _ _ _ found busy) w member rfl
  cases stage with
  | waiting => exact ⟨job, found, rfl, same⟩
  | locked => exact absurd trivial notBusy
  | copied current => exact absurd trivial notBusy
  | settled result => exact absurd trivial notBusy
  | done result => exact alive.elim
  | cancelled => exact alive.elim

/-- A task is at no lock but its key's. -/
theorem absent (g : Guarded locks tasks) (has : tasks id = some (job, stage)) {key : String}
    (other : key ≠ job.key) : ∀ t ∈ (locks.lockOf key).crew, t.id ≠ id := by
  rintro t member rfl
  obtain ⟨job', stage', found, -, rfl, -⟩ := g.present key t member
  rw [has] at found
  cases found
  exact other rfl

/-- Of the tasks of one key only one is past the lock. -/
theorem alone (g : Guarded locks tasks) {job' : Job} {stage' : Stage}
    (holds : (locks.lockOf job.key).holder = some (job.request id))
    (has : tasks x = some (job', stage')) (busy : stage'.Busy) (same : job'.key = job.key) :
    x = id := by
  have holds' := g.busy x job' stage' has busy
  rw [same, holds] at holds'
  exact (congrArg Lock.Task.id (Option.some.inj holds')).symm

/-! ## Steps of one task -/

/-- A task moves on and stays alive. -/
theorem set (g : Guarded locks tasks) (has : tasks id = some (job, stage)) (was : stage.Alive)
    (stays : next.Alive) (holds : next.Busy →
      (locks.lockOf job.key).holder = some (job.request id)) :
    Guarded locks (tasks.set id job next) where
  sorted := g.sorted
  patient := g.patient
  once := g.once
  present key t member := by
    obtain ⟨job', stage', found, alive, wants, same⟩ := g.present key t member
    by_cases mine : t.id = id
    · rw [mine] at found same ⊢
      rw [has] at found
      cases found
      exact ⟨job, next, Tasks.set_same, stays, wants, same⟩
    · exact ⟨job', stage', (Tasks.set_other mine).trans found, alive, wants, same⟩
  busy x job' stage' found busy := by
    rcases Tasks.set_cases found with ⟨rfl, rfl, rfl⟩ | ⟨-, found⟩
    · exact holds busy
    · exact g.busy x job' stage' found busy
  cleared x job' stage' found alive := by
    rcases Tasks.set_cases found with ⟨rfl, rfl, rfl⟩ | ⟨-, found⟩
    · exact g.cleared x job' stage has was
    · exact g.cleared x job' stage' found alive

/-- A task that never comes to its lock. -/
theorem refuse (g : Guarded locks tasks) (fresh : tasks id = none) (next : Stage)
    (dead : ¬ next.Alive) :
    Guarded locks (tasks.set id job next) where
  sorted := g.sorted
  patient := g.patient
  once := g.once
  present key t member := by
    obtain ⟨job', stage', found, rest⟩ := g.present key t member
    have other : t.id ≠ id := by
      rintro rfl
      rw [fresh] at found
      cases found
    exact ⟨job', stage', (Tasks.set_other other).trans found, rest⟩
  busy x job' stage' found busy := by
    rcases Tasks.set_cases found with ⟨rfl, rfl, rfl⟩ | ⟨-, found⟩
    · exact absurd busy.alive dead
    · exact g.busy x job' stage' found busy
  cleared x job' stage' found alive := by
    rcases Tasks.set_cases found with ⟨rfl, rfl, rfl⟩ | ⟨-, found⟩
    · exact absurd alive dead
    · exact g.cleared x job' stage' found alive

/-! ## Actions on the locks -/

/-- Making sure of a lock changes nothing for the tasks. -/
theorem touch (g : Guarded locks tasks) (key : String) : Guarded (locks.touch key) tasks where
  sorted := Coordinator.sorted_touch g.sorted key
  patient k := by rw [Coordinator.lockOf_touch]; exact g.patient k
  once k := by rw [Coordinator.lockOf_touch]; exact g.once k
  present k t member := g.present k t (Coordinator.lockOf_touch locks key k ▸ member)
  busy x job' stage' found busy := by
    rw [Coordinator.lockOf_touch]
    exact g.busy x job' stage' found busy
  cleared := g.cleared

theorem note_refused (token : (job.request id).token.any locks.cancelled.contains) :
    (tasks.set id job .waiting).note (locks.step (.ask (job.request id))).2 =
      tasks.set id job .cancelled := by
  funext x
  simp only [Coordinator.step, token, if_true, Tasks.note, List.mem_singleton,
    Lock.Event.mk.injEq, and_true]
  by_cases mine : x = id
  · subst mine
    simp [Job.request]
  · rw [if_neg (by exact mine), Tasks.set_other mine, Tasks.set_other mine]

theorem note_admitted (g : Guarded locks tasks)
    (token : ¬ (job.request id).token.any locks.cancelled.contains) :
    (tasks.set id job .waiting).note (locks.step (.ask (job.request id))).2 =
      tasks.set id job .waiting := by
  refine Tasks.note_quiet ?_
  simp only [Coordinator.step, token, Bool.false_eq_true, if_false]
  exact (Lock.ask_patient (g.patient _) rfl).2.2

/-- A task that asks waits, or is cancelled at once. -/
theorem note_arrive (g : Guarded locks tasks) (id : String) (job : Job) :
    ∃ stage, (stage = .waiting ∨ stage = .cancelled) ∧
      (tasks.set id job .waiting).note (locks.step (.ask (job.request id))).2 =
        tasks.set id job stage := by
  by_cases token : (job.request id).token.any locks.cancelled.contains
  · exact ⟨.cancelled, Or.inr rfl, note_refused token⟩
  · exact ⟨.waiting, Or.inl rfl, g.note_admitted token⟩

theorem arrive (g : Guarded locks tasks) (fresh : tasks id = none)
    (cleared : clearance job.key job.write = .ok ()) :
    Guarded (locks.step (.ask (job.request id))).1
      ((tasks.set id job .waiting).note (locks.step (.ask (job.request id))).2) := by
  by_cases token : (job.request id).token.any locks.cancelled.contains
  · have touched : (locks.step (.ask (job.request id))).1 = locks.touch job.key := by
      simp only [Coordinator.step, token, if_true]
      rfl
    rw [note_refused token, touched]
    exact (g.refuse fresh .cancelled fun alive => alive).touch job.key
  rw [g.note_admitted token]
  have lockOf (k : String) := Coordinator.lockOf_ask token k
  obtain ⟨crew, patient, -⟩ :=
    Lock.ask_patient (t := job.request id) (g.patient job.key) rfl
  have notThere : ∀ t ∈ (locks.lockOf job.key).crew, t.id ≠ id := by
    rintro t member rfl
    obtain ⟨job', stage', found, -⟩ := g.present _ t member
    rw [fresh] at found
    cases found
  constructor
  case sorted => exact Coordinator.sorted_step g.sorted _
  case patient =>
    intro key
    rw [lockOf]
    split
    · exact patient
    · exact g.patient key
  case once =>
    intro key
    rw [lockOf]
    split
    · change ((Lock.ask (locks.lockOf job.key) (job.request id)).1.crew.map (·.id)).Nodup
      rw [crew, List.map_append, List.nodup_append]
      refine ⟨g.once job.key, by simp, ?_⟩
      intro a old b new
      obtain ⟨t, member, rfl⟩ := List.mem_map.1 old
      rw [List.map_singleton, List.mem_singleton] at new
      subst new
      exact notThere t member
    · exact g.once key
  case present =>
    intro key t member
    rw [lockOf] at member
    split at member
    · rename_i here
      replace member : t ∈ (locks.lockOf job.key).crew ++ [job.request id] := crew ▸ member
      rcases List.mem_append.1 member with old | new
      · obtain ⟨job', stage', found, rest⟩ := g.present _ t old
        exact ⟨job', stage', (Tasks.set_other (notThere t old)).trans found, here ▸ rest⟩
      · rw [List.mem_singleton] at new
        subst new
        exact ⟨job, .waiting, Tasks.set_same, trivial, here.symm, rfl⟩
    · obtain ⟨job', stage', found, rest⟩ := g.present _ t member
      have other : t.id ≠ id := by
        rintro same
        rw [same, fresh] at found
        cases found
      exact ⟨job', stage', (Tasks.set_other other).trans found, rest⟩
  case busy =>
    intro x job' stage' found busy
    rcases Tasks.set_cases found with ⟨rfl, rfl, rfl⟩ | ⟨-, found⟩
    · exact busy.elim
    · have holder := g.busy x job' stage' found busy
      rw [lockOf]
      split
      · rename_i here
        rw [here] at holder
        exact Lock.holder_ask holder
      · exact holder
  case cleared =>
    intro x job' stage' found alive
    rcases Tasks.set_cases found with ⟨rfl, rfl, rfl⟩ | ⟨-, found⟩
    · exact cleared
    · exact g.cleared x job' stage' found alive

/-- The lock goes on to the next, and other locks stay as they are. -/
theorem lockOf_release (g : Guarded locks tasks) (has : tasks id = some (job, stage)) {key : String}
    (other : key ≠ job.key) :
    (locks.step (.release id)).1.lockOf key = locks.lockOf key := by
  rw [Coordinator.lockOf_release, Lock.release_absent (g.absent has other)]

/-- A release cancels nobody. -/
theorem note_release (g : Guarded locks tasks) (has : tasks id = some (job, stage))
    (holds : (locks.lockOf job.key).holder = some (job.request id)) (after : Tasks) :
    after.note (locks.step (.release id)).2 = after := by
  apply Tasks.note_quiet
  intro e member
  obtain ⟨key, happens⟩ := (Coordinator.mem_each g.sorted rfl).1 member
  by_cases here : key = job.key
  · subst here
    exact (Lock.release_holder (g.patient job.key) holds).2.2 e happens
  · rw [Lock.release_absent (g.absent has here)] at happens
    cases happens

theorem release (g : Guarded locks tasks) (has : tasks id = some (job, stage))
    (holds : (locks.lockOf job.key).holder = some (job.request id)) (dead : ¬ next.Alive) :
    Guarded (locks.step (.release id)).1 (tasks.set id job next) := by
  have others {key : String} (other : key ≠ job.key) := g.lockOf_release has other
  obtain ⟨crew, patient, -⟩ := Lock.release_holder (g.patient job.key) holds
  have mine : (locks.step (.release id)).1.lockOf job.key =
      ((locks.lockOf job.key).release id).1 := Coordinator.lockOf_release id job.key
  constructor
  case sorted => exact Coordinator.sorted_step g.sorted _
  case patient =>
    intro key
    by_cases here : key = job.key
    · subst here
      rw [mine]
      exact patient
    · rw [others here]
      exact g.patient key
  case once =>
    intro key
    by_cases here : key = job.key
    · subst here
      have once := g.once job.key
      rw [Lock.crew, List.map_append, List.nodup_append] at once
      rw [mine]
      change (((locks.lockOf job.key).release (job.request id).id).1.crew.map (·.id)).Nodup
      rw [crew]
      exact once.2.1
    · rw [others here]
      exact g.once key
  case present =>
    intro key t member
    by_cases here : key = job.key
    · subst here
      rw [mine] at member
      replace member : t ∈ (locks.lockOf job.key).waiting.map (·.task) := crew ▸ member
      obtain ⟨w, waits, rfl⟩ := List.mem_map.1 member
      obtain ⟨job', stage', found, rest⟩ := g.present job.key w.task (List.mem_append_right _ member)
      have other : w.task.id ≠ id := g.notMem_waiting holds w waits
      exact ⟨job', stage', (Tasks.set_other other).trans found, rest⟩
    · rw [others here] at member
      obtain ⟨job', stage', found, rest⟩ := g.present key t member
      have other : t.id ≠ id := g.absent has here t member
      exact ⟨job', stage', (Tasks.set_other other).trans found, rest⟩
  case busy =>
    intro x job' stage' found busy
    rcases Tasks.set_cases found with ⟨rfl, rfl, rfl⟩ | ⟨other, found⟩
    · exact absurd busy.alive dead
    · have elsewhere : job'.key ≠ job.key := fun same => other (g.alone holds found busy same)
      rw [others elsewhere]
      exact g.busy x job' stage' found busy
  case cleared =>
    intro x job' stage' found alive
    rcases Tasks.set_cases found with ⟨rfl, rfl, rfl⟩ | ⟨-, found⟩
    · exact absurd alive dead
    · exact g.cleared x job' stage' found alive

/-- Only tasks that wait are cancelled. -/
theorem cancelled_waits (g : Guarded locks tasks) {token : String}
    (member : ⟨x, .cancelled⟩ ∈ (locks.step (.cancel token)).2) :
    ∃ job, tasks x = some (job, .waiting) ∧ job.token = some token ∧
      ∃ w ∈ (locks.lockOf job.key).waiting, w.task.id = x := by
  obtain ⟨key, happens⟩ :=
    (Coordinator.mem_each (f := (·.cancel token)) g.sorted rfl).1 member
  obtain ⟨w, waits, carries, same⟩ := Lock.mem_cancel.1 happens
  obtain ⟨job, found, rfl, request⟩ := g.waiting waits
  cases same
  rw [request] at carries
  exact ⟨job, found, carries, w, waits, rfl⟩

theorem note_cancel (g : Guarded locks tasks) {token : String} {job' : Job} {stage' : Stage}
    (found : tasks.note (locks.step (.cancel token)).2 x = some (job', stage')) :
    tasks x = some (job', stage') ∨ (tasks x = some (job', .waiting) ∧ stage' = .cancelled) := by
  unfold Tasks.note at found
  split at found
  · rename_i member
    obtain ⟨job, waits, -⟩ := g.cancelled_waits member
    rw [waits] at found
    cases found
    exact Or.inr ⟨waits, rfl⟩
  · exact Or.inl found

theorem cancel (g : Guarded locks tasks) (token : String) :
    Guarded (locks.step (.cancel token)).1 (tasks.note (locks.step (.cancel token)).2) := by
  have lockOf (key : String) := Coordinator.lockOf_cancel (c := locks) token key
  have fewer (l : Lock) : (l.cancel token).1.crew.Sublist l.crew := by
    rw [Lock.crew, Lock.holder_cancel, Lock.waiting_cancel]
    exact List.Sublist.append_left (List.filter_sublist.map _) _
  constructor
  case sorted => exact Coordinator.sorted_step g.sorted _
  case patient =>
    intro key w member
    rw [lockOf, Lock.waiting_cancel] at member
    exact g.patient key w (List.mem_filter.1 member).1
  case once =>
    intro key
    rw [lockOf]
    exact (g.once key).sublist ((fewer _).map _)
  case present =>
    intro key t member
    rw [lockOf] at member
    obtain ⟨job, stage, found, alive, rfl, request⟩ := g.present key t ((fewer _).subset member)
    refine ⟨job, stage, ?_, alive, rfl, request⟩
    rw [Tasks.note, if_neg, found]
    intro noted
    obtain ⟨job', waits, carries, w, waiting, same⟩ := g.cancelled_waits noted
    rw [found] at waits
    cases waits
    rw [Lock.crew, Lock.holder_cancel, Lock.waiting_cancel] at member
    rcases List.mem_append.1 member with holder | waits
    · exact g.notMem_waiting (Option.mem_toList.1 holder) w waiting same
    · obtain ⟨w', kept, rfl⟩ := List.mem_map.1 waits
      have other := (List.mem_filter.1 kept).2
      rw [request] at other
      simp [Job.request, carries] at other
  case busy =>
    intro x job' stage' found busy
    rw [lockOf, Lock.holder_cancel]
    rcases g.note_cancel found with found | ⟨-, rfl⟩
    · exact g.busy x job' stage' found busy
    · exact busy.elim
  case cleared =>
    intro x job' stage' found alive
    rcases g.note_cancel found with found | ⟨-, rfl⟩
    · exact g.cleared x job' stage' found alive
    · exact alive.elim

end Guarded

end ShardStore.Store
