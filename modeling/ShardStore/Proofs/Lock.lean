/-
# ShardStore.Proofs.Lock -- who is at a lock

The tasks at a lock are its holder and those that wait behind it (`crew`).  If every
task holds the lock until it lets it go, no waiter passes (`Patient`), and then

* a task that asks joins at the end;
* a release by the holder takes the holder away, and the next task holds the lock;
* a release by a task that is not there changes nothing;
* a cancelled token takes away the waiters that carry it, and never the holder.

What an action does to all locks is what it does to each (`lockOf_ask`, `lockOf_each`).
-/
import ShardStore.Lock

namespace ShardStore.Lock

set_option autoImplicit false

/-! ## One lock -/

/-- The tasks at a lock, the holder first. -/
def crew (l : Lock) : List Task := l.holder.toList ++ l.waiting.map (·.task)

/-- No waiter gives the lock back at once. -/
def Patient (l : Lock) : Prop := ∀ w ∈ l.waiting, w.passing = false

@[simp] theorem crew_empty : crew {} = [] := rfl

theorem patient_empty : Patient {} := by simp [Patient]

/-- Who is served is not cancelled. -/
theorem Task.served_ne_cancelled (t : Task) : t.served.outcome ≠ .cancelled := by
  rw [Task.served]
  split <;> simp

/-- Handing a lock on makes the first of the queue its holder. -/
theorem serve_patient {queue : List Waiter} (h : ∀ w ∈ queue, w.passing = false) :
    (serve queue).1.crew = queue.map (·.task) ∧ (serve queue).1.Patient ∧
      ∀ e ∈ (serve queue).2, e.outcome ≠ .cancelled := by
  cases queue with
  | nil => exact ⟨rfl, patient_empty, by simp [serve]⟩
  | cons w rest =>
    have stays : w.passing = false := h w List.mem_cons_self
    simp only [serve, stays, Bool.false_eq_true, if_false]
    refine ⟨rfl, fun w' member => h w' (List.mem_cons_of_mem _ member), ?_⟩
    intro e member
    rw [List.mem_singleton] at member
    subst member
    exact w.task.served_ne_cancelled

theorem ask_patient {l : Lock} {t : Task} (h : l.Patient) (holds : t.holds = true) :
    (l.ask t).1.crew = l.crew ++ [t] ∧ (l.ask t).1.Patient ∧
      ∀ e ∈ (l.ask t).2, e.outcome ≠ .cancelled := by
  have stays : ∀ w ∈ l.waiting ++ [⟨t, !t.holds⟩], w.passing = false := by
    intro w member
    rcases List.mem_append.1 member with old | new
    · exact h w old
    · rw [List.mem_singleton] at new
      subst new
      simp [holds]
  unfold ask
  split
  · rename_i free
    obtain ⟨crew_serve, patient, events⟩ := serve_patient stays
    refine ⟨?_, patient, events⟩
    rw [crew_serve, crew, free]
    simp
  · exact ⟨by simp [crew], stays, by simp⟩

/-- Asking never takes the lock from its holder. -/
theorem holder_ask {l : Lock} {t u : Task} (h : l.holder = some u) :
    (l.ask t).1.holder = some u := by
  simp only [ask, h]

theorem release_holder {l : Lock} {t : Task} (h : l.Patient) (holder : l.holder = some t) :
    (l.release t.id).1.crew = l.waiting.map (·.task) ∧ (l.release t.id).1.Patient ∧
      ∀ e ∈ (l.release t.id).2, e.outcome ≠ .cancelled := by
  have mine : l.holder.any (·.id = t.id) = true := by simp [holder]
  simp only [release, mine, if_true]
  exact serve_patient h

theorem release_absent {l : Lock} {id : String} (h : ∀ t ∈ l.crew, t.id ≠ id) :
    l.release id = (l, []) := by
  have notHolder : l.holder.any (·.id = id) = false := by
    cases held : l.holder with
    | none => rfl
    | some t =>
      have := h t (by simp [crew, held])
      simpa using this
  have same : l.waiting.map (fun w => if w.task.id = id then { w with passing := true } else w) =
      l.waiting := by
    conv => rhs; rw [← List.map_id l.waiting]
    apply List.map_congr_left
    intro w member
    have other := h w.task (List.mem_append_right _ (List.mem_map_of_mem member))
    simp [other]
  simp only [release, notHolder, Bool.false_eq_true, if_false, same]

theorem holder_cancel (l : Lock) (token : String) : (l.cancel token).1.holder = l.holder := rfl

theorem waiting_cancel (l : Lock) (token : String) :
    (l.cancel token).1.waiting = l.waiting.filter fun w => !decide (w.task.token = some token) := by
  simp only [cancel, List.partition_eq_filter_filter]
  rfl

theorem mem_cancel {l : Lock} {token : String} {e : Event} :
    e ∈ (l.cancel token).2 ↔
      ∃ w ∈ l.waiting, w.task.token = some token ∧ e = ⟨w.task.id, .cancelled⟩ := by
  simp only [cancel, List.partition_eq_filter_filter, List.mem_map, List.mem_filter,
    decide_eq_true_eq, and_assoc, eq_comm (a := e)]

/-! ## All locks -/

namespace Coordinator

variable {c : Coordinator}

@[simp] theorem lockOf_touch (c : Coordinator) (key k : String) :
    (c.touch key).lockOf k = c.lockOf k := by
  rw [lockOf, touch, Assoc.lookup_insert]
  by_cases same : k = key
  · simp [same]
  · simp [same, lockOf]

theorem sorted_touch (h : Assoc.Sorted c.locks) (key : String) :
    Assoc.Sorted (c.touch key).locks :=
  Assoc.sorted_insert key _ h

theorem lockOf_ask {t : Task} (h : ¬ t.token.any c.cancelled.contains) (k : String) :
    (c.step (.ask t)).1.lockOf k = if k = t.key then ((c.lockOf t.key).ask t).1 else c.lockOf k := by
  simp only [step, h, Bool.false_eq_true, if_false, lockOf, Assoc.lookup_insert]
  split <;> rfl

/-- Only cancelling a token cancels it. -/
theorem cancelled_ask (c : Coordinator) (t : Task) : (c.step (.ask t)).1.cancelled = c.cancelled := by
  rw [step]
  split <;> rfl

theorem sorted_step (h : Assoc.Sorted c.locks) (a : Action) : Assoc.Sorted (c.step a).1.locks := by
  cases a with
  | ask t =>
    rw [step]
    split
    · exact sorted_touch h t.key
    · exact Assoc.sorted_insert _ _ h
  | release id => exact Assoc.sorted_map (fun l => (l.release id).1) h
  | cancel token => exact Assoc.sorted_map (fun l => (l.cancel token).1) h

/-- Doing the same to every lock does it to each. -/
theorem lockOf_each {f : Lock → Lock × List Event} (still : (f {}).1 = {}) (k : String) :
    (c.each f).1.lockOf k = (f (c.lockOf k)).1 := by
  rw [lockOf, each, Assoc.lookup_map (fun l => (f l).1), lockOf]
  cases c.locks.lookup k with
  | none => exact still.symm
  | some l => rfl

theorem lockOf_release (id k : String) :
    (c.step (.release id)).1.lockOf k = ((c.lockOf k).release id).1 :=
  lockOf_each rfl k

theorem lockOf_cancel (token k : String) :
    (c.step (.cancel token)).1.lockOf k = ((c.lockOf k).cancel token).1 :=
  lockOf_each (f := (·.cancel token)) rfl k

/-- What happens is what happens at some lock. -/
theorem mem_each {f : Lock → Lock × List Event} (h : Assoc.Sorted c.locks) (still : (f {}).2 = [])
    {e : Event} : e ∈ (c.each f).2 ↔ ∃ k, e ∈ (f (c.lockOf k)).2 := by
  simp only [each, List.mem_flatMap]
  constructor
  · rintro ⟨⟨k, l⟩, place, happens⟩
    have found := (Assoc.mem_iff_lookup h k l).1 place
    exact ⟨k, by rw [lockOf, found]; exact happens⟩
  · rintro ⟨k, happens⟩
    rw [lockOf] at happens
    cases found : c.locks.lookup k with
    | none =>
      rw [found, Option.getD_none, still] at happens
      cases happens
    | some l =>
      rw [found] at happens
      exact ⟨(k, l), (Assoc.mem_iff_lookup h k l).2 found, happens⟩

end Coordinator

end ShardStore.Lock
