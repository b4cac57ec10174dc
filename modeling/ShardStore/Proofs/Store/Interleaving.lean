/-
# ShardStore.Proofs.Store.Interleaving -- writes under way lose no update

Whatever the order of the steps, the tasks do what their writes would do one after the
other.  The order is that in which they took effect; at one key it is the order in which
they got the lock.

* `Current` -- a copy that a task holds is what the map has, so what it stores is made of
  the present entry;
* `Logged` -- a task took effect once, or not at all if it was cancelled;
* `Ordered` -- the writes of a key took effect in the order of the lock;
* `Replayed` -- the calls of the log, made one after the other, give the same results and
  the same map;
* `reachable_linear` -- all of it, and that the versions of a new key are counted.
-/
import ShardStore.Proofs.Store.Guarded

namespace ShardStore.Store.Traffic

set_option autoImplicit false

/-- The tasks and the locks fit together. -/
def Safe (t : Traffic) : Prop := Guarded t.store.locks t.tasks

/-- Every copy that a task holds is what the map has. -/
def Current (t : Traffic) : Prop :=
  ∀ id job current, t.tasks id = some (job, .copied current) → t.store.find? job.key = current

/-- What a task did, as far as it has come. -/
def effects (tasks : Tasks) (id : String) : List Deed :=
  match tasks id with
  | some (job, stage) => (stage.effect?.map (Deed.write id job)).toList
  | none => []

/-- Every task is in the log with its effect, and only so. -/
def Logged (t : Traffic) : Prop :=
  ∀ id, t.log.filter (·.task? = some id) = effects t.tasks id

/-- Has the task the lock of this key, with its effect still to come? -/
def Working (tasks : Tasks) (id key : String) : Prop :=
  ∃ job stage, tasks id = some (job, stage) ∧ stage.Working ∧ job.key = key

/-- The tasks that got the lock of a key have written to it in this order, but for the
one that is at work. -/
def Ordered (t : Traffic) : Prop :=
  ∀ key, (∀ id, Working t.tasks id key → t.servedOn key = t.writersOf key ++ [id]) ∧
    ((∀ id, ¬ Working t.tasks id key) → t.servedOn key = t.writersOf key)

/-- The calls of the log give the same answers and the same map one after the other. -/
def Replayed (s : Store) (t : Traffic) : Prop :=
  (s.run (t.log.map Deed.call)).1 = t.log.map Deed.answer ∧
    (s.run (t.log.map Deed.call)).2.entries = t.store.entries

/-! ## What the locks mean for the tasks -/

variable {s : Store} {t u : Traffic} {id : String} {job : Job} {stage next : Stage}

theorem Safe.tasks_arrive (g : Safe t) (id : String) (job : Job) :
    ∃ stage, (stage = .waiting ∨ stage = .cancelled) ∧
      ((t.set id job .waiting).locking (.ask (job.request id))).tasks = t.tasks.set id job stage :=
  Guarded.note_arrive g id job

theorem Safe.tasks_release (g : Safe t) (has : t.tasks id = some (job, stage))
    (holds : (t.lock job.key).holder = some (job.request id)) (next : Stage) :
    ((t.set id job next).locking (.release id)).tasks = t.tasks.set id job next :=
  Guarded.note_release g has holds (t.tasks.set id job next)

theorem Safe.tasks_cancel (g : Safe t) {token x : String}
    (found : (t.locking (.cancel token)).tasks x = some (job, stage)) :
    t.tasks x = some (job, stage) ∨ (t.tasks x = some (job, .waiting) ∧ stage = .cancelled) :=
  Guarded.note_cancel g found

theorem Safe.holds (g : Safe t) (has : t.tasks id = some (job, stage)) (busy : stage.Busy) :
    (t.lock job.key).holder = some (job.request id) :=
  g.busy id job stage has busy

/-! ## One step -/

theorem Step.safe (step : Step t u) (g : Safe t) : Safe u := by
  cases step with
  | refuse fresh early => exact Guarded.refuse g fresh _ fun alive => alive
  | arrive fresh cleared => exact Guarded.arrive g fresh cleared
  | enter waits handed => exact Guarded.set g waits trivial trivial fun _ => handed
  | copy has => exact Guarded.set g has trivial trivial fun _ => g.holds has trivial
  | insert has next => exact Guarded.set g has trivial trivial fun _ => g.holds has trivial
  | fail has late => exact Guarded.set g has trivial trivial fun _ => g.holds has trivial
  | @release id job result has =>
    have holds := g.holds has trivial
    rw [Safe, g.tasks_release has holds]
    exact Guarded.release g has holds fun alive => alive
  | @leave id job waits handed cancelled =>
    rw [Safe, g.tasks_release waits handed]
    exact Guarded.release g waits handed fun alive => alive
  | cancel token => exact Guarded.cancel g token
  | read key => exact g

/-- A task that moves on without a copy leaves the other copies alone. -/
theorem current_set {store : Store} {tasks : Tasks} {id : String} {job : Job} {stage : Stage}
    (h : ∀ id job current, tasks id = some (job, .copied current) →
      store.find? job.key = current)
    (mine : ∀ current, stage = .copied current → store.find? job.key = current) :
    ∀ x job' current, tasks.set id job stage x = some (job', .copied current) →
      store.find? job'.key = current := by
  intro x job' current found
  rcases Tasks.set_cases found with ⟨rfl, rfl, same⟩ | ⟨-, found⟩
  · exact mine current same.symm
  · exact h x job' current found

theorem Step.current (step : Step t u) (g : Safe t) (h : Current t) : Current u := by
  cases step with
  | refuse fresh early => exact current_set h (by simp)
  | @arrive id job fresh cleared =>
    obtain ⟨stage, which, tasks⟩ := g.tasks_arrive id job
    rw [Current, tasks]
    refine current_set h ?_
    rintro current rfl
    rcases which with which | which <;> cases which
  | enter waits handed => exact current_set h (by simp)
  | copy has => exact current_set h fun current same => Stage.copied.inj same
  | @insert id job current e has next =>
    -- no other task of this key has a copy, since this one has the lock
    intro x job' current' found
    rcases Tasks.set_cases found with ⟨-, -, same⟩ | ⟨other, found⟩
    · cases same
    · have elsewhere : job'.key ≠ job.key := fun same =>
        other (Guarded.alone g (g.holds has trivial) found trivial same)
      change (t.store.store job.key e).find? job'.key = current'
      rw [find?_store, if_neg elsewhere]
      exact h x job' current' found
  | fail has late => exact current_set h (by simp)
  | @release id job result has =>
    rw [Current, g.tasks_release has (g.holds has trivial)]
    exact current_set h (by simp)
  | @leave id job waits handed cancelled =>
    rw [Current, g.tasks_release waits handed]
    exact current_set h (by simp)
  | cancel token =>
    intro x job' current found
    rcases g.tasks_cancel found with found | ⟨-, same⟩
    · exact h x job' current found
    · cases same
  | read key => exact h

/-! ### The log -/

theorem effects_set (tasks : Tasks) (id : String) (job : Job) (stage : Stage) (x : String) :
    effects (tasks.set id job stage) x =
      if x = id then (stage.effect?.map (Deed.write id job)).toList else effects tasks x := by
  by_cases mine : x = id
  · subst mine
    rw [effects, Tasks.set_same, if_pos rfl]
  · rw [effects, Tasks.set_other mine, if_neg mine, effects]

/-- A step of a task that has no effect, or had it before. -/
theorem logged_set {tasks : Tasks} {log : List Deed}
    (h : ∀ x, log.filter (·.task? = some x) = effects tasks x)
    (same : effects tasks id = (stage.effect?.map (Deed.write id job)).toList) (x : String) :
    log.filter (·.task? = some x) = effects (tasks.set id job stage) x := by
  rw [h, effects_set]
  split
  · rename_i mine
    rw [mine, same]
  · rfl

/-- The step with which a task takes effect. -/
theorem logged_write {tasks : Tasks} {log : List Deed} {result : Except Fault Record}
    (h : ∀ x, log.filter (·.task? = some x) = effects tasks x) (new : effects tasks id = [])
    (stage : Stage) (takes : stage.effect? = some result) (x : String) :
    (log ++ [Deed.write id job result]).filter (·.task? = some x) =
      effects (tasks.set id job stage) x := by
  rw [List.filter_append, h, effects_set, takes]
  by_cases mine : x = id
  · subst mine
    simp [new, Deed.task?]
  · simp [mine, Deed.task?, Ne.symm mine]

theorem Step.logged (step : Step t u) (g : Safe t) (h : Logged t) : Logged u := by
  have nothing {id : String} (fresh : t.tasks id = none) : effects t.tasks id = [] := by
    rw [effects, fresh]
  have something {id : String} {job : Job} {stage : Stage} (has : t.tasks id = some (job, stage)) :
      effects t.tasks id = (stage.effect?.map (Deed.write id job)).toList := by
    rw [effects, has]
  cases step with
  | refuse fresh early => exact logged_write h (nothing fresh) (.done _) rfl
  | @arrive id job fresh cleared =>
    obtain ⟨stage, which, tasks⟩ := g.tasks_arrive id job
    rw [Logged, tasks]
    refine logged_set h ?_
    rw [nothing fresh]
    rcases which with rfl | rfl <;> rfl
  | enter waits handed => exact logged_set h ((something waits).trans rfl)
  | copy has => exact logged_set h ((something has).trans rfl)
  | insert has next => exact logged_write h (something has) (.settled _) rfl
  | fail has late => exact logged_write h (something has) (.settled _) rfl
  | @release id job result has =>
    rw [Logged, g.tasks_release has (g.holds has trivial)]
    exact logged_set h ((something has).trans rfl)
  | @leave id job waits handed cancelled =>
    rw [Logged, g.tasks_release waits handed]
    exact logged_set h ((something waits).trans rfl)
  | cancel token =>
    intro x
    have same : effects (t.locking (.cancel token)).tasks x = effects t.tasks x := by
      cases found : (t.locking (.cancel token)).tasks x with
      | none =>
        have was : t.tasks x = none := Tasks.note_eq_none.1 found
        rw [effects, found, effects, was]
      | some p =>
        obtain ⟨job, stage⟩ := p
        rcases g.tasks_cancel found with was | ⟨was, rfl⟩
        · rw [effects, found, effects, was]
        · rw [effects, found, effects, was]
          rfl
    rw [same]
    exact h x
  | read key =>
    intro x
    refine Eq.trans ?_ (h x)
    simp [record, List.filter_append, Deed.task?]

/-! ### The order at a key -/

theorem working_set (tasks : Tasks) (id : String) (job : Job) (stage : Stage) (x key : String) :
    Working (tasks.set id job stage) x key ↔
      (x = id ∧ stage.Working ∧ job.key = key) ∨ (x ≠ id ∧ Working tasks x key) := by
  constructor
  · rintro ⟨job', stage', found, works, here⟩
    rcases Tasks.set_cases found with ⟨rfl, rfl, rfl⟩ | ⟨other, found⟩
    · exact Or.inl ⟨rfl, works, here⟩
    · exact Or.inr ⟨other, job', stage', found, works, here⟩
  · rintro (⟨rfl, works, here⟩ | ⟨other, job', stage', found, works, here⟩)
    · exact ⟨job, stage, Tasks.set_same, works, here⟩
    · exact ⟨job', stage', (Tasks.set_other other).trans found, works, here⟩

/-- A task that was not at work and is not. -/
theorem working_idle {tasks : Tasks} (was : ∀ key, ¬ Working tasks id key) (idle : ¬ stage.Working)
    (x key : String) : Working (tasks.set id job stage) x key ↔ Working tasks x key := by
  rw [working_set]
  constructor
  · rintro (⟨-, works, -⟩ | ⟨-, works⟩)
    · exact absurd works idle
    · exact works
  · intro works
    exact Or.inr ⟨fun same => was key (same ▸ works), works⟩

theorem not_working {tasks : Tasks} (has : tasks id = some (job, stage)) (idle : ¬ stage.Working)
    (key : String) : ¬ Working tasks id key := by
  rintro ⟨job', stage', found, works, -⟩
  rw [has] at found
  cases found
  exact idle works

/-- Only the holder of the lock is at work. -/
theorem Safe.alone (g : Safe t) (holds : (t.lock job.key).holder = some (job.request id))
    {x : String} (works : Working t.tasks x job.key) : x = id := by
  obtain ⟨job', stage', found, works, same⟩ := works
  exact Guarded.alone g holds found works.busy same

/-- A step that starts and ends no work. -/
theorem Ordered.quiet (h : Ordered t) (served : u.served = t.served)
    (writers : ∀ key, u.writersOf key = t.writersOf key)
    (working : ∀ x key, Working u.tasks x key ↔ Working t.tasks x key) : Ordered u := by
  intro key
  have same : u.servedOn key = t.servedOn key := by rw [servedOn, served, servedOn]
  rw [same, writers]
  exact ⟨fun x works => (h key).1 x ((working x key).1 works),
    fun nobody => (h key).2 fun x works => nobody x ((working x key).2 works)⟩

/-- The step with which a task starts its work. -/
theorem Ordered.enter (h : Ordered t) (g : Safe t) (waits : t.tasks id = some (job, .waiting))
    (handed : (t.lock job.key).holder = some (job.request id)) :
    Ordered { t.set id job .locked with served := t.served ++ [(job.key, id)] } := by
  have nobody (x : String) : ¬ Working t.tasks x job.key := by
    intro works
    have same := g.alone handed works
    subst same
    exact not_working waits (fun works => works) _ works
  intro key
  have served : ({ t.set id job .locked with served := t.served ++ [(job.key, id)] } :
      Traffic).servedOn key = t.servedOn key ++ if job.key = key then [id] else [] := by
    by_cases here : job.key = key <;> simp [servedOn, here]
  have working := working_set t.tasks id job .locked
  rw [served]
  by_cases here : job.key = key
  · subst here
    have before := (h job.key).2 nobody
    constructor
    · intro x works
      rcases (working x job.key).1 works with ⟨rfl, -, -⟩ | ⟨-, works⟩
      · rw [before, if_pos rfl]
        rfl
      · exact absurd works (nobody x)
    · intro none
      exact absurd ((working id job.key).2 (Or.inl ⟨rfl, trivial, rfl⟩)) (none id)
  · rw [if_neg here, List.append_nil]
    constructor
    · intro x works
      rcases (working x key).1 works with ⟨-, -, same⟩ | ⟨-, works⟩
      · exact absurd same here
      · exact (h key).1 x works
    · intro none
      apply (h key).2
      intro x works
      refine none x ((working x key).2 (Or.inr ⟨?_, works⟩))
      rintro rfl
      exact not_working waits (fun works => works) key works

/-- The step with which a task takes effect. -/
theorem Ordered.settle (h : Ordered t) (g : Safe t) {current : Option Entry}
    {result : Except Fault Record} {store : Store}
    (has : t.tasks id = some (job, .copied current)) :
    Ordered ({ t.set id job (.settled result) with store := store }.record
      (.write id job result)) := by
  have cleared : clearance job.key job.write = .ok () := g.cleared id job _ has trivial
  have holds := g.holds has trivial
  have mine : Working t.tasks id job.key := ⟨job, _, has, trivial, rfl⟩
  intro key
  have writers : ({ t.set id job (.settled result) with store := store }.record
      (.write id job result)).writersOf key =
        t.writersOf key ++ if job.key = key then [id] else [] := by
    by_cases here : job.key = key
    · subst here
      simp [writersOf, record, Traffic.set, Deed.writer?, cleared, Except.isOk, Except.toBool]
    · simp [writersOf, record, Traffic.set, Deed.writer?, here]
  have working := working_set t.tasks id job (.settled result)
  rw [writers]
  by_cases here : job.key = key
  · subst here
    have before := (h job.key).1 id mine
    constructor
    · intro x works
      rcases (working x job.key).1 works with ⟨-, works, -⟩ | ⟨other, works⟩
      · exact works.elim
      · exact absurd (g.alone holds works) other
    · intro _
      rw [if_pos rfl]
      exact before
  · rw [if_neg here, List.append_nil]
    constructor
    · intro x works
      rcases (working x key).1 works with ⟨-, works, -⟩ | ⟨-, works⟩
      · exact works.elim
      · exact (h key).1 x works
    · intro none
      apply (h key).2
      intro x works
      refine none x ((working x key).2 (Or.inr ⟨?_, works⟩))
      rintro rfl
      obtain ⟨job', stage', found, -, same⟩ := works
      rw [has] at found
      cases found
      exact here same

theorem Step.ordered (step : Step t u) (g : Safe t) (h : Ordered t) : Ordered u := by
  have unseen {id : String} (fresh : t.tasks id = none) (key : String) :
      ¬ Working t.tasks id key := by
    rintro ⟨job, stage, found, -⟩
    rw [fresh] at found
    cases found
  cases step with
  | @refuse id job fault fresh early =>
    refine h.quiet rfl ?_ (working_idle (unseen fresh) fun works => works)
    intro key
    simp [writersOf, record, Traffic.set, Deed.writer?, early, Except.isOk, Except.toBool]
  | @arrive id job fresh cleared =>
    obtain ⟨stage, which, tasks⟩ := g.tasks_arrive id job
    refine h.quiet rfl (fun _ => rfl) ?_
    rw [tasks]
    refine working_idle (unseen fresh) ?_
    rcases which with rfl | rfl <;> exact fun works => works
  | enter waits handed => exact h.enter g waits handed
  | @copy id job has =>
    refine h.quiet rfl (fun _ => rfl) ?_
    intro x key
    refine (working_set t.tasks id job _ x key).trans ⟨?_, ?_⟩
    · rintro (⟨rfl, -, here⟩ | ⟨-, works⟩)
      · exact ⟨job, .locked, has, trivial, here⟩
      · exact works
    · intro works
      by_cases mine : x = id
      · subst mine
        obtain ⟨job', stage', found, -, here⟩ := works
        rw [has] at found
        cases found
        exact Or.inl ⟨rfl, trivial, here⟩
      · exact Or.inr ⟨mine, works⟩
  | insert has next => exact h.settle g has
  | fail has late => exact h.settle g has
  | @release id job result has =>
    refine h.quiet rfl (fun _ => rfl) ?_
    rw [g.tasks_release has (g.holds has trivial)]
    exact working_idle (not_working has fun works => works) fun works => works
  | @leave id job waits handed cancelled =>
    refine h.quiet rfl (fun _ => rfl) ?_
    rw [g.tasks_release waits handed]
    exact working_idle (not_working waits fun works => works) fun works => works
  | cancel token =>
    refine h.quiet rfl (fun _ => rfl) fun x key => ⟨?_, ?_⟩
    · rintro ⟨job, stage, found, works, here⟩
      rcases g.tasks_cancel found with was | ⟨-, rfl⟩
      · exact ⟨job, stage, was, works, here⟩
      · exact works.elim
    · rintro ⟨job, stage, found, works, here⟩
      refine ⟨job, stage, ?_, works, here⟩
      have kept : ⟨x, .cancelled⟩ ∉ (t.store.locks.step (.cancel token)).2 := by
        intro member
        obtain ⟨job', waits, -⟩ := Guarded.cancelled_waits g member
        rw [found] at waits
        cases waits
        exact works
      exact (if_neg kept).trans found
  | read key =>
    exact h.quiet rfl (fun key => by simp [writersOf, record, Deed.writer?]) fun _ _ => Iff.rfl

/-! ### One after the other -/

/-- What takes effect answers as its call does, and changes the map as it does. -/
theorem Replayed.record (h : Replayed s t) {d : Deed} (store : Store) (tasks : Tasks)
    (answers : (t.store.call d.call).1 = d.answer)
    (makes : (t.store.call d.call).2.entries = store.entries) :
    Replayed s (({ t with store := store, tasks := tasks } : Traffic).record d) := by
  obtain ⟨answer, entries⟩ := call_congr h.2 d.call
  constructor
  · simp only [Traffic.record, List.map_append, List.map_singleton, run_append, h.1]
    rw [← answers, ← answer]
    rfl
  · simp only [Traffic.record, List.map_append, List.map_singleton, run_append]
    exact entries.trans makes

theorem Step.replayed (step : Step t u) (g : Safe t) (c : Current t) (h : Replayed s t) :
    Replayed s u := by
  cases step with
  | @refuse id job fault fresh early =>
    have alone := write_refused early job.expected false (s := t.store)
    refine h.record t.store _ ?_ ?_ <;> simp only [Deed.call, call, alone, Deed.answer]
  | @insert id job current e has next =>
    have cleared : clearance job.key job.write = .ok () := g.cleared id job _ has trivial
    have alone := write_stored cleared ((c id job current has).symm ▸ next)
    refine h.record (t.store.store job.key e) _ ?_ ?_ <;>
      simp only [Deed.call, call, alone, Deed.answer, store_entries, touch_entries]
  | @fail id job current fault has late =>
    have cleared : clearance job.key job.write = .ok () := g.cleared id job _ has trivial
    have alone := write_rejected cleared ((c id job current has).symm ▸ late)
    refine h.record t.store _ ?_ ?_ <;>
      simp only [Deed.call, call, alone, Deed.answer, touch_entries]
  | read key => exact h.record t.store _ rfl rfl
  | _ => exact h

/-! ## Any number of steps -/

/-- What every step keeps. -/
structure Orderly (s : Store) (t : Traffic) : Prop where
  safe : Safe t
  current : Current t
  logged : Logged t
  ordered : Ordered t
  replayed : Replayed s t

theorem Reachable.orderly (reached : Reachable s t) (idle : Idle s) : Orderly s t := by
  induction reached with
  | start =>
    refine ⟨idle.guarded, ?_, fun _ => rfl, fun key => ⟨?_, fun _ => rfl⟩, rfl, rfl⟩
    · rintro id job current ⟨⟩
    · rintro id ⟨job, stage, ⟨⟩, -⟩
  | step before next ih =>
    exact ⟨next.safe ih.safe, next.current ih.safe ih.current, next.logged ih.safe ih.logged,
      next.ordered ih.safe ih.ordered, next.replayed ih.safe ih.current ih.replayed⟩

/-- The tasks that wrote to a key are the first of those that got its lock. -/
theorem Ordered.writers_first (h : Ordered t) (key : String) : t.writersOf key <+: t.servedOn key := by
  by_cases busy : ∃ id, Working t.tasks id key
  · obtain ⟨id, works⟩ := busy
    exact ⟨[id], ((h key).1 id works).symm⟩
  · exact ⟨[], by rw [List.append_nil, (h key).2 fun id works => busy ⟨id, works⟩]⟩

/-- The versions that the writes to a new key return count from one. -/
theorem Replayed.versions (h : Replayed s t) {key : String} (new : s.find? key = none)
    (few : (t.versions key).length < 2 ^ 64) :
    (t.versions key).map UInt64.toNat = List.range' 1 (t.versions key).length := by
  have run : t.versions key =
      Store.versions key (t.log.map Deed.call) (s.run (t.log.map Deed.call)).1 := by
    rw [h.1, Store.versions, List.zipWith_map, List.zipWith_self]
    rfl
  rw [versions_run, new] at run
  generalize (writesTo key _).length = n at run
  have length : (t.versions key).length = n := by rw [run]; simp
  rw [length] at few ⊢
  rw [run, List.map_map, List.range'_eq_map_range]
  apply List.map_congr_left
  intro i member
  have small : i + 1 < 2 ^ 64 := by
    have := List.mem_range.1 member
    omega
  have zero : Entry.versionOf none = 0 := rfl
  rw [Function.comp_apply, zero, UInt64.zero_add, UInt64.toNat_ofNat_of_lt' small, Nat.add_comm]

/-- Tasks that share a store, in any order of their steps, do what their writes do one
after the other, in the order of the log: every copy is what the map has until the
task has stored what it makes of it; the answers and the map are those of the log's calls;
the log has every task once that took effect, with its result, and no other; and the
writes of a key stand in it in the order in which their tasks got the lock.  So the
versions of a key that was absent are 1, 2, 3 and so on. -/
theorem reachable_linear {s : Store} (idle : Idle s) {t : Traffic} (reached : Reachable s t) :
    (∀ id job current, t.tasks id = some (job, .copied current) →
      t.store.find? job.key = current) ∧
    (s.run (t.log.map Deed.call)).1 = t.log.map Deed.answer ∧
    (s.run (t.log.map Deed.call)).2.entries = t.store.entries ∧
    (∀ id, t.log.filter (·.task? = some id) = effects t.tasks id) ∧
    (∀ key, t.writersOf key <+: t.servedOn key) ∧
    (∀ key, s.find? key = none → (t.versions key).length < 2 ^ 64 →
      (t.versions key).map UInt64.toNat = List.range' 1 (t.versions key).length) := by
  have orderly := reached.orderly idle
  exact ⟨orderly.current, orderly.replayed.1, orderly.replayed.2, orderly.logged,
    orderly.ordered.writers_first, fun _ new few => orderly.replayed.versions new few⟩

/-- Two tasks that want one key, the second of which has to wait. -/
theorem reachable_linear_two_writers :
    Idle empty ∧ ∃ t, Reachable empty t ∧ (t.versions "k").map UInt64.toNat = [1, 2] := by
  have first := Reachable.start.step
    (@Step.arrive { store := empty } "a" ⟨"k", .replace .null, none, none⟩ rfl rfl)
  have second := first.step (@Step.arrive _ "b" ⟨"k", .replace .null, none, none⟩ rfl rfl)
  have entered := second.step (@Step.enter _ "a" ⟨"k", .replace .null, none, none⟩ rfl rfl)
  have copied := entered.step (@Step.copy _ "a" ⟨"k", .replace .null, none, none⟩ rfl)
  have stored := copied.step
    (@Step.insert _ "a" ⟨"k", .replace .null, none, none⟩ none ⟨.null, 1⟩ rfl rfl)
  have released := stored.step
    (@Step.release _ "a" ⟨"k", .replace .null, none, none⟩ (.ok ⟨"k", .null, 1⟩) rfl)
  have entered := released.step (@Step.enter _ "b" ⟨"k", .replace .null, none, none⟩ rfl rfl)
  have copied := entered.step (@Step.copy _ "b" ⟨"k", .replace .null, none, none⟩ rfl)
  have stored := copied.step
    (@Step.insert _ "b" ⟨"k", .replace .null, none, none⟩ (some ⟨.null, 1⟩) ⟨.null, 2⟩ rfl rfl)
  obtain ⟨-, -, -, -, -, versions⟩ := reachable_linear idle_empty stored
  exact ⟨idle_empty, _, stored, versions "k" rfl (by decide)⟩

end ShardStore.Store.Traffic
