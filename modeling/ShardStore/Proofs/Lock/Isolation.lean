/-
# ShardStore.Proofs.Lock.Isolation -- what is not noticed at a lock

Two runs are compared, one and what is left of it without some of its actions.  An onlooker
who looks at some tasks only does not notice what was taken out (`Unnoticed`) if the actions
that stay settle the same of these tasks in both runs, each in the same order, and those
taken out settle nothing of them.  This is a matter of single steps (`Unnoticed.of_steps`):

* without the tasks of other keys the queue of a key goes through the same states
  (`run_concerns`);
* without a task that is turned away in the end every lock is the same, but that this task
  is missing from the queue (`Trimmed`); for a lock that is handed on passes over it.

Hence nobody notices the tasks of other keys, nor a task that is cancelled
(`noninterference`).
-/
import ShardStore.Proofs.Lock.Fairness

namespace ShardStore.Lock

set_option autoImplicit false

open Coordinator

/-! ## Two runs -/

/-- The actions of a run on new locks, each with what it settles. -/
def timeline (actions : List Action) : List (Action × List Event) :=
  actions.zip ((({} : Coordinator).run actions).map (·.2))

/-- The same, as one sees it who looks at some events only. -/
def seen (look : Event → Bool) (actions : List Action) : List (Action × List Event) :=
  (timeline actions).map fun s => (s.1, s.2.filter look)

/-- Who looks at these events does not notice that only these actions are kept. -/
structure Unnoticed (keep : Action → Bool) (look : Event → Bool) (actions : List Action) :
    Prop where
  kept : seen look (actions.filter keep) = (seen look actions).filter (keep ·.1)
  silent : ∀ s ∈ seen look actions, keep s.1 = false → s.2 = []

theorem Coordinator.length_run (c : Coordinator) (actions : List Action) :
    (c.run actions).length = actions.length := by
  induction actions generalizing c with
  | nil => rfl
  | cons a actions ih => simp [run, ih]

theorem seen_concat (look : Event → Bool) (actions : List Action) (a : Action) :
    seen look (actions ++ [a]) =
      seen look actions ++ [(a, ((after actions).step a).2.filter look)] := by
  have timeline : timeline (actions ++ [a]) =
      timeline actions ++ [(a, ((after actions).step a).2)] := by
    rw [timeline, run_append, List.map_append, List.zip_append]
    · rfl
    · rw [List.length_map, Coordinator.length_run]
  rw [seen, timeline, List.map_append]
  rfl

/-- Nothing is noticed if no step shows a difference. -/
theorem Unnoticed.of_steps {keep : Action → Bool} {look : Event → Bool} {actions : List Action}
    (steps : ∀ before a behind, actions = before ++ a :: behind →
      ((after before).step a).2.filter look =
        if keep a then ((after (before.filter keep)).step a).2.filter look else []) :
    Unnoticed keep look actions := by
  induction actions using List.reverseRecOn with
  | nil =>
    refine ⟨rfl, ?_⟩
    intro s member
    cases member
  | append_singleton actions a ih =>
    have older : Unnoticed keep look actions := by
      apply ih
      intro before b behind split
      apply steps before b (behind ++ [a])
      rw [split, List.append_assoc]
      rfl
    have last := steps actions a [] rfl
    constructor
    · rw [seen_concat, List.filter_append, List.filter_append, ← older.kept]
      cases kept : keep a with
      | true =>
        rw [kept, if_pos rfl] at last
        simp only [List.filter_singleton, kept, cond_true, seen_concat, last]
      | false => simp only [List.filter_singleton, kept, cond_false, List.append_nil]
    · intro s member dropped
      rw [seen_concat] at member
      rcases List.mem_append.1 member with old | new
      · exact older.silent s old dropped
      · obtain rfl := List.mem_singleton.1 new
        show ((after actions).step a).2.filter look = []
        rw [last, if_neg (ne_true_of_eq_false dropped)]

/-! ## Other keys -/

/-- Is the action one on the key?  Tokens are cancelled for all keys; a release is that of the
task that has the name. -/
def Action.concerns (key : String) (actions : List Action) : Action → Bool
  | .ask t => t.key = key
  | .release id => (tasks actions).all fun t => t.id = id → t.key = key
  | .cancel _ => true

/-- Who is at the lock of a key asked for it. -/
theorem Queue.Fair.asked_of_mem_crew {key : String} {actions : List Action} {q : Queue}
    (h : Fair key actions q) {t : Task} (member : t ∈ q.lock.crew) : t ∈ asked key actions := by
  rcases List.mem_append.1 member with holds | waits
  · exact ((h.holder t).1 (Option.mem_toList.1 holds)).1
  · obtain ⟨w, among, rfl⟩ := List.mem_map.1 waits
    exact (h.lined.known w among).1

section Keys

variable {key : String} {actions before : List Action}

/-- An action on another key is nothing to the queue of a key. -/
theorem step_elsewhere (apart : Apart actions) (part : before.Sublist actions) {a : Action}
    (elsewhere : a.concerns key actions = false) :
    Queue.step key (Queue.run key before) a = Queue.run key before := by
  cases a with
  | ask t =>
    have other : t.key ≠ key := of_decide_eq_false elsewhere
    rw [Queue.step, if_neg other]
  | release id =>
    obtain ⟨t, ht, named⟩ := List.all_eq_false.1 elsewhere
    obtain ⟨rfl, other⟩ : t.id = id ∧ t.key ≠ key := by simpa using named
    have absent : ∀ u ∈ (Queue.run key before).lock.crew, u.id ≠ t.id := by
      intro u member same
      have fair := Queue.fair (apart.of_sublist part) key
      have here := (asked_sublist key part).subset (fair.asked_of_mem_crew member)
      obtain rfl := apart.eq_of_id (mem_asked.1 here).1 ht same
      exact other (mem_asked.1 here).2
    rw [Queue.step, release_absent absent, List.append_nil]
  | cancel token => cases elsewhere

/-- The queue of a key is the same without the tasks of other keys. -/
theorem run_concerns (apart : Apart actions) (part : before.Sublist actions) :
    Queue.run key (before.filter (·.concerns key actions)) = Queue.run key before := by
  induction before using List.reverseRecOn with
  | nil => rfl
  | append_singleton before a ih =>
    have older := (List.sublist_append_left before [a]).trans part
    rw [List.filter_append, Queue.run_concat]
    by_cases on : a.concerns key actions = true
    · rw [List.filter_cons_of_pos on, List.filter_nil, Queue.run_concat, ih older]
    · rw [List.filter_cons_of_neg on, List.filter_nil, List.append_nil, ih older,
        step_elsewhere apart older (eq_false_of_ne_true on)]

/-- So the locks look the same to a key. -/
theorem view_concerns (apart : Apart actions) (part : before.Sublist actions) :
    (after (before.filter (·.concerns key actions))).view key [] = (after before).view key [] := by
  have same : Queue.run key (before.filter (·.concerns key actions)) = Queue.run key before :=
    run_concerns apart part
  have fewer : (before.filter (·.concerns key actions)).Sublist actions :=
    List.filter_sublist.trans part
  rw [(run_eq (apart.of_sublist fewer)).1, (run_eq (apart.of_sublist part)).1] at same
  exact congrArg (fun q : Queue => { q with events := [] }) same

/-- Of what concerns a key's tasks, an action on another key settles nothing. -/
theorem events_elsewhere (apart : Apart actions) (part : before.Sublist actions) {a : Action}
    (elsewhere : a.concerns key actions = false) :
    (Queue.step key ((after before).view key []) a).events = [] := by
  have still := step_elsewhere apart part elsewhere
  rw [(run_eq (apart.of_sublist part)).1, step_view] at still
  exact List.append_right_eq_self.1 (congrArg Queue.events still)

/-- A key does not notice the tasks of other keys. -/
theorem unnoticed_elsewhere (apart : Apart actions) (key : String) :
    Unnoticed (·.concerns key actions) (·.task ∈ (asked key actions).map (·.id)) actions := by
  apply Unnoticed.of_steps
  intro before a behind split
  have part : (before ++ [a]).Sublist actions := by
    rw [split, List.append_cons before a behind]
    exact List.sublist_append_left _ _
  have older : before.Sublist actions := (List.sublist_append_left _ _).trans part
  have runs {some : List Action} (sub : some.Sublist actions) (k : String) :
      ∃ events, Queue.run k some = (after some).view k events :=
    ⟨_, (run_eq (apart.of_sublist sub)).1 k⟩
  rw [filter_step_asked apart part (runs older)]
  by_cases on : a.concerns key actions = true
  · have fewer : (before.filter (·.concerns key actions) ++ [a]).Sublist actions :=
      (List.filter_sublist.append_right [a]).trans part
    rw [if_pos on, filter_step_asked apart fewer (runs ((List.sublist_append_left _ _).trans fewer)),
      view_concerns apart older]
  · rw [if_neg on]
    exact events_elsewhere apart older (eq_false_of_ne_true on)

end Keys

/-! ## Cancelled tasks -/

/-- A lock without a task that waits. -/
def without (id : String) (l : Lock) : Lock :=
  { l with waiting := l.waiting.filter (·.task.id ≠ id) }

/-- A task is turned away by these events, if they concern it at all. -/
def Denied (id : String) (events : List Event) : Prop :=
  ∀ e ∈ events, e.task = id → e.outcome = .cancelled

/-- What is left if a task is taken out of the queue, and what is settled then. -/
def trim (id : String) (r : Lock × List Event) : Lock × List Event :=
  (r.1.without id, r.2.filter (·.task ≠ id))

section Locks

variable {id : String} {l : Lock}

/-- A task that is turned away is not served. -/
theorem Denied.ne_served {events : List Event} (h : Denied id events) {t : Task}
    (served : t.served ∈ events) : t.id ≠ id := by
  intro same
  have cancelled : t.served.outcome = .cancelled := h t.served served same
  exact t.served_ne_cancelled cancelled

/-- A lock is handed on past a task that does not get it. -/
theorem serve_without {ws : List Waiter} (denied : Denied id (serve ws).2) :
    serve (ws.filter (·.task.id ≠ id)) = trim id (serve ws) := by
  induction ws with
  | nil => rfl
  | cons w ws ih =>
    have first : w.task.served ∈ (serve (w :: ws)).2 := by
      rw [serve]
      split
      · exact List.mem_cons_self
      · exact List.mem_singleton_self _
    have other : w.task.id ≠ id := denied.ne_served first
    have stays : (w :: ws).filter (·.task.id ≠ id) = w :: ws.filter (·.task.id ≠ id) :=
      List.filter_cons_of_pos (decide_eq_true other)
    rw [stays]
    by_cases passes : w.passing = true
    · have rest : Denied id (serve ws).2 := by
        intro e member
        apply denied
        rw [serve, if_pos passes]
        exact List.mem_cons_of_mem _ member
      rw [serve, if_pos passes, serve, if_pos passes, ih rest]
      simp [trim, Task.served, other]
    · rw [serve, if_neg passes, serve, if_neg passes]
      simp [trim, without, Task.served, other]

theorem ask_without {t : Task} (other : t.id ≠ id) (denied : Denied id (l.ask t).2) :
    (l.without id).ask t = trim id (l.ask t) := by
  let last : Waiter := ⟨t, !t.holds⟩
  have joined : (l.waiting ++ [last]).filter (·.task.id ≠ id) =
      l.waiting.filter (·.task.id ≠ id) ++ [last] := by
    rw [List.filter_append, List.filter_singleton, decide_eq_true other]
    rfl
  cases had : l.holder with
  | none =>
    simp only [ask, without, had] at denied ⊢
    rw [← joined]
    exact serve_without denied
  | some u =>
    simp only [ask, without, had, trim, List.filter_nil]
    rw [joined]

theorem release_without {name : String} (denied : Denied id (l.release name).2) :
    (l.without id).release name = trim id (l.release name) := by
  by_cases mine : l.holder.any (·.id = name) = true
  · simp only [release, without, mine, if_true] at denied ⊢
    exact serve_without denied
  · have told : (l.waiting.filter (·.task.id ≠ id)).map
          (fun w => if w.task.id = name then { w with passing := true } else w) =
        (l.waiting.map fun w => if w.task.id = name then { w with passing := true } else w).filter
          (·.task.id ≠ id) := by
      rw [List.filter_map]
      apply congrArg
      apply List.filter_congr
      intro w _
      show decide (w.task.id ≠ id) = _
      by_cases named : w.task.id = name <;> simp [named]
    simp only [release, without, mine, Bool.false_eq_true, if_false, trim, List.filter_nil, told]

theorem cancel_without (id : String) (l : Lock) (token : String) :
    (l.without id).cancel token = trim id (l.cancel token) := by
  simp only [cancel, without, trim, List.partition_eq_filter_filter, List.filter_filter,
    List.filter_map]
  refine Prod.ext ?_ ?_
  · simp only [Bool.and_comm]
  · dsimp only
    apply congrArg
    apply List.filter_congr
    intro w _
    exact Bool.and_comm _ _

end Locks

/-- The locks of one coordinator are those of another, less a task that waits. -/
structure Trimmed (id : String) (c d : Coordinator) : Prop where
  cancelled : d.cancelled = c.cancelled
  locks : ∀ key, d.lockOf key = (c.lockOf key).without id

namespace Trimmed

variable {id : String} {c d : Coordinator}

/-- What is done at every lock is the same, if it is at each. -/
theorem each (h : Trimmed id c d) (hc : Assoc.Sorted c.locks) (hd : Assoc.Sorted d.locks)
    {f : Lock → Lock × List Event} (still : f {} = ({}, []))
    (same : ∀ key, f ((c.lockOf key).without id) = trim id (f (c.lockOf key))) :
    (∀ key, (d.each f).1.lockOf key = ((c.each f).1.lockOf key).without id) ∧
      (d.each f).2 = (c.each f).2.filter (·.task ≠ id) := by
  have nothing : (f {}).2 = [] := congrArg Prod.snd still
  constructor
  · intro key
    have unmoved : (f {}).1 = {} := congrArg Prod.fst still
    rw [lockOf_each unmoved, lockOf_each unmoved, h.locks, same]
    rfl
  · -- a key that has no lock, and one whose lock settles nothing, count alike
    have events (c : Coordinator) (g : List Event → List Event) (none : g [] = []) (key : String) :
        ((c.locks.map fun p => (p.1, g (f p.2).2)).lookup key).getD [] = g (f (c.lockOf key)).2 := by
      rw [Assoc.lookup_map (fun l => g (f l).2), lockOf]
      cases c.locks.lookup key with
      | none => rw [Option.map_none, Option.getD_none, Option.getD_none, nothing, none]
      | some l => rfl
    have all := Assoc.flatMap_eq_of_lookup (Assoc.sorted_map (fun l => (f l).2) hd)
      (Assoc.sorted_map (fun l => (f l).2.filter (·.task ≠ id)) hc) (by
        intro key
        rw [events d (fun es => es) rfl, events c (fun es => es.filter (·.task ≠ id)) rfl, h.locks,
          same]
        rfl)
    rw [List.flatMap_map, List.flatMap_map] at all
    rw [Coordinator.each, Coordinator.each, List.filter_flatMap]
    exact all

/-- An action of others. -/
theorem step (h : Trimmed id c d) (hc : Assoc.Sorted c.locks) (hd : Assoc.Sorted d.locks)
    {a : Action} (other : ∀ t, a = .ask t → t.id ≠ id) (denied : Denied id (c.step a).2) :
    Trimmed id (c.step a).1 (d.step a).1 ∧ (d.step a).2 = (c.step a).2.filter (·.task ≠ id) := by
  cases a with
  | ask t =>
    have apart : t.id ≠ id := other t rfl
    by_cases gone : t.token.any c.cancelled.contains
    · have gone' : t.token.any d.cancelled.contains := h.cancelled ▸ gone
      simp only [Coordinator.step, gone, gone', if_true]
      refine ⟨⟨h.cancelled, ?_⟩, ?_⟩
      · intro key
        rw [lockOf_touch, lockOf_touch, h.locks]
      · simp [apart]
    · have gone' : ¬ t.token.any d.cancelled.contains := h.cancelled ▸ gone
      have asks : (d.lockOf t.key).ask t = trim id ((c.lockOf t.key).ask t) := by
        rw [h.locks]
        apply ask_without apart
        simpa [Coordinator.step, gone] using denied
      refine ⟨⟨?_, ?_⟩, ?_⟩
      · simp [Coordinator.step, gone, h.cancelled]
      · intro key
        rw [lockOf_ask gone, lockOf_ask gone', asks, h.locks]
        split <;> rfl
      · simp only [Coordinator.step, gone, gone', Bool.false_eq_true, if_false, asks]
        rfl
  | release name =>
    have same (key : String) : ((c.lockOf key).without id).release name =
        trim id ((c.lockOf key).release name) := by
      apply release_without
      intro e member
      exact denied e ((mem_each hc rfl).2 ⟨key, member⟩)
    obtain ⟨locks, events⟩ := h.each hc hd (f := (·.release name)) rfl same
    exact ⟨⟨h.cancelled, locks⟩, events⟩
  | cancel token =>
    have same (key : String) : ((c.lockOf key).without id).cancel token =
        trim id ((c.lockOf key).cancel token) :=
      cancel_without id _ token
    obtain ⟨locks, events⟩ := h.each hc hd (f := (·.cancel token)) rfl same
    exact ⟨⟨congrArg (token :: ·) h.cancelled, locks⟩, events⟩

/-- The task itself asks, and is not heard. -/
theorem drop {t : Task} (h : Trimmed t.id c d)
    (idle : (c.lockOf t.key).holder = none → (c.lockOf t.key).waiting = [])
    (denied : Denied t.id (c.step (.ask t)).2) :
    Trimmed t.id (c.step (.ask t)).1 d ∧ (c.step (.ask t)).2.filter (·.task ≠ t.id) = [] := by
  by_cases gone : t.token.any c.cancelled.contains
  · simp only [Coordinator.step, gone, if_true]
    refine ⟨⟨h.cancelled, ?_⟩, ?_⟩
    · intro key
      rw [lockOf_touch, h.locks]
    · simp
  · cases had : (c.lockOf t.key).holder with
    | none =>
      -- a free lock is given to who asks for it
      have served : t.served ∈ (c.step (.ask t)).2 := by
        simp only [Coordinator.step, gone, Bool.false_eq_true, if_false, Lock.ask, had, idle had,
          List.nil_append, serve]
        split <;> exact List.mem_singleton_self _
      exact absurd rfl (denied.ne_served served)
    | some u =>
      have joins : (c.lockOf t.key).ask t =
          ({ c.lockOf t.key with waiting := (c.lockOf t.key).waiting ++ [⟨t, !t.holds⟩] }, []) := by
        simp only [Lock.ask, had]
      refine ⟨⟨?_, ?_⟩, ?_⟩
      · simp [Coordinator.step, gone, h.cancelled]
      · intro key
        rw [lockOf_ask gone, h.locks, joins]
        split
        · rename_i here
          subst here
          simp [without]
        · rfl
      · simp [Coordinator.step, gone, joins]

end Trimmed

section Cancelled

variable {actions before : List Action} {t : Task}

/-- What a step of a run settles, the run settles. -/
theorem mem_settled {before : List Action} {a : Action} {e : Event}
    (member : e ∈ ((after before).step a).2) (behind : List Action) :
    e ∈ settled (before ++ a :: behind) := by
  rw [List.append_cons before a behind, settled, run_append, List.flatMap_append]
  apply List.mem_append_left
  show e ∈ settled (before ++ [a])
  rw [settled_concat]
  exact List.mem_append_right _ member

/-- A task that is cancelled in a run is not served in it. -/
theorem denied_step (apart : Apart actions) (gone : ⟨t.id, .cancelled⟩ ∈ settled actions)
    {a : Action} {behind : List Action} (split : actions = before ++ a :: behind) :
    Denied t.id ((after before).step a).2 := by
  intro e member own
  have among : e ∈ settled actions := split ▸ mem_settled member behind
  obtain rfl := List.inj_on_of_nodup_map (settled_once apart) among gone own
  rfl

/-- One action of a run, and the locks without a task that is cancelled in it. -/
theorem trimmed_step (apart : Apart actions) (ht : t ∈ tasks actions)
    (gone : ⟨t.id, .cancelled⟩ ∈ settled actions) {a : Action} {behind : List Action}
    (split : actions = before ++ a :: behind)
    (h : Trimmed t.id (after before) (after (before.filter (· ≠ .ask t)))) :
    Trimmed t.id (after (before ++ [a])) (after ((before ++ [a]).filter (· ≠ .ask t))) ∧
      ((after before).step a).2.filter (·.task ≠ t.id) =
        if a ≠ .ask t then ((after (before.filter (· ≠ .ask t))).step a).2 else [] := by
  have denied := denied_step apart gone split
  rw [List.filter_append, after_concat, List.filter_singleton]
  by_cases itself : a = .ask t
  · subst itself
    have idle := (fair (split ▸ apart).of_append t.key).idle
    obtain ⟨next, nothing⟩ := h.drop idle denied
    refine ⟨by simpa using next, ?_⟩
    rw [nothing, if_neg (fun differs => differs rfl)]
  · have other : ∀ u, a = .ask u → u.id ≠ t.id := by
      rintro u rfl same
      have hu : u ∈ tasks actions := mem_tasks.2 (by rw [split]; simp)
      exact itself (congrArg Action.ask (apart.eq_of_id hu ht same))
    obtain ⟨next, events⟩ := h.step (sorted_after _) (sorted_after _) other denied
    rw [decide_eq_true itself, cond_true, after_concat, if_pos itself]
    exact ⟨next, events.symm⟩

/-- Without a task that is cancelled the locks are the same, less that task. -/
theorem trimmed_after (apart : Apart actions) (ht : t ∈ tasks actions)
    (gone : ⟨t.id, .cancelled⟩ ∈ settled actions) {behind : List Action}
    (split : actions = before ++ behind) :
    Trimmed t.id (after before) (after (before.filter (· ≠ .ask t))) := by
  induction before using List.reverseRecOn generalizing behind with
  | nil => exact ⟨rfl, fun _ => rfl⟩
  | append_singleton before a ih =>
    rw [List.append_assoc] at split
    exact (trimmed_step apart ht gone split (ih split)).1

/-- Nobody else notices a task that is cancelled. -/
theorem unnoticed_cancelled (apart : Apart actions) (ht : t ∈ tasks actions)
    (gone : ⟨t.id, .cancelled⟩ ∈ settled actions) :
    Unnoticed (· ≠ .ask t) (·.task ≠ t.id) actions := by
  apply Unnoticed.of_steps
  intro before a behind split
  have events := (trimmed_step apart ht gone split (trimmed_after apart ht gone split)).2
  by_cases itself : a = .ask t
  · rw [events]
    simp [itself]
  · rw [if_pos itself] at events
    rw [if_pos (decide_eq_true itself), ← events, List.filter_filter]
    simp only [Bool.and_self]

/-- A task that is cancelled does not wait any more. -/
theorem without_cancelled (apart : Apart actions) (gone : ⟨t.id, .cancelled⟩ ∈ settled actions)
    (ht : t ∈ tasks actions) (key : String) :
    ((after actions).lockOf key).without t.id = (after actions).lockOf key := by
  have lined := (fair apart key).lined
  have left : ∀ w ∈ ((after actions).lockOf key).waiting, w.task.id ≠ t.id := by
    intro w waits same
    have known := (lined.known w waits).1
    have itself := apart.eq_of_id (mem_asked.1 known).1 ht same
    have there : ⟨t.id, .cancelled⟩ ∈ settledAt key actions :=
      (mem_settledAt (itself ▸ known) rfl).2 gone
    exact lined.notMem apart there w waits same
  have same : ((after actions).lockOf key).waiting.filter (·.task.id ≠ t.id) =
      ((after actions).lockOf key).waiting := by
    apply List.filter_eq_self.2
    intro w waits
    exact decide_eq_true (left w waits)
  rw [without, same]

end Cancelled

/-! ## Any run -/

namespace Coordinator

/-- At the lock of a key nobody notices whether there are tasks of other keys; and nobody else
notices a task that is cancelled, wherever it waits.  In the end the locks are the same. -/
theorem noninterference {actions : List Action} (apart : Apart actions) :
    (∀ key,
      Unnoticed (·.concerns key actions) (·.task ∈ (asked key actions).map (·.id)) actions ∧
      (after (actions.filter (·.concerns key actions))).lockOf key =
        (after actions).lockOf key) ∧
    ∀ t ∈ tasks actions, ⟨t.id, .cancelled⟩ ∈ settled actions →
      Unnoticed (· ≠ .ask t) (·.task ≠ t.id) actions ∧
      ∀ key, (after (actions.filter (· ≠ .ask t))).lockOf key = (after actions).lockOf key := by
  constructor
  · intro key
    refine ⟨unnoticed_elsewhere apart key, ?_⟩
    exact congrArg Queue.lock (view_concerns apart (List.Sublist.refl actions))
  · intro t ht gone
    refine ⟨unnoticed_cancelled apart ht gone, ?_⟩
    intro key
    have trimmed := trimmed_after apart ht gone (List.append_nil actions).symm
    rw [trimmed.locks, without_cancelled apart gone ht]

/-- Two tasks wait behind a holder, the first with a token that is cancelled; a task of another
key is served meanwhile. -/
theorem noninterference_four_tasks :
    let cancelled : Task := ⟨"b", "k", some "x", false⟩
    let actions : List Action := [.ask ⟨"a", "k", none, true⟩, .ask cancelled,
      .ask ⟨"c", "k", none, false⟩, .ask ⟨"d", "l", none, true⟩, .cancel "x", .release "d",
      .release "a"]
    Apart actions ∧
      seen (·.task ∈ ["a", "b", "c"]) (actions.filter (·.concerns "k" actions)) =
        (seen (·.task ∈ ["a", "b", "c"]) actions).filter (·.1.concerns "k" actions) ∧
      seen (·.task ≠ "b") (actions.filter (· ≠ .ask cancelled)) =
        (seen (·.task ≠ "b") actions).filter (·.1 ≠ .ask cancelled) ∧
      settled actions = [⟨"a", .held⟩, ⟨"d", .held⟩, ⟨"b", .cancelled⟩, ⟨"c", .ran⟩] := by
  intro cancelled actions
  have apart : Apart actions := by decide
  have events : settled actions = [⟨"a", .held⟩, ⟨"d", .held⟩, ⟨"b", .cancelled⟩, ⟨"c", .ran⟩] := by
    decide
  obtain ⟨keys, tasks⟩ := noninterference apart
  refine ⟨apart, (keys "k").1.kept, ?_, events⟩
  exact (tasks cancelled (by decide) (by rw [events]; decide)).1.kept

end Coordinator

end ShardStore.Lock
