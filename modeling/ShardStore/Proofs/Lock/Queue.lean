/-
# ShardStore.Proofs.Lock.Queue -- one lock through any actions

The lock of one key goes its own way through a run of actions: it heeds the tasks that ask
for its key, the releases and the cancelled tokens, and keeps what it settled (`Queue`).
If every task asks once (`Apart`), then after any actions (`Queue.fair`)

* a task of the key is settled, once, or it waits, and the tasks that had the lock got it
  in the order in which they asked (`Lined`);
* a waiter's token is not cancelled, and a waiter passes if it would not keep the lock;
* somebody has the lock if somebody waits, namely the one task that got it to keep and has
  not let it go (`Keeps`).

A lock without a holder is handed along the queue (`Lined.serve`); this is the one place
where tasks get it, be it free or released.
-/
import Mathlib.Data.List.Induction
import Mathlib.Data.List.Nodup
import Mathlib.Data.List.TakeWhile
import ShardStore.Proofs.Lock

namespace ShardStore.Lock

set_option autoImplicit false

/-! ## Runs -/

/-- The tasks that asked for a lock, in order. -/
def tasks (actions : List Action) : List Task :=
  actions.filterMap fun
    | .ask t => some t
    | _ => none

/-- The tasks that asked for the lock of a key, in order. -/
def asked (key : String) (actions : List Action) : List Task :=
  (tasks actions).filter (·.key = key)

/-- Every task asks once. -/
def Apart (actions : List Action) : Prop := ((tasks actions).map (·.id)).Nodup

instance (actions : List Action) : Decidable (Apart actions) :=
  inferInstanceAs (Decidable (List.Nodup _))

def Action.asks (id : String) : Action → Bool
  | .ask t => t.id = id
  | _ => false

/-- Was the task told to let the lock go, after it asked for it? -/
def released (id : String) (actions : List Action) : Bool :=
  (actions.dropWhile fun a => !a.asks id).contains (.release id)

/-- The tasks that got the lock, in order. -/
def given (events : List Event) : List String :=
  (events.filter (·.outcome ≠ .cancelled)).map (·.task)

/-- The task got the lock to keep it, and has not let it go. -/
def Keeps (actions : List Action) (events : List Event) (t : Task) : Prop :=
  ⟨t.id, .held⟩ ∈ events ∧ released t.id actions = false

section Runs

variable {actions : List Action} {key id : String} {t u : Task}

theorem tasks_ask (actions : List Action) (t : Task) :
    tasks (actions ++ [.ask t]) = tasks actions ++ [t] := by
  simp [tasks]

theorem tasks_other (actions : List Action) {a : Action} (h : ∀ t, a ≠ .ask t) :
    tasks (actions ++ [a]) = tasks actions := by
  cases a with
  | ask t => exact absurd rfl (h t)
  | _ => simp [tasks]

theorem asked_ask (key : String) (actions : List Action) (t : Task) :
    asked key (actions ++ [.ask t]) = asked key actions ++ if t.key = key then [t] else [] := by
  rw [asked, tasks_ask, List.filter_append, asked]
  by_cases here : t.key = key <;> simp [here]

theorem asked_other (key : String) (actions : List Action) {a : Action} (h : ∀ t, a ≠ .ask t) :
    asked key (actions ++ [a]) = asked key actions := by
  rw [asked, tasks_other actions h, asked]

theorem mem_asked : t ∈ asked key actions ↔ t ∈ tasks actions ∧ t.key = key := by
  simp [asked]

theorem mem_tasks : t ∈ tasks actions ↔ .ask t ∈ actions := by
  rw [tasks, List.mem_filterMap]
  constructor
  · rintro ⟨a, member, same⟩
    split at same
    · cases same
      exact member
    · cases same
  · exact fun member => ⟨_, member, rfl⟩

theorem mem_tasks_append (h : t ∈ tasks actions) (more : List Action) :
    t ∈ tasks (actions ++ more) :=
  mem_tasks.2 (List.mem_append_left more (mem_tasks.1 h))

theorem mem_asked_append (h : t ∈ asked key actions) (more : List Action) :
    t ∈ asked key (actions ++ more) :=
  mem_asked.2 ⟨mem_tasks_append (mem_asked.1 h).1 more, (mem_asked.1 h).2⟩

theorem asked_sublist (key : String) {part : List Action} (h : part.Sublist actions) :
    (asked key part).Sublist (asked key actions) :=
  (h.filterMap _).filter _

theorem Apart.of_sublist {part : List Action} (h : Apart actions) (sub : part.Sublist actions) :
    Apart part :=
  List.Nodup.sublist ((sub.filterMap _).map _) h

theorem Apart.of_append {more : List Action} (h : Apart (actions ++ more)) : Apart actions :=
  h.of_sublist (List.sublist_append_left _ _)

/-- Names tell the tasks apart. -/
theorem Apart.eq_of_id (h : Apart actions) (ht : t ∈ tasks actions) (hu : u ∈ tasks actions)
    (same : t.id = u.id) : t = u :=
  List.inj_on_of_nodup_map h ht hu same

theorem Apart.fresh (h : Apart (actions ++ [.ask t])) (hu : u ∈ tasks actions) : u.id ≠ t.id := by
  rw [Apart, tasks_ask, List.map_append, List.nodup_append] at h
  exact h.2.2 _ (List.mem_map_of_mem hu) _ (by simp)

theorem released_concat (h : t ∈ tasks actions) (a : Action) :
    released t.id (actions ++ [a]) = (released t.id actions || decide (a = .release t.id)) := by
  have there : ((actions.dropWhile fun a => !a.asks t.id).isEmpty) = false := by
    rw [← Bool.not_eq_true, List.isEmpty_iff, List.dropWhile_eq_nil_iff]
    intro none
    simpa [Action.asks] using none _ (mem_tasks.1 h)
  rw [released, List.dropWhile_append, there, released]
  simp [eq_comm]

theorem released_new (h : ∀ u ∈ tasks actions, u.id ≠ t.id) :
    released t.id (actions ++ [.ask t]) = false := by
  have gone : actions.dropWhile (fun a => !a.asks t.id) = [] := by
    rw [List.dropWhile_eq_nil_iff]
    intro a member
    cases a with
    | ask u => simpa [Action.asks] using h u (mem_tasks.2 member)
    | _ => rfl
  rw [released, List.dropWhile_append, gone]
  simp [Action.asks]

end Runs

/-! ## One lock -/

/-- The lock of a key, with the tokens cancelled so far and what was settled at the lock. -/
structure Queue where
  lock : Lock := {}
  cancelled : List String := []
  events : List Event := []

namespace Queue

/-- What an action does at the lock of a key. -/
def step (key : String) (q : Queue) : Action → Queue
  | .ask t =>
    if t.key = key then
      if t.token.any q.cancelled.contains then
        { q with events := q.events ++ [⟨t.id, .cancelled⟩] }
      else { q with lock := (q.lock.ask t).1, events := q.events ++ (q.lock.ask t).2 }
    else q
  | .release id =>
    { q with lock := (q.lock.release id).1, events := q.events ++ (q.lock.release id).2 }
  | .cancel token => {
      lock := (q.lock.cancel token).1
      cancelled := token :: q.cancelled
      events := q.events ++ (q.lock.cancel token).2 }

/-- The lock of a key after actions on a new one. -/
def run (key : String) (actions : List Action) : Queue := actions.foldl (step key) {}

theorem run_concat (key : String) (actions : List Action) (a : Action) :
    run key (actions ++ [a]) = step key (run key actions) a := by
  rw [run, List.foldl_append]
  rfl

end Queue

/-! ## Who waits, and who was settled -/

/-- Handing a lock on gives it to waiters that pass, and to the first that keeps it. -/
theorem serve_cases (ws : List Waiter) :
    ((∀ w ∈ ws, w.passing = true) ∧ serve ws = ({}, ws.map fun w => w.task.served)) ∨
      ∃ passed w rest, ws = passed ++ w :: rest ∧ (∀ w ∈ passed, w.passing = true) ∧
        w.passing = false ∧
        serve ws = ({ holder := some w.task, waiting := rest },
          (passed ++ [w]).map fun w => w.task.served) := by
  induction ws with
  | nil => exact Or.inl ⟨by simp, rfl⟩
  | cons w ws ih =>
    cases passes : w.passing with
    | false =>
      refine Or.inr ⟨[], w, ws, rfl, by simp, passes, ?_⟩
      simp [serve, passes]
    | true =>
      rcases ih with ⟨all, served⟩ | ⟨passed, v, rest, rfl, all, keeps, served⟩
      · refine Or.inl ⟨List.forall_mem_cons.2 ⟨passes, all⟩, ?_⟩
        simp [serve, passes, served]
      · refine Or.inr ⟨w :: passed, v, rest, rfl, List.forall_mem_cons.2 ⟨passes, all⟩, keeps, ?_⟩
        simp [serve, passes, served]

/-- The tasks of a key are settled or wait, in order. -/
structure Lined (key : String) (actions : List Action) (events : List Event)
    (ws : List Waiter) : Prop where
  order : (given events ++ ws.map (·.task.id)).Sublist ((asked key actions).map (·.id))
  whole : (events.map (·.task) ++ ws.map (·.task.id)).Perm ((asked key actions).map (·.id))
  known : ∀ w ∈ ws, w.task ∈ asked key actions ∧
    w.passing = (!w.task.holds || released w.task.id actions)
  live : ∀ w ∈ ws, ∀ token, w.task.token = some token → .cancel token ∉ actions

@[simp] theorem given_append (events more : List Event) :
    given (events ++ more) = given events ++ given more := by
  simp [given]

@[simp] theorem given_served (ws : List Waiter) :
    given (ws.map fun w => w.task.served) = ws.map (·.task.id) := by
  have kept : ∀ e ∈ ws.map fun w => w.task.served, decide (e.outcome ≠ .cancelled) = true := by
    intro e member
    obtain ⟨w, -, rfl⟩ := List.mem_map.1 member
    exact decide_eq_true w.task.served_ne_cancelled
  rw [given, List.filter_eq_self.2 kept, List.map_map]
  rfl

theorem task_served (ws : List Waiter) :
    (ws.map fun w => w.task.served).map (·.task) = ws.map (·.task.id) := by
  rw [List.map_map]
  rfl

/-- A task that is handed the lock keeps it if it holds it. -/
theorem held_served {ws : List Waiter} {id : String} :
    (⟨id, .held⟩ : Event) ∈ ws.map (fun w => w.task.served) ↔
      ∃ w ∈ ws, w.task.id = id ∧ w.task.holds = true := by
  rw [List.mem_map]
  constructor
  · rintro ⟨w, member, same⟩
    rw [Task.served, Event.mk.injEq] at same
    refine ⟨w, member, same.1, ?_⟩
    by_contra holds
    simp [holds] at same
  · rintro ⟨w, member, rfl, holds⟩
    exact ⟨w, member, by rw [Task.served, if_pos holds]⟩

namespace Lined

variable {key : String} {actions : List Action} {events : List Event} {ws : List Waiter}

theorem nodup (h : Lined key actions events ws) (apart : Apart actions) :
    (events.map (·.task) ++ ws.map (·.task.id)).Nodup :=
  h.whole.nodup_iff.2 (apart.sublist (List.filter_sublist.map _))

/-- Who is settled does not wait. -/
theorem notMem (h : Lined key actions events ws) (apart : Apart actions) {e : Event}
    (settled : e ∈ events) : ∀ w ∈ ws, w.task.id ≠ e.task := fun _ waits same =>
  (List.nodup_append.1 (h.nodup apart)).2.2 _ (List.mem_map_of_mem settled) _
    (List.mem_map_of_mem waits) same.symm

/-- A task that waits is known by its name. -/
theorem eq_task (h : Lined key actions events ws) (apart : Apart actions) {w : Waiter} {t : Task}
    (waits : w ∈ ws) (ht : t ∈ asked key actions) (same : w.task.id = t.id) : w.task = t :=
  apart.eq_of_id (mem_asked.1 (h.known w waits).1).1 (mem_asked.1 ht).1 same

/-! ### Handing on -/

/-- A free lock is handed to the waiters that pass, and to the first that keeps it. -/
theorem serve (h : Lined key actions events ws) (apart : Apart actions)
    (free : ∀ t ∈ asked key actions, ¬ Keeps actions events t) :
    Lined key actions (events ++ (serve ws).2) (serve ws).1.waiting ∧
      ((serve ws).1.holder = none → (serve ws).1.waiting = []) ∧
      ∀ t, (serve ws).1.holder = some t ↔
        t ∈ asked key actions ∧ Keeps actions (events ++ (serve ws).2) t := by
  -- a waiter that passes does not keep the lock
  have passes {w : Waiter} {t : Task} (waits : w ∈ ws) (passing : w.passing = true)
      (ht : t ∈ asked key actions) (same : w.task.id = t.id) (holds : w.task.holds = true)
      (kept : released t.id actions = false) : False := by
    have why := (h.known w waits).2
    rw [passing, holds, same, kept] at why
    cases why
  rcases serve_cases ws with ⟨all, served⟩ | ⟨passed, w, rest, rfl, all, keeps, served⟩
  · rw [served]
    refine ⟨⟨?_, ?_, by simp, by simp⟩, fun _ => rfl, fun t => ⟨by simp, ?_⟩⟩
    · simpa using h.order
    · simpa [Function.comp_def, Task.served] using h.whole
    · rintro ⟨ht, got, kept⟩
      rcases List.mem_append.1 got with old | new
      · exact absurd ⟨old, kept⟩ (free t ht)
      · obtain ⟨w, waits, same, holds⟩ := held_served.1 new
        exact (passes waits (all w waits) ht same holds kept).elim
  · have here : w ∈ passed ++ w :: rest := by simp
    have later {v : Waiter} (member : v ∈ rest) : v ∈ passed ++ w :: rest := by simp [member]
    have line : (passed ++ [w]).map (·.task.id) ++ rest.map (·.task.id) =
        (passed ++ w :: rest).map (·.task.id) := by simp
    have keepsIt : w.task.holds = true ∧ released w.task.id actions = false := by
      have why := (h.known w here).2
      rw [keeps] at why
      simpa using why.symm
    rw [served]
    refine ⟨⟨?_, ?_, fun v hv => h.known v (later hv), fun v hv => h.live v (later hv)⟩,
      by simp, fun t => ⟨?_, ?_⟩⟩
    · rw [given_append, given_served, List.append_assoc, line]
      exact h.order
    · rw [List.map_append, task_served, List.append_assoc, line]
      exact h.whole
    · rintro ⟨⟩
      refine ⟨(h.known w here).1, List.mem_append_right _ (held_served.2 ?_), keepsIt.2⟩
      exact ⟨w, by simp, rfl, keepsIt.1⟩
    · rintro ⟨ht, got, kept⟩
      rcases List.mem_append.1 got with old | new
      · exact absurd ⟨old, kept⟩ (free t ht)
      · obtain ⟨v, among, same, holds⟩ := held_served.1 new
        rcases List.mem_append.1 among with before | last
        · exact (passes (List.mem_append_left _ before) (all v before) ht same holds kept).elim
        · obtain rfl := List.mem_singleton.1 last
          exact congrArg some (h.eq_task apart here ht same)

/-! ### Actions -/

/-- A task joins the queue. -/
theorem ask (h : Lined key actions events ws) {t : Task} (apart : Apart (actions ++ [.ask t]))
    (here : t.key = key) (live : ∀ token, t.token = some token → .cancel token ∉ actions) :
    Lined key (actions ++ [.ask t]) events (ws ++ [⟨t, !t.holds⟩]) := by
  have joined : (asked key (actions ++ [.ask t])).map (·.id) =
      (asked key actions).map (·.id) ++ [t.id] := by simp [asked_ask, here]
  refine ⟨?_, ?_, ?_, ?_⟩
  · rw [joined, List.map_append, ← List.append_assoc]
    exact h.order.append_right _
  · rw [joined, List.map_append, ← List.append_assoc]
    exact h.whole.append_right _
  · intro w member
    rcases List.mem_append.1 member with old | new
    · obtain ⟨among, why⟩ := h.known w old
      refine ⟨by simp [asked_ask, among], ?_⟩
      simpa [released_concat (mem_asked.1 among).1] using why
    · obtain rfl := List.mem_singleton.1 new
      refine ⟨by simp [asked_ask, here], ?_⟩
      simp [released_new fun u hu => apart.fresh hu]
  · intro w member token carries
    rcases List.mem_append.1 member with old | new
    · simpa using h.live w old token carries
    · obtain rfl := List.mem_singleton.1 new
      simpa using live token carries

/-- A task is turned away. -/
theorem refuse (h : Lined key actions events ws) {t : Task} (here : t.key = key) :
    Lined key (actions ++ [.ask t]) (events ++ [⟨t.id, .cancelled⟩]) ws := by
  have joined : (asked key (actions ++ [.ask t])).map (·.id) =
      (asked key actions).map (·.id) ++ [t.id] := by simp [asked_ask, here]
  refine ⟨?_, ?_, ?_, fun w member token carries => by simpa using h.live w member token carries⟩
  · have nothing : given [(⟨t.id, .cancelled⟩ : Event)] = [] := rfl
    rw [joined, given_append, nothing, List.append_nil]
    exact h.order.trans (List.sublist_append_left _ _)
  · rw [joined, List.map_append, List.append_assoc]
    refine ((@List.perm_append_comm _ [t.id] _).append_left _).trans ?_
    rw [← List.append_assoc]
    exact h.whole.append_right _
  · intro w member
    obtain ⟨among, why⟩ := h.known w member
    refine ⟨by simp [asked_ask, among], ?_⟩
    simpa [released_concat (mem_asked.1 among).1] using why

/-- A task that asks for another key. -/
theorem elsewhere (h : Lined key actions events ws) {t : Task} (there : t.key ≠ key) :
    Lined key (actions ++ [.ask t]) events ws := by
  have same : asked key (actions ++ [.ask t]) = asked key actions := by simp [asked_ask, there]
  refine ⟨by rw [same]; exact h.order, by rw [same]; exact h.whole, ?_,
    fun w member token carries => by simpa using h.live w member token carries⟩
  intro w member
  obtain ⟨among, why⟩ := h.known w member
  exact ⟨same ▸ among, by simpa [released_concat (mem_asked.1 among).1] using why⟩

/-- A waiter that is told to let the lock go will pass. -/
theorem release (h : Lined key actions events ws) (id : String) :
    Lined key (actions ++ [.release id]) events
      (ws.map fun w => if w.task.id = id then { w with passing := true } else w) := by
  have same : asked key (actions ++ [.release id]) = asked key actions :=
    asked_other key actions (by simp)
  have task (w : Waiter) : (if w.task.id = id then { w with passing := true } else w).task =
      w.task := by split <;> rfl
  have names : (ws.map fun w => if w.task.id = id then { w with passing := true } else w).map
      (·.task.id) = ws.map (·.task.id) := by
    simp only [List.map_map, Function.comp_def, task]
  refine ⟨by rw [same, names]; exact h.order, by rw [same, names]; exact h.whole, ?_, ?_⟩
  · intro v member
    obtain ⟨w, among, rfl⟩ := List.mem_map.1 member
    obtain ⟨known, why⟩ := h.known w among
    rw [same, task, released_concat (mem_asked.1 known).1]
    refine ⟨known, ?_⟩
    by_cases mine : w.task.id = id
    · simp [mine]
    · simp [mine, Ne.symm mine, why]
  · intro v member token carries
    obtain ⟨w, among, rfl⟩ := List.mem_map.1 member
    rw [task] at carries
    simpa using h.live w among token carries

/-- Waiters whose token is cancelled are settled, and the others wait on. -/
theorem cancel (h : Lined key actions events ws) (token : String) :
    Lined key (actions ++ [.cancel token])
      (events ++ (ws.filter (·.task.token = some token)).map fun w => ⟨w.task.id, .cancelled⟩)
      (ws.filter fun w => !decide (w.task.token = some token)) := by
  have same : asked key (actions ++ [.cancel token]) = asked key actions :=
    asked_other key actions (by simp)
  refine ⟨?_, ?_, ?_, ?_⟩
  · have nothing : given ((ws.filter (·.task.token = some token)).map
        fun w => ⟨w.task.id, .cancelled⟩) = [] := by
      simp only [given, List.map_eq_nil_iff, List.filter_eq_nil_iff, List.mem_map]
      rintro _ ⟨w, -, rfl⟩
      simp
    rw [same, given_append, nothing, List.append_nil]
    exact ((List.filter_sublist.map _).append_left _).trans h.order
  · rw [same, List.map_append, List.append_assoc, List.map_map]
    refine List.Perm.trans (List.Perm.append_left _ ?_) h.whole
    change ((ws.filter (·.task.token = some token)).map (·.task.id) ++ _).Perm _
    rw [← List.map_append]
    exact (List.filter_append_perm _ ws).map _
  · intro w member
    obtain ⟨known, why⟩ := h.known w (List.mem_filter.1 member).1
    rw [same, released_concat (mem_asked.1 known).1]
    exact ⟨known, by simpa using why⟩
  · intro w member other carries
    obtain ⟨among, kept⟩ := List.mem_filter.1 member
    have older := h.live w among other carries
    rw [List.mem_append, List.mem_singleton, Action.cancel.injEq]
    rintro (old | rfl)
    · exact older old
    · simp [carries] at kept

end Lined

/-! ## Who keeps the lock -/

section Keeping

variable {key : String} {actions : List Action} {events : List Event} {ws : List Waiter}

theorem keeps_concat {t : Task} (h : t ∈ tasks actions) (a : Action) :
    Keeps (actions ++ [a]) events t ↔ Keeps actions events t ∧ a ≠ .release t.id := by
  rw [Keeps, Keeps, released_concat h, Bool.or_eq_false_iff, decide_eq_false_iff_not, and_assoc]

/-- Turning a task away gives nobody the lock. -/
theorem keeps_cancelled {more : List Event} (h : ∀ e ∈ more, e.outcome = .cancelled) (t : Task) :
    Keeps actions (events ++ more) t ↔ Keeps actions events t := by
  have new : (⟨t.id, .held⟩ : Event) ∉ more := fun member => by simpa using h _ member
  rw [Keeps, List.mem_append, or_iff_left new, Keeps]

/-- A task that asks does not have the lock already. -/
theorem Lined.keeps_ask (h : Lined key actions events ws) {t : Task}
    (apart : Apart (actions ++ [.ask t])) (u : Task) :
    u ∈ asked key (actions ++ [.ask t]) ∧ Keeps (actions ++ [.ask t]) events u ↔
      u ∈ asked key actions ∧ Keeps actions events u := by
  constructor
  · rintro ⟨among, kept⟩
    -- who has the lock is among those that asked before
    have older : u.id ∈ (asked key actions).map (·.id) :=
      h.whole.subset (List.mem_append_left _ (List.mem_map_of_mem kept.1))
    obtain ⟨v, there, same⟩ := List.mem_map.1 older
    obtain rfl := apart.eq_of_id (mem_tasks_append (mem_asked.1 there).1 _)
      (mem_asked.1 among).1 same
    exact ⟨there, ((keeps_concat (mem_asked.1 there).1 _).1 kept).1⟩
  · rintro ⟨among, kept⟩
    exact ⟨mem_asked_append among _, (keeps_concat (mem_asked.1 among).1 _).2 ⟨kept, by simp⟩⟩

end Keeping

/-! ## The invariant -/

/-- What holds of the lock of a key after any actions. -/
structure Queue.Fair (key : String) (actions : List Action) (q : Queue) : Prop where
  lined : Lined key actions q.events q.lock.waiting
  /-- Nobody waits for a lock that nobody has. -/
  idle : q.lock.holder = none → q.lock.waiting = []
  holder : ∀ t, q.lock.holder = some t ↔ t ∈ asked key actions ∧ Keeps actions q.events t
  revoked : ∀ token, token ∈ q.cancelled ↔ .cancel token ∈ actions

namespace Queue.Fair

variable {key : String} {actions : List Action} {q : Queue}

theorem empty (key : String) : Fair key [] {} where
  lined := ⟨by simp [given], by simp [asked, tasks], by simp, by simp⟩
  idle _ := rfl
  holder := by simp [asked, tasks]
  revoked := by simp

theorem free (h : Fair key actions q) (nobody : q.lock.holder = none) :
    ∀ t ∈ asked key actions, ¬ Keeps actions q.events t := by
  intro t among kept
  have := (h.holder t).2 ⟨among, kept⟩
  rw [nobody] at this
  cases this

theorem ask (h : Fair key actions q) {t : Task} (apart : Apart (actions ++ [.ask t])) :
    Fair key (actions ++ [.ask t]) (step key q (.ask t)) := by
  have revoked : ∀ token, token ∈ q.cancelled ↔ .cancel token ∈ actions ++ [.ask t] := by
    simpa using h.revoked
  have holder (u : Task) : q.lock.holder = some u ↔
      u ∈ asked key (actions ++ [.ask t]) ∧ Keeps (actions ++ [.ask t]) q.events u :=
    (h.holder u).trans (h.lined.keeps_ask apart u).symm
  rw [step]
  split
  · rename_i here
    split
    · exact ⟨h.lined.refuse here, h.idle,
        fun u => by rw [keeps_cancelled (by simp)]; exact holder u, revoked⟩
    · rename_i live
      have joined := h.lined.ask apart here fun token carries cancelled => live (by
        simpa [carries] using (h.revoked token).2 cancelled)
      rw [Lock.ask]
      split
      · rename_i nobody
        have nobodyKeeps : ∀ u ∈ asked key (actions ++ [.ask t]),
            ¬ Keeps (actions ++ [.ask t]) q.events u := by
          intro u among kept
          obtain ⟨before, keeps⟩ := (h.lined.keeps_ask apart u).1 ⟨among, kept⟩
          exact h.free nobody u before keeps
        obtain ⟨lined, idle, holds⟩ := joined.serve apart nobodyKeeps
        exact ⟨lined, idle, holds, revoked⟩
      · rename_i u had
        refine ⟨by simpa using joined, fun nobody => ?_, by simpa using holder, revoked⟩
        rw [had] at nobody
        cases nobody
  · rename_i there
    exact ⟨h.lined.elsewhere there, h.idle, holder, revoked⟩

theorem release (h : Fair key actions q) (apart : Apart actions) (id : String) :
    Fair key (actions ++ [.release id]) (step key q (.release id)) := by
  have revoked : ∀ token, token ∈ q.cancelled ↔ .cancel token ∈ actions ++ [.release id] := by
    simpa using h.revoked
  have same : asked key (actions ++ [.release id]) = asked key actions :=
    asked_other key actions (by simp)
  have apart' : Apart (actions ++ [.release id]) := by
    rw [Apart, tasks_other actions (by simp)]
    exact apart
  have lined := h.lined.release id
  rw [step, Lock.release]
  split
  · rename_i mine
    obtain ⟨t, had, named⟩ := (Option.any_eq_true _ _).1 mine
    obtain rfl := of_decide_eq_true named
    obtain ⟨among, kept⟩ := (h.holder t).1 had
    -- the holder does not wait, so no waiter is told anything
    have still : q.lock.waiting.map (fun w =>
        if w.task.id = t.id then { w with passing := true } else w) = q.lock.waiting := by
      conv => rhs; rw [← List.map_id q.lock.waiting]
      apply List.map_congr_left
      intro w waits
      simp [h.lined.notMem apart kept.1 w waits]
    rw [still] at lined
    have nobodyKeeps : ∀ u ∈ asked key (actions ++ [.release t.id]),
        ¬ Keeps (actions ++ [.release t.id]) q.events u := by
      intro u member keeps
      rw [same] at member
      obtain ⟨keeps, other⟩ := (keeps_concat (mem_asked.1 member).1 _).1 keeps
      have := (h.holder u).2 ⟨member, keeps⟩
      rw [had] at this
      cases this
      exact other rfl
    obtain ⟨lined, idle, holds⟩ := lined.serve apart' nobodyKeeps
    exact ⟨lined, idle, holds, revoked⟩
  · rename_i notMine
    refine ⟨by simpa using lined, fun nobody => by simp [h.idle nobody], fun t => ?_, revoked⟩
    rw [List.append_nil, h.holder t, same]
    constructor
    · rintro ⟨among, kept⟩
      refine ⟨among, (keeps_concat (mem_asked.1 among).1 _).2 ⟨kept, ?_⟩⟩
      rintro ⟨⟩
      exact notMine (by simp [(h.holder t).2 ⟨among, kept⟩])
    · rintro ⟨among, kept⟩
      exact ⟨among, ((keeps_concat (mem_asked.1 among).1 _).1 kept).1⟩

theorem cancel (h : Fair key actions q) (token : String) :
    Fair key (actions ++ [.cancel token]) (step key q (.cancel token)) := by
  have same : asked key (actions ++ [.cancel token]) = asked key actions :=
    asked_other key actions (by simp)
  have gone : ∀ e ∈ (q.lock.cancel token).2, e.outcome = .cancelled := by
    intro e member
    obtain ⟨w, -, -, rfl⟩ := mem_cancel.1 member
    rfl
  refine ⟨?_, fun nobody => ?_, fun t => ?_, fun other => ?_⟩
  · have lined := h.lined.cancel token
    simp only [step, Lock.cancel, List.partition_eq_filter_filter]
    exact lined
  · rw [step, waiting_cancel, h.idle nobody]
    rfl
  · change q.lock.holder = some t ↔ _
    rw [h.holder t, same]
    refine and_congr_right fun among => ?_
    rw [step, keeps_cancelled gone, keeps_concat (mem_asked.1 among).1]
    simp
  · rw [step, List.mem_cons, h.revoked, List.mem_append, List.mem_singleton, Action.cancel.injEq]
    exact or_comm

theorem concat (h : Fair key actions q) {a : Action} (apart : Apart (actions ++ [a])) :
    Fair key (actions ++ [a]) (step key q a) := by
  cases a with
  | ask t => exact h.ask apart
  | release id => exact h.release apart.of_append id
  | cancel token => exact h.cancel token

end Queue.Fair

/-- The lock of a key after any actions. -/
theorem Queue.fair {actions : List Action} (apart : Apart actions) (key : String) :
    Fair key actions (run key actions) := by
  induction actions using List.reverseRecOn with
  | nil => exact Fair.empty key
  | append_singleton actions a ih =>
    rw [run_concat]
    exact (ih apart.of_append).concat apart

/-! ## Cancelled tokens -/

theorem mem_serve {ws : List Waiter} {e : Event} (h : e ∈ (serve ws).2) :
    ∃ w ∈ ws, e = w.task.served := by
  rcases serve_cases ws with ⟨-, served⟩ | ⟨passed, w, rest, rfl, -, -, served⟩
  · rw [served] at h
    obtain ⟨w, member, rfl⟩ := List.mem_map.1 h
    exact ⟨w, member, rfl⟩
  · rw [served] at h
    obtain ⟨v, member, rfl⟩ := List.mem_map.1 h
    refine ⟨v, ?_, rfl⟩
    rcases List.mem_append.1 member with before | last
    · exact List.mem_append_left _ before
    · exact List.mem_append_right _ (List.mem_singleton.1 last ▸ List.mem_cons_self)

namespace Queue

variable {key : String} {actions : List Action} {q : Queue}

/-- A step gives the lock to nobody whose token is cancelled. -/
theorem Fair.served_live (h : Fair key actions q) {a : Action} {e : Event}
    (settled : e ∈ (step key q a).events) (served : e.outcome ≠ .cancelled) :
    e ∈ q.events ∨ ∃ t ∈ asked key (actions ++ [a]), t.id = e.task ∧
      ∀ token, t.token = some token → .cancel token ∉ actions := by
  have waiter {w : Waiter} (waits : w ∈ q.lock.waiting) :
      w.task ∈ asked key (actions ++ [a]) ∧
        ∀ token, w.task.token = some token → .cancel token ∉ actions :=
    ⟨mem_asked_append (h.lined.known w waits).1 _, h.lined.live w waits⟩
  cases a with
  | ask t =>
    rw [step] at settled
    split at settled
    · rename_i here
      split at settled
      · rcases List.mem_append.1 settled with old | new
        · exact Or.inl old
        · obtain rfl := List.mem_singleton.1 new
          exact absurd rfl served
      · rename_i live
        rcases List.mem_append.1 settled with old | new
        · exact Or.inl old
        · rw [Lock.ask] at new
          split at new
          · obtain ⟨w, among, rfl⟩ := mem_serve new
            rcases List.mem_append.1 among with waits | last
            · exact Or.inr ⟨w.task, (waiter waits).1, rfl, (waiter waits).2⟩
            · obtain rfl := List.mem_singleton.1 last
              refine Or.inr ⟨t, by simp [asked_ask, here], rfl, fun token carries gone => live ?_⟩
              simpa [carries] using (h.revoked token).2 gone
          · cases new
    · exact Or.inl settled
  | release id =>
    rcases List.mem_append.1 settled with old | new
    · exact Or.inl old
    · rw [Lock.release] at new
      split at new
      · obtain ⟨w, waits, rfl⟩ := mem_serve new
        exact Or.inr ⟨w.task, (waiter waits).1, rfl, (waiter waits).2⟩
      · cases new
  | cancel token =>
    rcases List.mem_append.1 settled with old | new
    · exact Or.inl old
    · obtain ⟨w, -, -, rfl⟩ := mem_cancel.1 new
      exact absurd rfl served

/-- A task that had the lock had it before its token was cancelled. -/
theorem served_before {before behind : List Action} {token : String}
    (apart : Apart (before ++ .cancel token :: behind)) {t : Task} {e : Event}
    (ht : t ∈ asked key (before ++ .cancel token :: behind)) (carries : t.token = some token)
    (settled : e ∈ (run key (before ++ .cancel token :: behind)).events) (own : e.task = t.id)
    (served : e.outcome ≠ .cancelled) : e ∈ (run key before).events := by
  induction behind using List.reverseRecOn with
  | nil =>
    rw [run_concat] at settled
    rcases List.mem_append.1 settled with old | new
    · exact old
    · obtain ⟨w, -, -, rfl⟩ := mem_cancel.1 new
      exact absurd rfl served
  | append_singleton behind a ih =>
    have split : before ++ .cancel token :: (behind ++ [a]) =
        (before ++ .cancel token :: behind) ++ [a] := by simp
    rw [split] at apart ht settled
    rw [run_concat] at settled
    have fair := fair apart.of_append key
    rcases fair.served_live settled served with old | ⟨u, hu, same, live⟩
    · have older : e.task ∈ (asked key (before ++ .cancel token :: behind)).map (·.id) :=
        fair.lined.whole.subset (List.mem_append_left _ (List.mem_map_of_mem old))
      obtain ⟨v, there, named⟩ := List.mem_map.1 older
      refine ih apart.of_append ?_ old
      obtain rfl := apart.eq_of_id (mem_tasks_append (mem_asked.1 there).1 _)
        (mem_asked.1 ht).1 (named.trans own)
      exact there
    · obtain rfl := apart.eq_of_id (mem_asked.1 hu).1 (mem_asked.1 ht).1 (same.trans own)
      exact absurd (by simp) (live token carries)

end Queue

end ShardStore.Lock
