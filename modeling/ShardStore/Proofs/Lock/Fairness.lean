/-
# ShardStore.Proofs.Lock.Fairness -- all locks through any actions

The locks of different keys do not get in each other's way: after any actions the lock of
a key is that of the key's own queue, and of all that was settled, what concerns the tasks
of the key was settled there, in that order (`run_eq`).  What holds of one queue then holds
of the whole coordinator (`run_fair`): after any actions

* a lock is held by the one task that got it to keep and has not let it go, and a
  cancelled token does not take it away;
* the tasks that had a lock got it in the order in which they asked for it;
* a task whose token is cancelled before it has its lock is turned away and never has it;
* somebody has the lock of a key for which somebody waits;
* no task is settled twice, and every key that was asked for has a lock.
-/
import Mathlib.Data.List.Dedup
import ShardStore.Proofs.Lock.Queue

namespace ShardStore.Lock

set_option autoImplicit false

/-! ## Runs of the coordinator -/

/-- What actions settle on new locks, in order. -/
def settled (actions : List Action) : List Event :=
  (({} : Coordinator).run actions).flatMap (·.2)

/-- What concerns the tasks of a key. -/
def settledAt (key : String) (actions : List Action) : List Event :=
  (settled actions).filter (·.task ∈ (asked key actions).map (·.id))

namespace Coordinator

/-- The locks after actions on new ones. -/
def after (actions : List Action) : Coordinator := actions.foldl (fun c a => (c.step a).1) {}

theorem after_concat (actions : List Action) (a : Action) :
    after (actions ++ [a]) = ((after actions).step a).1 := by
  rw [after, List.foldl_append]
  rfl

theorem run_append (c : Coordinator) (actions more : List Action) :
    c.run (actions ++ more) =
      c.run actions ++ (actions.foldl (fun c a => (c.step a).1) c).run more := by
  induction actions generalizing c with
  | nil => rfl
  | cons a actions ih => simp [run, ih]

theorem settled_concat (actions : List Action) (a : Action) :
    settled (actions ++ [a]) = settled actions ++ ((after actions).step a).2 := by
  rw [settled, run_append, List.flatMap_append]
  simp [run, after, settled]

theorem sorted_after (actions : List Action) : Assoc.Sorted (after actions).locks := by
  induction actions using List.reverseRecOn with
  | nil => exact List.Pairwise.nil
  | append_singleton actions a ih =>
    rw [after_concat]
    exact sorted_step ih a

/-! ## One key -/

/-- The lock of a key, with what was settled there. -/
def view (c : Coordinator) (key : String) (events : List Event) : Queue where
  lock := c.lockOf key
  cancelled := c.cancelled
  events := events

variable {c : Coordinator} {key : String}

/-- An action does at a lock what it does in the key's own queue. -/
theorem step_view (c : Coordinator) (key : String) (a : Action) (events : List Event) :
    Queue.step key (c.view key events) a =
      (c.step a).1.view key (events ++ (Queue.step key (c.view key []) a).events) := by
  cases a with
  | ask t =>
    have cancelled := cancelled_ask c t
    by_cases gone : t.token.any c.cancelled.contains
    · have lock : (c.step (.ask t)).1.lockOf key = c.lockOf key := by
        rw [step, if_pos gone]
        exact lockOf_touch c t.key key
      by_cases here : t.key = key <;> simp [Queue.step, view, gone, here, cancelled, lock]
    · have lock := lockOf_ask gone key
      by_cases here : t.key = key
      · subst here
        simp [Queue.step, view, gone, cancelled, lock]
      · simp [Queue.step, view, here, Ne.symm here, cancelled, lock]
  | release id =>
    have cancelled : (c.step (.release id)).1.cancelled = c.cancelled := rfl
    simp [Queue.step, view, lockOf_release, cancelled]
  | cancel token =>
    have cancelled : (c.step (.cancel token)).1.cancelled = token :: c.cancelled := rfl
    simp [Queue.step, view, lockOf_cancel, cancelled]

/-- What a step settles is what it settles at some key. -/
theorem mem_step (h : Assoc.Sorted c.locks) {a : Action} {e : Event} (settled : e ∈ (c.step a).2) :
    ∃ key, e ∈ (Queue.step key (c.view key []) a).events := by
  cases a with
  | ask t =>
    refine ⟨t.key, ?_⟩
    rw [step] at settled
    split at settled
    · rename_i gone
      simpa [Queue.step, view, gone] using settled
    · rename_i live
      simpa [Queue.step, view, live] using settled
  | release id =>
    obtain ⟨key, there⟩ := (mem_each h rfl).1 settled
    exact ⟨key, by simpa [Queue.step, view] using there⟩
  | cancel token =>
    obtain ⟨key, there⟩ := (mem_each (f := (·.cancel token)) h rfl).1 settled
    exact ⟨key, by simpa [Queue.step, view] using there⟩

/-- Of what is done at every lock, a key sees what is done at its own. -/
theorem filter_each {f : Lock → Lock × List Event} (h : Assoc.Sorted c.locks)
    (still : (f {}).2 = []) {q : Event → Bool} (own : ∀ e ∈ (f (c.lockOf key)).2, q e = true)
    (other : ∀ k ≠ key, ∀ e ∈ (f (c.lockOf k)).2, q e = false) :
    (c.each f).2.filter q = (f (c.lockOf key)).2 := by
  have part : ∀ p ∈ c.locks, (f p.2).2.filter q = if p.1 = key then (f p.2).2 else [] := by
    rintro ⟨k, l⟩ place
    have found : c.lockOf k = l := by rw [lockOf, (Assoc.mem_iff_lookup h k l).1 place]; rfl
    subst found
    split
    · rename_i here
      subst here
      exact List.filter_eq_self.2 own
    · rename_i there
      exact List.filter_eq_nil_iff.2 fun e member => by simp [other k there e member]
  rw [each, List.filter_flatMap, List.flatMap_congr part, Assoc.flatMap_lookup h key fun l => (f l).2, lockOf]
  cases c.locks.lookup key with
  | none => exact still.symm
  | some l => rfl

/-- Of what a step settles, a key sees what the step settles in the key's own queue. -/
theorem filter_step (h : Assoc.Sorted c.locks) {a : Action} {q : Event → Bool}
    (own : ∀ e ∈ (Queue.step key (c.view key []) a).events, q e = true)
    (other : ∀ k ≠ key, ∀ e ∈ (Queue.step k (c.view k []) a).events, q e = false) :
    (c.step a).2.filter q = (Queue.step key (c.view key []) a).events := by
  cases a with
  | ask t =>
    -- only the queue of the task's own key moves
    have all : (c.step (.ask t)).2 = (Queue.step t.key (c.view t.key []) (.ask t)).events := by
      by_cases gone : t.token.any c.cancelled.contains <;> simp [Queue.step, view, step, gone]
    rw [all]
    by_cases here : t.key = key
    · subst here
      exact List.filter_eq_self.2 own
    · have nothing : (Queue.step key (c.view key []) (.ask t)).events = [] := by
        simp [Queue.step, view, here]
      rw [nothing, List.filter_eq_nil_iff]
      intro e member
      simp [other t.key here e member]
  | release id =>
    simp only [Queue.step, view, List.nil_append] at own other ⊢
    exact filter_each h rfl own other
  | cancel token =>
    simp only [Queue.step, view, List.nil_append] at own other ⊢
    exact filter_each (f := (·.cancel token)) h rfl own other

/-- What an action settles at a lock concerns the tasks of its key. -/
theorem known_step {actions : List Action} {a : Action} (apart : Apart (actions ++ [a]))
    {events : List Event} (older : Queue.run key actions = (after actions).view key events)
    {e : Event} (member : e ∈ (Queue.step key ((after actions).view key []) a).events) :
    ∃ t ∈ asked key (actions ++ [a]), t.id = e.task := by
  have lined := (Queue.fair apart key).lined
  rw [Queue.run_concat, older, step_view] at lined
  exact List.mem_map.1 (lined.whole.subset (List.mem_append_left _
    (List.mem_map_of_mem (List.mem_append_right _ member))))

/-- Of what an action settles, what concerns the tasks of a key is what it settles in the key's
own queue.  The tasks may be those of a longer run. -/
theorem filter_step_asked {actions whole : List Action} {a : Action} (apart : Apart whole)
    (part : (actions ++ [a]).Sublist whole)
    (older : ∀ key, ∃ events, Queue.run key actions = (after actions).view key events)
    (key : String) :
    ((after actions).step a).2.filter (·.task ∈ (asked key whole).map (·.id)) =
      (Queue.step key ((after actions).view key []) a).events := by
  have own (k : String) {e : Event}
      (member : e ∈ (Queue.step k ((after actions).view k []) a).events) :
      ∃ t ∈ asked k whole, t.id = e.task := by
    obtain ⟨events, older⟩ := older k
    obtain ⟨t, ht, named⟩ := known_step (apart.of_sublist part) older member
    exact ⟨t, (asked_sublist k part).subset ht, named⟩
  refine filter_step (sorted_after actions) (fun e member => ?_) fun k other e member => ?_
  · exact decide_eq_true (List.mem_map.2 (own key member))
  · obtain ⟨t, ht, named⟩ := own k member
    refine decide_eq_false fun here => other ?_
    obtain ⟨u, hu, same⟩ := List.mem_map.1 here
    obtain rfl := apart.eq_of_id (mem_asked.1 hu).1 (mem_asked.1 ht).1 (same.trans named.symm)
    exact (mem_asked.1 ht).2.symm.trans (mem_asked.1 hu).2

/-- After any actions the lock of a key is that of the key's own queue. -/
theorem run_eq {actions : List Action} (apart : Apart actions) :
    (∀ key, Queue.run key actions = (after actions).view key (settledAt key actions)) ∧
      ∀ e ∈ settled actions, ∃ t ∈ tasks actions, t.id = e.task := by
  induction actions using List.reverseRecOn with
  | nil => exact ⟨fun _ => rfl, by simp [settled, run]⟩
  | append_singleton actions a ih =>
    obtain ⟨older, known⟩ := ih apart.of_append
    refine ⟨fun key => ?_, fun e member => ?_⟩
    · have before : (settled actions).filter (·.task ∈ (asked key (actions ++ [a])).map (·.id)) =
          settledAt key actions := by
        refine List.filter_congr fun e member => decide_eq_decide.2 ?_
        obtain ⟨t, ht, named⟩ := known e member
        rw [List.mem_map, List.mem_map]
        constructor
        · rintro ⟨u, hu, same⟩
          obtain rfl := apart.eq_of_id (mem_asked.1 hu).1 (mem_tasks_append ht _)
            (same.trans named.symm)
          exact ⟨u, mem_asked.2 ⟨ht, (mem_asked.1 hu).2⟩, same⟩
        · rintro ⟨u, hu, same⟩
          exact ⟨u, mem_asked_append hu _, same⟩
      have new := filter_step_asked apart (List.Sublist.refl _) (fun k => ⟨_, older k⟩) key
      rw [Queue.run_concat, older, step_view, after_concat, ← before, ← new, ← List.filter_append,
        ← settled_concat, settledAt]
    · rw [settled_concat] at member
      rcases List.mem_append.1 member with old | new
      · obtain ⟨t, ht, named⟩ := known e old
        exact ⟨t, mem_tasks_append ht _, named⟩
      · obtain ⟨key, there⟩ := mem_step (sorted_after actions) new
        obtain ⟨t, ht, named⟩ := known_step apart (older key) there
        exact ⟨t, (mem_asked.1 ht).1, named⟩

theorem fair {actions : List Action} (apart : Apart actions) (key : String) :
    Queue.Fair key actions ((after actions).view key (settledAt key actions)) :=
  (run_eq apart).1 key ▸ Queue.fair apart key

/-- What is settled for a task is settled at its key. -/
theorem mem_settledAt {actions : List Action} {t : Task} (ht : t ∈ asked key actions) {e : Event}
    (own : e.task = t.id) : e ∈ settledAt key actions ↔ e ∈ settled actions := by
  rw [settledAt, List.mem_filter, own]
  exact and_iff_left (decide_eq_true (List.mem_map_of_mem ht))

/-- A task that is not settled waits. -/
theorem waits {actions : List Action} (apart : Apart actions) {t : Task} (ht : t ∈ tasks actions)
    (open_ : ∀ e ∈ settled actions, e.task ≠ t.id) :
    ∃ w ∈ ((after actions).lockOf t.key).waiting, w.task = t := by
  have lined := (fair apart t.key).lined
  have here : t ∈ asked t.key actions := mem_asked.2 ⟨ht, rfl⟩
  rcases List.mem_append.1 (lined.whole.mem_iff.2 (List.mem_map_of_mem here)) with done | waiting
  · obtain ⟨e, member, own⟩ := List.mem_map.1 done
    exact absurd own (open_ e ((mem_settledAt here own).1 member))
  · obtain ⟨w, member, own⟩ := List.mem_map.1 waiting
    exact ⟨w, member, lined.eq_task apart member here own⟩

/-- No task is settled twice. -/
theorem settled_once {actions : List Action} (apart : Apart actions) :
    ((settled actions).map (·.task)).Nodup := by
  rw [List.nodup_iff_count_le_one]
  intro id
  by_cases there : id ∈ (settled actions).map (·.task)
  · obtain ⟨e, member, rfl⟩ := List.mem_map.1 there
    obtain ⟨t, ht, named⟩ := (run_eq apart).2 e member
    have here : t ∈ asked t.key actions := mem_asked.2 ⟨ht, rfl⟩
    have once := ((fair apart t.key).lined.nodup apart).of_append_left
    have same : ((settledAt t.key actions).map (·.task)).count e.task =
        ((settled actions).map (·.task)).count e.task := by
      have among : (settledAt t.key actions).map (·.task) =
          ((settled actions).map (·.task)).filter (· ∈ (asked t.key actions).map (·.id)) := by
        rw [settledAt, List.filter_map]
        rfl
      rw [among, List.count_filter]
      exact decide_eq_true (List.mem_map.2 ⟨t, here, named⟩)
    rw [← same]
    exact List.nodup_iff_count_le_one.1 once e.task
  · rw [List.count_eq_zero_of_not_mem there]
    exact Nat.zero_le 1

/-- The keys that have a lock are those that were asked for. -/
theorem mem_keys_after (actions : List Action) (key : String) :
    key ∈ Assoc.keys (after actions).locks ↔ key ∈ (tasks actions).map (·.key) := by
  induction actions using List.reverseRecOn with
  | nil => rfl
  | append_singleton actions a ih =>
    have each (f : Lock → Lock × List Event) :
        Assoc.keys ((after actions).each f).1.locks = Assoc.keys (after actions).locks := by
      simp [Coordinator.each, Assoc.keys, Function.comp_def]
    rw [after_concat]
    cases a with
    | ask t =>
      have grown : key ∈ Assoc.keys ((after actions).step (.ask t)).1.locks ↔
          key = t.key ∨ key ∈ Assoc.keys (after actions).locks := by
        rw [step]
        split
        · exact Assoc.keys_insert _ _ _ key
        · exact Assoc.keys_insert _ _ _ key
      rw [grown, ih, tasks_ask, List.map_append, List.mem_append, or_comm]
      simp
    | release id => rw [tasks_other actions (by simp), ← ih, step, each]
    | cancel token => rw [tasks_other actions (by simp), ← ih, step, each]

theorem tracked_after (actions : List Action) :
    (after actions).tracked = ((tasks actions).map (·.key)).dedup.length := by
  have distinct : (Assoc.keys (after actions).locks).Nodup :=
    List.Pairwise.imp String.ne_of_lt (sorted_after actions)
  have same : (Assoc.keys (after actions).locks).Perm ((tasks actions).map (·.key)).dedup := by
    rw [List.perm_ext_iff_of_nodup distinct (List.nodup_dedup _)]
    intro key
    rw [mem_keys_after, List.mem_dedup]
  rw [tracked, ← same.length_eq, Assoc.keys, List.length_map]

/-! ## Any run -/

/-- Locks are had by one task at a time, in the order of asking, and by no task that was
cancelled before; nobody who waits is forgotten, and nobody is settled twice. -/
theorem run_fair {actions : List Action} (apart : Apart actions) :
    -- the holder is the task that got the lock to keep and has not let it go
    (∀ key t, ((after actions).lockOf key).holder = some t ↔
      t ∈ asked key actions ∧ Keeps actions (settled actions) t) ∧
    (∀ key, (given (settledAt key actions)).Sublist ((asked key actions).map (·.id))) ∧
    -- a task whose token is cancelled before it has the lock
    (∀ before token behind, actions = before ++ .cancel token :: behind →
      ∀ t ∈ tasks actions, t.token = some token →
        (∀ e ∈ settled before, e.task = t.id → e.outcome = .cancelled) →
        ⟨t.id, .cancelled⟩ ∈ settled actions ∧
          ∀ e ∈ settled actions, e.task = t.id → e.outcome = .cancelled) ∧
    (∀ key token, ((after (actions ++ [.cancel token])).lockOf key).holder =
      ((after actions).lockOf key).holder) ∧
    -- a task that is not settled waits behind a holder
    (∀ t ∈ tasks actions, (∀ e ∈ settled actions, e.task ≠ t.id) →
      ∃ u, ((after actions).lockOf t.key).holder = some u) ∧
    ((settled actions).map (·.task)).Nodup ∧
    (after actions).tracked = ((tasks actions).map (·.key)).dedup.length := by
  refine ⟨fun key t => ?_, fun key => ?_, ?_, fun key token => ?_, fun t ht unsettled => ?_,
    settled_once apart, tracked_after actions⟩
  · refine ((fair apart key).holder t).trans ?_
    refine and_congr_right fun among => ?_
    exact and_congr_left' (mem_settledAt among rfl)
  · exact (List.sublist_append_left _ _).trans (fair apart key).lined.order
  · rintro before token behind rfl t ht carries early
    have here : t ∈ asked t.key (before ++ .cancel token :: behind) := mem_asked.2 ⟨ht, rfl⟩
    have refused : ∀ e ∈ settled (before ++ .cancel token :: behind), e.task = t.id →
        e.outcome = .cancelled := by
      intro e member own
      by_contra served
      have there : e ∈ (Queue.run t.key (before ++ .cancel token :: behind)).events := by
        rw [(run_eq apart).1]
        exact (mem_settledAt here own).2 member
      have had := Queue.served_before apart here carries there own served
      rw [(run_eq apart.of_append).1] at had
      exact served (early e (List.mem_filter.1 had).1 own)
    refine ⟨?_, refused⟩
    by_contra missing
    -- a task that is neither settled nor cancelled would wait with a cancelled token
    obtain ⟨w, member, rfl⟩ := waits apart ht fun e member own => missing (by
      have := refused e member own
      obtain ⟨_, _⟩ := e
      cases own
      cases this
      exact member)
    exact (fair apart w.task.key).lined.live w member token carries (by simp)
  · rw [after_concat, lockOf_cancel]
    rfl
  · obtain ⟨w, member, -⟩ := waits apart ht unsettled
    rw [← Option.isSome_iff_exists, ← Option.ne_none_iff_isSome]
    intro nobody
    have empty := (fair apart t.key).idle nobody
    rw [show ((after actions).lockOf t.key).waiting = [] from empty] at member
    cases member

/-- One task holds a lock, of the two behind it one is cancelled, and the other gets it. -/
theorem run_fair_three_tasks :
    let actions : List Action := [.ask ⟨"a", "k", none, true⟩, .ask ⟨"b", "k", some "x", false⟩,
      .ask ⟨"c", "k", none, false⟩, .cancel "x", .release "a", .ask ⟨"d", "l", some "x", true⟩]
    Apart actions ∧ given (settledAt "k" actions) = ["a", "c"] ∧
      (⟨"b", .cancelled⟩ : Event) ∈ settled actions ∧
      (⟨"d", .cancelled⟩ : Event) ∈ settled actions ∧ (after actions).tracked = 2 := by
  intro actions
  have apart : Apart actions := by decide
  obtain ⟨-, -, cancelled, -, -, -, tracked⟩ := run_fair apart
  refine ⟨apart, by decide, ?_, ?_, tracked.trans (by decide)⟩
  · exact (cancelled (actions.take 3) "x" (actions.drop 4) rfl ⟨"b", "k", some "x", false⟩
      (by decide) rfl (by decide)).1
  · exact (cancelled (actions.take 3) "x" (actions.drop 4) rfl ⟨"d", "l", some "x", true⟩
      (by decide) rfl (by decide)).1

end Coordinator

end ShardStore.Lock
