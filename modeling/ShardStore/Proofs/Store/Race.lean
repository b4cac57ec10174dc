/-
# ShardStore.Proofs.Store.Race -- a race ends alike in every schedule

Tasks race if they put to one key, all expect the same of its version, and nobody else writes
to the key meanwhile.  Who gets the lock first is up to the schedule.  What it has no say in:

* one after the other, in the order of the lock, the tasks end as `contest` tells, which
  knows the version of the key and the number of tasks and nothing more (`Replays.contest`);
* no task that ends is left out of that order, and none that was not cancelled ends without
  it (`Race.writers`, `Silenced`).

So whatever the schedule, the same ends are shared out among the tasks (`reachable_race`).
-/
import ShardStore.Proofs.Store.Independence
import ShardStore.Proofs.Store.Versions

namespace ShardStore.Store

set_option autoImplicit false

/-! ## One after the other -/

/-- How a write that is let to the lock ends at a key with version `v`: with the version that
it makes, or with its fault. -/
def verdict (key : String) (expected : Option UInt64) (v : UInt64) : Except Fault UInt64 :=
  match expected with
  | none => .ok (v + 1)
  | some e => if e = v then .ok (v + 1) else .error (.versionMismatch key e v)

/-- How `n` such writes that expect the same end one after the other, and the version of the
key behind them. -/
def contest (key : String) (expected : Option UInt64) :
    Nat → UInt64 → List (Except Fault UInt64) × UInt64
  | 0, v => ([], v)
  | n + 1, v =>
    let first := verdict key expected v
    let rest := contest key expected n (first.toOption.getD v)
    (first :: rest.1, rest.2)

section Contest

variable {key : String} {expected : Option UInt64} {e v : UInt64}

/-- Without an expectation every write makes the next version. -/
theorem contest_none (n : Nat) (v : UInt64) :
    contest key none n v =
      ((List.range n).map fun i => .ok (v + UInt64.ofNat (i + 1)), v + UInt64.ofNat n) := by
  induction n generalizing v with
  | zero => simp [contest]
  | succ n ih =>
    have shift (i : Nat) : v + 1 + UInt64.ofNat i = v + UInt64.ofNat (i + 1) := by
      rw [UInt64.add_assoc, UInt64.ofNat_add, UInt64.add_comm 1]
      rfl
    simp only [contest, verdict, Except.toOption, Option.getD_some, ih, shift,
      List.range_succ_eq_map, List.map_cons, List.map_map, Function.comp_def]
    rfl

/-- With an expectation that is not met none makes a version. -/
theorem contest_unmet (other : e ≠ v) (n : Nat) :
    contest key (some e) n v = (List.replicate n (.error (.versionMismatch key e v)), v) := by
  induction n with
  | zero => rfl
  | succ n ih =>
    simp only [contest, verdict, if_neg other, Except.toOption, Option.getD_none, ih,
      List.replicate_succ]

/-- With an expectation that is met the first one does, and is in the way of all others. -/
theorem contest_met (n : Nat) (v : UInt64) :
    contest key (some v) (n + 1) v =
      (.ok (v + 1) :: List.replicate n (.error (.versionMismatch key v (v + 1))), v + 1) := by
  have other : v ≠ v + 1 := by simp
  rw [contest]
  simp only [verdict, if_true, Except.toOption, Option.getD_some, contest_unmet other]

/-- Versions are counted, not modulo anything, as long as they are few. -/
theorem toNat_add_ofNat {n : Nat} (few : v.toNat + n < 2 ^ 64) :
    (v + UInt64.ofNat n).toNat = v.toNat + n := by
  have small : n < 2 ^ 64 := Nat.lt_of_le_of_lt (Nat.le_add_left n _) few
  rw [UInt64.toNat_add, UInt64.toNat_ofNat_of_lt' small, Nat.mod_eq_of_lt few]

theorem map_contest_none {n : Nat} (few : v.toNat + n < 2 ^ 64) :
    (contest key none n v).1.map (·.map UInt64.toNat) =
      (List.range' (v.toNat + 1) n).map .ok := by
  rw [contest_none, List.range'_eq_map_range, List.map_map, List.map_map]
  apply List.map_congr_left
  intro i member
  have := List.mem_range.1 member
  have counted : (v + UInt64.ofNat (i + 1)).toNat = v.toNat + 1 + i := by
    rw [toNat_add_ofNat (by omega), Nat.add_assoc, Nat.add_comm 1]
  exact congrArg Except.ok counted

theorem map_contest_met {n : Nat} (few : v.toNat + 1 < 2 ^ 64) :
    (contest key (some v) (n + 1) v).1.map (·.map UInt64.toNat) =
      .ok (v.toNat + 1) :: List.replicate n (.error (.versionMismatch key v (v + 1))) := by
  have counted : (v + 1).toNat = v.toNat + 1 := toNat_add_ofNat (n := 1) few
  rw [contest_met, List.map_cons, List.map_replicate, ← counted]
  rfl

end Contest

/-! ## In a log -/

/-- How the write of a task that asked for the lock of the key ended. -/
def Deed.outcome? (key : String) : Deed → Option (Except Fault UInt64)
  | .read .. => none
  | .write _ job result =>
    if job.key = key ∧ (clearance job.key job.write).isOk then some (result.map (·.version))
    else none

section Log

variable {s : Store} {d : Deed} {log : List Deed} {key : String} {expected : Option UInt64}

theorem Deed.outcome?_write {id : String} {job : Job} (here : job.key = key)
    (cleared : clearance job.key job.write = .ok ()) (result : Except Fault Record) :
    (Deed.write id job result).outcome? key = some (result.map (·.version)) :=
  if_pos ⟨here, by rw [cleared]; rfl⟩

theorem Deed.outcome?_eq_some {o : Except Fault UInt64} (h : d.outcome? key = some o) :
    ∃ id job result, d = .write id job result ∧ job.key = key ∧
      clearance job.key job.write = .ok () ∧ o = result.map (·.version) := by
  cases d with
  | read key result => cases h
  | write id job result =>
    simp only [Deed.outcome?] at h
    split at h
    · rename_i asks
      refine ⟨id, job, result, rfl, asks.1, ?_, (Option.some.inj h).symm⟩
      cases cleared : clearance job.key job.write with
      | ok u => rfl
      | error fault =>
        rw [cleared] at asks
        cases asks.2
    · cases h

/-- What is no write of the key leaves alone what the key holds. -/
theorem find?_of_outcome?_none (h : d.outcome? key = none) :
    (s.call d.call).2.find? key = s.find? key := by
  cases d with
  | read key result => rfl
  | write id job result =>
    by_cases here : job.key = key
    · cases early : clearance job.key job.write with
      | ok u =>
        rw [Deed.outcome?_write here early] at h
        cases h
      | error fault => simp only [Deed.call, call, write_refused early]
    · exact call_off (decide_eq_false fun on => here (Option.some.inj on))

/-- A write that has the lock ends as its expectation and the version of the key tell. -/
theorem write_verdict {w : Write} (cleared : clearance key w = .ok ()) (s : Store) :
    (s.write key w expected false).1.map (·.version) =
        verdict key expected (Entry.versionOf (s.find? key)) ∧
      Entry.versionOf ((s.write key w expected false).2.find? key) =
        (verdict key expected (Entry.versionOf (s.find? key))).toOption.getD
          (Entry.versionOf (s.find? key)) := by
  have judged : (Entry.next key (s.find? key) w expected).map (·.version) =
      verdict key expected (Entry.versionOf (s.find? key)) := by
    have next : (Entry.after (s.find? key) w).version = Entry.versionOf (s.find? key) + 1 :=
      Entry.versionOf_after (s.find? key) w
    rw [Entry.next_eq]
    cases expected with
    | none => exact congrArg Except.ok next
    | some e =>
      simp only [verdict]
      split
      · exact congrArg Except.ok next
      · rfl
  rw [← judged]
  cases next : Entry.next key (s.find? key) w expected with
  | ok e =>
    rw [write_stored cleared next]
    refine ⟨rfl, ?_⟩
    rw [find?_store, if_pos rfl]
    rfl
  | error fault =>
    rw [write_rejected cleared next]
    exact ⟨rfl, rfl⟩

theorem replays_cons :
    Replays s (d :: log) ↔ (s.call d.call).1 = d.answer ∧ Replays (s.call d.call).2 log := by
  simp only [Replays, List.map_cons, run_cons, List.cons.injEq]

/-- In a log that is replayed the writes of a key that all expect the same end as a contest. -/
theorem Replays.contest (h : Replays s log)
    (same : ∀ id job result, .write id job result ∈ log → job.key = key →
      job.expected = expected) :
    Store.contest key expected (log.filterMap (Deed.outcome? key)).length
        (Entry.versionOf (s.find? key)) =
      (log.filterMap (Deed.outcome? key),
        Entry.versionOf ((s.run (log.map Deed.call)).2.find? key)) := by
  induction log generalizing s with
  | nil => rfl
  | cons d log ih =>
    obtain ⟨answered, later⟩ := replays_cons.1 h
    have behind := ih later fun id job result member => same id job result (.tail d member)
    rw [List.map_cons, run_cons]
    cases ends : d.outcome? key with
    | none =>
      rw [find?_of_outcome?_none ends] at behind
      rw [List.filterMap_cons_none ends, behind]
    | some o =>
      obtain ⟨id, job, result, rfl, rfl, cleared, rfl⟩ := Deed.outcome?_eq_some ends
      obtain rfl : job.expected = expected := same id job result List.mem_cons_self rfl
      obtain ⟨judged, version⟩ := @write_verdict job.key job.expected job.write cleared s
      have found : (s.write job.key job.write job.expected false).1 = result :=
        Answer.record.inj answered
      have next : Entry.versionOf ((s.call (Deed.write id job result).call).2.find? job.key) =
          (result.map (·.version)).toOption.getD (Entry.versionOf (s.find? job.key)) := by
        rw [← found, judged]
        exact version
      rw [List.filterMap_cons_some ends, List.length_cons, Store.contest, ← judged, found, ← next,
        behind]

end Log

namespace Traffic

variable {s : Store} {t u : Traffic} {key : String} {expected : Option UInt64} {ids : List String}

/-! ## Quiet stores -/

/-- No write is under way. -/
def Quiet (t : Traffic) : Prop :=
  ∀ id job stage, t.tasks id = some (job, stage) → ¬ stage.Alive

/-- When all tasks are finished nobody is at the locks. -/
theorem Reachable.idle (reached : Reachable empty t) (quiet : t.Quiet) : Idle t.store := by
  have safe : Safe t := (reached.orderly idle_empty).safe
  refine ⟨safe.sorted, fun key => ?_⟩
  have nobody : (t.store.locks.lockOf key).crew = [] := by
    rw [List.eq_nil_iff_forall_not_mem]
    intro task member
    obtain ⟨job, stage, found, alive, -⟩ := safe.present key task member
    exact quiet _ job stage found alive
  generalize t.store.locks.lockOf key = lock at nobody
  obtain ⟨holder, waiting⟩ := lock
  simpa [Lock.crew] using nobody

/-- A key of a new store is at the number of writes that made it, at most. -/
theorem Reachable.version_le (reached : Reachable empty t) (key : String) :
    (Entry.versionOf (t.store.find? key)).toNat ≤ t.writeCount := by
  have orderly := reached.orderly idle_empty
  have found : t.store.find? key = Entry.afterAll none (writesOn key t.log) := by
    rw [find?, ← orderly.replayed.2]
    exact orderly.replayed.replays.find? key
  rw [found, Entry.versionOf_afterAll, length_writesOn]
  have zero : Entry.versionOf none = 0 := rfl
  rw [zero, UInt64.zero_add]
  exact Nat.le_trans (Nat.mod_le _ _) (length_versions_le t key)

/-- A key that no write has succeeded on is as it was. -/
theorem Replayed.find?_unwritten (h : Replayed s t)
    (unwritten : ∀ id job r, .write id job (.ok r) ∈ t.log → job.key ≠ key) :
    t.store.find? key = s.find? key := by
  have none : writesOn key t.log = [] := by
    rw [← List.length_eq_zero_iff, length_writesOn, List.length_eq_zero_iff,
      List.eq_nil_iff_forall_not_mem]
    intro n made
    obtain ⟨id, job, r, member, here, -⟩ := mem_versions.1 made
    exact unwritten id job r member here
  have found := h.replays.find? key
  rw [none, Entry.afterAll_nil] at found
  rw [find?, ← h.2]
  exact found

/-! ## Cancelled tasks -/

/-- The tasks that were cancelled carry cancelled tokens. -/
def Silenced (t : Traffic) : Prop :=
  ∀ id job, t.tasks id = some (job, .cancelled) → job.token.any t.store.locks.cancelled.contains

theorem silenced_set {tasks : Tasks} {cancelled : List String} {id : String} {job : Job}
    {stage : Stage}
    (h : ∀ x job, tasks x = some (job, .cancelled) → job.token.any cancelled.contains)
    (mine : stage = .cancelled → job.token.any cancelled.contains) :
    ∀ x job', tasks.set id job stage x = some (job', .cancelled) →
      job'.token.any cancelled.contains := by
  intro x job' found
  rcases Tasks.set_cases found with ⟨-, rfl, same⟩ | ⟨-, found⟩
  · exact mine same.symm
  · exact h x job' found

theorem Step.silenced (step : Step t u) (g : Safe t) (h : Silenced t) : Silenced u := by
  cases step with
  | refuse fresh early => exact silenced_set h (by simp)
  | @arrive id job fresh cleared =>
    have tokens : ((t.set id job .waiting).locking (.ask (job.request id))).store.locks.cancelled =
        t.store.locks.cancelled := Lock.Coordinator.cancelled_ask _ _
    rw [Silenced, tokens]
    by_cases token : (job.request id).token.any t.store.locks.cancelled.contains
    · have tasks : ((t.set id job .waiting).locking (.ask (job.request id))).tasks =
          t.tasks.set id job .cancelled := Guarded.note_refused token
      rw [tasks]
      exact silenced_set h fun _ => token
    · have tasks : ((t.set id job .waiting).locking (.ask (job.request id))).tasks =
          t.tasks.set id job .waiting := Guarded.note_admitted g token
      rw [tasks]
      exact silenced_set h (by simp)
  | enter waits handed => exact silenced_set h (by simp)
  | copy has => exact silenced_set h (by simp)
  | insert has next => exact silenced_set h (by simp)
  | fail has late => exact silenced_set h (by simp)
  | @release id job result has =>
    rw [Silenced, g.tasks_release has (g.holds has trivial)]
    exact silenced_set h (by simp)
  | @leave id job waits handed cancelled =>
    rw [Silenced, g.tasks_release waits handed]
    exact silenced_set h fun _ => cancelled
  | cancel token =>
    intro x job found
    have tokens : (t.locking (.cancel token)).store.locks.cancelled =
        token :: t.store.locks.cancelled := rfl
    rw [tokens]
    by_cases noted : ⟨x, .cancelled⟩ ∈ (t.store.locks.step (.cancel token)).2
    · obtain ⟨job', waits, carries, -⟩ := Guarded.cancelled_waits g noted
      rcases g.tasks_cancel found with was | ⟨was, -⟩
      · rw [was] at waits
        cases waits
      · rw [was] at waits
        cases waits
        simp [carries]
    · have was : t.tasks x = some (job, .cancelled) := (if_neg noted).symm.trans found
      have before := h x job was
      rw [Option.any_eq_true] at before ⊢
      obtain ⟨carried, carries, member⟩ := before
      exact ⟨carried, carries, by simp [List.contains_iff_mem.1 member]⟩
  | read key => exact h

theorem Reachable.silenced (reached : Reachable s t) (idle : Idle s) : Silenced t := by
  induction reached with
  | start =>
    rintro id job ⟨⟩
  | step before next ih => exact next.silenced (before.orderly idle).safe ih

/-! ## Races -/

/-- How the write of a finished task ended: with the version that it made, or with its fault. -/
def ended (t : Traffic) (id : String) : Option (Except Fault Nat) :=
  match t.tasks id with
  | some (_, .done result) => some (result.map (·.version.toNat))
  | _ => none

/-- The tasks put to the key, all with this expectation; their tokens are not cancelled, they
are finished, and no other task writes to the key. -/
structure Race (t : Traffic) (key : String) (expected : Option UInt64) (ids : List String) :
    Prop where
  distinct : ids.Nodup
  puts : ∀ id ∈ ids, ∃ value token stage,
    t.tasks id = some (⟨key, .replace value, expected, token⟩, stage) ∧
      ¬ token.any t.store.locks.cancelled.contains ∧ ¬ stage.Alive
  alone : ∀ id job stage, t.tasks id = some (job, stage) → job.key = key → id ∈ ids

/-- A task that races is not cancelled. -/
theorem Race.done (race : t.Race key expected ids) (silenced : Silenced t) {id : String}
    (member : id ∈ ids) :
    ∃ value token result,
      t.tasks id = some (⟨key, .replace value, expected, token⟩, .done result) := by
  obtain ⟨value, token, stage, found, live, finished⟩ := race.puts id member
  cases stage with
  | done result => exact ⟨value, token, result, found⟩
  | cancelled => exact absurd (silenced id _ found) live
  | _ => exact absurd trivial finished

/-- What was written to the key, a task that races wrote it. -/
theorem Race.wrote (race : t.Race key expected ids) (silenced : Silenced t) (logged : Logged t)
    {id : String} {job : Job} {result : Except Fault Record}
    (member : .write id job result ∈ t.log) (here : job.key = key) :
    id ∈ ids ∧ job.expected = expected ∧ t.ended id = some (result.map (·.version.toNat)) := by
  obtain ⟨stage, found, takes⟩ := logged.mem_write.1 member
  have racing := race.alone id job stage found here
  obtain ⟨value, token, result', done⟩ := race.done silenced racing
  have ends : t.ended id = some (result'.map (·.version.toNat)) := by rw [ended, done]
  rw [found] at done
  cases done
  cases takes
  exact ⟨racing, rfl, ends⟩

theorem writer?_eq_some {d : Deed} {id : String} (h : d.writer? key = some id) :
    ∃ job result, d = .write id job result ∧ job.key = key := by
  cases d with
  | read key result => cases h
  | write id' job result =>
    simp only [Deed.writer?] at h
    split at h
    · rename_i asks
      cases h
      exact ⟨job, result, rfl, asks.1⟩
    · cases h

/-- No task writes to a key twice. -/
theorem Logged.nodup_writersOf (h : Logged t) (key : String) : (t.writersOf key).Nodup := by
  rw [List.nodup_iff_count_le_one]
  intro id
  rw [writersOf, List.count_filterMap]
  have mine : t.log.countP (fun d => d.writer? key == some id) ≤
      t.log.countP (·.task? = some id) := by
    apply List.countP_mono_left
    intro d _ writes
    obtain ⟨job, result, rfl, -⟩ := writer?_eq_some (eq_of_beq writes)
    simp [Deed.task?]
  have once : t.log.countP (·.task? = some id) ≤ 1 := by
    rw [List.countP_eq_length_filter, h id, effects]
    split
    · rw [Option.length_toList]
      split <;> simp
    · simp
  exact Nat.le_trans mine once

/-- All tasks that race write to the key, each once. -/
theorem Race.writers (race : t.Race key expected ids) (silenced : Silenced t) (logged : Logged t)
    (valid : Key.isValid key = true) : (t.writersOf key).Perm ids := by
  rw [List.perm_ext_iff_of_nodup (logged.nodup_writersOf key) race.distinct]
  intro id
  rw [writersOf, List.mem_filterMap]
  constructor
  · rintro ⟨d, member, writes⟩
    obtain ⟨job, result, rfl, here⟩ := writer?_eq_some writes
    exact (race.wrote silenced logged member here).1
  · intro racing
    obtain ⟨value, token, result, done⟩ := race.done silenced racing
    refine ⟨_, logged.mem_write.2 ⟨_, done, rfl⟩, if_pos ⟨rfl, ?_⟩⟩
    have cleared : clearance key (.replace value) = .ok () := clearance_of_ne valid (by simp)
    rw [cleared]
    rfl

/-- The tasks of a race end as a contest for the key, in some order. -/
theorem Race.ends (race : t.Race key expected ids) (raced : Reachable s t) (idle : Idle s)
    (valid : Key.isValid key = true) :
    let outcome := contest key expected ids.length (Entry.versionOf (s.find? key))
    (ids.map t.ended).Perm ((outcome.1.map (·.map UInt64.toNat)).map some) ∧
      Entry.versionOf (t.store.find? key) = outcome.2 := by
  intro outcome
  have orderly := raced.orderly idle
  have silenced := raced.silenced idle
  have writers := race.writers silenced orderly.logged valid
  -- in the log the writers of the key and their ends stand in one order
  have ends : (t.writersOf key).map t.ended =
      ((t.log.filterMap (Deed.outcome? key)).map (·.map UInt64.toNat)).map some := by
    rw [writersOf, List.map_map, List.map_filterMap, List.map_filterMap]
    apply List.filterMap_congr
    intro d member
    cases d with
    | read key result => rfl
    | write id job result =>
      simp only [Deed.writer?, Deed.outcome?]
      split
      · rename_i asks
        obtain ⟨-, -, ended⟩ := race.wrote silenced orderly.logged member asks.1
        rw [Option.map_some, Option.map_some, ended]
        cases result <;> rfl
      · rfl
  have number : (t.log.filterMap (Deed.outcome? key)).length = ids.length := by
    rw [← writers.length_eq, ← List.length_map t.ended, ends, List.length_map, List.length_map]
  have contested := @Replays.contest _ _ key expected orderly.replayed.replays
    fun id job result member here =>
      (race.wrote silenced orderly.logged member here).2.1
  rw [number] at contested
  constructor
  · refine (writers.map t.ended).symm.trans ?_
    rw [ends]
    simp only [outcome, contested]
    exact .refl _
  · simp only [outcome, contested]
    rw [find?, ← orderly.replayed.2]
    rfl

/-- In a race for a key at version `v` of a store that is reachable and quiet:

* without an expectation all tasks succeed, with the versions from `v + 1` on, each once;
* if they expect `v`, one succeeds, and the others find its version;
* if they expect anything else, all are refused, and the key keeps what it held.

Keys that no task writes to stay as they were.  So any two races of as many tasks that start
from the same store, whatever their schedules, end alike. -/
theorem reachable_race {before : Traffic} (reached : Reachable empty before)
    (quiet : before.Quiet) (valid : Key.isValid key = true) (raced : Reachable before.store t)
    (race : t.Race key expected ids) (someone : ids ≠ [])
    (few : before.writeCount + ids.length < 2 ^ 64) :
    let v := Entry.versionOf (before.store.find? key)
    let ends := ids.map t.ended
    let last := Entry.versionOf (t.store.find? key)
    (expected = none →
      ends.Perm (((List.range' (v.toNat + 1) ids.length).map .ok).map some) ∧
        last.toNat = v.toNat + ids.length) ∧
    (expected = some v →
      ends.Perm ((.ok (v.toNat + 1) ::
          List.replicate (ids.length - 1) (.error (.versionMismatch key v (v + 1)))).map some) ∧
        last.toNat = v.toNat + 1) ∧
    (∀ e, expected = some e → e ≠ v →
      ends.Perm ((List.replicate ids.length (.error (.versionMismatch key e v))).map some) ∧
        t.store.find? key = before.store.find? key) ∧
    (∀ x, (∀ id job stage, t.tasks id = some (job, stage) → job.key ≠ x) →
      t.store.find? x = before.store.find? x) ∧
    ∀ u others, Reachable before.store u → u.Race key expected others →
      others.length = ids.length →
        ends.Perm (others.map u.ended) ∧ last = Entry.versionOf (u.store.find? key) := by
  intro v ends last
  have idle := reached.idle quiet
  have orderly := raced.orderly idle
  obtain ⟨alike, version⟩ := race.ends raced idle valid
  have small : v.toNat + ids.length < 2 ^ 64 := by
    have : v.toNat ≤ before.writeCount := reached.version_le key
    omega
  refine ⟨?_, ?_, ?_, ?_, ?_⟩
  · rintro rfl
    rw [map_contest_none small] at alike
    rw [contest_none] at version
    exact ⟨alike, (congrArg UInt64.toNat version).trans (toNat_add_ofNat small)⟩
  · rintro rfl
    obtain ⟨n, length⟩ := Nat.exists_eq_succ_of_ne_zero (mt List.length_eq_zero_iff.1 someone)
    have next : v.toNat + 1 < 2 ^ 64 := by omega
    rw [length, map_contest_met next] at alike
    rw [length, contest_met] at version
    rw [length]
    exact ⟨alike, (congrArg UInt64.toNat version).trans (toNat_add_ofNat (n := 1) next)⟩
  · rintro e rfl other
    rw [contest_unmet other, List.map_replicate] at alike
    refine ⟨alike, orderly.replayed.find?_unwritten fun id job r member here => ?_⟩
    obtain ⟨racing, -, ended⟩ :=
      race.wrote (raced.silenced idle) orderly.logged member here
    have refused := alike.subset (List.mem_map_of_mem (f := t.ended) racing)
    rw [ended, List.map_replicate] at refused
    cases List.eq_of_mem_replicate refused
  · intro x nobody
    refine orderly.replayed.find?_unwritten fun id job r member => ?_
    obtain ⟨stage, found, -⟩ := orderly.logged.mem_write.1 member
    exact nobody id job stage found
  · intro u others raced' race' number
    obtain ⟨alike', version'⟩ := race'.ends raced' idle valid
    rw [number] at alike' version'
    exact ⟨alike.trans alike'.symm, version.trans version'.symm⟩

/-- Two tasks that both want to create a key: the second one asks while the first has the
lock. -/
theorem reachable_race_two_creators :
    ∃ t, Reachable empty { store := empty } ∧ ({ store := empty } : Traffic).Quiet ∧
      Reachable empty t ∧ t.Race "k" (some 0) ["a", "b"] ∧ ["a", "b"] ≠ [] ∧
      ({ store := empty } : Traffic).writeCount + 2 < 2 ^ 64 ∧
      (["a", "b"].map t.ended).Perm
        [some (.ok 1), some (.error (.versionMismatch "k" 0 1))] := by
  have first := ((Reachable.start.step
    (@Step.arrive { store := empty } "a" ⟨"k", .replace .null, some 0, none⟩ rfl rfl)).step
    (@Step.enter _ "a" ⟨"k", .replace .null, some 0, none⟩ rfl rfl)).step
    (@Step.arrive _ "b" ⟨"k", .replace .null, some 0, none⟩ rfl rfl)
  have created := ((first.step
    (@Step.copy _ "a" ⟨"k", .replace .null, some 0, none⟩ rfl)).step
    (@Step.insert _ "a" ⟨"k", .replace .null, some 0, none⟩ none ⟨.null, 1⟩ rfl rfl)).step
    (@Step.release _ "a" ⟨"k", .replace .null, some 0, none⟩ (.ok ⟨"k", .null, 1⟩) rfl)
  have refused := (((created.step
    (@Step.enter _ "b" ⟨"k", .replace .null, some 0, none⟩ rfl rfl)).step
    (@Step.copy _ "b" ⟨"k", .replace .null, some 0, none⟩ rfl)).step
    (@Step.fail _ "b" ⟨"k", .replace .null, some 0, none⟩ (some ⟨.null, 1⟩)
      (.versionMismatch "k" 0 1) rfl rfl)).step
    (@Step.release _ "b" ⟨"k", .replace .null, some 0, none⟩
      (.error (.versionMismatch "k" 0 1)) rfl)
  have ends {t : Traffic} (raced : Reachable empty t) (race : t.Race "k" (some 0) ["a", "b"]) :
      (["a", "b"].map t.ended).Perm
        [some (.ok 1), some (.error (.versionMismatch "k" 0 1))] :=
    ((reachable_race .start (by rintro id job stage ⟨⟩) rfl raced race (by simp)
      (by decide)).2.1 rfl).1
  suffices race : Race _ "k" (some 0) ["a", "b"] from
    ⟨_, .start, by rintro id job stage ⟨⟩, refused, race, by simp, by decide, ends refused race⟩
  refine ⟨by decide, ?_, ?_⟩
  · simp only [List.forall_mem_cons]
    exact ⟨⟨.null, none, _, rfl, by simp, id⟩, ⟨.null, none, _, rfl, by simp, id⟩, by simp⟩
  · intro x job stage found here
    by_contra outside
    have other : x ≠ "a" ∧ x ≠ "b" := by simpa using outside
    refine Option.some_ne_none (job, stage) (found.symm.trans ?_)
    simp only [locking, set, record, Tasks.note_eq_none, Tasks.set_other other.1,
      Tasks.set_other other.2]

end Traffic

end ShardStore.Store
