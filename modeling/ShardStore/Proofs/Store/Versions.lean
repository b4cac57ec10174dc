/-
# ShardStore.Proofs.Store.Versions -- a version names one value

What a version of a key stands for is settled when it is made, and for good: it is the
fold of as many of the key's successful writes as the version counts.  A log that is
replayed by calls one after the other (`Replays`) says so of every record in it:

* `Replays.names` -- the value of a record is the fold of the first writes to its key;
* `Replays.conditional` -- a write that expects a version, and succeeds, makes the next
  one of what that version names.

The versions of a new key are counted, each once, so no two conditional writes succeed on
one version (`reachable_named`).
-/
import Mathlib.Data.List.Nodup
import Mathlib.Data.List.Pairwise
import ShardStore.Proofs.Store.Interleaving

namespace ShardStore.Store

set_option autoImplicit false

/-! ## Logs -/

/-- The key that a deed is about. -/
def Deed.key : Deed → String
  | .read key _ => key
  | .write _ job _ => job.key

/-- The successful writes of a log to a key, in order. -/
def writesOn (key : String) (log : List Deed) : List Write :=
  writesTo key (log.flatMap fun d => success d.call d.answer)

/-- The calls of the log give its answers one after the other. -/
def Replays (s : Store) (log : List Deed) : Prop :=
  (s.run (log.map Deed.call)).1 = log.map Deed.answer

theorem writesOn_append (key : String) (log more : List Deed) :
    writesOn key (log ++ more) = writesOn key log ++ writesOn key more := by
  rw [writesOn, List.flatMap_append, writesTo_append, writesOn, writesOn]

/-- A record that is answered is what the key holds then. -/
theorem find?_answered {s : Store} {d : Deed} {r : Record}
    (answered : (s.call d.call).1 = .record (.ok r)) :
    r.key = d.key ∧ (s.call d.call).2.find? d.key = some ⟨r.value, r.version⟩ := by
  cases d with
  | read key result =>
    simp only [Deed.call, call, get, Answer.record.injEq] at answered
    split at answered
    · cases answered
    · split at answered
      · rename_i e holds
        cases answered
        exact ⟨rfl, holds⟩
      · cases answered
  | write id job result =>
    have written := write_written s job.key job.write job.expected false
    simp only [Deed.call, call, Deed.key] at answered ⊢
    generalize s.write job.key job.write job.expected false = outcome at written answered
    cases written with
    | refused early => cases answered
    | cancelled cleared token => cases token
    | rejected cleared token late => cases answered
    | stored cleared token next =>
      cases answered
      exact ⟨rfl, (find?_store ..).trans (if_pos rfl)⟩

/-- A write that succeeds found the version that it expects. -/
theorem expected_answered {s : Store} {id : String} {job : Job} {r : Record} {n : UInt64}
    {result : Except Fault Record} (expects : job.expected = some n)
    (answered : (s.call (Deed.write id job result).call).1 = .record (.ok r)) :
    n = Entry.versionOf (s.find? job.key) ∧
      r = (Entry.after (s.find? job.key) job.write).record job.key := by
  have written := write_written s job.key job.write job.expected false
  simp only [Deed.call, call] at answered
  generalize s.write job.key job.write job.expected false = outcome at written answered
  cases written with
  | refused early => cases answered
  | cancelled cleared token => cases token
  | rejected cleared token late => cases answered
  | stored cleared token next =>
    cases answered
    obtain ⟨rfl, met⟩ := Entry.next_ok next
    exact ⟨met n expects, rfl⟩

namespace Replays

variable {s : Store} {log more : List Deed} {d : Deed} {key : String}

/-- The first part of a log is replayed as well. -/
theorem before (h : Replays s (log ++ more)) : Replays s log := by
  rw [Replays, List.map_append, List.map_append, run_append] at h
  exact (List.append_inj h (by rw [length_run, List.length_map, List.length_map])).1

theorem answer (h : Replays s (log ++ [d])) :
    ((s.run (log.map Deed.call)).2.call d.call).1 = d.answer := by
  rw [Replays, List.map_append, List.map_append, run_append] at h
  have last := (List.append_inj h (by rw [length_run, List.length_map, List.length_map])).2
  exact (List.cons.inj last).1

/-- What a key holds behind a log. -/
theorem find? (h : Replays s log) (key : String) :
    (s.run (log.map Deed.call)).2.find? key = Entry.afterAll (s.find? key) (writesOn key log) := by
  have logged : stored (log.map Deed.call) (log.map Deed.answer) =
      log.flatMap fun d => success d.call d.answer := by
    rw [stored, List.zipWith_map, List.zipWith_self, List.flatMap_def]
  rw [find?_run, h, logged, writesOn]

/-- What a key that began absent holds at a place of the log is the fold of as many writes
as its version counts. -/
theorem fold_eq (h : Replays empty (log ++ more))
    (few : (writesOn key (log ++ more)).length < 2 ^ 64) {e : Entry}
    (holds : (empty.run (log.map Deed.call)).2.find? key = some e) :
    e.version.toNat = (writesOn key log).length ∧
      Write.fold ((writesOn key (log ++ more)).take e.version.toNat) = some e.value := by
  have none : empty.find? key = none := rfl
  rw [h.before.find?, none, Entry.afterAll_none, Option.map_eq_some_iff] at holds
  obtain ⟨v, folded, rfl⟩ := holds
  rw [writesOn_append] at few ⊢
  rw [List.length_append] at few
  have below : (writesOn key log).length < 2 ^ 64 := by omega
  have counted : (UInt64.ofNat (writesOn key log).length).toNat = (writesOn key log).length :=
    UInt64.toNat_ofNat_of_lt' below
  exact ⟨counted, by rw [counted, List.take_left' rfl]; exact folded⟩

/-- The value of a record is the fold of as many writes to its key as its version counts. -/
theorem names (h : Replays empty log) (few : (writesOn key log).length < 2 ^ 64) {r : Record}
    (member : d ∈ log) (here : d.key = key) (answered : d.answer = .record (.ok r)) :
    r.key = key ∧ Write.fold ((writesOn key log).take r.version.toNat) = some r.value := by
  subst here
  obtain ⟨first, behind, rfl⟩ := List.append_of_mem member
  have whole : first ++ d :: behind = (first ++ [d]) ++ behind := by simp
  rw [whole] at h few ⊢
  obtain ⟨named, holds⟩ := find?_answered (h.before.answer.trans answered)
  have after : (empty.run ((first ++ [d]).map Deed.call)).2 =
      ((empty.run (first.map Deed.call)).2.call d.call).2 := by
    rw [List.map_append, run_append]
    rfl
  exact ⟨named, (h.fold_eq few (e := ⟨r.value, r.version⟩) (after ▸ holds)).2⟩

/-- A write that expects a version, and succeeds, makes the next version of what that one
names. -/
theorem conditional (h : Replays empty log) (few : (writesOn key log).length < 2 ^ 64)
    {id : String} {job : Job} {r : Record} {n : UInt64}
    (member : .write id job (.ok r) ∈ log) (here : job.key = key)
    (expects : job.expected = some n) :
    r.version = n + 1 ∧ (n ≠ 0 → ∃ v,
      Write.fold ((writesOn key log).take n.toNat) = some v ∧ r.value = job.write.apply v) := by
  subst here
  obtain ⟨first, behind, rfl⟩ := List.append_of_mem member
  have split : first ++ .write id job (.ok r) :: behind =
      (first ++ [.write id job (.ok r)]) ++ behind := by simp
  have answered : ((empty.run (first.map Deed.call)).2.call (Deed.write id job (.ok r)).call).1 =
      .record (.ok r) := (split ▸ h).before.answer
  obtain ⟨found, made⟩ := expected_answered expects answered
  constructor
  · rw [made, found, ← Entry.versionOf_after]
    rfl
  · intro present
    cases holds : (empty.run (first.map Deed.call)).2.find? job.key with
    | none =>
      rw [holds] at found
      exact absurd found present
    | some e =>
      rw [holds] at found made
      obtain rfl : n = e.version := found
      exact ⟨e.value, (h.fold_eq few holds).2, congrArg Record.value made⟩

end Replays

/-! ## Tasks -/

namespace Traffic

variable {t : Traffic} {key id : String} {job : Job} {r : Record}

/-- The write of the task has succeeded with this record. -/
def Succeeded (t : Traffic) (id : String) (job : Job) (r : Record) : Prop :=
  ∃ stage, t.tasks id = some (job, stage) ∧ stage.effect? = some (.ok r)

/-- A call on the key has returned the record. -/
inductive Returned (t : Traffic) (key : String) (r : Record) : Prop where
  | read (happened : .read key (.ok r) ∈ t.log)
  | write {id : String} {job : Job} (wrote : t.Succeeded id job r) (here : job.key = key)

/-- The number of writes that took effect, successful or not. -/
def writeCount (t : Traffic) : Nat := t.log.countP (·.task?.isSome)

/-- What is in the log is what the tasks did. -/
theorem Logged.mem_write (h : Logged t) {result : Except Fault Record} :
    .write id job result ∈ t.log ↔
      ∃ stage, t.tasks id = some (job, stage) ∧ stage.effect? = some result := by
  have mine : .write id job result ∈ t.log ↔ .write id job result ∈ effects t.tasks id := by
    rw [← h id, List.mem_filter]
    simp [Deed.task?]
  rw [mine, effects]
  constructor
  · intro member
    split at member
    · rename_i job' stage has
      obtain ⟨result', takes, same⟩ := Option.map_eq_some_iff.1 (Option.mem_toList.1 member)
      cases same
      exact ⟨stage, has, takes⟩
    · cases member
  · rintro ⟨stage, has, takes⟩
    simp [has, takes]

theorem Logged.mem_log (h : Logged t) :
    t.Succeeded id job r ↔ .write id job (.ok r) ∈ t.log := h.mem_write.symm

/-- A record that was returned is in the log. -/
theorem Logged.returned (h : Logged t) (returned : t.Returned key r) :
    ∃ d ∈ t.log, d.key = key ∧ d.answer = .record (.ok r) := by
  cases returned with
  | read happened => exact ⟨_, happened, rfl, rfl⟩
  | write wrote here => exact ⟨_, h.mem_log.1 wrote, here, rfl⟩

theorem mem_versions {n : UInt64} :
    n ∈ t.versions key ↔
      ∃ id job r, .write id job (.ok r) ∈ t.log ∧ job.key = key ∧ r.version = n := by
  rw [versions, List.mem_flatMap]
  constructor
  · rintro ⟨d, member, has⟩
    cases d with
    | read k result => cases has
    | write id job result =>
      cases result with
      | error fault => cases has
      | ok r =>
        simp only [version, Deed.call, Deed.answer] at has
        split at has
        · rename_i here
          exact ⟨id, job, r, member, here, (List.mem_singleton.1 has).symm⟩
        · cases has
  · rintro ⟨id, job, r, member, rfl, rfl⟩
    exact ⟨_, member, by simp [version, Deed.call, Deed.answer]⟩

/-- Every successful write returned a version. -/
theorem length_writesOn (t : Traffic) (key : String) :
    (writesOn key t.log).length = (t.versions key).length := by
  rw [versions, writesOn]
  induction t.log with
  | nil => rfl
  | cons d log ih =>
    rw [List.flatMap_cons, List.flatMap_cons, writesTo_append, List.length_append, ih,
      List.length_append]
    congr 1
    cases d with
    | read k result => cases result <;> rfl
    | write id job result =>
      cases result with
      | error fault => rfl
      | ok r =>
        by_cases here : job.key = key <;>
          simp [success, version, Deed.call, Deed.answer, writesTo, here]

theorem length_versions_le (t : Traffic) (key : String) :
    (t.versions key).length ≤ t.writeCount := by
  rw [versions, writeCount]
  induction t.log with
  | nil => simp
  | cons d log ih =>
    rw [List.flatMap_cons, List.length_append, List.countP_cons]
    have one : (version key d.call d.answer).length ≤ if d.task?.isSome then 1 else 0 := by
      cases d with
      | read k result => cases result <;> simp [version, Deed.call, Deed.answer]
      | write id job result =>
        cases result with
        | error fault => simp [version, Deed.call, Deed.answer]
        | ok r =>
          simp only [version, Deed.call, Deed.answer]
          split <;> simp [Deed.task?]
    omega

/-- The log of a new store with its tasks. -/
theorem Replayed.replays {s : Store} (h : Replayed s t) : Replays s t.log := h.1

/-- A key of a new store has its versions one after the other. -/
theorem Replayed.counted (h : Replayed empty t) (few : t.writeCount < 2 ^ 64) (key : String) :
    (t.versions key).map UInt64.toNat = List.range' 1 (t.versions key).length :=
  h.versions rfl (Nat.lt_of_le_of_lt (length_versions_le t key) few)

/-- A version of a new key is returned by one write. -/
theorem Replayed.once (h : Replayed empty t) (few : t.writeCount < 2 ^ 64) {n : UInt64}
    {id' : String} {job' : Job} {r' : Record} (first : .write id job (.ok r) ∈ t.log)
    (second : .write id' job' (.ok r') ∈ t.log) (here : job.key = key) (here' : job'.key = key)
    (same : r.version = n) (same' : r'.version = n) : id = id' := by
  have distinct : (t.versions key).Nodup := by
    apply List.Nodup.of_map UInt64.toNat
    rw [h.counted few]
    exact List.nodup_range'
  have apart := (List.nodup_flatMap.1 distinct).2
  have : Std.Symm (Function.onFun List.Disjoint fun d : Deed => version key d.call d.answer) :=
    ⟨fun _ _ disjoint _ left right => disjoint right left⟩
  by_contra other
  have different : Deed.write id job (.ok r) ≠ .write id' job' (.ok r') := by
    rintro ⟨⟩
    exact other rfl
  have disjoint := apart.forall first second different
  refine disjoint (a := n) ?_ ?_
  · simp [version, Deed.call, Deed.answer, here, same]
  · simp [version, Deed.call, Deed.answer, here', same']

/-- Before a version of a new key come all smaller ones. -/
theorem Replayed.mem_versions_of_le (h : Replayed empty t) (few : t.writeCount < 2 ^ 64)
    {n m : UInt64} (made : m ∈ t.versions key) (le : n ≤ m) (pos : n ≠ 0) :
    n ∈ t.versions key := by
  have among := List.mem_map_of_mem (f := UInt64.toNat) made
  rw [h.counted few, List.mem_range'_1] at among
  have smaller : n.toNat ∈ (t.versions key).map UInt64.toNat := by
    have : n.toNat ≠ 0 := fun zero => pos (UInt64.toNat_inj.1 zero)
    rw [h.counted few, List.mem_range'_1]
    have := UInt64.le_iff_toNat_le.1 le
    omega
  obtain ⟨k, member, same⟩ := List.mem_map.1 smaller
  rwa [UInt64.toNat_inj.1 same] at member

/-- In any traffic on a new store a version of a key names one value for ever: records of the
key with one version are equal, whoever got them; of the writes that expect one version
at most one succeeds; and one that succeeds on a version that exists was applied to
exactly what that version names, and returned the next one. -/
theorem reachable_named (reached : Reachable empty t) (few : t.writeCount < 2 ^ 64)
    (key : String) :
    (∀ r r', t.Returned key r → t.Returned key r' → r.version = r'.version → r = r') ∧
    (∀ n id id' job job' r r', t.Succeeded id job r → t.Succeeded id' job' r' →
      job.key = key → job'.key = key → job.expected = some n → job'.expected = some n →
        id = id') ∧
    (∀ n id job r, t.Succeeded id job r → job.key = key → job.expected = some n → n ≠ 0 →
      r.version.toNat = n.toNat + 1 ∧ (∃ r', t.Returned key r' ∧ r'.version = n) ∧
        ∀ r', t.Returned key r' → r'.version = n → r.value = job.write.apply r'.value) := by
  have orderly := reached.orderly idle_empty
  have replays := orderly.replayed.replays
  have short : (writesOn key t.log).length < 2 ^ 64 := by
    rw [length_writesOn]
    exact Nat.lt_of_le_of_lt (length_versions_le t key) few
  have named {r : Record} (returned : t.Returned key r) :
      r.key = key ∧ Write.fold ((writesOn key t.log).take r.version.toNat) = some r.value := by
    obtain ⟨d, member, here, answered⟩ := orderly.logged.returned returned
    exact replays.names short member here answered
  refine ⟨?_, ?_, ?_⟩
  · intro r r' first second same
    obtain ⟨keyed, value⟩ := named first
    obtain ⟨keyed', value'⟩ := named second
    rw [same, value'] at value
    obtain ⟨k, v, n⟩ := r
    obtain ⟨k', v', n'⟩ := r'
    simp only [Option.some.injEq] at keyed keyed' value same
    rw [keyed, keyed', same, value]
  · intro n id id' job job' r r' first second here here' expects expects'
    have mine := orderly.logged.mem_log.1 first
    have other := orderly.logged.mem_log.1 second
    exact orderly.replayed.once few mine other here here'
      (replays.conditional short mine here expects).1
      (replays.conditional short other here' expects').1
  · intro n id job r wrote here expects pos
    have mine := orderly.logged.mem_log.1 wrote
    obtain ⟨next, onValue⟩ := replays.conditional short mine here expects
    obtain ⟨v, folded, made⟩ := onValue pos
    have returned : r.version ∈ t.versions key := mem_versions.2 ⟨id, job, r, mine, here, rfl⟩
    have positive : 1 ≤ r.version.toNat := by
      have among := List.mem_map_of_mem (f := UInt64.toNat) returned
      rw [orderly.replayed.counted few, List.mem_range'_1] at among
      exact among.1
    -- the version does not wrap around to zero
    have exact : r.version.toNat = n.toNat + 1 := by
      rw [next, UInt64.toNat_add] at positive ⊢
      have := n.toNat_lt
      have one : (1 : UInt64).toNat = 1 := rfl
      omega
    refine ⟨exact, ?_, ?_⟩
    · have le : n ≤ r.version := UInt64.le_iff_toNat_le.2 (by omega)
      obtain ⟨id', job', r', member, here', same⟩ :=
        mem_versions.1 (orderly.replayed.mem_versions_of_le few returned le pos)
      exact ⟨r', .write (orderly.logged.mem_log.2 member) here', same⟩
    · rintro r' again rfl
      have value := (named again).2
      rw [folded] at value
      rw [made, Option.some.inj value]

/-- A put, a read, and a patch that expects the version which the put made. -/
theorem reachable_named_patch :
    ∃ t, Reachable empty t ∧ t.writeCount < 2 ^ 64 ∧
      t.Succeeded "b" ⟨"k", .merge (.bool true), some 1, none⟩ ⟨"k", .bool true, 2⟩ ∧
      t.Returned "k" ⟨"k", .null, 1⟩ ∧
      ∀ r, t.Returned "k" r → r.version = 1 → r = ⟨"k", .null, 1⟩ ∧
        .bool true = (Write.merge (.bool true)).apply r.value := by
  have first := Reachable.start.step
    (@Step.arrive { store := empty } "a" ⟨"k", .replace .null, none, none⟩ rfl rfl)
  have entered := first.step (@Step.enter _ "a" ⟨"k", .replace .null, none, none⟩ rfl rfl)
  have copied := entered.step (@Step.copy _ "a" ⟨"k", .replace .null, none, none⟩ rfl)
  have stored := copied.step
    (@Step.insert _ "a" ⟨"k", .replace .null, none, none⟩ none ⟨.null, 1⟩ rfl rfl)
  have released := stored.step
    (@Step.release _ "a" ⟨"k", .replace .null, none, none⟩ (.ok ⟨"k", .null, 1⟩) rfl)
  have read := released.step (@Step.read _ "k")
  have second := read.step
    (@Step.arrive _ "b" ⟨"k", .merge (.bool true), some 1, none⟩ rfl rfl)
  have entered := second.step
    (@Step.enter _ "b" ⟨"k", .merge (.bool true), some 1, none⟩ rfl rfl)
  have copied := entered.step (@Step.copy _ "b" ⟨"k", .merge (.bool true), some 1, none⟩ rfl)
  have patched := copied.step
    (@Step.insert _ "b" ⟨"k", .merge (.bool true), some 1, none⟩ (some ⟨.null, 1⟩)
      ⟨.bool true, 2⟩ rfl rfl)
  have few : (2 : Nat) < 2 ^ 64 := by decide
  have named {t : Traffic} (reached : Reachable empty t) (few : t.writeCount < 2 ^ 64)
      (wrote : t.Succeeded "b" ⟨"k", .merge (.bool true), some 1, none⟩ ⟨"k", .bool true, 2⟩)
      (seen : t.Returned "k" ⟨"k", .null, 1⟩) (r : Record) (returned : t.Returned "k" r)
      (version : r.version = 1) :
      r = ⟨"k", .null, 1⟩ ∧ .bool true = (Write.merge (.bool true)).apply r.value := by
    obtain ⟨one, -, applied⟩ := reachable_named reached few "k"
    exact ⟨one r _ returned seen version,
      (applied 1 "b" _ _ wrote rfl rfl (by decide)).2.2 r returned version⟩
  exact ⟨_, patched, few, ⟨_, rfl, rfl⟩, .read (.tail _ (.head _)),
    named patched few ⟨_, rfl, rfl⟩ (.read (.tail _ (.head _)))⟩

end Traffic

end ShardStore.Store
