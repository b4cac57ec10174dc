/-
# ShardStore.Proofs.Store.History -- a store is what its successful writes made it

Of a run of calls only the successful writes count (`stored`).  What a key holds is what
the successful writes to it make of what it held before, one after the other
(`find?_run`), so that in a run from the empty store

* a key is present exactly if a write to it has succeeded, its version is the number of
  those writes, and its value is their fold (`run_history`);
* the keys are listed in order, each once, and each is valid and has its lock
  (`Sound`, which every call keeps).

A version is a number modulo 2^64, so it counts fewer writes than that.
-/
import Mathlib.Algebra.Group.Nat.Defs
import ShardStore.Proofs.Store.Step

namespace ShardStore

set_option autoImplicit false

/-! ## Writes one after the other -/

namespace Entry

/-- What a key holds after writes that are all stored. -/
def afterAll (current : Option Entry) (ws : List Write) : Option Entry :=
  ws.foldl (fun now w => some (after now w)) current

@[simp] theorem afterAll_nil (current : Option Entry) : afterAll current [] = current := rfl

theorem afterAll_append (current : Option Entry) (ws us : List Write) :
    afterAll current (ws ++ us) = afterAll (afterAll current ws) us :=
  List.foldl_append

/-- Every write counts one version up, also the first. -/
theorem versionOf_after (current : Option Entry) (w : Write) :
    versionOf (some (after current w)) = versionOf current + 1 := by
  cases current <;> rfl

theorem versionOf_afterAll (current : Option Entry) (ws : List Write) :
    versionOf (afterAll current ws) = versionOf current + UInt64.ofNat ws.length := by
  induction ws generalizing current with
  | nil => simp
  | cons w ws ih =>
    have step : afterAll current (w :: ws) = afterAll (some (after current w)) ws := rfl
    rw [step, ih, versionOf_after, List.length_cons, UInt64.ofNat_add, UInt64.add_assoc,
      UInt64.add_comm 1]
    rfl

end Entry

/-- The value that writes to an absent key make, one after the other. -/
def Write.fold : List Write → Option Json.Value
  | [] => none
  | w :: ws => some (ws.foldl (fun v w => w.apply v) w.payload)

namespace Entry

theorem value_afterAll_some (e : Entry) (ws : List Write) :
    (afterAll (some e) ws).map (·.value) = some (ws.foldl (fun v w => w.apply v) e.value) := by
  induction ws generalizing e with
  | nil => rfl
  | cons w ws ih => exact ih (after (some e) w)

/-- The value of a key that began absent is the fold of its writes. -/
theorem value_afterAll_none (ws : List Write) :
    (afterAll none ws).map (·.value) = Write.fold ws := by
  cases ws with
  | nil => rfl
  | cons w ws => exact value_afterAll_some (create w) ws

/-- The entry of a key that began absent. -/
theorem afterAll_none (ws : List Write) :
    afterAll none ws = (Write.fold ws).map fun v => ⟨v, UInt64.ofNat ws.length⟩ := by
  have value := value_afterAll_none ws
  have version := versionOf_afterAll none ws
  cases holds : afterAll none ws with
  | none =>
    rw [holds] at value
    rw [← value]
    rfl
  | some e =>
    rw [holds] at value version
    have counted : e.version = 0 + UInt64.ofNat ws.length := version
    rw [UInt64.zero_add] at counted
    rw [← value, ← counted]
    rfl

end Entry

namespace Store

/-! ## The successful writes of a run -/

/-- The write of a call that succeeded, with its key. -/
def success : Call → Answer → List (String × Write)
  | .write key w _ _, .record (.ok _) => [(key, w)]
  | _, _ => []

/-- The successful writes of a run with their keys, in order. -/
def stored (calls : List Call) (answers : List Answer) : List (String × Write) :=
  (List.zipWith success calls answers).flatten

/-- The writes to a key. -/
def writesTo (key : String) (log : List (String × Write)) : List Write :=
  (log.filter (·.1 = key)).map (·.2)

/-- The version that a successful write to the key returned. -/
def version (key : String) : Call → Answer → List UInt64
  | .write k _ _ _, .record (.ok r) => if k = key then [r.version] else []
  | _, _ => []

/-- The versions that the successful writes of a run to a key returned, in order. -/
def versions (key : String) (calls : List Call) (answers : List Answer) : List UInt64 :=
  (List.zipWith (version key) calls answers).flatten

def Call.isWrite : Call → Bool
  | .write .. => true
  | _ => false

@[simp] theorem writesTo_nil (key : String) : writesTo key [] = [] := rfl

theorem writesTo_cons (key k : String) (w : Write) (log : List (String × Write)) :
    writesTo key ((k, w) :: log) = (if k = key then [w] else []) ++ writesTo key log := by
  by_cases same : k = key <;> simp [writesTo, same]

theorem writesTo_append (key : String) (log more : List (String × Write)) :
    writesTo key (log ++ more) = writesTo key log ++ writesTo key more := by
  simp [writesTo]

theorem length_writesTo_le (key : String) (log : List (String × Write)) :
    (writesTo key log).length ≤ log.length := by
  rw [writesTo, List.length_map]
  exact List.length_filter_le _ _

/-- A log has writes to some key unless it is empty. -/
theorem exists_writesTo_ne_nil {log : List (String × Write)} (h : log ≠ []) :
    ∃ key, writesTo key log ≠ [] := by
  cases log with
  | nil => exact absurd rfl h
  | cons p log =>
    obtain ⟨key, w⟩ := p
    exact ⟨key, by simp [writesTo_cons]⟩

theorem run_cons (s : Store) (c : Call) (rest : List Call) :
    s.run (c :: rest) =
      ((s.call c).1 :: ((s.call c).2.run rest).1, ((s.call c).2.run rest).2) := rfl

theorem length_run (s : Store) (calls : List Call) : (s.run calls).1.length = calls.length := by
  induction calls generalizing s with
  | nil => rfl
  | cons c rest ih => rw [run_cons, List.length_cons, ih, List.length_cons]

/-- A run goes on where it was left. -/
theorem run_append (s : Store) (calls more : List Call) :
    s.run (calls ++ more) =
      ((s.run calls).1 ++ ((s.run calls).2.run more).1, ((s.run calls).2.run more).2) := by
  induction calls generalizing s with
  | nil => rfl
  | cons c rest ih =>
    rw [List.cons_append, run_cons, ih, run_cons]
    rfl

theorem stored_cons (c : Call) (answer : Answer) (calls : List Call) (answers : List Answer) :
    stored (c :: calls) (answer :: answers) = success c answer ++ stored calls answers := rfl

theorem length_stored_le (calls : List Call) (answers : List Answer) :
    (stored calls answers).length ≤ calls.countP Call.isWrite := by
  induction calls generalizing answers with
  | nil => simp [stored]
  | cons c calls ih =>
    cases answers with
    | nil => simp [stored]
    | cons answer answers =>
      have rest := ih answers
      rw [stored_cons, List.length_append, List.countP_cons]
      have one : (success c answer).length ≤ if c.isWrite then 1 else 0 := by
        unfold success
        split <;> simp [Call.isWrite]
      omega

/-! ## What a key holds -/

/-- What a key holds after one call. -/
theorem find?_call (s : Store) (c : Call) (key : String) :
    (s.call c).2.find? key =
      Entry.afterAll (s.find? key) (writesTo key (success c (s.call c).1)) := by
  cases c with
  | get k => rfl
  | keys => rfl
  | isEmpty => rfl
  | write k w expected cancelled =>
    have written := write_written s k w expected cancelled
    simp only [call]
    generalize s.write k w expected cancelled = result at written ⊢
    cases written with
    | refused early => rfl
    | cancelled cleared token => rfl
    | rejected cleared token late => rfl
    | @stored e cleared token next =>
      have log : success (.write k w expected cancelled) (.record (.ok (e.record k))) = [(k, w)] :=
        rfl
      rw [log, find?_store, writesTo_cons]
      by_cases same : k = key
      · subst same
        rw [if_pos rfl, if_pos rfl, (Entry.next_ok next).1]
        rfl
      · rw [if_neg (Ne.symm same), if_neg same]
        rfl

/-- What a key holds after a run is what the successful writes make of what it held. -/
theorem find?_run (s : Store) (calls : List Call) (key : String) :
    (s.run calls).2.find? key =
      Entry.afterAll (s.find? key) (writesTo key (stored calls (s.run calls).1)) := by
  induction calls generalizing s with
  | nil => rfl
  | cons c rest ih =>
    simp only [run_cons, ih, find?_call, stored_cons, writesTo_append, Entry.afterAll_append]

/-- A call returns the versions next to the one that its key is at. -/
theorem version_call (s : Store) (c : Call) (key : String) :
    version key c (s.call c).1 =
      (List.range (writesTo key (success c (s.call c).1)).length).map fun i =>
        Entry.versionOf (s.find? key) + UInt64.ofNat (i + 1) := by
  cases c with
  | get k => cases s.get k <;> rfl
  | keys => rfl
  | isEmpty => rfl
  | write k w expected cancelled =>
    have written := write_written s k w expected cancelled
    simp only [call]
    generalize s.write k w expected cancelled = result at written ⊢
    cases written with
    | refused early => rfl
    | cancelled cleared token => rfl
    | rejected cleared token late => rfl
    | @stored e cleared token next =>
      simp only [version, success, writesTo_cons]
      by_cases same : k = key
      · subst same
        have counted : e.version = Entry.versionOf (s.find? k) + 1 := by
          rw [← Entry.versionOf_after (s.find? k) w, ← (Entry.next_ok next).1]
          rfl
        simpa [Entry.record] using counted
      · simp [same]

/-- The versions that the writes of a run to a key return go up by one each. -/
theorem versions_run (s : Store) (calls : List Call) (key : String) :
    versions key calls (s.run calls).1 =
      (List.range (writesTo key (stored calls (s.run calls).1)).length).map fun i =>
        Entry.versionOf (s.find? key) + UInt64.ofNat (i + 1) := by
  induction calls generalizing s with
  | nil => rfl
  | cons c rest ih =>
    have here := version_call s c key
    have behind := ih (s.call c).2
    rw [find?_call, Entry.versionOf_afterAll] at behind
    have split : versions key (c :: rest) (s.run (c :: rest)).1 =
        version key c (s.call c).1 ++ versions key rest ((s.call c).2.run rest).1 := rfl
    rw [split, here, behind, run_cons]
    simp only [stored_cons, writesTo_append, List.length_append, List.range_add, List.map_append,
      List.map_map]
    congr 1
    apply List.map_congr_left
    intro i _
    simp only [Function.comp_apply, UInt64.add_assoc, ← UInt64.ofNat_add, Nat.add_assoc]

/-! ## What every call keeps -/

/-- The keys are in order, and each is valid and has its lock. -/
structure Sound (s : Store) : Prop where
  sorted : Assoc.Sorted s.entries
  valid : ∀ key ∈ s.keys, Key.isValid key = true
  locked : ∀ key ∈ s.keys, (s.locks.locks.lookup key).isSome = true

theorem sound_empty : Sound empty where
  sorted := List.Pairwise.nil
  valid := by simp [keys, empty, Assoc.keys]
  locked := by simp [keys, empty, Assoc.keys]

/-- Whoever asks for a lock finds it there, and no lock goes away. -/
theorem lookup_touch (c : Lock.Coordinator) (key x : String) :
    ((c.touch key).locks.lookup x).isSome = (decide (x = key) || (c.locks.lookup x).isSome) := by
  rw [Lock.Coordinator.touch, Assoc.lookup_insert]
  by_cases same : x = key <;> simp [same]

namespace Sound

variable {s : Store}

theorem touch (h : Sound s) (key : String) : Sound (s.touch key) where
  sorted := h.sorted
  valid := h.valid
  locked x member := by
    have old := h.locked x member
    simp only [Store.touch, lookup_touch, old, Bool.or_true]

theorem store (h : Sound s) {key : String} (valid : Key.isValid key = true)
    (locked : (s.locks.locks.lookup key).isSome = true) (e : Entry) : Sound (s.store key e) where
  sorted := Assoc.sorted_insert key e h.sorted
  valid x member := by
    rcases (Assoc.keys_insert key e s.entries x).1 member with rfl | old
    · exact valid
    · exact h.valid x old
  locked x member := by
    rcases (Assoc.keys_insert key e s.entries x).1 member with rfl | old
    · exact locked
    · exact h.locked x old

theorem write (h : Sound s) (key : String) (w : Write) (expected : Option UInt64)
    (cancelled : Bool) : Sound (s.write key w expected cancelled).2 := by
  have written := write_written s key w expected cancelled
  generalize s.write key w expected cancelled = result at written ⊢
  cases written with
  | refused early => exact h
  | cancelled cleared token => exact h.touch key
  | rejected cleared token late => exact h.touch key
  | stored cleared token next =>
    refine (h.touch key).store (clearance_ok cleared).1 ?_ _
    simp only [Store.touch, lookup_touch, decide_true, Bool.true_or]

theorem call (h : Sound s) (c : Call) : Sound (s.call c).2 := by
  cases c with
  | write key w expected cancelled => exact h.write key w expected cancelled
  | _ => exact h

theorem run (h : Sound s) (calls : List Call) : Sound (s.run calls).2 := by
  induction calls generalizing s with
  | nil => exact h
  | cons c rest ih => exact ih (h.call c)

end Sound

/-- The keys are those that hold something. -/
theorem mem_keys (s : Store) (key : String) : key ∈ s.keys ↔ (s.find? key).isSome = true := by
  rw [keys, find?, Assoc.isSome_lookup]

/-! ## Runs from the empty store -/

/-- What a key holds after a run from the empty store. -/
theorem find?_run_empty (calls : List Call) (key : String) :
    (empty.run calls).2.find? key =
      (Write.fold (writesTo key (stored calls (empty.run calls).1))).map fun v =>
        ⟨v, UInt64.ofNat (writesTo key (stored calls (empty.run calls).1)).length⟩ := by
  rw [find?_run, ← Entry.afterAll_none]
  rfl

theorem isSome_fold (ws : List Write) : (Write.fold ws).isSome = true ↔ ws ≠ [] := by
  cases ws <;> simp [Write.fold]

/-- After any run a store is what its successful writes make it, for reading, listing and
the locks alike. -/
theorem run_history (calls : List Call) (few : calls.countP Call.isWrite < 2 ^ 64)
    (key : String) :
    let s := (empty.run calls).2
    let log := stored calls (empty.run calls).1
    let ws := writesTo key log
    ((s.find? key).isSome ↔ ws ≠ []) ∧
    (∀ e, s.find? key = some e → e.version.toNat = ws.length ∧ Write.fold ws = some e.value) ∧
    s.get key =
      (match Write.fold ws with
        | some v => .ok ⟨key, v, UInt64.ofNat ws.length⟩
        | none => .error (if Key.isValid key then .notFound key else .invalidKey key)) ∧
    s.keys.Pairwise (· < ·) ∧
    (key ∈ s.keys ↔ ws ≠ []) ∧
    (s.isEmpty ↔ log = []) ∧
    (ws ≠ [] → Key.isValid key ∧ (s.locks.locks.lookup key).isSome) := by
  intro s log ws
  have sound : Sound s := sound_empty.run calls
  have holds (x : String) : s.find? x = (Write.fold (writesTo x log)).map fun v =>
      ⟨v, UInt64.ofNat (writesTo x log).length⟩ := find?_run_empty calls x
  have present (x : String) : (s.find? x).isSome = true ↔ writesTo x log ≠ [] := by
    rw [holds, Option.isSome_map, isSome_fold]
  have counted : ws.length < 2 ^ 64 :=
    Nat.lt_of_le_of_lt (Nat.le_trans (length_writesTo_le key log) (length_stored_le calls _)) few
  refine ⟨present key, ?_, ?_, sound.sorted, (mem_keys s key).trans (present key), ?_, ?_⟩
  · intro e found
    rw [holds, Option.map_eq_some_iff] at found
    obtain ⟨v, folded, rfl⟩ := found
    exact ⟨UInt64.toNat_ofNat_of_lt' counted, folded⟩
  · have found := holds key
    cases folded : Write.fold ws with
    | none =>
      rw [folded] at found
      by_cases valid : Key.isValid key <;> simp [get, valid, found]
    | some v =>
      rw [folded] at found
      have valid : Key.isValid key = true :=
        sound.valid key ((mem_keys s key).2 (by rw [found]; rfl))
      simp only [get, valid, found]
      rfl
  · constructor
    · intro noEntries
      apply Classical.byContradiction
      intro logged
      obtain ⟨x, written⟩ := exists_writesTo_ne_nil logged
      have member := (mem_keys s x).2 ((present x).2 written)
      have : s.entries = [] := List.isEmpty_iff.1 noEntries
      rw [keys, this] at member
      cases member
    · intro nothing
      have absent (x : String) : x ∉ s.keys := by
        rw [mem_keys, present, nothing]
        simp
      have : s.keys = [] := List.eq_nil_iff_forall_not_mem.2 absent
      exact List.isEmpty_iff.2 (List.map_eq_nil_iff.1 this)
  · intro written
    have member := (mem_keys s key).2 ((present key).2 written)
    exact ⟨sound.valid key member, sound.locked key member⟩

/-- A write that succeeds, one that is rejected and one that is cancelled. -/
theorem run_history_three_writes :
    let calls : List Call :=
      [.write "k" (.replace (.bool true)) none false, .write "k" (.replace .null) (some 5) false,
        .write "k" (.replace .null) none true]
    calls.countP Call.isWrite < 2 ^ 64 ∧
      (empty.run calls).2.get "k" = .ok ⟨"k", .bool true, 1⟩ := by
  intro calls
  have few : calls.countP Call.isWrite < 2 ^ 64 := by decide
  exact ⟨few, (run_history calls few "k").2.2.1.trans rfl⟩

/-- A key that is not valid is refused even by a new store, not just missed. -/
theorem get_refuses_invalid_key :
    let s := (empty.run []).2
    ¬ ((∃ v n, s.get "a/b" = .ok ⟨"a/b", v, n⟩) ∨ s.get "a/b" = .error (.notFound "a/b")) := by
  have refused : (empty.run []).2.get "a/b" = .error (.invalidKey "a/b") := rfl
  intro s
  rw [refused]
  rintro (⟨v, n, found⟩ | missed)
  · cases found
  · cases missed

end Store

end ShardStore
