/-
# ShardStore.Proofs.Store.Step -- what one write does to a store

A write ends in one of four ways (`Written`): it is refused before it asks for the lock,
it is cancelled, it is rejected for the version it expects, or it is stored.  Only the
last changes the entries, and only at its key.  Every later proof about writes goes by
these four cases.

* `write_written` -- every write ends in one of them;
* `Entry.next_eq` -- the entry that a stored write makes, and when a write is rejected.
-/
import ShardStore.Store.Basic

namespace ShardStore

set_option autoImplicit false

/-! ## Against one entry -/

namespace Entry

/-- The version of a key, zero if it holds nothing. -/
def versionOf (current : Option Entry) : UInt64 := (current.map (·.version)).getD 0

/-- The entry of a key after a write that is stored. -/
def after (current : Option Entry) (w : Write) : Entry :=
  match current with
  | none => create w
  | some e => ⟨w.apply e.value, e.version + 1⟩

/-- A write is rejected exactly if it expects another version. -/
theorem next_eq (key : String) (current : Option Entry) (w : Write) (expected : Option UInt64) :
    next key current w expected =
      match expected with
      | none => .ok (after current w)
      | some v =>
        if v = versionOf current then .ok (after current w)
        else .error (.versionMismatch key v (versionOf current)) := by
  cases current with
  | none =>
    cases expected with
    | none => rfl
    | some v =>
      by_cases same : v = 0
      · subst same
        rfl
      · simp only [next, ensureAbsent, if_pos same]
        exact (if_neg same).symm
  | some e =>
    cases expected with
    | none => rfl
    | some v =>
      by_cases same : v = e.version
      · simp only [next, apply, Option.all_some, same, decide_true, if_true]
        exact (if_pos rfl).symm
      · simp only [next, apply, Option.all_some, same, decide_false, Bool.false_eq_true, if_false]
        exact (if_neg same).symm

theorem next_ok {key : String} {current : Option Entry} {w : Write} {expected : Option UInt64}
    {e : Entry} (h : next key current w expected = .ok e) :
    e = after current w ∧ ∀ v, expected = some v → v = versionOf current := by
  rw [next_eq] at h
  cases expected with
  | none => exact ⟨(Except.ok.inj h).symm, by simp⟩
  | some v =>
    simp only at h
    split at h
    · rename_i same
      refine ⟨(Except.ok.inj h).symm, ?_⟩
      rintro u ⟨⟩
      exact same
    · cases h

theorem next_error {key : String} {current : Option Entry} {w : Write} {expected : Option UInt64}
    {fault : Store.Fault} (h : next key current w expected = .error fault) :
    ∃ v, expected = some v ∧ v ≠ versionOf current ∧
      fault = .versionMismatch key v (versionOf current) := by
  rw [next_eq] at h
  cases expected with
  | none => cases h
  | some v =>
    simp only at h
    split at h
    · cases h
    · rename_i other
      exact ⟨v, rfl, other, (Except.error.inj h).symm⟩

end Entry

/-! ## The check before the lock -/

namespace Store

theorem clearance_ok {key : String} {w : Write} (h : clearance key w = .ok ()) :
    Key.isValid key = true ∧ w ≠ .merge .null := by
  unfold clearance at h
  split at h
  · cases h
  · rename_i valid
    refine ⟨by simpa using valid, ?_⟩
    rintro rfl
    cases h

theorem clearance_error {key : String} {w : Write} {fault : Fault}
    (h : clearance key w = .error fault) :
    (Key.isValid key = false ∧ fault = .invalidKey key) ∨
      (Key.isValid key = true ∧ w = .merge .null ∧ fault = .invalidPayload .nullDelta) := by
  unfold clearance at h
  split at h
  · rename_i invalid
    exact Or.inl ⟨by simpa using invalid, (Except.error.inj h).symm⟩
  · rename_i valid
    split at h
    · exact Or.inr ⟨by simpa using valid, rfl, (Except.error.inj h).symm⟩
    · cases h

theorem clearance_invalid {key : String} (invalid : Key.isValid key = false) (w : Write) :
    clearance key w = .error (.invalidKey key) := by
  unfold clearance
  rw [if_pos (by simpa using invalid)]

theorem clearance_null {key : String} (valid : Key.isValid key = true) :
    clearance key (.merge .null) = .error (.invalidPayload .nullDelta) := by
  unfold clearance
  rw [if_neg (by simpa using valid)]

theorem clearance_of_ne {key : String} (valid : Key.isValid key = true) {w : Write}
    (present : w ≠ .merge .null) : clearance key w = .ok () := by
  unfold clearance
  rw [if_neg (by simpa using valid)]
  split
  · exact absurd rfl present
  · rfl

/-! ## One write -/

/-- Makes sure that a key has its lock. -/
def touch (s : Store) (key : String) : Store := { s with locks := s.locks.touch key }

@[simp] theorem touch_entries (s : Store) (key : String) : (s.touch key).entries = s.entries := rfl

/-- The store with an entry put under its key. -/
def store (s : Store) (key : String) (e : Entry) : Store :=
  { s with entries := Assoc.insert key e s.entries }

@[simp] theorem store_entries (s : Store) (key : String) (e : Entry) :
    (s.store key e).entries = Assoc.insert key e s.entries := rfl

@[simp] theorem store_locks (s : Store) (key : String) (e : Entry) :
    (s.store key e).locks = s.locks := rfl

theorem find?_store (s : Store) (key x : String) (e : Entry) :
    (s.store key e).find? x = if x = key then some e else s.find? x :=
  Assoc.lookup_insert key x e s.entries

/-- The ways in which a write ends. -/
inductive Written (s : Store) (key : String) (w : Write) (expected : Option UInt64)
    (cancelled : Bool) : Except Fault Record × Store → Prop where
  | refused {fault : Fault} (early : clearance key w = .error fault) :
      Written s key w expected cancelled (.error fault, s)
  | cancelled (cleared : clearance key w = .ok ()) (token : cancelled = true) :
      Written s key w expected cancelled (.error .cancelled, s.touch key)
  | rejected {fault : Fault} (cleared : clearance key w = .ok ()) (token : cancelled = false)
      (late : Entry.next key (s.find? key) w expected = .error fault) :
      Written s key w expected cancelled (.error fault, s.touch key)
  | stored {e : Entry} (cleared : clearance key w = .ok ()) (token : cancelled = false)
      (next : Entry.next key (s.find? key) w expected = .ok e) :
      Written s key w expected cancelled (.ok (e.record key), (s.touch key).store key e)

theorem write_written (s : Store) (key : String) (w : Write) (expected : Option UInt64)
    (cancelled : Bool) : Written s key w expected cancelled (s.write key w expected cancelled) := by
  unfold write
  split
  · rename_i fault early
    exact .refused early
  · rename_i cleared
    cases cancelled with
    | true => exact .cancelled cleared rfl
    | false =>
      have same : find? (s.touch key) key = s.find? key := rfl
      simp only [Bool.false_eq_true, if_false]
      change Written s key w expected false ((s.touch key).applyLocked key w expected)
      unfold applyLocked
      rw [same]
      split
      · rename_i e next
        exact .stored cleared rfl next
      · rename_i fault late
        exact .rejected cleared rfl late

theorem write_refused {s : Store} {key : String} {w : Write} {fault : Fault}
    (early : clearance key w = .error fault) (expected : Option UInt64) (cancelled : Bool) :
    s.write key w expected cancelled = (.error fault, s) := by
  simp only [write, early]

theorem write_cancelled {s : Store} {key : String} {w : Write} (cleared : clearance key w = .ok ())
    (expected : Option UInt64) :
    s.write key w expected true = (.error .cancelled, s.touch key) := by
  simp only [write, cleared, if_true]
  rfl

theorem write_rejected {s : Store} {key : String} {w : Write} {expected : Option UInt64}
    {fault : Fault} (cleared : clearance key w = .ok ())
    (late : Entry.next key (s.find? key) w expected = .error fault) :
    s.write key w expected false = (.error fault, s.touch key) := by
  have same : find? (s.touch key) key = s.find? key := rfl
  simp only [write, cleared, Bool.false_eq_true, if_false]
  change (s.touch key).applyLocked key w expected = _
  simp only [applyLocked, same, late]

theorem write_stored {s : Store} {key : String} {w : Write} {expected : Option UInt64} {e : Entry}
    (cleared : clearance key w = .ok ())
    (next : Entry.next key (s.find? key) w expected = .ok e) :
    s.write key w expected false = (.ok (e.record key), (s.touch key).store key e) := by
  have same : find? (s.touch key) key = s.find? key := rfl
  simp only [write, cleared, Bool.false_eq_true, if_false]
  change (s.touch key).applyLocked key w expected = _
  simp only [applyLocked, same, next]
  rfl

/-- A write on two stores that hold the same under its key is answered alike, and stored in
both or in neither. -/
theorem write_congr {s u : Store} {key : String} (same : s.find? key = u.find? key) (w : Write)
    (expected : Option UInt64) (cancelled : Bool) :
    (s.write key w expected cancelled).1 = (u.write key w expected cancelled).1 ∧
      (((s.write key w expected cancelled).2.entries = s.entries ∧
          (u.write key w expected cancelled).2.entries = u.entries) ∨
        ∃ e, Key.isValid key = true ∧
          (s.write key w expected cancelled).2.entries = Assoc.insert key e s.entries ∧
          (u.write key w expected cancelled).2.entries = Assoc.insert key e u.entries) := by
  have written := write_written s key w expected cancelled
  generalize s.write key w expected cancelled = result at written ⊢
  cases written with
  | refused early =>
    rw [write_refused early]
    exact ⟨rfl, Or.inl ⟨rfl, rfl⟩⟩
  | cancelled cleared token =>
    subst token
    rw [write_cancelled cleared]
    exact ⟨rfl, Or.inl ⟨rfl, rfl⟩⟩
  | rejected cleared token late =>
    subst token
    rw [write_rejected cleared (same ▸ late)]
    exact ⟨rfl, Or.inl ⟨rfl, rfl⟩⟩
  | @stored e cleared token next =>
    subst token
    rw [write_stored cleared (same ▸ next)]
    exact ⟨rfl, Or.inr ⟨e, (clearance_ok cleared).1, rfl, rfl⟩⟩

/-- An answer, and the entries after it, depend on the entries alone. -/
theorem call_congr {s u : Store} (same : s.entries = u.entries) (c : Call) :
    (s.call c).1 = (u.call c).1 ∧ (s.call c).2.entries = (u.call c).2.entries := by
  have found (x : String) : s.find? x = u.find? x := by rw [find?, same, find?]
  cases c with
  | get key => exact ⟨by simp only [call, get, found], same⟩
  | keys => exact ⟨by simp only [call, keys, same], same⟩
  | isEmpty => exact ⟨by simp only [call, isEmpty, same], same⟩
  | write key w expected cancelled =>
    obtain ⟨result, ⟨left, right⟩ | ⟨e, -, left, right⟩⟩ :=
      write_congr (found key) w expected cancelled
    · exact ⟨congrArg Answer.record result, left.trans (same.trans right.symm)⟩
    · refine ⟨congrArg Answer.record result, ?_⟩
      change (s.write key w expected cancelled).2.entries =
        (u.write key w expected cancelled).2.entries
      rw [left, right, same]

end Store

end ShardStore
