/-
# ShardStore.Proofs.Store.Outcome -- how a write ends, and what it leaves alone

A write may have several faults at once.  The checks have an order, and the first one that
fails says what is wrong (`Refused`):

* the key is not valid;
* the delta of a patch is null;
* the caller's token is cancelled;
* the version expected is not the version of the key, zero if the key is absent.

A write that is refused leaves all entries as they were, and one that does not get as far as
the lock leaves the locks alone too.  A write that is not refused is stored: its record is
what the key holds from then on, and no other key changes (`put_patch_settled`).
-/
import ShardStore.Proofs.Store.Step

namespace ShardStore.Store

set_option autoImplicit false

/-- The key is valid and the delta, if there is one, is not null. -/
def Admitted (key : String) (w : Write) : Prop := Key.isValid key = true ∧ w ≠ .merge .null

/-- The fault that a write is refused for: no check before it has failed. -/
inductive Refused (s : Store) (key : String) (w : Write) (expected : Option UInt64)
    (cancelled : Bool) : Fault → Prop where
  | key (invalid : Key.isValid key = false) : Refused s key w expected cancelled (.invalidKey key)
  | payload (valid : Key.isValid key = true) (null : w = .merge .null) :
      Refused s key w expected cancelled (.invalidPayload .nullDelta)
  | token (admitted : Admitted key w) (ended : cancelled = true) :
      Refused s key w expected cancelled .cancelled
  | version (admitted : Admitted key w) (live : cancelled = false) {v : UInt64}
      (given : expected = some v) (other : v ≠ Entry.versionOf (s.find? key)) :
      Refused s key w expected cancelled (.versionMismatch key v (Entry.versionOf (s.find? key)))

/-- All that a write does: what it answers, and the store after it. -/
structure Settled (s : Store) (key : String) (w : Write) (expected : Option UInt64)
    (cancelled : Bool) (run : Except Fault Record × Store) : Prop where
  refused (fault : Fault) : run.1 = .error fault ↔ Refused s key w expected cancelled fault
  accepted : (∃ r, run.1 = .ok r) ↔ ∀ fault, ¬ Refused s key w expected cancelled fault
  unchanged (fault : Fault) : run.1 = .error fault → run.2.entries = s.entries
  untouched : ¬ Admitted key w → run.2 = s
  stored (r : Record) : run.1 = .ok r →
    r = (Entry.after (s.find? key) w).record key ∧ run.2.get key = .ok r ∧
      ∀ x, x ≠ key → run.2.find? x = s.find? x

variable {s : Store} {key : String} {w : Write} {expected : Option UInt64} {cancelled : Bool}
  {fault : Fault} {r : Record}

/-! ## Refusals -/

theorem Refused.write (refused : Refused s key w expected cancelled fault) :
    (s.write key w expected cancelled).1 = .error fault := by
  cases refused with
  | key invalid => rw [write_refused (clearance_invalid invalid w)]
  | payload valid null =>
    subst null
    rw [write_refused (clearance_null valid)]
  | token admitted ended =>
    subst ended
    rw [write_cancelled (clearance_of_ne admitted.1 admitted.2)]
  | version admitted live given other =>
    subst live given
    have late : Entry.next key (s.find? key) w (some _) = .error _ :=
      (Entry.next_eq key (s.find? key) w (some _)).trans (if_neg other)
    rw [write_rejected (clearance_of_ne admitted.1 admitted.2) late]

theorem refused_of_write (failed : (s.write key w expected cancelled).1 = .error fault) :
    Refused s key w expected cancelled fault := by
  have written := write_written s key w expected cancelled
  generalize s.write key w expected cancelled = result at written failed
  cases written with
  | refused early =>
    cases failed
    rcases clearance_error early with ⟨invalid, rfl⟩ | ⟨valid, null, rfl⟩
    · exact .key invalid
    · exact .payload valid null
  | cancelled cleared token =>
    cases failed
    exact .token (clearance_ok cleared) token
  | rejected cleared token late =>
    cases failed
    obtain ⟨v, given, other, rfl⟩ := Entry.next_error late
    exact .version (clearance_ok cleared) token given other
  | stored cleared token next => cases failed

/-! ## What the store holds then -/

theorem entries_of_error (failed : (s.write key w expected cancelled).1 = .error fault) :
    (s.write key w expected cancelled).2.entries = s.entries := by
  have written := write_written s key w expected cancelled
  generalize s.write key w expected cancelled = result at written failed ⊢
  cases written with
  | refused early => rfl
  | cancelled cleared token => rfl
  | rejected cleared token late => rfl
  | stored cleared token next => cases failed

/-- A write that is not admitted does not ask for the lock. -/
theorem write_of_not_admitted (barred : ¬ Admitted key w) :
    (s.write key w expected cancelled).2 = s := by
  have written := write_written s key w expected cancelled
  generalize s.write key w expected cancelled = result at written ⊢
  cases written with
  | refused early => rfl
  | cancelled cleared token => exact absurd (clearance_ok cleared) barred
  | rejected cleared token late => exact absurd (clearance_ok cleared) barred
  | stored cleared token next => exact absurd (clearance_ok cleared) barred

theorem stored_of_ok (succeeded : (s.write key w expected cancelled).1 = .ok r) :
    r = (Entry.after (s.find? key) w).record key ∧
      (s.write key w expected cancelled).2.get key = .ok r ∧
      ∀ x, x ≠ key → (s.write key w expected cancelled).2.find? x = s.find? x := by
  have written := write_written s key w expected cancelled
  generalize s.write key w expected cancelled = result at written succeeded ⊢
  cases written with
  | refused early => cases succeeded
  | cancelled cleared token => cases succeeded
  | rejected cleared token late => cases succeeded
  | @stored e cleared token next =>
    cases succeeded
    have made := (Entry.next_ok next).1
    have valid := (clearance_ok cleared).1
    refine ⟨by rw [made], ?_, ?_⟩
    · have found : ((s.touch key).store key e).find? key = some e := by
        rw [find?_store, if_pos rfl]
      simp [get, valid, found]
    · intro x other
      rw [find?_store, if_neg other]
      rfl

theorem write_settled (s : Store) (key : String) (w : Write) (expected : Option UInt64)
    (cancelled : Bool) :
    Settled s key w expected cancelled (s.write key w expected cancelled) where
  refused _ := ⟨refused_of_write, Refused.write⟩
  accepted := by
    constructor
    · rintro ⟨r, succeeded⟩ fault refused
      rw [refused.write] at succeeded
      cases succeeded
    · intro free
      cases ended : (s.write key w expected cancelled).1 with
      | ok r => exact ⟨r, rfl⟩
      | error fault => exact absurd (refused_of_write ended) (free fault)
  unchanged _ := entries_of_error
  untouched := write_of_not_admitted
  stored _ := stored_of_ok

/-- Every put and every patch is refused for the first of its faults and leaves the entries
alone, or is stored under its key and nowhere else. -/
theorem put_patch_settled (s : Store) (key : String) (payload : Json.Value)
    (expected : Option UInt64) (cancelled : Bool) :
    Settled s key (.replace payload) expected cancelled (s.put key payload expected cancelled) ∧
      Settled s key (.merge payload) expected cancelled
        (s.patch key payload expected cancelled) :=
  ⟨write_settled s key _ expected cancelled, write_settled s key _ expected cancelled⟩

end ShardStore.Store
