/-
# ShardStore.Proofs.Store.Independence -- keys do not get in each other's way

A call on a key looks at what the store holds under the key and at nothing else (`call_on`),
and a call on another key leaves that alone (`call_off`).  So a key sees of a run its own
calls only: they are answered, and leave the key, as if nothing else had been called
(`runOn_eq`).

Two runs are reorderings of each other if no two calls on one key have changed places
(`Reordered`).  Then every key sees the same run, so every call is answered alike and the
entries end up the same (`run_reordered`).
-/
import ShardStore.Proofs.Store.History

namespace ShardStore.Store

set_option autoImplicit false

/-! ## Calls on a key -/

/-- The key that a call is on. -/
def Call.key? : Call → Option String
  | .get key => some key
  | .write key _ _ _ => some key
  | .keys | .isEmpty => none

def Call.isOn (key : String) (c : Call) : Bool := c.key? = some key

/-- The calls of a run that are on a key, each with its answer. -/
def runOn (s : Store) (key : String) (calls : List Call) : List (Call × Answer) :=
  (calls.zip (s.run calls).1).filter (·.1.isOn key)

section Calls

variable {s u : Store} {c : Call} {key : String}

/-- A call on a key depends on what the store holds under it. -/
theorem call_on (on : c.isOn key = true) (same : s.find? key = u.find? key) :
    (s.call c).1 = (u.call c).1 ∧ (s.call c).2.find? key = (u.call c).2.find? key := by
  have named : c.key? = some key := of_decide_eq_true on
  have answer : (s.call c).1 = (u.call c).1 := by
    cases c with
    | get k =>
      obtain rfl : k = key := Option.some.inj named
      show Answer.record (s.get k) = Answer.record (u.get k)
      rw [get, get, same]
    | write k w expected cancelled =>
      obtain rfl : k = key := Option.some.inj named
      exact congrArg Answer.record (write_congr same w expected cancelled).1
    | keys => cases named
    | isEmpty => cases named
  refine ⟨answer, ?_⟩
  -- what a key holds then is made of what it held and of the answer
  rw [find?_call, find?_call, answer, same]

/-- A call that is not on a key leaves what the key holds. -/
theorem call_off (off : c.isOn key = false) : (s.call c).2.find? key = s.find? key := by
  have apart : writesTo key (success c (s.call c).1) = [] := by
    cases c with
    | write k w expected cancelled =>
      have other : k ≠ key := by
        intro same
        apply of_decide_eq_false off
        rw [same]
        rfl
      unfold success
      split
      · rename_i called _
        cases called
        rw [writesTo_cons, if_neg other]
        rfl
      · rfl
    | _ => rfl
  rw [find?_call, apart, Entry.afterAll_nil]

/-! ## Runs as a key sees them -/

/-- A key sees its own calls, answered as if nothing else had been called. -/
theorem runOn_eq (same : s.find? key = u.find? key) (calls : List Call) :
    s.runOn key calls =
        (calls.filter (·.isOn key)).zip (u.run (calls.filter (·.isOn key))).1 ∧
      (s.run calls).2.find? key = (u.run (calls.filter (·.isOn key))).2.find? key := by
  induction calls generalizing s u with
  | nil => exact ⟨rfl, same⟩
  | cons c rest ih =>
    have cons : s.runOn key (c :: rest) =
        if c.isOn key then (c, (s.call c).1) :: (s.call c).2.runOn key rest
        else (s.call c).2.runOn key rest :=
      List.filter_cons
    cases on : c.isOn key with
    | true =>
      obtain ⟨answer, next⟩ := call_on on same
      obtain ⟨answers, last⟩ := ih next
      rw [cons, if_pos on, List.filter_cons_of_pos on, run_cons, run_cons, answer, answers]
      exact ⟨rfl, last⟩
    | false =>
      obtain ⟨answers, last⟩ := ih ((call_off on).trans same)
      rw [cons, on, List.filter_cons_of_neg (by rw [on]; exact Bool.false_ne_true), run_cons]
      exact ⟨answers, last⟩

end Calls

/-- The answer to a call of a run is that of the store as the calls before leave it. -/
theorem answer_run (s : Store) (before : List Call) (c : Call) (behind : List Call) :
    (s.run (before ++ c :: behind)).1[before.length]? = some ((s.run before).2.call c).1 := by
  rw [run_append, run_cons, ← length_run s before, List.getElem?_append_right (Nat.le_refl _),
    Nat.sub_self]
  rfl

/-! ## Reordered runs -/

/-- The same calls in another order, but the calls on one key in the same. -/
structure Reordered (calls others : List Call) : Prop where
  perm : calls.Perm others
  order : ∀ key, calls.filter (·.isOn key) = others.filter (·.isOn key)

/-- In runs that are reorderings of each other every call on a key is answered alike and the
entries end up the same; for a call is answered as its key's earlier calls alone decide. -/
theorem run_reordered {calls others : List Call} (reordered : Reordered calls others) :
    (∀ key, empty.runOn key calls = empty.runOn key others) ∧
    (empty.run calls).2.entries = (empty.run others).2.entries ∧
    ∀ before c behind key, calls = before ++ c :: behind → c.isOn key = true →
      (empty.run calls).1[before.length]? =
        some ((empty.run (before.filter (·.isOn key))).2.call c).1 := by
  refine ⟨fun key => ?_, ?_, ?_⟩
  · rw [(runOn_eq rfl calls).1, (runOn_eq rfl others).1, reordered.order]
  · apply Assoc.eq_of_lookup (sound_empty.run calls).sorted (sound_empty.run others).sorted
    intro key
    show (empty.run calls).2.find? key = (empty.run others).2.find? key
    rw [(runOn_eq rfl calls).2, (runOn_eq rfl others).2, reordered.order]
  · rintro before c behind key rfl on
    rw [answer_run]
    exact congrArg some (call_on on (runOn_eq rfl before).2).1

/-- A write that is rejected and one that is cancelled, both under one key, go past two writes
and a reading under another. -/
theorem run_reordered_two_keys :
    let create : Call := .write "a" (.replace (.bool true)) none false
    let update : Call := .write "a" (.replace .null) (some 1) false
    let rejected : Call := .write "b" (.replace .null) (some 5) false
    let cancelled : Call := .write "b" (.replace .null) none true
    let calls := [create, rejected, .get "a", cancelled, update]
    let others := [rejected, cancelled, create, .get "a", update]
    Reordered calls others ∧
      (empty.run calls).2.entries = (empty.run others).2.entries ∧
      (empty.run calls).1[2]? = some (.record (.ok ⟨"a", .bool true, 1⟩)) := by
  intro create update rejected cancelled calls others
  have reordered : Reordered calls others := by
    constructor
    · -- both calls on `b` move to the front
      have first : ([create] ++ rejected :: [.get "a", cancelled, update]).Perm
          (rejected :: ([create, .get "a"] ++ cancelled :: [update])) := List.perm_middle
      exact first.trans (List.perm_middle.cons rejected)
    · intro key
      by_cases a : key = "a"
      · subst a
        rfl
      · by_cases b : key = "b"
        · subst b
          rfl
        · simp [calls, others, create, update, rejected, cancelled, Call.isOn, Call.key?,
            Ne.symm a, Ne.symm b]
  obtain ⟨-, entries, answers⟩ := run_reordered reordered
  refine ⟨reordered, entries, ?_⟩
  exact (answers [create, rejected] (.get "a") [cancelled, update] "a" rfl rfl).trans rfl

end ShardStore.Store
