/-
# ShardStore.Proofs.Store.Patches -- patches of different fields commute

The first patch of a key is not like those behind it: it makes the key, or takes the place
of a value that is no object, and only from then on do patches merge.  Still two patches that
share no field may change places, whatever the key holds before them (`Entry.after_comm`):
either way both end up in one object.  So may any number of them that share no fields
(`patches_commute`).
-/
import ShardStore.Proofs.Json.Merge
import ShardStore.Proofs.Lock
import ShardStore.Proofs.Store.History

namespace ShardStore

set_option autoImplicit false

/-- Whatever a key holds, two patches that share no field leave the same. -/
theorem Entry.after_comm {fs gs : List (String × Json.Value)} (apart : Json.Apart fs gs)
    (current : Option Entry) :
    after (some (after current (.merge (.object fs)))) (.merge (.object gs)) =
      after (some (after current (.merge (.object gs)))) (.merge (.object fs)) := by
  cases current with
  | none => exact congrArg (Entry.mk · 2) (Json.Value.merge_object_comm apart)
  | some e => exact congrArg (Entry.mk · (e.version + 1 + 1)) (Json.Value.merge_comm apart e.value)

theorem Lock.Coordinator.touch_touch (c : Lock.Coordinator) (key : String) :
    (c.touch key).touch key = c.touch key := by
  have same : ((c.touch key).touch key).locks = (c.touch key).locks := by
    rw [touch, lockOf_touch]
    exact Assoc.insert_insert key _ _ _
  exact congrArg (Coordinator.mk · c.cancelled) same

namespace Store

/-- A patch of a key with an object, at whatever version. -/
def Call.patch (key : String) (delta : List (String × Json.Value)) : Call :=
  .write key (.merge (.object delta)) none false

section Patches

variable {key : String}

/-! ## One patch -/

/-- A patch of a valid key is stored. -/
theorem call_patch (valid : Key.isValid key = true) (s : Store)
    (delta : List (String × Json.Value)) :
    s.call (.patch key delta) =
      (.record (.ok ((Entry.after (s.find? key) (.merge (.object delta))).record key)),
        (s.touch key).store key (Entry.after (s.find? key) (.merge (.object delta)))) := by
  have cleared : clearance key (.merge (.object delta)) = .ok () :=
    clearance_of_ne valid (by simp)
  have next := Entry.next_eq key (s.find? key) (.merge (.object delta)) none
  simp only [call, Call.patch, write_stored cleared next]

/-- Two patches leave behind what the second one makes of the first. -/
theorem call_patch_twice (valid : Key.isValid key = true) (s : Store)
    (delta later : List (String × Json.Value)) :
    ((s.call (.patch key delta)).2.call (.patch key later)).2 =
      (s.touch key).store key (Entry.after
        (some (Entry.after (s.find? key) (.merge (.object delta)))) (.merge (.object later))) := by
  rw [call_patch valid, call_patch valid, find?_store, if_pos rfl]
  simp only [store, touch, Lock.Coordinator.touch_touch, Assoc.insert_insert]

theorem call_patch_comm (valid : Key.isValid key = true) {delta later : List (String × Json.Value)}
    (apart : Json.Apart delta later) (s : Store) :
    ((s.call (.patch key delta)).2.call (.patch key later)).2 =
      ((s.call (.patch key later)).2.call (.patch key delta)).2 := by
  rw [call_patch_twice valid, call_patch_twice valid, Entry.after_comm apart]

/-! ## Any number of patches -/

theorem run_eq_foldl (s : Store) (calls : List Call) :
    (s.run calls).2 = calls.foldl (fun s c => (s.call c).2) s := by
  induction calls generalizing s with
  | nil => rfl
  | cons c rest ih => exact ih (s.call c).2

/-- Every patch of a valid key succeeds. -/
theorem stored_patches (valid : Key.isValid key = true) (s : Store)
    (deltas : List (List (String × Json.Value))) :
    stored (deltas.map (Call.patch key)) (s.run (deltas.map (Call.patch key))).1 =
      (deltas.map fun delta => .merge (.object delta)).map fun w => (key, w) := by
  induction deltas generalizing s with
  | nil => rfl
  | cons delta deltas ih =>
    rw [List.map_cons, run_cons, stored_cons, ih, call_patch valid]
    rfl

theorem writesTo_map (key x : String) (ws : List Write) :
    writesTo x (ws.map fun w => (key, w)) = if key = x then ws else [] := by
  induction ws with
  | nil => split <;> rfl
  | cons w ws ih =>
    rw [List.map_cons, writesTo_cons, ih]
    split <;> rfl

theorem answer_patches (valid : Key.isValid key = true) (s : Store)
    (deltas : List (List (String × Json.Value))) :
    ∀ answer ∈ (s.run (deltas.map (Call.patch key))).1, ∃ r, answer = .record (.ok r) := by
  induction deltas generalizing s with
  | nil => simp [run]
  | cons delta deltas ih =>
    intro answer member
    rw [List.map_cons, run_cons] at member
    rcases List.mem_cons.1 member with rfl | later
    · rw [call_patch valid]
      exact ⟨_, rfl⟩
    · exact ih _ answer later

/-- Patches of a valid key with objects that share no fields all succeed, and leave the same
behind in whatever order they come: what the key holds is made by all of them, and no other
key changes. -/
theorem patches_commute (s : Store) (valid : Key.isValid key = true)
    {deltas others : List (List (String × Json.Value))} (apart : deltas.Pairwise Json.Apart)
    (reordered : deltas.Perm others) :
    let first := s.run (deltas.map (Call.patch key))
    let second := s.run (others.map (Call.patch key))
    (∀ answer ∈ first.1 ++ second.1, ∃ r, answer = .record (.ok r)) ∧
      first.2 = second.2 ∧
      first.2.find? key =
        Entry.afterAll (s.find? key) (deltas.map fun delta => .merge (.object delta)) ∧
      ∀ x, x ≠ key → first.2.find? x = s.find? x := by
  intro first second
  refine ⟨?_, ?_, ?_, ?_⟩
  · intro answer member
    rcases List.mem_append.1 member with member | member
    · exact answer_patches valid s deltas answer member
    · exact answer_patches valid s others answer member
  · have commute : ∀ d ∈ deltas, ∀ e ∈ deltas, ∀ u : Store,
        ((u.call (.patch key d)).2.call (.patch key e)).2 =
          ((u.call (.patch key e)).2.call (.patch key d)).2 :=
      List.Pairwise.forall_of_forall_of_flip (fun _ _ _ => rfl)
        (apart.imp fun far => call_patch_comm valid far)
        (apart.imp fun far => call_patch_comm valid far.symm)
    simp only [first, second, run_eq_foldl, List.foldl_map]
    exact reordered.foldl_eq' commute s
  · rw [find?_run, stored_patches valid, writesTo_map, if_pos rfl]
  · intro x other
    rw [find?_run, stored_patches valid, writesTo_map, if_neg (Ne.symm other), Entry.afterAll_nil]

end Patches

/-- Three patches of a key that holds no object, one of them empty. -/
theorem patches_commute_replacing :
    let s := (empty.run [.write "k" (.replace (.bool true)) none false]).2
    let a : List (String × Json.Value) := [("a", .null)]
    let b : List (String × Json.Value) := [("b", .bool false)]
    Key.isValid "k" = true ∧ [b, [], a].Pairwise Json.Apart ∧ [b, [], a].Perm [a, b, []] ∧
      (s.run ([b, [], a].map (Call.patch "k"))).2 = (s.run ([a, b, []].map (Call.patch "k"))).2 ∧
      (s.run ([b, [], a].map (Call.patch "k"))).2.find? "k" =
        some ⟨.object [("a", .null), ("b", .bool false)], 4⟩ := by
  intro s a b
  have valid : Key.isValid "k" = true := by decide
  have apart : [b, [], a].Pairwise Json.Apart := by simp [a, b, Json.Apart, Assoc.keys]
  have reordered : [b, [], a].Perm [a, b, []] := List.perm_append_singleton a [b, []]
  obtain ⟨-, same, held, -⟩ := patches_commute s valid apart reordered
  exact ⟨valid, apart, reordered, same, held.trans rfl⟩

end Store

end ShardStore
