/-
# ShardStore.Proofs.Topology.Nodes -- what becomes of a list of nodes

Nodes make a topology if there are some and no two share a name.  The names are gone through
once, and each is held against those that have been seen; so the name that is reported stands at
the first place whose name stands before it as well (`Repeats`, `firstRepeated?_eq_some`), and
none is reported exactly if all names differ (`nodup_iff_not_repeats`).

Where all names differ, a name finds the one node that has it (`get?_eq_some`).  The ring of the
topology has points of the topology's nodes only, so every owner of a key is found by its name.
-/
import Mathlib.Logic.Basic
import ShardStore.Proofs.Ring

namespace ShardStore

set_option autoImplicit false

namespace Topology

/-! ## Names that stand twice -/

/-- The name at a place stands before it as well. -/
def Repeats (names : List String) (i : Nat) : Prop :=
  ∃ id ∈ names[i]?, id ∈ names.take i

section Names

variable {names : List String} {i j : Nat} {id : String}

theorem nodup_iff_not_repeats : names.Nodup ↔ ∀ i, ¬ Repeats names i := by
  rw [List.Nodup, List.pairwise_iff_getElem]
  constructor
  · rintro apart i ⟨id, here, before⟩
    obtain ⟨among, rfl⟩ := List.getElem?_eq_some_iff.1 here
    obtain ⟨j, earlier, same⟩ := List.mem_take_iff_getElem.1 before
    exact apart j i (by omega) among (by omega) same
  · intro fresh i j _ among earlier same
    have before : names[j] ∈ names.take j :=
      List.mem_take_iff_getElem.2 ⟨i, by omega, same⟩
    exact fresh j ⟨names[j], List.getElem?_eq_getElem among, before⟩

theorem repeats_take : Repeats (names.take i) j ↔ j < i ∧ Repeats names j := by
  simp only [Repeats, List.getElem?_take, List.take_take]
  by_cases earlier : j < i
  · rw [if_pos earlier, Nat.min_eq_left (Nat.le_of_lt earlier), and_iff_right earlier]
  · simp [earlier]

/-- The names in front of a place differ exactly if none of them repeats another. -/
theorem nodup_take_iff : (names.take i).Nodup ↔ ∀ j < i, ¬ Repeats names j := by
  simp only [nodup_iff_not_repeats, repeats_take, not_and]

/-- A name is found at a place that it has been seen in front of, if none is found in front of
the place.  The induction is on the names, with any that have been seen before. -/
theorem firstRepeated?_eq_some {seen : List String} :
    firstRepeated? seen names = some id ↔
      ∃ i, names[i]? = some id ∧ (id ∈ names.take i ∨ id ∈ seen) ∧
        firstRepeated? seen (names.take i) = none := by
  induction names generalizing seen with
  | nil => simp [firstRepeated?]
  | cons first rest ih =>
    by_cases before : first ∈ seen
    · rw [firstRepeated?, if_pos before, Option.some_inj]
      constructor
      · rintro rfl
        exact ⟨0, rfl, .inr before, rfl⟩
      · rintro ⟨i, here, -, fresh⟩
        cases i with
        | zero => exact Option.some.inj here
        | succ i =>
          rw [List.take_succ_cons, firstRepeated?, if_pos before] at fresh
          cases fresh
    · -- past a name that has not been seen, the name itself counts as seen
      have next (i : Nat) : firstRepeated? seen ((first :: rest).take (i + 1)) =
          firstRepeated? (first :: seen) (rest.take i) := by
        rw [List.take_succ_cons, firstRepeated?, if_neg before]
      have held (i : Nat) : id ∈ (first :: rest).take (i + 1) ∨ id ∈ seen ↔
          id ∈ rest.take i ∨ id ∈ first :: seen := by
        simp [or_left_comm, or_assoc]
      rw [firstRepeated?, if_neg before, ih]
      constructor
      · rintro ⟨i, here, again, fresh⟩
        exact ⟨i + 1, here, (held i).2 again, (next i).trans fresh⟩
      · rintro ⟨i, here, again, fresh⟩
        cases i with
        | zero =>
          obtain rfl : first = id := Option.some.inj here
          rcases again with none | known
          · cases none
          · exact absurd known before
        | succ i => exact ⟨i, here, (held i).1 again, (next i).symm.trans fresh⟩

theorem firstRepeated?_fresh : firstRepeated? [] names = none ↔ names.Nodup := by
  simp [firstRepeated?_eq_none]

/-- The name that is found stands at the first place that repeats a name. -/
theorem firstRepeated?_first :
    firstRepeated? [] names = some id ↔
      ∃ i, names[i]? = some id ∧ Repeats names i ∧ ∀ j < i, ¬ Repeats names j := by
  rw [firstRepeated?_eq_some]
  refine exists_congr fun i => and_congr_right fun here => ?_
  rw [firstRepeated?_fresh, nodup_take_iff, Repeats, here]
  simp

theorem exists_firstRepeated? :
    (∃ id, firstRepeated? [] names = some id) ↔ ∃ i, Repeats names i := by
  rw [← Option.ne_none_iff_exists', ne_eq, firstRepeated?_fresh, nodup_iff_not_repeats,
    not_forall_not]

end Names

/-! ## Nodes by name -/

section Nodes

variable {t : Topology} {n : Node} {id : String}

theorem get?_eq_some (distinct : (t.nodes.map (·.id)).Nodup) :
    t.get? id = some n ↔ n ∈ t.nodes ∧ n.id = id := by
  constructor
  · intro found
    exact ⟨List.mem_of_find?_eq_some found, by simpa using List.find?_some found⟩
  · rintro ⟨member, rfl⟩
    exact find?_named distinct member

theorem get?_eq_none : t.get? id = none ↔ ∀ n ∈ t.nodes, n.id ≠ id := by
  simp [get?]

end Nodes

/-! ## Outcomes -/

section Outcomes

variable {nodes : List Node}

theorem ofNodes_eq_noNodes : ofNodes nodes = .error .noNodes ↔ nodes = [] := by
  unfold ofNodes
  split
  · rename_i nothing
    simp [nothing]
  · rename_i nonempty
    split <;> simp [nonempty]

theorem ofNodes_eq_duplicate {id : String} :
    ofNodes nodes = .error (.duplicate id) ↔
      firstRepeated? [] (nodes.map (·.id)) = some id := by
  unfold ofNodes
  split
  · rename_i nothing
    simp [nothing, firstRepeated?]
  · split
    · rename_i again
      simp [again]
    · rename_i fresh
      simp [fresh]

theorem ofNodes_eq_ok_iff {t : Topology} :
    ofNodes nodes = .ok t ↔ nodes ≠ [] ∧ (nodes.map (·.id)).Nodup ∧ t.nodes = nodes := by
  constructor
  · intro made
    obtain ⟨same, distinct⟩ := ofNodes_ok made
    refine ⟨?_, distinct, same⟩
    rintro rfl
    cases made
  · rintro ⟨nonempty, distinct, rfl⟩
    exact ofNodes_eq_ok nonempty distinct

end Outcomes

/-- What becomes of a list of nodes: without nodes there is no topology, nor with a name that
stands twice, of which the first that stands again is reported; otherwise the topology has the
nodes in their order.  A name then finds the one node that has it or none, and every key that is
not blank belongs to a node that is found by its name. -/
theorem ofNodes_outcome (nodes : List Node) :
    (ofNodes nodes = .error .noNodes ↔ nodes = []) ∧
    ((∃ id, ofNodes nodes = .error (.duplicate id)) ↔ ∃ i, Repeats (nodes.map (·.id)) i) ∧
    (∀ id, ofNodes nodes = .error (.duplicate id) ↔
      ∃ i, (nodes.map (·.id))[i]? = some id ∧ Repeats (nodes.map (·.id)) i ∧
        ∀ j < i, ¬ Repeats (nodes.map (·.id)) j) ∧
    (∀ t, ofNodes nodes = .ok t ↔
      nodes ≠ [] ∧ (∀ i, ¬ Repeats (nodes.map (·.id)) i) ∧ t.nodes = nodes) ∧
    ∀ t, ofNodes nodes = .ok t →
      (∀ id n, t.get? id = some n ↔ n ∈ nodes ∧ n.id = id) ∧
      (∀ id, t.get? id = none ↔ ∀ n ∈ nodes, n.id ≠ id) ∧
      ∃ r, Ring.ofTopology t = .ok r ∧ ∀ key,
        if Text.isBlank key then r.owner key = .error .emptyKey
        else ∃ n, r.owner key = .ok n ∧ t.get? n.id = some n := by
  refine ⟨ofNodes_eq_noNodes, ?_, fun id => ?_, fun t => ?_, fun t made => ?_⟩
  · simp only [ofNodes_eq_duplicate]
    exact exists_firstRepeated?
  · rw [ofNodes_eq_duplicate, firstRepeated?_first]
  · rw [ofNodes_eq_ok_iff, nodup_iff_not_repeats]
  · obtain ⟨nonempty, distinct, rfl⟩ := ofNodes_eq_ok_iff.1 made
    obtain ⟨r, built⟩ := Ring.exists_ofNodes nonempty
    refine ⟨fun id n => get?_eq_some distinct, fun id => get?_eq_none, r, built, fun key => ?_⟩
    split
    · rename_i blank
      exact if_pos blank
    · rename_i shown
      obtain ⟨n, member, owned⟩ := Ring.exists_owner built (Bool.eq_false_iff.2 shown)
      exact ⟨n, owned, (get?_eq_some distinct).2 ⟨member, rfl⟩⟩

/-- The second name that stands twice is the first to stand again. -/
example : ofNodes [⟨"a", "http://1/"⟩, ⟨"b", "http://2/"⟩, ⟨"b", "http://3/"⟩, ⟨"a", "http://4/"⟩] =
    .error (.duplicate "b") := rfl

end Topology

end ShardStore
