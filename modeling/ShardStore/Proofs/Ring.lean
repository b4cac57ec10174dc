/-
# ShardStore.Proofs.Ring -- every key has an owner

The ring of a topology has points of the topology's nodes and of no others
(`node_mem_of_mem_points`), and it has points (`points_ne_nil`), so every key that is not
blank belongs to exactly one node of the topology (`exists_owner`).  A key that can be
stored is not blank.
-/
import ShardStore.Ring
import ShardStore.Store.Entry

namespace ShardStore

set_option autoImplicit false

/-! ## Names -/

namespace Topology

/-- No name occurs twice exactly if none is found that does. -/
theorem firstRepeated?_eq_none {seen ids : List String} :
    firstRepeated? seen ids = none ↔ ids.Nodup ∧ ∀ id ∈ ids, id ∉ seen := by
  induction ids generalizing seen with
  | nil => simp [firstRepeated?]
  | cons id ids ih =>
    by_cases before : id ∈ seen
    · simp [firstRepeated?, before]
    · rw [firstRepeated?, if_neg before, ih, List.nodup_cons]
      constructor
      · rintro ⟨distinct, fresh⟩
        refine ⟨⟨fun again => fresh id again List.mem_cons_self, distinct⟩, ?_⟩
        intro x member
        rcases List.mem_cons.1 member with rfl | member
        · exact before
        · exact fun held => fresh x member (List.mem_cons_of_mem _ held)
      · rintro ⟨⟨once, distinct⟩, fresh⟩
        refine ⟨distinct, ?_⟩
        intro x member held
        rcases List.mem_cons.1 held with rfl | held
        · exact once member
        · exact fresh x (List.mem_cons_of_mem _ member) held

/-- Where all names differ, a name finds the member that has it. -/
theorem find?_named {α : Type} {name : α → String} {xs : List α} {x : α}
    (distinct : (xs.map name).Nodup) (member : x ∈ xs) :
    xs.find? (fun y => name y = name x) = some x := by
  induction xs with
  | nil => cases member
  | cons first xs ih =>
    obtain ⟨apart, distinct⟩ := List.nodup_cons.1 distinct
    rcases List.mem_cons.1 member with rfl | member
    · exact List.find?_cons_of_pos (decide_eq_true rfl)
    · have other : name first ≠ name x := fun same => apart (same ▸ List.mem_map_of_mem member)
      rw [List.find?_cons_of_neg (by simpa using other), ih distinct member]

theorem ofNodes_eq_ok {nodes : List Node} (some : nodes ≠ [])
    (distinct : (nodes.map (·.id)).Nodup) : ofNodes nodes = .ok ⟨nodes⟩ := by
  have fresh : firstRepeated? [] (nodes.map (·.id)) = none :=
    firstRepeated?_eq_none.2 ⟨distinct, fun _ _ => List.not_mem_nil⟩
  simp only [ofNodes, if_neg some, fresh]

theorem ofNodes_ok {nodes : List Node} {t : Topology} (made : ofNodes nodes = .ok t) :
    t.nodes = nodes ∧ (nodes.map (·.id)).Nodup := by
  unfold ofNodes at made
  split at made
  · cases made
  · split at made
    · cases made
    · rename_i fresh
      cases made
      exact ⟨rfl, (firstRepeated?_eq_none.1 fresh).1⟩

end Topology

/-! ## Owners -/

theorem Key.isSpace_of_isAllowed {c : Char} (h : isAllowed c = true) :
    Text.isSpace c = false := by
  simp only [isAllowed, Bool.or_eq_true, decide_eq_true_eq] at h
  rcases h with ((((((((alphanum | rfl) | rfl) | rfl) | rfl) | rfl) | rfl) | rfl) | rfl) | rfl
  · -- letters and digits stand behind the ASCII spaces and before the others
    have between : 48 ≤ c.toNat ∧ c.toNat ≤ 122 := by
      delta Char.isAlphanum Char.isAlpha Char.isUpper Char.isLower Char.isDigit at alphanum
      simp [UInt32.le_iff_toNat_le] at alphanum
      omega
    simp [Text.isSpace]
    omega
  all_goals decide

theorem Key.notBlank {key : String} (valid : Key.isValid key = true) :
    Text.isBlank key = false := by
  simp only [isValid, Bool.and_eq_true, decide_eq_true_eq, Bool.not_eq_true'] at valid
  obtain ⟨⟨nonempty, allowed⟩, -⟩ := valid
  obtain ⟨c, cs, shape⟩ := List.exists_cons_of_ne_nil nonempty
  have shown := isSpace_of_isAllowed (List.all_eq_true.1 allowed c (shape ▸ List.mem_cons_self))
  rw [Text.isBlank, shape, List.all_cons, shown, Bool.false_and]

namespace Ring

variable {nodes : List Node} {r : Ring}

theorem exists_ofNodes (some : nodes ≠ []) : ∃ r, ofNodes nodes = .ok r :=
  ⟨_, if_neg some⟩

/-- The points of a ring are those of its nodes. -/
theorem mem_points (made : ofNodes nodes = .ok r) {p : Point} :
    p ∈ r.points ↔ ∃ n ∈ nodes, p ∈ pointsOf n := by
  unfold ofNodes at made
  split at made
  · cases made
  · cases made
    rw [List.mem_mergeSort, List.mem_flatMap]

theorem node_of_mem_pointsOf {n : Node} {p : Point} (h : p ∈ pointsOf n) : p.node = n := by
  obtain ⟨i, -, rfl⟩ := List.mem_map.1 h
  rfl

theorem points_ne_nil (made : ofNodes nodes = .ok r) : r.points ≠ [] := by
  cases nodes with
  | nil => cases made
  | cons n nodes =>
    have point : (⟨position s!"{n.id}-vn-{0}", n⟩ : Point) ∈ pointsOf n :=
      List.mem_map_of_mem (f := fun i => (⟨position s!"{n.id}-vn-{i}", n⟩ : Point))
        (List.mem_range.2 (show 0 < pointsPerNode by decide))
    exact List.ne_nil_of_mem ((mem_points made).2 ⟨n, List.mem_cons_self, point⟩)

/-- Every position leads to a point. -/
theorem index_lt (made : ofNodes nodes = .ok r) (place : UInt32) :
    r.index place < r.points.length := by
  simp only [index]
  split
  · assumption
  · exact List.length_pos_iff.2 (points_ne_nil made)

/-- There is a point behind every position. -/
theorem exists_successor (made : ofNodes nodes = .ok r) (place : UInt32) :
    ∃ p ∈ r.points, r.successor? place = some p :=
  ⟨_, List.getElem_mem (index_lt made place), List.getElem?_eq_getElem _⟩

/-- Every key that is not blank has an owner. -/
theorem exists_owner (made : ofNodes nodes = .ok r) {key : String}
    (shown : Text.isBlank key = false) : ∃ n ∈ nodes, r.owner key = .ok n := by
  obtain ⟨p, member, found⟩ := exists_successor made (position key)
  obtain ⟨n, among, point⟩ := (mem_points made).1 member
  refine ⟨n, among, ?_⟩
  rw [owner, shown, found, ← node_of_mem_pointsOf point]
  rfl

/-- Does a node own a key? -/
def owns (r : Ring) (n : Node) (key : String) : Bool :=
  match r.owner key with
  | .ok owner => owner = n
  | .error _ => false

theorem owns_iff {n : Node} {key : String} : r.owns n key = true ↔ r.owner key = .ok n := by
  unfold owns
  split
  · rename_i owner found
    simp [found]
  · rename_i found
    simp [found]

end Ring

end ShardStore
