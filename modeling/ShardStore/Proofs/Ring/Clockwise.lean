/-
# ShardStore.Proofs.Ring.Clockwise -- a lookup goes clockwise to the next point

The points of all nodes, as they are listed, are numbered (`numbered`).  On the ring they
stand by position, and at one position by number (`Precedes`, `exists_order`).  So what a
lookup finds by halving the sorted points can as well be found in the unsorted ones, by going
once through all of them for the least at or behind the position, and if there is none for
the least of all (`scan`).

* `scan_eq` -- the scan finds what comes first in the order;
* `owner_clockwise` -- the points of a ring, their order, and the owner of every key.
-/
import ShardStore.Proofs.Ring.Search

namespace ShardStore.Ring

set_option autoImplicit false

/-- The points of all nodes with their numbers, as they are listed. -/
def numbered (nodes : List Node) : List (Point × Nat) := (nodes.flatMap pointsOf).zipIdx

/-- Numbered points stand on the ring by position, and at one position by number. -/
def Precedes (a b : Point × Nat) : Prop :=
  a.1.position < b.1.position ∨ a.1.position = b.1.position ∧ a.2 < b.2

instance (a b : Point × Nat) : Decidable (Precedes a b) :=
  inferInstanceAs (Decidable (_ ∨ _))

/-! ## A scan of unsorted points -/

/-- The least of numbered points: every point is held against the least of those behind it. -/
def least : List (Point × Nat) → Option (Point × Nat)
  | [] => none
  | c :: cs =>
    match least cs with
    | some d => if Precedes d c then some d else some c
    | none => some c

/-- The least point at or behind a position, or else the least of all. -/
def scan (place : UInt32) (cs : List (Point × Nat)) : Option (Point × Nat) :=
  (least (cs.filter fun c => place ≤ c.1.position)).or (least cs)

section Scan

variable {a b c : Point × Nat} {cs order : List (Point × Nat)}

/-- What comes before a point comes before all that do not come before that point. -/
theorem Precedes.of_not (before : Precedes a b) (notBefore : ¬ Precedes c b) : Precedes a c := by
  simp only [Precedes, UInt32.lt_iff_toNat_lt, ← UInt32.toNat_inj] at before notBefore ⊢
  omega

theorem Precedes.asymm (before : Precedes a b) : ¬ Precedes b a := by
  simp only [Precedes, UInt32.lt_iff_toNat_lt, ← UInt32.toNat_inj] at before ⊢
  omega

theorem least_eq_none (none : least cs = none) : cs = [] := by
  cases cs with
  | nil => rfl
  | cons c cs =>
    rw [least] at none
    split at none
    · split at none <;> cases none
    · cases none

/-- The least point is one of them, and none precedes it. -/
theorem least_spec (found : least cs = some c) : c ∈ cs ∧ ∀ d ∈ cs, ¬ Precedes d c := by
  induction cs generalizing c with
  | nil => cases found
  | cons first cs ih =>
    rw [least] at found
    split at found
    · rename_i d behind
      obtain ⟨member, below⟩ := ih behind
      split at found
      · rename_i before
        cases found
        refine ⟨List.mem_cons_of_mem _ member, ?_⟩
        intro e among
        rcases List.mem_cons.1 among with rfl | among
        · exact before.asymm
        · exact below e among
      · rename_i notBefore
        cases found
        refine ⟨List.mem_cons_self, ?_⟩
        intro e among before
        rcases List.mem_cons.1 among with rfl | among
        · exact before.asymm before
        · exact below e among (before.of_not notBefore)
    · rename_i nothing
      cases found
      rw [least_eq_none nothing]
      refine ⟨List.mem_cons_self, ?_⟩
      intro e among before
      obtain rfl := List.mem_singleton.1 among
      exact before.asymm before

/-- The least point comes first in the order. -/
theorem least_eq_head? (perm : order.Perm cs) (sorted : order.Pairwise Precedes) :
    least cs = order.head? := by
  cases order with
  | nil =>
    rw [List.nil_perm.1 perm]
    rfl
  | cons first rest =>
    have member : first ∈ cs := perm.mem_iff.1 List.mem_cons_self
    cases found : least cs with
    | none =>
      rw [least_eq_none found] at member
      cases member
    | some c =>
      obtain ⟨among, below⟩ := least_spec found
      rcases List.mem_cons.1 (perm.mem_iff.2 among) with rfl | later
      · rfl
      · exact absurd ((List.pairwise_cons.1 sorted).1 c later) (below first member)

/-- The scan finds the first point in the order at or behind the position, or else the first
of all. -/
theorem scan_eq (perm : order.Perm cs) (sorted : order.Pairwise Precedes) (place : UInt32) :
    scan place cs = (order.find? fun c => place ≤ c.1.position).or order.head? := by
  rw [scan, least_eq_head? perm sorted, least_eq_head? (perm.filter _) (sorted.filter _),
    List.head?_filter]

end Scan

/-! ## The points of a ring -/

theorem length_pointsOf (n : Node) : (pointsOf n).length = 128 := by
  rw [pointsOf, List.length_map, List.length_range, pointsPerNode]

theorem countP_pointsOf (n m : Node) :
    (pointsOf m).countP (·.node = n) = if m = n then 128 else 0 := by
  split
  · rename_i same
    rw [← length_pointsOf m]
    apply List.countP_eq_length.2
    intro p member
    simpa [node_of_mem_pointsOf member] using same
  · rename_i other
    apply List.countP_eq_zero.2
    intro p member
    simpa [node_of_mem_pointsOf member] using other

theorem length_flatMap_pointsOf (nodes : List Node) :
    (nodes.flatMap pointsOf).length = 128 * nodes.length := by
  induction nodes with
  | nil => rfl
  | cons m nodes ih =>
    rw [List.flatMap_cons, List.length_append, ih, length_pointsOf, List.length_cons]
    omega

theorem countP_flatMap_pointsOf (nodes : List Node) (n : Node) :
    (nodes.flatMap pointsOf).countP (·.node = n) = 128 * nodes.count n := by
  induction nodes with
  | nil => rfl
  | cons m nodes ih =>
    rw [List.flatMap_cons, List.countP_append, ih, countP_pointsOf, List.count_cons]
    simp only [beq_iff_eq]
    split <;> omega

theorem nodup_numbers (nodes : List Node) : ((numbered nodes).map Prod.snd).Nodup := by
  rw [numbered, List.zipIdx_map_snd]
  exact List.nodup_range'

/-- Numbered points that a stable sort leaves in this order stand so on the ring. -/
theorem precedes_of_zipIdxLE {a b : Point × Nat}
    (before : List.zipIdxLE (fun p q : Point => p.position ≤ q.position) a b = true)
    (apart : a.2 ≠ b.2) : Precedes a b := by
  simp only [List.zipIdxLE, decide_eq_true_eq] at before
  simp only [Precedes, UInt32.lt_iff_toNat_lt, ← UInt32.toNat_inj]
  split at before
  · rename_i notBehind
    rw [UInt32.le_iff_toNat_le] at notBehind
    split at before
    · -- both stand at one position
      rename_i notBefore
      rw [UInt32.le_iff_toNat_le] at notBefore
      have number : a.2 ≤ b.2 := by simpa using before
      omega
    · rename_i notBefore
      rw [UInt32.le_iff_toNat_le] at notBefore
      omega
  · cases before

section Nodes

variable {nodes : List Node} {r : Ring}

/-- The ring holds the numbered points in their order: by position, and at one position as
they were listed, for the sort is stable. -/
theorem exists_order (made : ofNodes nodes = .ok r) :
    ∃ order : List (Point × Nat), r.points = order.map Prod.fst ∧ order.Perm (numbered nodes) ∧
      order.Pairwise Precedes := by
  have perm := List.mergeSort_perm (numbered nodes)
    (List.zipIdxLE fun p q : Point => decide (p.position ≤ q.position))
  have sorted := List.pairwise_mergeSort (List.zipIdxLE_trans position_trans)
    (List.zipIdxLE_total position_total) (numbered nodes)
  -- no number stands twice
  have apart := List.pairwise_map.1 ((perm.map Prod.snd).nodup_iff.2 (nodup_numbers nodes))
  refine ⟨_, ?_, perm, (sorted.and apart).imp fun both => precedes_of_zipIdxLE both.1 both.2⟩
  rw [points_eq made]
  exact List.mergeSort_zipIdx.symm

/-- Halving the sorted points finds what a scan of the unsorted ones finds. -/
theorem successor?_eq_scan (made : ofNodes nodes = .ok r) (place : UInt32) :
    r.successor? place = (scan place (numbered nodes)).map Prod.fst := by
  obtain ⟨order, points, perm, sorted⟩ := exists_order made
  rw [successor?_eq_find? made, points, scan_eq perm sorted, List.find?_map, List.head?_map,
    Option.map_or]
  rfl

theorem owner_of_successor {key : String} (shown : Text.isBlank key = false) {p : Point}
    (found : r.successor? (position key) = some p) : r.owner key = .ok p.node := by
  rw [owner, shown, found]
  rfl

end Nodes

/-- A ring has 128 points for every entry of the node list, ordered by position and at one
position as they were listed.  A key that is not blank is owned by the node of the first
point at or behind its position, or else of the first of all; the lookup reaches that point
inside the ring, and a scan of the unsorted points finds it too. -/
theorem owner_clockwise {nodes : List Node} (nonempty : nodes ≠ []) :
    ∃ (r : Ring) (order : List (Point × Nat)), ofNodes nodes = .ok r ∧
      r.points = order.map Prod.fst ∧ order.Perm (numbered nodes) ∧ order.Pairwise Precedes ∧
      r.points.length = 128 * nodes.length ∧
      (∀ n, r.points.countP (·.node = n) = 128 * nodes.count n) ∧
      ∀ key, Text.isBlank key = false →
        r.index (position key) < r.points.length ∧
        ∃ p number, r.points[r.index (position key)]? = some p ∧
          (r.points.find? fun q => position key ≤ q.position).or r.points.head? = some p ∧
          scan (position key) (numbered nodes) = some (p, number) ∧
          r.owner key = .ok p.node ∧ p.node ∈ nodes := by
  obtain ⟨r, made⟩ := exists_ofNodes nonempty
  obtain ⟨order, points, perm, sorted⟩ := exists_order made
  have listed : r.points.Perm (nodes.flatMap pointsOf) := by
    rw [points_eq made]
    exact List.mergeSort_perm _ _
  refine ⟨r, order, made, points, perm, sorted, ?_, ?_, ?_⟩
  · rw [listed.length_eq, length_flatMap_pointsOf]
  · intro n
    rw [listed.countP_eq, countP_flatMap_pointsOf]
  · intro key shown
    refine ⟨index_lt made _, ?_⟩
    obtain ⟨p, member, found⟩ := exists_successor made (position key)
    obtain ⟨n, among, point⟩ := (mem_points made).1 member
    have scanned := successor?_eq_scan made (position key)
    rw [found] at scanned
    obtain ⟨⟨q, number⟩, least, rfl⟩ := Option.map_eq_some_iff.1 scanned.symm
    refine ⟨q, number, found, ?_, least, owner_of_successor shown found, ?_⟩
    · rw [← successor?_eq_find? made, found]
    · rw [node_of_mem_pointsOf point]
      exact among

/-- A node that is listed twice has two points at each of its positions. -/
theorem owner_clockwise_repeated :
    let a : Node := ⟨"a", "http://a/"⟩
    let b : Node := ⟨"b", "http://b/"⟩
    ∃ (r : Ring) (p : Point) (number : Nat), ofNodes [a, b, a] = .ok r ∧ r.points.length = 384 ∧
      r.points.countP (·.node = a) = 256 ∧ r.points[r.index (position "k")]? = some p ∧
      scan (position "k") (numbered [a, b, a]) = some (p, number) ∧ r.owner "k" = .ok p.node := by
  intro a b
  obtain ⟨r, order, made, -, -, -, length, count, lookup⟩ :=
    owner_clockwise (show [a, b, a] ≠ [] by simp)
  obtain ⟨-, p, number, indexed, -, scanned, owned, -⟩ := lookup "k" (by decide)
  exact ⟨r, p, number, made, length, count a, indexed, scanned, owned⟩

end ShardStore.Ring
