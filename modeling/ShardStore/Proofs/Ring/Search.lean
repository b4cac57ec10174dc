/-
# ShardStore.Proofs.Ring.Search -- halving finds the first point behind a position

The search keeps two marks in the sorted points: those below the lower one stand before the
position, those from the upper one on do not (`Parted`).  Every step keeps this and brings
the marks closer, so at the end they meet where the points part (`search_parted`), and there
stands what a look at every point in order would have found first (`Parted.find?_eq`).

* `points_sorted` -- the points of a ring are sorted;
* `successor?_eq_find?` -- so a position leads to the first of them at or behind it, or else
  to the first of all.
-/
import ShardStore.Proofs.Ring

namespace ShardStore.Ring

set_option autoImplicit false

variable {points : List Point} {place : UInt32} {low high : Nat}

/-- The points below `low` are before a position, and those from `high` on are not. -/
structure Parted (points : List Point) (place : UInt32) (low high : Nat) : Prop where
  before : ∀ p ∈ points.take low, p.position < place
  behind : ∀ p ∈ points.drop high, place ≤ p.position

theorem parted_start : Parted points place 0 points.length where
  before := by simp
  behind := by simp

/-! ## One step -/

/-- Sorted points are not behind the points that follow them. -/
theorem position_le (sorted : points.Pairwise fun p q => p.position ≤ q.position) {i j : Nat}
    (order : i ≤ j) (inside : j < points.length) :
    points[i].position ≤ points[j].position := by
  rcases Nat.lt_or_eq_of_le order with less | rfl
  · exact List.pairwise_iff_getElem.1 sorted i j _ inside less
  · exact UInt32.le_refl _

/-- Up to a point before the position all are before it. -/
theorem Parted.raise (parted : Parted points place low high)
    (sorted : points.Pairwise fun p q => p.position ≤ q.position) {middle : Nat}
    (inside : middle < points.length) (passed : points[middle].position < place) :
    Parted points place (middle + 1) high where
  before p member := by
    obtain ⟨i, bound, rfl⟩ := List.mem_take_iff_getElem.1 member
    exact UInt32.lt_of_le_of_lt (position_le sorted (by omega) inside) passed
  behind := parted.behind

/-- From a point on that is not before the position none is. -/
theorem Parted.lower (parted : Parted points place low high)
    (sorted : points.Pairwise fun p q => p.position ≤ q.position) {middle : Nat}
    (inside : middle < points.length) (reached : place ≤ points[middle].position) :
    Parted points place low middle where
  before := parted.before
  behind p member := by
    obtain ⟨i, bound, rfl⟩ := List.mem_drop_iff_getElem.1 member
    exact UInt32.le_trans reached (position_le sorted (Nat.le_add_right middle i) _)

/-! ## The whole search -/

/-- The search ends where the points part. -/
theorem search_parted (sorted : points.Pairwise fun p q => p.position ≤ q.position)
    (inside : high ≤ points.length) (order : low ≤ high)
    (parted : Parted points place low high) :
    Parted points place (search points place low high) (search points place low high) := by
  fun_induction search points place low high with
  | case1 low high more middle passed ih =>
    have bound : middle < points.length := by omega
    rw [List.getElem?_eq_getElem bound] at passed
    exact ih inside (by omega) (parted.raise sorted bound (by simpa using passed))
  | case2 low high more middle reached ih =>
    have bound : middle < points.length := by omega
    rw [List.getElem?_eq_getElem bound] at reached
    exact ih (by omega) (by omega) (parted.lower sorted bound (by simpa using reached))
  | case3 low high closed =>
    obtain rfl : low = high := by omega
    exact parted

/-- Where the points part stands the first of them at or behind the position. -/
theorem Parted.find?_eq {k : Nat} (parted : Parted points place k k) :
    (points.find? fun p => place ≤ p.position) = points[k]? := by
  have passed : (points.take k).find? (fun p => place ≤ p.position) = none := by
    rw [List.find?_eq_none]
    intro p member
    simpa using parted.before p member
  rw [← List.take_append_drop k points, List.find?_append, passed, Option.none_or,
    List.take_append_drop, ← List.head?_drop]
  cases rest : points.drop k with
  | nil => rfl
  | cons p ps =>
    have reached := parted.behind p (rest ▸ List.mem_cons_self)
    rw [List.find?_cons_of_pos (by simpa using reached), List.head?_cons]

/-! ## The points of a ring -/

theorem position_trans (a b c : Point) (ab : decide (a.position ≤ b.position) = true)
    (bc : decide (b.position ≤ c.position) = true) : decide (a.position ≤ c.position) = true := by
  rw [decide_eq_true_eq] at ab bc ⊢
  exact UInt32.le_trans ab bc

theorem position_total (a b : Point) :
    (decide (a.position ≤ b.position) || decide (b.position ≤ a.position)) = true := by
  simpa using UInt32.le_total a.position b.position

section Nodes

variable {nodes : List Node} {r : Ring}

theorem points_eq (made : ofNodes nodes = .ok r) :
    r.points = (nodes.flatMap pointsOf).mergeSort fun p q => p.position ≤ q.position := by
  unfold ofNodes at made
  split at made
  · cases made
  · cases made
    rfl

theorem points_sorted (made : ofNodes nodes = .ok r) :
    r.points.Pairwise fun p q => p.position ≤ q.position := by
  have sorted := List.pairwise_mergeSort position_trans position_total (nodes.flatMap pointsOf)
  rw [points_eq made]
  simpa using sorted

/-- A position leads to the first point at or behind it, or else to the first of all. -/
theorem successor?_eq_find? (made : ofNodes nodes = .ok r) (place : UInt32) :
    r.successor? place = (r.points.find? fun p => place ≤ p.position).or r.points.head? := by
  have start : Parted r.points place 0 r.points.length := parted_start
  have parted := search_parted (points_sorted made) (Nat.le_refl _) (Nat.zero_le _) start
  rw [parted.find?_eq, successor?, index]
  split
  · rename_i found
    rw [List.getElem?_eq_getElem found, Option.some_or]
  · rename_i passed
    rw [List.getElem?_eq_none (Nat.not_lt.1 passed), Option.none_or, List.head?_eq_getElem?]

end Nodes

end ShardStore.Ring
