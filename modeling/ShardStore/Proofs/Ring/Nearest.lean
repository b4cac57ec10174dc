/-
# ShardStore.Proofs.Ring.Nearest -- the owner of a key is the nearest node clockwise

A ring looks through its sorted points for the first one at or behind a position, and
begins again behind the last.  Both are one rule, which needs no order of the points: the
way from the position on to a point is counted modulo `2 ^ 32` (`distance`), and the point
with the shortest way counts, of several as near the first one listed (`nearest`).  The
sort keeps points at one position in their order, so it does not change which one that is
(`nearest_mergeSort`), and in a sorted list the search finds it (`nearest_sorted`).

* `successor?_eq` -- the successor of a position is the nearest point of all nodes;
* `owner_insert` -- what is nearest of more points is new, or was the nearest before, so a
  new node takes keys from others, and no key goes from one of these to another.
-/
import ShardStore.Proofs.Ring.Search

namespace ShardStore.Ring

set_option autoImplicit false

/-! ## The nearest point -/

/-- The way from a position on to a point, around the ring. -/
def distance (place : UInt32) (p : Point) : Nat := (p.position - place).toNat

/-- The nearest of the points; of several as near, the first. -/
def nearest (place : UInt32) (ps : List Point) : Option Point := ps.minOn? (distance place)

section Nearest

variable {place : UInt32} {p q : Point} {ps : List Point}

theorem distance_of_le (behind : place ≤ p.position) :
    distance place p = p.position.toNat - place.toNat :=
  UInt32.toNat_sub_of_le _ _ behind

/-- A point before the position is reached last, around the whole ring. -/
theorem distance_of_lt (before : p.position < place) :
    distance place p = 0x100000000 - place.toNat + p.position.toNat := by
  rw [UInt32.lt_iff_toNat_lt] at before
  have bound := place.toNat_lt
  rw [distance, UInt32.toNat_sub]
  apply Nat.mod_eq_of_lt
  omega

/-- Points at two positions are not as near. -/
theorem position_eq_of_distance (same : distance place p = distance place q) :
    p.position = q.position := by
  have shifted : p.position - place = q.position - place := UInt32.toNat_inj.1 same
  have back := congrArg (· + place) shifted
  simpa using back

theorem nearest_append (ps qs : List Point) :
    nearest place (ps ++ qs) =
      Option.merge (minOn (distance place)) (nearest place ps) (nearest place qs) :=
  List.minOn?_append ps qs _

theorem nearest_cons (p : Point) (ps : List Point) :
    nearest place (p :: ps) =
      Option.merge (minOn (distance place)) (some p) (nearest place ps) :=
  nearest_append [p] ps

theorem mem_of_nearest (found : nearest place ps = some p) : p ∈ ps := List.minOn?_mem found

/-- A point may be listed behind points at other positions as well as before them. -/
theorem nearest_middle {front : List Point} (apart : ∀ q ∈ front, q.position ≠ p.position)
    (back : List Point) :
    nearest place (front ++ p :: back) = nearest place (p :: (front ++ back)) := by
  rw [nearest_append, nearest_cons, nearest_cons, nearest_append]
  cases first : nearest place front with
  | none => simp
  | some q =>
    have other : distance place q ≠ distance place p := by
      intro same
      exact apart q (mem_of_nearest first) (position_eq_of_distance same)
    cases nearest place back <;> simp only [Option.merge, minOn] <;> grind

/-! ## Sorted points -/

/-- Sorting by the position keeps what is nearest: it moves a point past others, and never
past one at the same position. -/
theorem nearest_mergeSort (ps : List Point) :
    nearest place (ps.mergeSort fun p q => p.position ≤ q.position) = nearest place ps := by
  induction ps with
  | nil => simp
  | cons p ps ih =>
    obtain ⟨front, back, sorted, rest, before⟩ :=
      List.mergeSort_cons position_trans position_total p ps
    have apart : ∀ q ∈ front, q.position ≠ p.position := by
      intro q member same
      have below := before q member
      simp [same] at below
    rw [sorted, nearest_middle apart, nearest_cons, ← rest, ih, nearest_cons]

/-- In a sorted list the first point at or behind the position is the nearest, or else the
first of all. -/
theorem nearest_sorted (sorted : ps.Pairwise fun p q => p.position ≤ q.position) :
    (ps.find? fun p => place ≤ p.position).or ps.head? = nearest place ps := by
  induction ps with
  | nil => rfl
  | cons p ps ih =>
    obtain ⟨least, tail⟩ := List.pairwise_cons.1 sorted
    have bound := place.toNat_lt
    rw [nearest_cons]
    by_cases reached : place ≤ p.position
    · -- all others are behind this point
      rw [List.find?_cons_of_pos (by simpa using reached), Option.some_or]
      cases found : nearest place ps with
      | none => rfl
      | some q =>
        have further := least q (mem_of_nearest found)
        have near : distance place p ≤ distance place q := by
          rw [distance_of_le reached, distance_of_le (UInt32.le_trans reached further)]
          rw [UInt32.le_iff_toNat_le] at further
          omega
        simp [Option.merge, minOn_eq_left near]
    · have before : p.position < place := UInt32.not_le.1 reached
      rw [List.find?_cons_of_neg (by simpa using reached), ← ih tail]
      cases found : ps.find? fun p => place ≤ p.position with
      | some q =>
        have behind : place ≤ q.position := by simpa using List.find?_some found
        have far : ¬ distance place p ≤ distance place q := by
          have inside := q.position.toNat_lt
          rw [distance_of_lt before, distance_of_le behind]
          omega
        simp [Option.merge, minOn_eq_right far]
      | none =>
        cases ps with
        | nil => rfl
        | cons q ps =>
          -- no point is reached before the ring begins again, with this point
          have passed : q.position < place := by
            simpa using List.find?_eq_none.1 found q List.mem_cons_self
          have further := least q List.mem_cons_self
          have near : distance place p ≤ distance place q := by
            rw [distance_of_lt before, distance_of_lt passed]
            rw [UInt32.le_iff_toNat_le] at further
            omega
          simp [Option.merge, minOn_eq_left near]

end Nearest

/-! ## The ring of a list of nodes -/

section Nodes

variable {nodes : List Node} {r : Ring}

/-- The successor of a position is the nearest of the points of all nodes, as they are listed. -/
theorem successor?_eq (made : ofNodes nodes = .ok r) (place : UInt32) :
    r.successor? place = nearest place (nodes.flatMap pointsOf) := by
  rw [successor?_eq_find? made, nearest_sorted (points_sorted made), points_eq made,
    nearest_mergeSort]

/-- The owner of a key is the node of the point nearest to the key. -/
theorem owner_eq_ok (made : ofNodes nodes = .ok r) {key : String}
    (shown : Text.isBlank key = false) {n : Node} :
    r.owner key = .ok n ↔
      ∃ p, nearest (position key) (nodes.flatMap pointsOf) = some p ∧ p.node = n := by
  rw [owner, shown, successor?_eq made]
  cases nearest (position key) (nodes.flatMap pointsOf) with
  | none => simp
  | some p => simp

end Nodes

/-! ## One more node -/

/-- The nearest of more points is one of the new ones, or the nearest of the old. -/
theorem nearest_insert {place : UInt32} {front new back : List Point} {p q : Point}
    (fewer : nearest place (front ++ back) = some p)
    (more : nearest place (front ++ (new ++ back)) = some q) : q ∈ new ∨ q = p := by
  rw [nearest_append] at fewer
  rw [nearest_append, nearest_append] at more
  cases added : nearest place new with
  | none =>
    rw [added, Option.merge_none_left, fewer] at more
    exact Or.inr (Option.some.inj more).symm
  | some c =>
    have member := mem_of_nearest added
    rw [added] at more
    -- the new point wins, or does not come between the two that met before
    suffices found : q = c ∨ q = p by
      rcases found with rfl | same
      · exact Or.inl member
      · exact Or.inr same
    cases nearest place front <;> cases nearest place back <;>
      simp only [Option.merge, minOn] at fewer more <;> grind

/-- A node that is added to a list of nodes, wherever in the list, takes keys from the others,
and no key goes from one of them to another: what the new node does not own stays where it
was.  So it is, too, when the node is taken away again. -/
theorem owner_insert {before after : List Node} (some : before ++ after ≠ []) (x : Node) :
    ∃ fewer more, ofNodes (before ++ after) = .ok fewer ∧
      ofNodes (before ++ x :: after) = .ok more ∧
      ∀ key, Text.isBlank key = false → ∃ m n, fewer.owner key = .ok m ∧ more.owner key = .ok n ∧
        (n = x ∨ n = m) := by
  obtain ⟨fewer, madeFewer⟩ := exists_ofNodes some
  obtain ⟨more, madeMore⟩ := exists_ofNodes (show before ++ x :: after ≠ [] by simp)
  refine ⟨fewer, more, madeFewer, madeMore, ?_⟩
  intro key shown
  obtain ⟨m, -, ownedBefore⟩ := exists_owner madeFewer shown
  obtain ⟨n, -, ownedAfter⟩ := exists_owner madeMore shown
  refine ⟨m, n, ownedBefore, ownedAfter, ?_⟩
  obtain ⟨p, nearestBefore, rfl⟩ := (owner_eq_ok madeFewer shown).1 ownedBefore
  obtain ⟨q, nearestAfter, rfl⟩ := (owner_eq_ok madeMore shown).1 ownedAfter
  rw [List.flatMap_append] at nearestBefore
  rw [List.flatMap_append, List.flatMap_cons] at nearestAfter
  rcases nearest_insert nearestBefore nearestAfter with new | old
  · exact Or.inl (node_of_mem_pointsOf new)
  · exact Or.inr (congrArg Point.node old)

/-- Two nodes, and one that comes between them under a name that is taken. -/
theorem owner_insert_repeated :
    let a : Node := ⟨"a", "http://a/"⟩
    let b : Node := ⟨"b", "http://b/"⟩
    let again : Node := ⟨"a", "http://c/"⟩
    ∃ fewer more m n, ofNodes [a, b] = .ok fewer ∧ ofNodes [a, again, b] = .ok more ∧
      fewer.owner "k" = .ok m ∧ more.owner "k" = .ok n ∧ (n = again ∨ n = m) := by
  intro a b again
  obtain ⟨fewer, more, madeFewer, madeMore, moves⟩ :=
    owner_insert (show [a] ++ [b] ≠ [] by simp) again
  obtain ⟨m, n, ownedBefore, ownedAfter, moved⟩ := moves "k" (by decide)
  exact ⟨fewer, more, m, n, madeFewer, madeMore, ownedBefore, ownedAfter, moved⟩

end ShardStore.Ring
