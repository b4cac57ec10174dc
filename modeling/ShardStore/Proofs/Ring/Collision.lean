/-
# ShardStore.Proofs.Ring.Collision -- the order of the nodes counts where positions collide

Routers may list the same nodes in different orders.  A position leads to the same occupied
position on all their rings, for that asks for the positions alone (`landing`).  Positions
have 32 bits, so points of several nodes may stand there; then every router takes the node
that comes first in its own list (`owner_first`).

* `owner_relisted` -- so routers agree on a key unless its position leads to a collision;
* `owner_relisted_collision` -- where two nodes collide, they do not agree.
-/
import ShardStore.Proofs.Ring.Clockwise

namespace ShardStore.Ring

set_option autoImplicit false

/-- The least position at or behind another, or else the least of all. -/
def landing (place : UInt32) (positions : List UInt32) : Option UInt32 :=
  ((positions.filter (place ≤ ·)).min?).or positions.min?

/-- The positions of all points of nodes. -/
def positions (nodes : List Node) : List UInt32 := (nodes.flatMap pointsOf).map (·.position)

/-- Has a node a point at a position? -/
def occupies (place : UInt32) (n : Node) : Bool := (pointsOf n).any (·.position = place)

theorem occupies_of_lt (n : Node) (i : Nat) (bound : i < pointsPerNode) :
    occupies (position s!"{n.id}-vn-{i}") n = true := by
  rw [occupies, List.any_eq_true]
  exact ⟨_, List.mem_map_of_mem (List.mem_range.2 bound), decide_eq_true rfl⟩

theorem mem_positions {nodes : List Node} {place : UInt32} {n : Node}
    (held : occupies place n = true) (among : n ∈ nodes) : place ∈ positions nodes := by
  obtain ⟨p, point, here⟩ := List.any_eq_true.1 held
  obtain rfl := of_decide_eq_true here
  exact List.mem_map_of_mem (List.mem_flatMap.2 ⟨n, among, point⟩)

/-! ## Where a lookup ends -/

theorem min?_perm {xs ys : List UInt32} (perm : xs.Perm ys) : xs.min? = ys.min? := by
  apply Option.ext
  intro least
  simp only [List.min?_eq_some_iff, perm.mem_iff]

theorem landing_perm {xs ys : List UInt32} (perm : xs.Perm ys) (place : UInt32) :
    landing place xs = landing place ys := by
  rw [landing, landing, min?_perm perm, min?_perm (perm.filter _)]

/-- An occupied position leads to itself. -/
theorem landing_of_mem {place : UInt32} {xs : List UInt32} (member : place ∈ xs) :
    landing place xs = some place := by
  have least : (xs.filter (place ≤ ·)).min? = some place := by
    rw [List.min?_eq_some_iff]
    constructor
    · exact List.mem_filter.2 ⟨member, decide_eq_true (UInt32.le_refl place)⟩
    · intro x behind
      simpa using (List.mem_filter.1 behind).2
  rw [landing, least, Option.some_or]

section Scan

variable {place : UInt32} {c : Point × Nat} {cs : List (Point × Nat)}

theorem least_position (cs : List (Point × Nat)) :
    (least cs).map (·.1.position) = (cs.map (·.1.position)).min? := by
  cases found : least cs with
  | none =>
    rw [least_eq_none found]
    rfl
  | some c =>
    obtain ⟨member, below⟩ := least_spec found
    symm
    rw [Option.map_some, List.min?_eq_some_iff]
    refine ⟨List.mem_map_of_mem member, ?_⟩
    intro x listed
    obtain ⟨d, among, rfl⟩ := List.mem_map.1 listed
    have notBefore := below d among
    simp only [Precedes, not_or] at notBefore
    exact UInt32.not_lt.1 notBefore.1

/-- A scan ends at the least position at or behind the one it started from, or else at the
least of all. -/
theorem scan_position (place : UInt32) (cs : List (Point × Nat)) :
    (scan place cs).map (·.1.position) = landing place (cs.map (·.1.position)) := by
  rw [scan, landing, Option.map_or, least_position, least_position, List.filter_map]
  rfl

/-- Of several points at one position the least has the least number. -/
theorem least_number (found : least cs = some c) {d : Point × Nat} (listed : d ∈ cs)
    (same : d.1.position = c.1.position) : c.2 ≤ d.2 := by
  have notBefore := (least_spec found).2 d listed
  simp only [Precedes, same, true_and, not_or] at notBefore
  exact Nat.not_lt.1 notBefore.2

/-- And so has the one that a scan takes. -/
theorem scan_number (found : scan place cs = some c) :
    c ∈ cs ∧ ∀ d ∈ cs, d.1.position = c.1.position → c.2 ≤ d.2 := by
  rcases Option.or_eq_some_iff.1 found with behind | ⟨-, least⟩
  · obtain ⟨member, reached⟩ := List.mem_filter.1 (least_spec behind).1
    refine ⟨member, ?_⟩
    intro d listed same
    exact least_number behind (List.mem_filter.2 ⟨listed, by rw [same]; exact reached⟩) same
  · refine ⟨(least_spec least).1, ?_⟩
    intro d listed same
    exact least_number least listed same

end Scan

/-! ## Who is first there -/

/-- A scan of points takes the first one listed at the position where it ends. -/
theorem find?_of_scan {place : UInt32} {ps : List Point} {c : Point × Nat}
    (found : scan place ps.zipIdx = some c) :
    (ps.find? fun p => p.position = c.1.position) = some c.1 := by
  obtain ⟨member, first⟩ := scan_number found
  obtain ⟨bound, here⟩ := List.getElem?_eq_some_iff.1 (List.mem_zipIdx_iff_getElem?.1 member)
  rw [List.find?_eq_some_iff_getElem]
  refine ⟨decide_eq_true rfl, c.2, bound, here, ?_⟩
  intro j before
  have listed : (ps[j], j) ∈ ps.zipIdx :=
    List.mem_zipIdx_iff_getElem?.2 (List.getElem?_eq_getElem (Nat.lt_trans before bound))
  have other : ps[j].position ≠ c.1.position := by
    intro same
    exact Nat.not_lt.2 (first _ listed same) before
  simpa using other

/-- The node of the first point at a position is the first node that has one there. -/
theorem find?_occupies {nodes : List Node} {place : UInt32} {p : Point}
    (found : ((nodes.flatMap pointsOf).find? fun p => p.position = place) = some p) :
    nodes.find? (occupies place) = some p.node := by
  induction nodes with
  | nil => cases found
  | cons n nodes ih =>
    rw [List.flatMap_cons, List.find?_append] at found
    cases mine : (pointsOf n).find? fun p => p.position = place with
    | some q =>
      rw [mine, Option.some_or] at found
      cases found
      have held : occupies place n = true := by
        rw [occupies, ← List.isSome_find?, mine]
        rfl
      rw [List.find?_cons_of_pos held, node_of_mem_pointsOf (List.mem_of_find?_eq_some mine)]
    | none =>
      rw [mine, Option.none_or] at found
      have free : ¬ occupies place n = true := by
        rw [occupies, ← List.isSome_find?, mine]
        exact Bool.false_ne_true
      rw [List.find?_cons_of_neg free, ih found]

/-- A key is owned by the first node in the list that has a point where its position leads. -/
theorem owner_first {nodes : List Node} {r : Ring} (made : ofNodes nodes = .ok r) {key : String}
    (shown : Text.isBlank key = false) :
    ∃ p n, landing (position key) (positions nodes) = some p ∧
      nodes.find? (occupies p) = some n ∧ r.owner key = .ok n := by
  obtain ⟨p, -, found⟩ := exists_successor made (position key)
  have scanned := successor?_eq_scan made (position key)
  rw [found] at scanned
  obtain ⟨c, least, rfl⟩ := Option.map_eq_some_iff.1 scanned.symm
  have ended := scan_position (position key) (numbered nodes)
  have listed : (numbered nodes).map (·.1.position) = positions nodes := by
    rw [positions, ← List.zipIdx_map_fst 0 (nodes.flatMap pointsOf), List.map_map, numbered]
    simp
  rw [least, listed] at ended
  exact ⟨c.1.position, c.1.node, ended.symm, find?_occupies (find?_of_scan least),
    owner_of_successor shown found⟩

/-! ## Routers that list the same nodes -/

/-- Routers that list the same nodes in any order look for a key at the same position.  If only
one node has a point there, both find that node; otherwise each finds the one that comes first
in its own list. -/
theorem owner_relisted {nodes others : List Node} (nonempty : nodes ≠ [])
    (relisted : nodes.Perm others) :
    ∃ r u, ofNodes nodes = .ok r ∧ ofNodes others = .ok u ∧
      ∀ key, Text.isBlank key = false → ∃ p,
        landing (position key) (positions nodes) = some p ∧
        landing (position key) (positions others) = some p ∧
        (∀ n ∈ nodes, occupies p n → (∀ m ∈ nodes, occupies p m → m = n) →
          r.owner key = .ok n ∧ u.owner key = .ok n) ∧
        ∃ m n, nodes.find? (occupies p) = some m ∧ r.owner key = .ok m ∧
          others.find? (occupies p) = some n ∧ u.owner key = .ok n := by
  obtain ⟨r, made⟩ := exists_ofNodes nonempty
  have others_nonempty : others ≠ [] := by
    rintro rfl
    exact nonempty (List.perm_nil.1 relisted)
  obtain ⟨u, remade⟩ := exists_ofNodes others_nonempty
  refine ⟨r, u, made, remade, ?_⟩
  intro key shown
  obtain ⟨p, m, landed, first, owned⟩ := owner_first made shown
  obtain ⟨q, n, relanded, refirst, reowned⟩ := owner_first remade shown
  have same : landing (position key) (positions nodes) =
      landing (position key) (positions others) :=
    landing_perm ((relisted.flatMap_right pointsOf).map _) (position key)
  obtain rfl : p = q := by
    rw [landed, relanded] at same
    exact Option.some.inj same
  refine ⟨p, landed, relanded, ?_, m, n, first, owned, refirst, reowned⟩
  intro only _ _ alone
  obtain rfl := alone m (List.mem_of_find?_eq_some first) (List.find?_some first)
  obtain rfl := alone n (relisted.mem_iff.2 (List.mem_of_find?_eq_some refirst))
    (List.find?_some refirst)
  exact ⟨owned, reowned⟩

/-- Two nodes with points at one position: whoever lists one of them first takes it for the
owner of the keys that lead there. -/
theorem owner_relisted_collision :
    let a : Node := ⟨"ez", "http://ez/"⟩
    let b : Node := ⟨"id", "http://id/"⟩
    [a, b].Perm [b, a] ∧ ∃ r u, ofNodes [a, b] = .ok r ∧ ofNodes [b, a] = .ok u ∧
      r.owner "ez-vn-3" = .ok a ∧ u.owner "ez-vn-3" = .ok b := by
  intro a b
  have relisted : [a, b].Perm [b, a] := List.Perm.swap b a []
  obtain ⟨r, u, made, remade, lookup⟩ := owner_relisted (show [a, b] ≠ [] by simp) relisted
  obtain ⟨p, landed, -, -, m, n, first, owned, refirst, reowned⟩ := lookup "ez-vn-3" (by decide)
  have mine : occupies (position "ez-vn-3") a = true := occupies_of_lt a 3 (by decide)
  have theirs : occupies (position "ez-vn-3") b = true := by
    have collide : position "ez-vn-3" = position "id-vn-73" := by decide +kernel
    rw [collide]
    exact occupies_of_lt b 73 (by decide)
  obtain rfl : p = position "ez-vn-3" := by
    rw [landing_of_mem (mem_positions mine List.mem_cons_self)] at landed
    exact (Option.some.inj landed).symm
  -- either node has a point there, so the first of each list is found
  rw [List.find?_cons_of_pos mine] at first
  rw [List.find?_cons_of_pos theirs] at refirst
  cases first
  cases refirst
  exact ⟨relisted, r, u, made, remade, owned, reowned⟩

end ShardStore.Ring
