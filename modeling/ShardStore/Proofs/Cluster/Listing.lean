/-
# ShardStore.Proofs.Cluster.Listing -- a listing does not depend on who answers first

All nodes are asked at once, and answer in any order.  A listing keeps a place for the keys
of every node, in the order of the nodes, and every answer fills the place of its node
(`Progress.arrive`); the first failure ends it.  So while no failure has come the places are
told by the set of the nodes that have answered (`Progress.holding`), and what is left of
the order is the order of the records, which are sorted in the end.

Records that are the same set with the same counts are sorted to the same list
(`mergeSort_eq`), since two records in one place of the order are equal.  The order is that
of the bytes of the node's name, then of the bytes of the key (`precedes_iff`).

* `Progress.run_eq` -- what answers in any order come to is what `ofOutcomes` makes of them;
* `Cluster.fst_list` -- a router lists what its nodes answer, one after the other;
* `listing_complete` -- every key as often as it was named, or the failure of a node.
-/
import Mathlib.Data.List.Count
import ShardStore.Proofs.Cluster.Outage
import ShardStore.Proofs.Text.Utf8

namespace ShardStore

set_option autoImplicit false

namespace Router.Listing

/-! ## Answers as they come -/

/-- A listing that waits for answers, or has failed. -/
inductive Progress where
  /-- The nodes in order, with the keys of those that have answered. -/
  | waiting (places : List (Node × Option (List String)))
  | failed (failure : Failure)

namespace Progress

/-- No node has answered. -/
def start (nodes : List Node) : Progress := .waiting (nodes.map fun n => (n, none))

/-- An answer takes the place of its node; a failure ends the listing. -/
def arrive : Progress → Outcome → Progress
  | .failed failure, _ => .failed failure
  | .waiting _, (_, .error failure) => .failed failure
  | .waiting places, (n, .ok keys) =>
    .waiting (places.map fun place => if place.1 = n then (n, some keys) else place)

/-- What the listing comes to, as soon as that is known. -/
def result? : Progress → Option (Except Failure (List ListingRecord))
  | .failed failure => some (.error failure)
  | .waiting places =>
    if places.all (·.2.isSome) then
      some (ofOutcomes (places.map fun place => (place.1, .ok (place.2.getD []))))
    else none

/-- The listing after the answers of some nodes, in the order in which they come. -/
def run (nodes : List Node) (answer : Node → Except Failure (List String)) (order : List Node) :
    Progress :=
  (order.map fun n => (n, answer n)).foldl arrive (start nodes)

end Progress

section Answers

variable (nodes : List Node) (answer : Node → Except Failure (List String))

/-- The keys that a node answers, if it answers any. -/
def keysOf (n : Node) : List String := (answer n).toOption.getD []

/-- The listing when these nodes have answered, none of them with a failure. -/
def Progress.holding (seen : List Node) : Progress :=
  .waiting (nodes.map fun n => (n, if n ∈ seen then some (keysOf answer n) else none))

variable {nodes answer}

theorem eq_ok_keysOf {n : Node} (answered : ∃ keys, answer n = .ok keys) :
    answer n = .ok (keysOf answer n) := by
  obtain ⟨keys, ok⟩ := answered
  rw [keysOf, ok]
  rfl

namespace Progress

/-- One more node answers. -/
theorem arrive_holding (seen : List Node) {n : Node} {keys : List String}
    (ok : answer n = .ok keys) :
    (holding nodes answer seen).arrive (n, answer n) = holding nodes answer (seen ++ [n]) := by
  have named : keysOf answer n = keys := by rw [keysOf, ok]; rfl
  rw [ok, holding, arrive, holding, List.map_map, ← named]
  congr 1
  apply List.map_congr_left
  intro x _
  by_cases same : x = n
  · simp [same]
  · simp [same]

theorem foldl_failed (failure : Failure) (outcomes : List Outcome) :
    outcomes.foldl arrive (.failed failure) = .failed failure := by
  induction outcomes with
  | nil => rfl
  | cons o outcomes ih => exact ih

/-- Answers fill the places of their nodes until the first failure. -/
theorem foldl_holding (seen order : List Node) :
    (order.map fun n => (n, answer n)).foldl arrive (holding nodes answer seen) =
      match gather (order.map fun n => (n, answer n)) with
      | .ok _ => holding nodes answer (seen ++ order)
      | .error failure => .failed failure := by
  induction order generalizing seen with
  | nil => simp [gather]
  | cons n order ih =>
    rw [List.map_cons, List.foldl_cons]
    cases result : answer n with
    | error failure => exact foldl_failed failure _
    | ok keys =>
      have step : (holding nodes answer seen).arrive (n, answer n) = _ :=
        arrive_holding seen result
      rw [result] at step
      rw [step, ih, gather, List.append_assoc, List.singleton_append]
      cases gather (order.map fun n => (n, answer n)) <;> rfl

end Progress

end Answers

/-! ## The order of the records -/

/-- One record stands before another, or where it stands: by the bytes of the node's name, then
by those of the key. -/
def Ascending (a b : ListingRecord) : Prop :=
  Text.Utf8.bytes a.node < Text.Utf8.bytes b.node ∨
    a.node = b.node ∧ Text.Utf8.bytes a.key ≤ Text.Utf8.bytes b.key

theorem precedes_iff {a b : ListingRecord} : precedes a b = true ↔ Ascending a b := by
  rw [Ascending, Text.Utf8.bytes_lt_bytes, Text.Utf8.bytes_le_bytes]
  simp [precedes]

theorem precedes_trans (a b c : ListingRecord) (ab : precedes a b = true)
    (bc : precedes b c = true) : precedes a c = true := by
  grind [precedes]

theorem precedes_total (a b : ListingRecord) : (precedes a b || precedes b a) = true := by
  grind [precedes]

/-- Two records in one place are equal. -/
theorem precedes_antisymm {a b : ListingRecord} (ab : precedes a b = true)
    (ba : precedes b a = true) : a = b := by
  obtain ⟨key, node⟩ := a
  obtain ⟨key', node'⟩ := b
  grind [precedes]

theorem mergeSort_ascending (records : List ListingRecord) :
    (records.mergeSort precedes).Pairwise Ascending :=
  (List.pairwise_mergeSort precedes_trans precedes_total records).imp precedes_iff.1

/-- The order in which the records are gathered does not matter. -/
theorem mergeSort_eq {records others : List ListingRecord} (same : records.Perm others) :
    records.mergeSort precedes = others.mergeSort precedes := by
  have perm : (records.mergeSort precedes).Perm (others.mergeSort precedes) :=
    (List.mergeSort_perm _ _).trans (same.trans (List.mergeSort_perm _ _).symm)
  exact perm.eq_of_pairwise (fun _ _ _ _ => precedes_antisymm)
    (List.pairwise_mergeSort precedes_trans precedes_total _)
    (List.pairwise_mergeSort precedes_trans precedes_total _)

/-! ## What a listing comes to -/

section Records

variable {nodes order : List Node} {answer : Node → Except Failure (List String)}

/-- The records of the nodes, in the order of the nodes. -/
def recordsOf (answer : Node → Except Failure (List String)) (nodes : List Node) :
    List ListingRecord :=
  nodes.flatMap fun n => (keysOf answer n).map (ListingRecord.mk · n.id)

/-- The keys of all nodes, in any order, are their records, sorted. -/
theorem ofOutcomes_eq (same : order.Perm nodes)
    (answered : ∀ n ∈ nodes, ∃ keys, answer n = .ok keys) :
    ofOutcomes (order.map fun n => (n, answer n)) =
      .ok ((recordsOf answer nodes).mergeSort precedes) := by
  have outcomes : (order.map fun n => (n, answer n)) =
      order.map fun n => (n, .ok (keysOf answer n)) := by
    apply List.map_congr_left
    intro n member
    rw [← eq_ok_keysOf (answered n (same.mem_iff.1 member))]
  rw [outcomes, ofOutcomes, gather_ok]
  exact congrArg Except.ok (mergeSort_eq (same.flatMap_right _))

/-- A failure is that of a node. -/
theorem gather_error {failure : Failure}
    (failed : gather (order.map fun n => (n, answer n)) = .error failure) :
    ∃ n ∈ order, answer n = .error failure := by
  induction order with
  | nil => cases failed
  | cons n order ih =>
    rw [List.map_cons] at failed
    cases result : answer n with
    | error other =>
      rw [result] at failed
      cases failed
      exact ⟨n, List.mem_cons_self, result⟩
    | ok keys =>
      rw [result, gather] at failed
      cases rest : gather (order.map fun n => (n, answer n)) with
      | error other =>
        rw [rest] at failed
        cases failed
        obtain ⟨x, member, bad⟩ := ih rest
        exact ⟨x, List.mem_cons_of_mem _ member, bad⟩
      | ok records =>
        rw [rest] at failed
        cases failed

/-- When all nodes have answered with keys, their records are sorted. -/
theorem Progress.result?_holding {seen : List Node} (all : ∀ n ∈ nodes, n ∈ seen) :
    (holding nodes answer seen).result? =
      some (.ok ((recordsOf answer nodes).mergeSort precedes)) := by
  have places : (nodes.map fun n =>
      (n, if n ∈ seen then some (keysOf answer n) else none)) =
        nodes.map fun n => (n, some (keysOf answer n)) := by
    apply List.map_congr_left
    intro n member
    rw [if_pos (all n member)]
  have filled : (nodes.map fun n => (n, some (keysOf answer n))).all (·.2.isSome) = true := by
    simp
  rw [holding, places, result?, if_pos filled, List.map_map]
  dsimp only [Function.comp_def, Option.getD_some]
  rw [ofOutcomes, gather_ok]
  rfl

/-- What the answers of all nodes come to in any order. -/
theorem Progress.run_eq (arrives : order.Perm nodes) :
    (run nodes answer order).result? = some (ofOutcomes (order.map fun n => (n, answer n))) := by
  have start : Progress.start nodes = holding nodes answer [] := by
    simp [Progress.start, holding]
  rw [run, start, foldl_holding, List.nil_append]
  cases gathered : gather (order.map fun n => (n, answer n)) with
  | error failure =>
    rw [ofOutcomes, gathered]
    rfl
  | ok records =>
    have answered := Cluster.gather_isOk.1 ⟨records, gathered⟩
    rw [List.forall_mem_map] at answered
    rw [ofOutcomes_eq arrives fun n member => answered n (arrives.mem_iff.2 member)]
    exact result?_holding fun n member => arrives.mem_iff.2 member

/-- A node's keys are named as often as the node named them. -/
theorem count_recordsOf (distinct : (nodes.map (·.id)).Nodup) {n : Node} (member : n ∈ nodes)
    (key : String) : (recordsOf answer nodes).count ⟨key, n.id⟩ = (keysOf answer n).count key := by
  obtain ⟨before, after, rfl⟩ := List.append_of_mem member
  have injective : Function.Injective (ListingRecord.mk · n.id) := by
    intro a b same
    exact congrArg ListingRecord.key same
  have none (others : List Node) (other : ∀ x ∈ others, x.id ≠ n.id) :
      (recordsOf answer others).count ⟨key, n.id⟩ = 0 := by
    rw [List.count_eq_zero]
    intro named
    obtain ⟨x, among, line⟩ := List.mem_flatMap.1 named
    obtain ⟨_, -, same⟩ := List.mem_map.1 line
    exact other x among (congrArg ListingRecord.node same)
  rw [List.map_append, List.map_cons, List.nodup_append] at distinct
  obtain ⟨-, behind, apart⟩ := distinct
  have early := none before fun x among same =>
    apart _ (List.mem_map_of_mem among) _ List.mem_cons_self same
  have late := none after fun x among same =>
    (List.nodup_cons.1 behind).1 (same ▸ List.mem_map_of_mem among)
  unfold recordsOf at early late ⊢
  rw [List.flatMap_append, List.flatMap_cons, List.count_append, List.count_append, early, late,
    Nat.zero_add, Nat.add_zero, List.count_map_of_injective _ _ injective]

end Records

end Router.Listing

/-! ## Routers -/

namespace Cluster

open Router (Failure)
open Router.Listing (ofOutcomes)

/-- No answer depends on who was asked before. -/
theorem fst_ask {ns : List Node} (distinct : (ns.map (·.id)).Nodup) (c : Cluster) :
    (c.ask ns).1 =
      ns.map fun n => (n, (deliver n.id (Router.listRequest n) c.members).1.keys n) := by
  induction ns generalizing c with
  | nil => rfl
  | cons n ns ih =>
    rw [List.map_cons, List.nodup_cons] at distinct
    have rest := ih distinct.2 (c.send n (Router.listRequest n)).2
    have unmoved : ∀ x ∈ ns,
        (deliver x.id (Router.listRequest x) (c.send n (Router.listRequest n)).2.members).1 =
          (deliver x.id (Router.listRequest x) c.members).1 := by
      intro x member
      have other : x.id ≠ n.id := fun same => distinct.1 (same ▸ List.mem_map_of_mem member)
      rw [fst_deliver, fst_deliver, send, find?_deliver]
      simp only [other, if_false, Option.map_id']
    rw [List.map_congr_left (fun x member => by rw [unmoved x member])] at rest
    rw [ask, List.map_cons, ← rest]
    rfl

/-- A listing asks every node once, in the order of the nodes. -/
theorem fst_list {c : Cluster} (distinct : (c.members.map (·.node.id)).Nodup)
    {answer : Node → Except Failure (List String)}
    (answers : ∀ m ∈ c.members,
      (m.receive (Router.listRequest m.node)).1.keys m.node = answer m.node) :
    (c.list false).1 = ofOutcomes (c.nodes.map fun n => (n, answer n)) := by
  have names : (c.nodes.map (·.id)).Nodup := by rwa [Cluster.nodes, List.map_map]
  have asked : (c.ask c.nodes).1 = c.nodes.map fun n => (n, answer n) := by
    rw [fst_ask names]
    apply List.map_congr_left
    intro n member
    obtain ⟨m, among, rfl⟩ := List.mem_map.1 member
    have found := find?_member distinct among
    rw [Cluster.find?] at found
    rw [fst_deliver, found, ← answers m among]
    rfl
  simp only [Cluster.list, Bool.false_eq_true, if_false, asked]

end Cluster

/-! ## Listings -/

namespace Router.Listing

/-- Every key as often as its node named it, and no others, in ascending order. -/
structure Complete (nodes : List Node) (answer : Node → Except Failure (List String))
    (records : List ListingRecord) : Prop where
  count : ∀ n ∈ nodes, ∀ keys, answer n = .ok keys →
    ∀ key, records.count ⟨key, n.id⟩ = keys.count key
  only : ∀ r ∈ records, ∃ n ∈ nodes, r.node = n.id
  ascending : records.Pairwise Ascending

theorem complete_recordsOf {nodes : List Node} (distinct : (nodes.map (·.id)).Nodup)
    (answer : Node → Except Failure (List String)) :
    Complete nodes answer ((recordsOf answer nodes).mergeSort precedes) := by
  refine ⟨?_, ?_, mergeSort_ascending _⟩
  · intro n member keys ok key
    have named : keysOf answer n = keys := by rw [keysOf, ok]; rfl
    rw [(List.mergeSort_perm _ _).count_eq, count_recordsOf distinct member, named]
  · intro r member
    obtain ⟨n, among, line⟩ := List.mem_flatMap.1 (List.mem_mergeSort.1 member)
    obtain ⟨key, -, rfl⟩ := List.mem_map.1 line
    exact ⟨n, among, rfl⟩

/-- Answers that come in any order make a listing exactly if every node answers with keys.  Then
it is complete and in order, and the same for every order of the answers and of the nodes; else
it is the failure of a node.  A router lists what its nodes answer in their own order. -/
theorem listing_complete {nodes : List Node} {t : Topology} (made : Topology.ofNodes nodes = .ok t)
    (answer : Node → Except Failure (List String)) {order : List Node}
    (arrives : order.Perm t.nodes) :
    ∃ result, (Progress.run t.nodes answer order).result? = some result ∧
      ((∃ records, result = .ok records) ↔ ∀ n ∈ t.nodes, ∃ keys, answer n = .ok keys) ∧
      (∀ failure, result = .error failure → ∃ n ∈ t.nodes, answer n = .error failure) ∧
      (∀ records, result = .ok records →
        Complete t.nodes answer records ∧
        ∀ (others late : List Node) (u : Topology), others.Perm nodes →
          Topology.ofNodes others = .ok u → late.Perm u.nodes →
          (Progress.run u.nodes answer late).result? = some (.ok records)) ∧
      ∀ c : Cluster, c.nodes = t.nodes →
        (∀ m ∈ c.members, (m.receive (listRequest m.node)).1.keys m.node = answer m.node) →
        (Progress.run t.nodes answer t.nodes).result? = some (c.list false).1 := by
  obtain ⟨rfl, distinct⟩ := Topology.ofNodes_ok made
  have answered : (∃ records, ofOutcomes (order.map fun n => (n, answer n)) = .ok records) ↔
      ∀ n ∈ t.nodes, ∃ keys, answer n = .ok keys := by
    rw [Cluster.ofOutcomes_isOk, List.forall_mem_map]
    exact forall_congr' fun n => imp_congr_left arrives.mem_iff
  refine ⟨_, Progress.run_eq arrives, answered, ?_, ?_, ?_⟩
  · intro failure failed
    cases gathered : gather (order.map fun n => (n, answer n)) with
    | error other =>
      rw [ofOutcomes, gathered] at failed
      cases failed
      obtain ⟨n, member, bad⟩ := gather_error gathered
      exact ⟨n, arrives.mem_iff.1 member, bad⟩
    | ok lines =>
      rw [ofOutcomes, gathered] at failed
      cases failed
  · intro records ok
    have all := answered.1 ⟨records, ok⟩
    rw [ofOutcomes_eq arrives all] at ok
    cases ok
    refine ⟨complete_recordsOf distinct answer, ?_⟩
    intro others late u relisted made' arrives'
    obtain ⟨rfl, -⟩ := Topology.ofNodes_ok made'
    rw [Progress.run_eq arrives', ofOutcomes_eq (arrives'.trans relisted) all]
  · intro c same answers
    have names : (c.members.map (·.node.id)).Nodup := by
      rw [← same, Cluster.nodes, List.map_map] at distinct
      exact distinct
    rw [Progress.run_eq (List.Perm.refl _), ← same, Cluster.fst_list names answers]

/-- A node that names these keys whenever it is asked. -/
def naming (n : Node) (keys : List String) : Cluster.Member :=
  ⟨n, .scripted [.complete 200 (Json.Value.array (keys.map .string)).bytes], true⟩

theorem keys_naming (n : Node) (keys : List String) (r : Http.Request) :
    ((naming n keys).receive r).1.keys n = .ok keys := by
  have success : Http.isSuccess 200 = true := rfl
  simp only [naming, Cluster.Member.receive, if_true, Cluster.Peer.receive, Reply.keys, Reply.read,
    Reply.body, success, Json.readKeys_array]

/-- Two nodes, one of which names a key twice: whoever answers first, and in whatever order the
nodes are given, the router lists the key twice. -/
theorem listing_complete_twice :
    let a : Node := ⟨"a", "http://a/"⟩
    let b : Node := ⟨"b", "http://b/"⟩
    let answer (n : Node) : Except Failure (List String) :=
      .ok (if n = a then ["z"] else ["y", "x", "x"])
    ∃ c records, Cluster.ofMembers [naming a ["z"], naming b ["y", "x", "x"]] = .ok c ∧
      (c.list false).1 = .ok records ∧
      (Progress.run [a, b] answer [b, a]).result? = some (.ok records) ∧
      (Progress.run [b, a] answer [b, a]).result? = some (.ok records) ∧
      records.count ⟨"x", "b"⟩ = 2 := by
  intro a b answer
  have made : Topology.ofNodes [a, b] = .ok ⟨[a, b]⟩ := rfl
  have turned : Topology.ofNodes [b, a] = .ok ⟨[b, a]⟩ := rfl
  have swapped : [b, a].Perm [a, b] := List.Perm.swap a b []
  obtain ⟨result, first, complete, -, only, routed⟩ := listing_complete made answer swapped
  obtain ⟨records, rfl⟩ := complete.2 fun n _ => ⟨_, rfl⟩
  obtain ⟨listed, always⟩ := only records rfl
  obtain ⟨c, router⟩ :
      ∃ c, Cluster.ofMembers [naming a ["z"], naming b ["y", "x", "x"]] = .ok c :=
    Cluster.exists_ofMembers (by simp) (by decide)
  have start := (Cluster.ofMembers_ok router).1
  have answers : ∀ m ∈ c.members,
      (m.receive (listRequest m.node)).1.keys m.node = answer m.node := by
    intro m member
    rw [start] at member
    simp only [List.mem_cons, List.not_mem_nil, or_false] at member
    rcases member with rfl | rfl
    · exact keys_naming a ["z"] _
    · exact keys_naming b ["y", "x", "x"] _
  have last := routed c (by rw [start]; rfl) answers
  rw [always [a, b] [a, b] ⟨[a, b]⟩ (List.Perm.refl _) made (List.Perm.refl _)] at last
  refine ⟨c, records, router, (Option.some.inj last).symm, first, ?_, ?_⟩
  · exact always [b, a] [b, a] ⟨[b, a]⟩ swapped turned (List.Perm.refl _)
  · exact listed.count b (by simp) _ rfl "x"

end Router.Listing

end ShardStore
