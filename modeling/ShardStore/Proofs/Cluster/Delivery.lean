/-
# ShardStore.Proofs.Cluster.Delivery -- a request reaches its node and no other

Names tell the members of a cluster apart.  A request to a member is answered by that
member, and all others stay as they are (`deliver_eq`).  A member that serves
(`Member.Serves`) answers with what its shard answers (`Member.receive_serves`).

A live member hands on its shard's keys and stays as it is, so asking all nodes gathers
their answers and moves nobody (`ask_eq`).  A call on a valid key is one request to the
key's owner (`call_member`); if the owner serves, the call changes its shard and no other
(`call_eq`).
-/
import Mathlib.Data.List.Nodup
import ShardStore.Cluster
import ShardStore.Proofs.Ring
import ShardStore.Proofs.Router.Hop

namespace ShardStore.Cluster

set_option autoImplicit false

open Router (Reply)

/-! ## One member -/

/-- The link to the member is up, and its shard lives and is not stopped. -/
structure Member.Serves (m : Member) (shard : Shard) : Prop where
  linked : m.linked = true
  live : m.peer = .live shard
  running : shard.stopped = false

namespace Member

/-- The member with this shard behind it. -/
def hold (m : Member) (shard : Shard) : Member := { m with peer := .live shard }

variable {m : Member} {shard : Shard}

@[simp] theorem hold_node (m : Member) (shard : Shard) : (m.hold shard).node = m.node := rfl

theorem Serves.hold (serves : m.Serves shard) {next : Shard} (running : next.stopped = false) :
    (m.hold next).Serves next :=
  ⟨serves.linked, rfl, running⟩

theorem receive_live (linked : m.linked = true) (live : m.peer = .live shard) (r : Http.Request) :
    m.receive r =
      (.complete (shard.respond r).1.status (shard.respond r).1.body,
        m.hold (shard.respond r).2) := by
  simp only [receive, linked, if_true, live, Peer.receive, hold]

theorem receive_serves (serves : m.Serves shard) (r : Http.Request) :
    m.receive r =
      (.complete (shard.respond r).1.status (shard.respond r).1.body,
        m.hold (shard.respond r).2) :=
  receive_live serves.linked serves.live r

/-- A listing leaves the member as it is. -/
theorem receive_listRequest (linked : m.linked = true) (live : m.peer = .live shard)
    (base : m.node.IsBase) :
    (m.receive (Router.listRequest m.node)).1.keys m.node = .ok shard.store.keys ∧
      (m.receive (Router.listRequest m.node)).2 = m := by
  obtain ⟨kept, keys⟩ := Router.keys_answer base shard
  rw [receive_live linked live]
  refine ⟨keys, ?_⟩
  rw [kept, Member.hold, ← live]

end Member

/-! ## One request -/

section Deliver

variable {members : List Member} {m : Member}

theorem deliver_eq (distinct : (members.map (·.node.id)).Nodup) (member : m ∈ members)
    (r : Http.Request) :
    deliver m.node.id r members =
      ((m.receive r).1,
        members.map fun x => if x.node.id = m.node.id then (m.receive r).2 else x) := by
  induction members with
  | nil => cases member
  | cons y rest ih =>
    have first := List.inj_on_of_nodup_map distinct List.mem_cons_self member
    rw [List.map_cons, List.nodup_cons] at distinct
    rw [deliver]
    by_cases same : y.node.id = m.node.id
    · obtain rfl := first same
      have others : (rest.map fun x => if x.node.id = y.node.id then (y.receive r).2 else x) =
          rest := by
        rw [List.map_congr_left (g := id), List.map_id]
        intro x inRest
        exact if_neg fun equal => distinct.1 (List.mem_map.2 ⟨x, inRest, equal⟩)
      simp only [if_true, List.map_cons, others]
    · have inRest : m ∈ rest := by
        rcases List.mem_cons.1 member with rfl | inRest
        · exact absurd rfl same
        · exact inRest
      simp only [if_neg same, List.map_cons, ih distinct.2 inRest]

/-- A request that leaves its member as it is leaves all as they are. -/
theorem deliver_still (distinct : (members.map (·.node.id)).Nodup) (member : m ∈ members)
    {r : Http.Request} (kept : (m.receive r).2 = m) :
    deliver m.node.id r members = ((m.receive r).1, members) := by
  rw [deliver_eq distinct member, kept, List.map_congr_left (g := id), List.map_id]
  intro x hx
  split
  · rename_i same
    exact (List.inj_on_of_nodup_map distinct hx member same).symm
  · rfl

end Deliver

/-! ## All nodes -/

/-- Every node is asked for its keys, if asking leaves it as it is. -/
theorem ask_eq {members : List Member} (distinct : (members.map (·.node.id)).Nodup)
    (keys : Node → Except Router.Failure (List String)) {ns : List Node} (ring : Ring)
    (stopped : Bool) (sent : List (String × Http.Request))
    (asked : ∀ n ∈ ns, ∃ m ∈ members, m.node = n ∧
      (m.receive (Router.listRequest n)).1.keys n = keys n ∧
        (m.receive (Router.listRequest n)).2 = m) :
    ∃ log, ask ⟨members, ring, stopped, sent⟩ ns =
      (ns.map fun n => (n, keys n), ⟨members, ring, stopped, log⟩) := by
  induction ns generalizing sent with
  | nil => exact ⟨sent, rfl⟩
  | cons n ns ih =>
    obtain ⟨m, member, rfl, answer, kept⟩ := asked n List.mem_cons_self
    obtain ⟨log, rest⟩ := ih (sent ++ [(m.node.id, Router.listRequest m.node)]) fun n among =>
      asked n (List.mem_cons_of_mem _ among)
    refine ⟨log, ?_⟩
    simp only [ask, send, deliver_still distinct member kept, rest, answer, List.map_cons]

/-! ## One call -/

/-- A call goes to the owner of its key, if the key can be stored. -/
theorem owner_eq_ok {c : Cluster} {key : String} {n : Node} :
    c.owner key = .ok n ↔ c.ring.owner key = .ok n ∧ Key.isValid key = true := by
  unfold Cluster.owner
  cases c.ring.owner key with
  | error fault => simp
  | ok o => cases Key.isValid key <;> simp

/-- A shard that is put in the place of a member's is put into that member. -/
theorem members_setShard {c : Cluster} (distinct : (c.members.map (·.node.id)).Nodup) {m : Member}
    (member : m ∈ c.members) (shard : Shard) :
    (c.setShard m.node.id shard).members =
      c.members.map fun x => if x.node.id = m.node.id then m.hold shard else x := by
  apply List.map_congr_left
  intro x hx
  split
  · rename_i same
    rw [List.inj_on_of_nodup_map distinct hx member same, Member.hold]
  · rfl

/-- A call on a valid key is one request to the key's owner. -/
theorem call_member {c : Cluster} (distinct : (c.members.map (·.node.id)).Nodup) {key : String}
    (valid : Key.isValid key = true) {m : Member} (member : m ∈ c.members)
    (owner : c.ring.owner key = .ok m.node) (call : Router.Call) :
    c.call key call false =
      (((m.receive (call.request m.node key)).1.record m.node).map (⟨·, m.node.id⟩),
        { c with
          members := c.members.map fun x =>
            if x.node.id = m.node.id then (m.receive (call.request m.node key)).2 else x
          sent := c.sent ++ [(m.node.id, call.request m.node key)] }) := by
  have found : c.owner key = .ok m.node := owner_eq_ok.2 ⟨owner, valid⟩
  simp only [Cluster.call, found, Bool.false_eq_true, if_false, send, deliver_eq distinct member]

/-- A shard that serves answers it. -/
theorem call_eq {c : Cluster} (distinct : (c.members.map (·.node.id)).Nodup) {key : String}
    (valid : Key.isValid key = true) {m : Member} (member : m ∈ c.members)
    (owner : c.ring.owner key = .ok m.node) {shard : Shard} (serves : m.Serves shard)
    (call : Router.Call) :
    c.call key call false =
      (((Reply.complete (shard.respond (call.request m.node key)).1.status
          (shard.respond (call.request m.node key)).1.body).record m.node).map (⟨·, m.node.id⟩),
        { c.setShard m.node.id (shard.respond (call.request m.node key)).2 with
          sent := c.sent ++ [(m.node.id, call.request m.node key)] }) := by
  rw [call_member distinct valid member owner, Member.receive_serves serves,
    ← members_setShard distinct member]
  rfl

/-! ## Shards by name -/

section Shards

variable {c : Cluster} {m : Member} {shard : Shard}

theorem find?_setShard (c : Cluster) (id name : String) (shard : Shard) :
    (c.setShard id shard).find? name =
      (c.find? name).map fun x => if x.node.id = id then { x with peer := .live shard } else x := by
  have named : (fun x : Member => decide (x.node.id = name)) ∘
      (fun x => if x.node.id = id then { x with peer := .live shard } else x) =
      fun x => decide (x.node.id = name) := by
    funext x
    rw [Function.comp_apply]
    split <;> rfl
  rw [find?, setShard, List.find?_map, named, find?]

/-- A member is found by its name. -/
theorem find?_member (distinct : (c.members.map (·.node.id)).Nodup) (member : m ∈ c.members) :
    c.find? m.node.id = some m :=
  Topology.find?_named distinct member

theorem shard?_live {id : String} (found : c.find? id = some m) (live : m.peer = .live shard) :
    c.shard? id = some shard := by
  rw [Cluster.shard?, found]
  obtain ⟨node, peer, linked⟩ := m
  obtain rfl : peer = .live shard := live
  rfl

/-- The shard of a member that serves. -/
theorem shard?_serves (distinct : (c.members.map (·.node.id)).Nodup) (member : m ∈ c.members)
    (serves : m.Serves shard) : c.find? m.node.id = some m ∧ c.shard? m.node.id = some shard :=
  ⟨find?_member distinct member, shard?_live (find?_member distinct member) serves.live⟩

theorem shard?_setShard_self (found : c.find? m.node.id = some m) (next : Shard) :
    (c.setShard m.node.id next).shard? m.node.id = some next := by
  rw [shard?, find?_setShard, found, Option.map_some, if_pos rfl]

theorem shard?_setShard_other {id name : String} (other : name ≠ id) (next : Shard) :
    (c.setShard id next).shard? name = c.shard? name := by
  rw [shard?, find?_setShard]
  cases found : c.find? name with
  | none => rw [shard?, found]; rfl
  | some x =>
    have same := List.find?_some found
    have named : x.node.id = name := of_decide_eq_true same
    rw [Option.map_some, if_neg (named ▸ other), shard?, found]

end Shards

end ShardStore.Cluster
