/-
# ShardStore.Proofs.Cluster.Requests -- what requests can do to a cluster

Requests reach a cluster through its router, or go to a node directly (`Act`); a router may
also be called from within, and be stopped (`Move`).  All that a router does is made of
requests to nodes, and whom it asks depends on its ring, its nodes and whether it is
stopped.  So a relation between two clusters that agree in these is kept by all of it, if
it is kept by one request that both get (`Kept`); and what holds of one cluster is kept if
one request keeps it (`Invariant`).

With this, requests stop neither the router nor a shard, cut no link, and put nothing into
a shard that was not read from a body or merged of such values (`Standing`).

* `Kept.afterMoves`, `Invariant.afterMoves` -- after everything a router is asked for;
* `Standing.after` -- a cluster at every point of every run of requests;
* `Cluster.standing_fresh` -- new shards under distinct names.
-/
import ShardStore.Proofs.Cluster.Sharding
import ShardStore.Proofs.Shard.Requests
import ShardStore.Router.Surface

namespace ShardStore

set_option autoImplicit false

/-! ## One shard -/

/-- What a merge keeps, requests keep in a shard, if it holds of the values in their bodies. -/
theorem Shard.respond_each {P : Json.Value → Prop} (closed : ∀ v w, P v → P w → P (v.merge w))
    {s : Shard} (h : s.store.Each P) {r : Http.Request}
    (new : ∀ v, Json.Value.read r.body = .ok v → P v) :
    (s.respond r).2.store.Each P ∧ (s.respond r).2.stopped = s.stopped := by
  rcases s.snd_respond r with same | ⟨key, blank, w, payload, same⟩
  · rw [same]
    exact ⟨h, rfl⟩
  · rw [same, Shard.write]
    split
    · exact ⟨h, rfl⟩
    · rename_i value expected carried
      have value : P (w value).payload := by
        rw [payload]
        unfold Shard.payload at carried
        split at carried
        · cases carried
        · split at carried
          · cases carried
          · cases carried
            exact new _ (Payload.read_eq_ok (by assumption))
      exact ⟨(h.write closed value key expected s.stopped).1, rfl⟩

namespace Cluster

/-! ## Requests -/

/-- A request comes to the router, or to a node. -/
inductive Act where
  | router (stamp : Router.Stamp) (r : Http.Request)
  | node (id : String) (r : Http.Request)

def act (c : Cluster) : Act → Cluster
  | .router stamp r => (c.respond stamp r).2
  | .node id r => { c with members := (deliver id r c.members).2 }

/-- A cluster after requests, one after the other. -/
def afterActs (c : Cluster) (acts : List Act) : Cluster := acts.foldl act c

/-- What a router is asked for, over the network or from within. -/
inductive Move where
  | act (a : Act)
  | call (key : String) (call : Router.Call) (cancelled : Bool)
  | list (cancelled : Bool)
  | stop

def move (c : Cluster) : Move → Cluster
  | .act a => c.act a
  | .call key call cancelled => (c.call key call cancelled).2
  | .list cancelled => (c.list cancelled).2
  | .stop => c.stop

def afterMoves (c : Cluster) (moves : List Move) : Cluster := moves.foldl move c

/-! ## Two clusters -/

/-- A relation that makes routers ask alike, and is kept by a request that both clusters get.
The requests sent do not count. -/
structure Kept (R : Cluster → Cluster → Prop) : Prop where
  ring : ∀ {c d}, R c d → d.ring = c.ring
  nodes : ∀ {c d}, R c d → d.nodes = c.nodes
  stopped : ∀ {c d}, R c d → d.stopped = c.stopped
  deliver : ∀ {c d}, R c d → ∀ id r sent sent',
    R { c with members := (Cluster.deliver id r c.members).2, sent := sent }
      { d with members := (Cluster.deliver id r d.members).2, sent := sent' }

namespace Kept

variable {R : Cluster → Cluster → Prop} {c d : Cluster}

theorem send (k : Kept R) (h : R c d) (n : Node) (r : Http.Request) :
    R (c.send n r).2 (d.send n r).2 :=
  k.deliver h n.id r _ _

theorem owner (k : Kept R) (h : R c d) (key : String) : d.owner key = c.owner key := by
  rw [Cluster.owner, k.ring h, Cluster.owner]

theorem call (k : Kept R) (h : R c d) (key : String) (call : Router.Call) (cancelled : Bool) :
    R (c.call key call cancelled).2 (d.call key call cancelled).2 := by
  unfold Cluster.call
  rw [k.owner h]
  cases c.owner key with
  | error failure => exact h
  | ok n =>
    cases cancelled with
    | true => exact h
    | false => exact k.send h n _

theorem ask (k : Kept R) (h : R c d) (ns : List Node) : R (c.ask ns).2 (d.ask ns).2 := by
  induction ns generalizing c d with
  | nil => exact h
  | cons n ns ih => exact ih (k.send h n _)

theorem list (k : Kept R) (h : R c d) (cancelled : Bool) :
    R (c.list cancelled).2 (d.list cancelled).2 := by
  unfold Cluster.list
  rw [k.nodes h]
  cases cancelled with
  | true => exact h
  | false => exact k.ask h c.nodes

theorem callFor (k : Kept R) (h : R c d) (stamp : Router.Stamp) (r : Http.Request)
    (key : String) (asked : Params → Except Payload.Fault Router.Call) :
    R (c.callFor stamp r key asked).2 (d.callFor stamp r key asked).2 := by
  unfold Cluster.callFor
  rw [k.stopped h]
  split
  · exact h
  · split
    · exact h
    · exact k.call h key _ _

theorem respond (k : Kept R) (h : R c d) (stamp : Router.Stamp) (r : Http.Request) :
    R (c.respond stamp r).2 (d.respond stamp r).2 := by
  show R (c.serve stamp r).2 (d.serve stamp r).2
  unfold Cluster.serve
  split
  · exact h
  · exact h
  · rw [k.stopped h]
    exact k.list h c.stopped
  · exact k.callFor h stamp r _ _
  · exact k.callFor h stamp r _ _
  · exact k.callFor h stamp r _ _

theorem act (k : Kept R) (h : R c d) (a : Act) : R (c.act a) (d.act a) := by
  cases a with
  | router stamp r => exact k.respond h stamp r
  | node id r => exact k.deliver h id r c.sent d.sent

/-- After the same requests. -/
theorem after (k : Kept R) (h : R c d) (acts : List Act) :
    R (c.afterActs acts) (d.afterActs acts) := by
  induction acts generalizing c d with
  | nil => exact h
  | cons a acts ih => exact ih (k.act h a)

/-- And if both routers are stopped. -/
theorem afterMoves (k : Kept R) (stop : ∀ {c d}, R c d → R c.stop d.stop) (h : R c d)
    (moves : List Move) : R (c.afterMoves moves) (d.afterMoves moves) := by
  induction moves generalizing c d with
  | nil => exact h
  | cons m moves ih =>
    apply ih
    cases m with
    | act a => exact k.act h a
    | call key call cancelled => exact k.call h key call cancelled
    | list cancelled => exact k.list h cancelled
    | stop => exact stop h

end Kept

/-! ## One cluster -/

/-- What holds of a cluster of these nodes and is kept by a request to one of them. -/
structure Invariant (nodes : List Node) (ring : Ring) (P : Cluster → Prop) : Prop where
  ring : ∀ {c}, P c → c.ring = ring
  nodes : ∀ {c}, P c → c.nodes = nodes
  deliver : ∀ {c}, P c → ∀ id r sent,
    P { c with members := (Cluster.deliver id r c.members).2, sent := sent }

namespace Invariant

variable {nodes : List Node} {ring : Ring} {P : Cluster → Prop} {c : Cluster}

theorem kept (i : Invariant nodes ring P) :
    Kept fun c d => P c ∧ P d ∧ d.stopped = c.stopped where
  ring := fun ⟨hc, hd, _⟩ => (i.ring hd).trans (i.ring hc).symm
  nodes := fun ⟨hc, hd, _⟩ => (i.nodes hd).trans (i.nodes hc).symm
  stopped h := h.2.2
  deliver := fun ⟨hc, hd, same⟩ id r sent sent' =>
    ⟨i.deliver hc id r sent, i.deliver hd id r sent', same⟩

theorem after (i : Invariant nodes ring P) (h : P c) (acts : List Act) : P (c.afterActs acts) :=
  (i.kept.after ⟨h, h, rfl⟩ acts).1

theorem afterMoves (i : Invariant nodes ring P) (stop : ∀ {c}, P c → P c.stop) (h : P c)
    (moves : List Move) : P (c.afterMoves moves) :=
  (i.kept.afterMoves (fun ⟨hc, hd, _⟩ => ⟨stop hc, stop hd, rfl⟩) ⟨h, h, rfl⟩ moves).1

end Invariant

/-! ## One request -/

theorem node_receive (m : Member) (r : Http.Request) : (m.receive r).2.node = m.node := by
  rw [Member.receive]
  split <;> rfl

theorem nodes_deliver (id : String) (r : Http.Request) (members : List Member) :
    (deliver id r members).2.map (·.node) = members.map (·.node) := by
  induction members with
  | nil => rfl
  | cons m rest ih =>
    rw [deliver]
    split
    · simp [node_receive]
    · simp [ih]

theorem mem_deliver {id : String} {r : Http.Request} {members : List Member} {x : Member}
    (h : x ∈ (deliver id r members).2) : x ∈ members ∨ ∃ m ∈ members, x = (m.receive r).2 := by
  induction members with
  | nil => cases h
  | cons m rest ih =>
    rw [deliver] at h
    split at h
    · rcases List.mem_cons.1 h with rfl | old
      · exact Or.inr ⟨m, List.mem_cons_self, rfl⟩
      · exact Or.inl (List.mem_cons_of_mem _ old)
    · rcases List.mem_cons.1 h with rfl | later
      · exact Or.inl List.mem_cons_self
      · rcases ih later with old | ⟨y, member, same⟩
        · exact Or.inl (List.mem_cons_of_mem _ old)
        · exact Or.inr ⟨y, List.mem_cons_of_mem _ member, same⟩

/-- What holds of every member, and goes on to hold of a member that gets a request. -/
theorem Invariant.each (nodes : List Node) (ring : Ring) {P : Member → Prop}
    (receive : ∀ m, P m → ∀ r, P (m.receive r).2) :
    Invariant nodes ring fun c => c.ring = ring ∧ c.nodes = nodes ∧ ∀ m ∈ c.members, P m where
  ring h := h.1
  nodes h := h.2.1
  deliver := by
    rintro c ⟨sameRing, sameNodes, all⟩ id r sent
    refine ⟨sameRing, (nodes_deliver id r c.members).trans sameNodes, ?_⟩
    intro x member
    rcases mem_deliver member with old | ⟨m, among, rfl⟩
    · exact all x old
    · exact receive m (all m among) r

/-! ## What stands -/

/-- The router and all shards serve, under the same names as ever, and all values are tidy. -/
structure Standing (nodes : List Node) (ring : Ring) (c : Cluster) : Prop where
  sameRing : c.ring = ring
  sameNodes : c.nodes = nodes
  running : c.stopped = false
  serves : ∀ m ∈ c.members, ∃ shard, m.Serves shard ∧ shard.store.Each Json.Value.Tidy

namespace Standing

variable {nodes : List Node} {ring : Ring} {c : Cluster}

/-- A member that serves goes on to serve. -/
theorem receive {m : Member} (h : ∃ shard, m.Serves shard ∧ shard.store.Each Json.Value.Tidy)
    (r : Http.Request) :
    ∃ shard, (m.receive r).2.Serves shard ∧ shard.store.Each Json.Value.Tidy := by
  obtain ⟨shard, serves, tidy⟩ := h
  obtain ⟨kept, running⟩ := Shard.respond_each (fun _ _ => Json.Value.Tidy.merge) tidy
    (r := r) fun _ => Json.Value.read_tidy
  rw [Member.receive_serves serves]
  exact ⟨_, serves.hold (running.trans serves.running), kept⟩

theorem invariant (nodes : List Node) (ring : Ring) :
    Invariant nodes ring (Standing nodes ring) where
  ring h := h.sameRing
  nodes h := h.sameNodes
  deliver := by
    intro c h id r sent
    obtain ⟨sameRing, sameNodes, serves⟩ :=
      (Invariant.each nodes ring fun _ => receive).deliver ⟨h.sameRing, h.sameNodes, h.serves⟩
        id r sent
    exact ⟨sameRing, sameNodes, h.running, serves⟩

theorem after (h : Standing nodes ring c) (acts : List Act) :
    Standing nodes ring (c.afterActs acts) :=
  (invariant nodes ring).after h acts

end Standing

/-! ## New clusters -/

theorem exists_ofMembers {members : List Member} (some : members ≠ [])
    (distinct : (members.map (·.node.id)).Nodup) : ∃ c, ofMembers members = .ok c := by
  have named : ((members.map (·.node)).map (·.id)).Nodup := by rwa [List.map_map]
  have nodes : members.map (·.node) ≠ [] := by simpa using some
  obtain ⟨ring, made⟩ := Ring.exists_ofNodes nodes
  refine ⟨{ members, ring }, ?_⟩
  simp only [ofMembers, Topology.ofNodes_eq_ok nodes named, Ring.ofTopology, made]

/-- A router is made of members under distinct names, with their ring. -/
theorem ofMembers_ok {members : List Member} {c : Cluster} (made : ofMembers members = .ok c) :
    c = { members, ring := c.ring } ∧ Ring.ofNodes (members.map (·.node)) = .ok c.ring ∧
      ((members.map (·.node)).map (·.id)).Nodup := by
  unfold ofMembers at made
  split at made
  · cases made
  · rename_i t topology
    obtain ⟨nodes, distinct⟩ := Topology.ofNodes_ok topology
    split at made
    · cases made
    · rename_i ring built
      cases made
      rw [Ring.ofTopology, nodes] at built
      exact ⟨rfl, built, distinct⟩

/-- A router with new shards under distinct names stands. -/
theorem standing_fresh {members : List Member} (some : members ≠ [])
    (distinct : (members.map (·.node.id)).Nodup) (fresh : ∀ m ∈ members, m.Fresh) :
    ∃ c, ofMembers members = .ok c ∧ Layout (members.map (·.node)) c.ring ∧
      Standing (members.map (·.node)) c.ring c := by
  obtain ⟨c, made⟩ := exists_ofMembers some distinct
  obtain ⟨start, ring, named⟩ := ofMembers_ok made
  have same : c.members = members := by rw [start]
  refine ⟨c, made, ⟨named, ?_, ring⟩, rfl, by rw [Cluster.nodes, same], by rw [start], ?_⟩
  · intro n among
    obtain ⟨m, member, rfl⟩ := List.mem_map.1 among
    exact (fresh m member).base
  · intro m member
    obtain ⟨shard, serves, nothing⟩ := (fresh m (same ▸ member)).serves
    refine ⟨shard, serves, fun key e found => ?_⟩
    rw [Store.find?, nothing] at found
    cases found

end Cluster

end ShardStore
