/-
# ShardStore.Proofs.Cluster.Outage -- some nodes are down

At the address of a node there may be nothing, or the link to it may be cut.  Such a node
gives no answer and stays as it is (`Member.receive_down`); all others are live.

A request is for the node of one name: it is answered by the member that has the name, and
what all other names stand for stays the same (`fst_deliver`, `find?_deliver`).  Who gets
the request is decided by the ring before anybody is asked.  Hence two clusters in which
the live nodes are the same, and the nodes that are down in the one may be anything in the
other, stay so through everything that their routers are asked for (`Twin`).  A node that
is down does not change in the meantime, and a live one goes on to live (`Enduring`).

* `Cluster.outage_isolated` -- a call on a key of a live node ends as if all nodes were
  live; one on a key of a node that is down names it and changes nothing; a listing fails if
  any node is down; and whatever stands at the nodes, a call is at most one request, to the
  owner of the key.
-/
import ShardStore.Proofs.Cluster.Requests

namespace ShardStore

set_option autoImplicit false

open Router (Call Failure Reply)

namespace Cluster

/-! ## Members -/

namespace Member

/-- Nothing answers at the node's address. -/
def isDown (m : Member) : Bool :=
  match m.peer with
  | .dead => true
  | _ => !m.linked

/-- A shard answers there. -/
def isUp (m : Member) : Bool :=
  match m.peer with
  | .live _ => m.linked
  | _ => false

/-- The member is down, or it is a shard that answers at the base URL of its node. -/
def LiveOrDown (m : Member) : Prop := m.isDown = true ∨ m.isUp = true ∧ m.node.IsBase

/-- Puts a shard in the place of a member that is down. -/
def revive (spare : String → Shard) (m : Member) : Member :=
  if m.isDown then { m with peer := .live (spare m.node.id), linked := true } else m

variable {m : Member}

theorem receive_down (down : m.isDown = true) (r : Http.Request) : m.receive r = (.nothing, m) := by
  obtain ⟨node, peer, linked⟩ := m
  cases linked with
  | false => rfl
  | true =>
    cases peer with
    | dead => rfl
    | live shard => cases down
    | scripted replies => cases down

theorem exists_shard (up : m.isUp = true) : m.linked = true ∧ ∃ shard, m.peer = .live shard := by
  obtain ⟨node, peer, linked⟩ := m
  cases peer with
  | live shard => exact ⟨up, shard, rfl⟩
  | dead => cases up
  | scripted replies => cases up

theorem isDown_of_isUp (up : m.isUp = true) : m.isDown = false := by
  obtain ⟨linked, shard, live⟩ := exists_shard up
  simp only [isDown, live, linked, Bool.not_true]

theorem isUp_receive (up : m.isUp = true) (r : Http.Request) : (m.receive r).2.isUp = true := by
  obtain ⟨linked, shard, live⟩ := exists_shard up
  rw [receive_live linked live]
  exact linked

theorem LiveOrDown.receive (h : m.LiveOrDown) (r : Http.Request) : (m.receive r).2.LiveOrDown := by
  rcases h with down | ⟨up, base⟩
  · rw [receive_down down]
    exact Or.inl down
  · refine Or.inr ⟨isUp_receive up r, ?_⟩
    rw [node_receive]
    exact base

@[simp] theorem node_revive (spare : String → Shard) (m : Member) :
    (m.revive spare).node = m.node := by
  unfold revive
  split <;> rfl

theorem isUp_revive (spare : String → Shard) (h : m.LiveOrDown) : (m.revive spare).isUp = true := by
  unfold revive
  rcases h with down | ⟨up, -⟩
  · rw [if_pos down]
    rfl
  · rw [if_neg (ne_true_of_eq_false (isDown_of_isUp up))]
    exact up

end Member

/-! ## One request, by name -/

section Deliver

variable {members : List Member} {id : String}

/-- The member of a name answers. -/
theorem fst_deliver (id : String) (r : Http.Request) (members : List Member) :
    (deliver id r members).1 =
      ((members.find? (·.node.id = id)).map fun m => (m.receive r).1).getD .nothing := by
  induction members with
  | nil => rfl
  | cons m rest ih =>
    rw [deliver, List.find?_cons]
    by_cases named : m.node.id = id
    · simp [named]
    · simpa [named] using ih

/-- And nobody else moves. -/
theorem find?_deliver (id : String) (r : Http.Request) (members : List Member) (name : String) :
    (deliver id r members).2.find? (·.node.id = name) =
      (members.find? (·.node.id = name)).map fun m => if name = id then (m.receive r).2 else m := by
  induction members with
  | nil => rfl
  | cons m rest ih =>
    rw [deliver]
    by_cases named : m.node.id = id
    · by_cases same : name = id
      · simp [named, same, node_receive]
      · simp [named, same, node_receive, Ne.symm same]
    · by_cases here : m.node.id = name
      · have other : name ≠ id := fun same => named (here.trans same)
        simp [here, other]
      · simpa [named, here] using ih

/-- A member that stays as it is leaves all as they are. -/
theorem deliver_unmoved {m : Member} {r : Http.Request}
    (found : members.find? (·.node.id = id) = some m) (still : (m.receive r).2 = m) :
    (deliver id r members).2 = members := by
  induction members with
  | nil => rfl
  | cons x rest ih =>
    rw [deliver]
    by_cases named : x.node.id = id
    · simp only [named, List.find?_cons, decide_true, Option.some.injEq] at found
      subst found
      simp only [named, if_true, still]
    · simp only [named, List.find?_cons, decide_false] at found
      simp only [named, if_false, ih found]

end Deliver

section Call

variable {c : Cluster} {key : String} {n : Node} {m : Member}

/-- A call on a valid key is answered by the member that has the name of the key's owner. -/
theorem fst_call (valid : Key.isValid key = true) (owner : c.ring.owner key = .ok n)
    (found : c.find? n.id = some m) (call : Call) :
    (c.call key call false).1 =
      ((m.receive (call.request n key)).1.record n).map (⟨·, n.id⟩) := by
  have owned : c.owner key = .ok n := owner_eq_ok.2 ⟨owner, valid⟩
  have reply : (deliver n.id (call.request n key) c.members).1 =
      (m.receive (call.request n key)).1 := by
    rw [fst_deliver, show c.members.find? (·.node.id = n.id) = some m from found]
    rfl
  simp only [Cluster.call, owned, Bool.false_eq_true, if_false, send, reply]

/-- A call changes nothing, or it is one request to the owner of the key, and what the other
names stand for stays the same. -/
theorem call_sent (c : Cluster) (key : String) (call : Call) (cancelled : Bool) :
    (c.call key call cancelled).2 = c ∨
      ∃ n, c.ring.owner key = .ok n ∧
        (c.call key call cancelled).2.sent = c.sent ++ [(n.id, call.request n key)] ∧
        ∀ id, id ≠ n.id → (c.call key call cancelled).2.find? id = c.find? id := by
  unfold Cluster.call
  cases owned : c.owner key with
  | error failure => exact Or.inl rfl
  | ok n =>
    cases cancelled with
    | true => exact Or.inl rfl
    | false =>
      refine Or.inr ⟨n, (owner_eq_ok.1 owned).1, rfl, ?_⟩
      intro id other
      show (deliver n.id (call.request n key) c.members).2.find? (·.node.id = id) = c.find? id
      rw [find?_deliver, Cluster.find?]
      cases c.members.find? (·.node.id = id) with
      | none => rfl
      | some m => rw [Option.map_some, if_neg other]

end Call

/-! ## Two clusters -/

/-- Puts shards in the places of all members that are down. -/
def revive (spare : String → Shard) (c : Cluster) : Cluster :=
  { c with members := c.members.map (Member.revive spare) }

/-- The second cluster is the first, but that members that are down in the first may be
anything. -/
structure Twin (c d : Cluster) : Prop where
  ring : d.ring = c.ring
  nodes : d.nodes = c.nodes
  stopped : d.stopped = c.stopped
  alike : ∀ id m, c.find? id = some m → m.isDown = true ∨ d.find? id = some m

namespace Twin

variable {c d : Cluster}

theorem kept : Kept Twin where
  ring h := h.ring
  nodes h := h.nodes
  stopped h := h.stopped
  deliver := by
    intro c d h id r sent sent'
    refine ⟨h.ring, ?_, h.stopped, ?_⟩
    · exact (nodes_deliver id r d.members).trans (h.nodes.trans (nodes_deliver id r c.members).symm)
    · intro name m found
      rw [Cluster.find?, find?_deliver, Option.map_eq_some_iff] at found
      obtain ⟨x, before, rfl⟩ := found
      rcases h.alike name x before with down | same
      · refine Or.inl ?_
        split
        · rw [Member.receive_down down]
          exact down
        · exact down
      · refine Or.inr ?_
        rw [Cluster.find?] at same
        rw [Cluster.find?, find?_deliver, same]
        rfl

theorem find?_revive (spare : String → Shard) (c : Cluster) (id : String) :
    (c.revive spare).find? id = (c.find? id).map (Member.revive spare) := by
  have named : (fun m : Member => decide (m.node.id = id)) ∘ Member.revive spare =
      fun m => decide (m.node.id = id) := by
    funext m
    rw [Function.comp_apply, Member.node_revive]
  rw [Cluster.find?, revive, List.find?_map, named, Cluster.find?]

/-- A cluster and the same with other shards for those that are down. -/
theorem of_revive (c : Cluster) (spare : String → Shard) : Twin c (c.revive spare) := by
  refine ⟨rfl, ?_, rfl, ?_⟩
  · rw [Cluster.nodes, revive, List.map_map]
    apply List.map_congr_left
    intro m _
    exact Member.node_revive spare m
  · intro id m found
    rw [find?_revive, found, Option.map_some, Member.revive]
    cases down : m.isDown with
    | true => exact Or.inl rfl
    | false => exact Or.inr rfl

theorem afterMoves (h : Twin c d) (moves : List Move) :
    Twin (c.afterMoves moves) (d.afterMoves moves) :=
  kept.afterMoves (fun h => ⟨h.ring, h.nodes, rfl, h.alike⟩) h moves

end Twin

/-! ## One cluster -/

/-- The members of a cluster as they were once: those that were down have not changed, and
those that were up are. -/
structure Enduring (members : List Member) (ring : Ring) (c : Cluster) : Prop where
  ring : c.ring = ring
  nodes : c.nodes = members.map (·.node)
  member : ∀ m ∈ members, ∃ x, c.find? m.node.id = some x ∧
    (m.isUp = true → x.isUp = true) ∧ (m.isDown = true → x = m)

theorem Enduring.invariant (members : List Member) (ring : Ring) :
    Invariant (members.map (·.node)) ring (Enduring members ring) where
  ring h := h.ring
  nodes h := h.nodes
  deliver := by
    intro c h id r sent
    refine ⟨h.ring, (nodes_deliver id r c.members).trans h.nodes, ?_⟩
    intro m member
    obtain ⟨x, found, up, down⟩ := h.member m member
    rw [Cluster.find?] at found
    refine ⟨if m.node.id = id then (x.receive r).2 else x, ?_, ?_, ?_⟩
    · rw [Cluster.find?, find?_deliver, found]
      rfl
    · intro was
      split
      · exact Member.isUp_receive (up was) r
      · exact up was
    · intro was
      split
      · rw [down was, Member.receive_down was]
      · exact down was

namespace Enduring

variable {members : List Member} {ring : Ring} {c d : Cluster} {m : Member}

theorem start (distinct : (members.map (·.node.id)).Nodup) (ring : Ring) :
    Enduring members ring { members, ring } := by
  refine ⟨rfl, rfl, ?_⟩
  intro m member
  exact ⟨m, find?_member distinct member, fun up => up, fun _ => rfl⟩

theorem afterMoves (h : Enduring members ring c) (moves : List Move) :
    Enduring members ring (c.afterMoves moves) :=
  (invariant members ring).afterMoves (fun h => ⟨h.ring, h.nodes, h.member⟩) h moves

theorem distinct (h : Enduring members ring c) (names : (members.map (·.node.id)).Nodup) :
    (c.members.map (·.node.id)).Nodup := by
  have same : (c.members.map (·.node)).map (·.id) = (members.map (·.node)).map (·.id) :=
    congrArg (List.map (·.id)) h.nodes
  rw [List.map_map, List.map_map] at same
  exact same ▸ names

/-- A member that was up is the same in both clusters. -/
theorem find?_up (h : Enduring members ring c) (twin : Twin c d) (member : m ∈ members)
    (up : m.isUp = true) :
    ∃ x, c.find? m.node.id = some x ∧ d.find? m.node.id = some x ∧ x.isUp = true := by
  obtain ⟨x, found, still, -⟩ := h.member m member
  have alive : x.isDown = false := Member.isDown_of_isUp (still up)
  rcases twin.alike _ x found with down | same
  · rw [alive] at down
    cases down
  · exact ⟨x, found, same, still up⟩

/-- It has the same shard. -/
theorem shard (h : Enduring members ring c) (twin : Twin c d) (member : m ∈ members)
    (up : m.isUp = true) :
    ∃ shard, c.shard? m.node.id = some shard ∧ d.shard? m.node.id = some shard := by
  obtain ⟨x, found, same, still⟩ := h.find?_up twin member up
  obtain ⟨-, shard, live⟩ := Member.exists_shard still
  exact ⟨shard, shard?_live found live, shard?_live same live⟩

/-- And a call is answered alike. -/
theorem call_up (h : Enduring members ring c) (twin : Twin c d) (member : m ∈ members)
    (up : m.isUp = true) {key : String} (valid : Key.isValid key = true)
    (owner : ring.owner key = .ok m.node) (call : Call) :
    (c.call key call false).1 = (d.call key call false).1 := by
  obtain ⟨x, found, same, -⟩ := h.find?_up twin member up
  have ownerC : c.ring.owner key = .ok m.node := h.ring ▸ owner
  have ownerD : d.ring.owner key = .ok m.node := twin.ring ▸ ownerC
  rw [fst_call valid ownerC found call, fst_call valid ownerD same call]

/-- A member that was down does not answer. -/
theorem call_down (h : Enduring members ring c) (member : m ∈ members) (down : m.isDown = true)
    {key : String} (valid : Key.isValid key = true) (owner : ring.owner key = .ok m.node)
    (call : Call) :
    (c.call key call false).1 = .error (.unreachable m.node) ∧
      (c.call key call false).2.members = c.members := by
  obtain ⟨x, found, -, same⟩ := h.member m member
  obtain rfl := same down
  have owner : c.ring.owner key = .ok x.node := h.ring ▸ owner
  have silent := Member.receive_down down (call.request x.node key)
  constructor
  · rw [fst_call valid owner found call, silent]
    rfl
  · have owned : c.owner key = .ok x.node := owner_eq_ok.2 ⟨owner, valid⟩
    have unmoved := deliver_unmoved found (congrArg Prod.snd silent)
    simp only [Cluster.call, owned, Bool.false_eq_true, if_false, send, unmoved]

/-- Nobody is down if nobody was. -/
theorem none_down (h : Enduring members ring c) (names : (members.map (·.node.id)).Nodup)
    (outage : ∀ m ∈ members, m.LiveOrDown) :
    (∀ x ∈ c.members, x.isDown = false) ↔ ∀ m ∈ members, m.isDown = false := by
  constructor
  · intro all m member
    obtain ⟨x, found, -, same⟩ := h.member m member
    by_contra was
    have down : m.isDown = true := eq_true_of_ne_false was
    have here : m ∈ c.members := same down ▸ List.mem_of_find?_eq_some found
    exact was (all m here)
  · intro all x here
    have among : x.node ∈ members.map (·.node) := h.nodes ▸ List.mem_map_of_mem here
    obtain ⟨m, member, node⟩ := List.mem_map.1 among
    have up : m.isUp = true := by
      rcases outage m member with down | ⟨up, -⟩
      · rw [all m member] at down
        cases down
      · exact up
    obtain ⟨y, found, still, -⟩ := h.member m member
    rw [node, find?_member (h.distinct names) here] at found
    cases found
    exact Member.isDown_of_isUp (still up)

end Enduring

/-! ## Listings -/

/-- A listing is gathered if no answer to it is missing. -/
theorem gather_isOk {outcomes : List Router.Listing.Outcome} :
    (∃ records, Router.Listing.gather outcomes = .ok records) ↔
      ∀ o ∈ outcomes, ∃ keys, o.2 = .ok keys := by
  induction outcomes with
  | nil => exact ⟨by simp, fun _ => ⟨[], rfl⟩⟩
  | cons o outcomes ih =>
    obtain ⟨n, result⟩ := o
    rw [List.forall_mem_cons, ← ih]
    cases result with
    | error failure => simp [Router.Listing.gather]
    | ok keys =>
      rw [Router.Listing.gather]
      cases Router.Listing.gather outcomes with
      | error failure => simp [Except.map]
      | ok records => simp [Except.map]

theorem ofOutcomes_isOk {outcomes : List Router.Listing.Outcome} :
    (∃ records, Router.Listing.ofOutcomes outcomes = .ok records) ↔
      ∀ o ∈ outcomes, ∃ keys, o.2 = .ok keys := by
  rw [← gather_isOk, Router.Listing.ofOutcomes]
  cases Router.Listing.gather outcomes with
  | error failure => simp [Except.map]
  | ok records => simp [Except.map]

/-- A listing succeeds exactly if no member is down. -/
theorem list_isOk {c : Cluster} (distinct : (c.members.map (·.node.id)).Nodup)
    (each : ∀ m ∈ c.members, m.LiveOrDown) :
    (∃ records, (c.list false).1 = .ok records) ↔ ∀ m ∈ c.members, m.isDown = false := by
  let keys (n : Node) := (deliver n.id (Router.listRequest n) c.members).1.keys n
  have answer {m : Member} (member : m ∈ c.members) :
      (m.receive (Router.listRequest m.node)).1.keys m.node = keys m.node := by
    have found := find?_member distinct member
    rw [Cluster.find?] at found
    simp only [keys, fst_deliver, found, Option.map_some, Option.getD_some]
  -- who is down gives no keys, who is up gives some, and neither changes
  have asked {m : Member} (member : m ∈ c.members) :
      (m.receive (Router.listRequest m.node)).2 = m ∧
        ((∃ names, keys m.node = .ok names) ↔ m.isDown = false) := by
    rw [← answer member]
    rcases each m member with down | ⟨up, base⟩
    · rw [Member.receive_down down, down]
      exact ⟨rfl, by simp [Reply.keys, Reply.read, Reply.body]⟩
    · obtain ⟨linked, shard, live⟩ := Member.exists_shard up
      obtain ⟨named, still⟩ := Member.receive_listRequest linked live base
      exact ⟨still, fun _ => Member.isDown_of_isUp up, fun _ => ⟨_, named⟩⟩
  have reached : ∀ n ∈ c.nodes, ∃ m ∈ c.members, m.node = n ∧
      (m.receive (Router.listRequest n)).1.keys n = keys n ∧
        (m.receive (Router.listRequest n)).2 = m := by
    intro n among
    obtain ⟨m, member, rfl⟩ := List.mem_map.1 among
    exact ⟨m, member, rfl, answer member, (asked member).1⟩
  obtain ⟨log, outcomes⟩ := ask_eq distinct keys c.ring c.stopped c.sent reached
  have listed : (c.list false).1 =
      Router.Listing.ofOutcomes (c.nodes.map fun n => (n, keys n)) := by
    simp only [Cluster.list, Bool.false_eq_true, if_false, outcomes]
  rw [listed, ofOutcomes_isOk, Cluster.nodes, List.map_map, List.forall_mem_map]
  exact forall₂_congr fun m member => (asked member).2

/-! ## Outages -/

/-- In a cluster in which some nodes are down and the others live, at every point of every
run: a call on a key of a live node ends as if all nodes were live, and leaves the node's
shard so; a call on a key of a node that is down names the node, and changes nobody; a key
that cannot be stored is refused, and nobody is asked; and a listing succeeds if no node is
down.  Whatever stands at the nodes, a call is at most one request, to the owner of the key. -/
theorem outage_isolated {members : List Member} {c : Cluster} (made : ofMembers members = .ok c)
    (outage : ∀ m ∈ members, m.LiveOrDown) :
    (∀ (early late : List Move) (spare : String → Shard),
      let now := c.afterMoves (early ++ late)
      let whole := ((c.afterMoves early).revive spare).afterMoves late
      (∀ m ∈ whole.members, m.isUp = true) ∧
      (∀ key call, Key.isValid key = true →
        ∃ m ∈ members, c.ring.owner key = .ok m.node ∧
          (m.isUp = true →
            (now.call key call false).1 = (whole.call key call false).1 ∧
            ∃ shard, (now.call key call false).2.shard? m.node.id = some shard ∧
              (whole.call key call false).2.shard? m.node.id = some shard) ∧
          (m.isDown = true →
            (now.call key call false).1 = .error (.unreachable m.node) ∧
            (now.call key call false).2.members = now.members)) ∧
      (∀ key call, Key.isValid key = false →
        ∃ failure : Failure, failure.IsInvalidKey ∧
          now.call key call false = (.error failure, now)) ∧
      ((∃ records, (now.list false).1 = .ok records) ↔ ∀ m ∈ members, m.isDown = false)) ∧
    ∀ (any : Cluster) key call cancelled,
      (any.call key call cancelled).2 = any ∨
        ∃ n, any.ring.owner key = .ok n ∧
          (any.call key call cancelled).2.sent = any.sent ++ [(n.id, call.request n key)] ∧
          ∀ id, id ≠ n.id → (any.call key call cancelled).2.find? id = any.find? id := by
  obtain ⟨start, ring, distinct⟩ := ofMembers_ok made
  have names : (members.map (·.node.id)).Nodup := by rwa [List.map_map] at distinct
  have enduring (moves : List Move) : Enduring members c.ring (c.afterMoves moves) := by
    apply Enduring.afterMoves
    rw [start]
    exact Enduring.start names c.ring
  have each (moves : List Move) : ∀ m ∈ (c.afterMoves moves).members, m.LiveOrDown :=
    ((Invariant.each (members.map (·.node)) c.ring fun _ h r => h.receive r).afterMoves
      (fun h => h) ⟨rfl, by rw [start]; rfl, by rw [start]; exact outage⟩ moves).2.2
  refine ⟨?_, call_sent⟩
  intro early late spare now whole
  have twin : Twin now whole := by
    have later : now = (c.afterMoves early).afterMoves late := List.foldl_append
    rw [later]
    exact (Twin.of_revive (c.afterMoves early) spare).afterMoves late
  refine ⟨?_, ?_, fun key call invalid => call_invalid now invalid call, ?_⟩
  · have revived : ∀ m ∈ ((c.afterMoves early).revive spare).members, m.isUp = true := by
      intro x member
      obtain ⟨m, before, rfl⟩ := List.mem_map.1 member
      exact Member.isUp_revive spare (each early m before)
    exact ((Invariant.each _ _ fun _ up r => Member.isUp_receive up r).afterMoves
      (fun h => h) ⟨rfl, rfl, revived⟩ late).2.2
  · intro key call valid
    obtain ⟨n, among, owner⟩ := Ring.exists_owner ring (Key.notBlank valid)
    obtain ⟨m, member, rfl⟩ := List.mem_map.1 among
    refine ⟨m, member, owner, ?_, ?_⟩
    · intro up
      refine ⟨(enduring _).call_up twin member up valid owner call, ?_⟩
      -- the call is one more thing that both routers are asked for
      have next := (enduring (early ++ late)).afterMoves [.call key call false]
      exact next.shard (twin.afterMoves [.call key call false]) member up
    · intro down
      exact (enduring _).call_down member down valid owner call
  · rw [list_isOk ((enduring _).distinct names) (each _)]
    exact (enduring _).none_down names outage

/-- Of two nodes one is down: a call ends with the node named, or as if both were live, and
there is no listing. -/
theorem outage_isolated_one_down :
    let a : Node := ⟨"a", "http://a/"⟩
    let b : Node := ⟨"b", "http://b/"⟩
    ∃ c, ofMembers [⟨a, .live {}, true⟩, ⟨b, .dead, true⟩] = .ok c ∧
      (c.ring.owner "k" = .ok b ∧ (c.call "k" .get false).1 = .error (.unreachable b) ∨
        c.ring.owner "k" = .ok a ∧
          (c.call "k" .get false).1 = ((c.revive fun _ => {}).call "k" .get false).1) ∧
      ¬ ∃ records, (c.list false).1 = .ok records := by
  intro a b
  let up : Member := ⟨a, .live {}, true⟩
  let down : Member := ⟨b, .dead, true⟩
  have base : Node.IsBase ⟨"a", "http://a/"⟩ := .http ['a'] rfl (by simp)
  have outage : ∀ m ∈ [up, down], m.LiveOrDown := by
    intro m member
    simp only [List.mem_cons, List.not_mem_nil, or_false] at member
    rcases member with rfl | rfl
    · exact Or.inr ⟨rfl, base⟩
    · exact Or.inl rfl
  obtain ⟨c, made⟩ : ∃ c, ofMembers [up, down] = .ok c := exists_ofMembers (by simp) (by decide)
  obtain ⟨-, calls, -, lists⟩ := (outage_isolated made outage).1 [] [] fun _ => {}
  obtain ⟨m, member, owner, live, dead⟩ := calls "k" .get (by decide)
  refine ⟨c, made, ?_, ?_⟩
  · simp only [List.mem_cons, List.not_mem_nil, or_false] at member
    rcases member with rfl | rfl
    · exact Or.inr ⟨owner, (live rfl).1⟩
    · exact Or.inl ⟨owner, (dead rfl).1⟩
  · intro listed
    have alive : down.isDown = false := lists.1 listed down (by simp)
    cases alive

end Cluster

end ShardStore
