/-
# ShardStore.Proofs.Cluster.Owner -- the owner of a key

In a cluster that stands, every key that can be stored is owned by a member that serves
(`Standing.exists_owner`).  A call on the key is one request to that member.  What its
shard answers is the result of its store, and the store is left as the call leaves it
(`Owner.call_eq`); no other shard moves.

Shards and routers route a request for a key alike (`Http.ofRequest_routed`).  A router then
refuses what it cannot read of the request, or makes a call of it (`callFor_cases`); the
requests that it makes a call of are those that carry one (`Carries`, `respond_carried`).  A
write that it makes can be read by a shard, if the request came with no more than a body
may be (`write_readable`): what is handed on is the value printed again, which is no longer
than the text it was read from.
-/
import ShardStore.Proofs.Cluster.Requests
import ShardStore.Proofs.Json.Length
import ShardStore.Proofs.Router.Answer

namespace ShardStore

set_option autoImplicit false

namespace Cluster

open Router (Call Failure Reply Stamp)

/-! ## One call -/

/-- The member that owns a key that can be stored, with its shard, in a cluster that stands. -/
structure Owner (c : Cluster) (key : String) (m : Member) (shard : Shard) : Prop where
  distinct : (c.members.map (·.node.id)).Nodup
  running : c.stopped = false
  valid : Key.isValid key = true
  member : m ∈ c.members
  base : m.node.IsBase
  owner : c.ring.owner key = .ok m.node
  serves : m.Serves shard
  tidy : shard.store.Each Json.Value.Tidy

theorem Standing.exists_owner {nodes : List Node} {ring : Ring} {c : Cluster}
    (h : Standing nodes ring c) (layout : Layout nodes ring) {key : String}
    (valid : Key.isValid key = true) : ∃ m shard, Owner c key m shard := by
  obtain ⟨n, among, owner⟩ := Ring.exists_owner layout.made (Key.notBlank valid)
  obtain ⟨m, member, rfl⟩ : ∃ m ∈ c.members, m.node = n := by
    rw [← h.sameNodes] at among
    exact List.mem_map.1 among
  obtain ⟨shard, serves, tidy⟩ := h.serves m member
  exact ⟨m, shard, layout.nodup_members h.sameNodes, h.running, valid, member,
    layout.based _ among, h.sameRing ▸ owner, serves, tidy⟩

namespace Owner

variable {c : Cluster} {key : String} {m : Member} {shard : Shard}

theorem found (h : Owner c key m shard) : c.find? m.node.id = some m :=
  (shard?_serves h.distinct h.member h.serves).1

theorem named (h : Owner c key m shard) : c.shard? m.node.id = some shard :=
  (shard?_serves h.distinct h.member h.serves).2

/-- The owner's shard answers the request for a call as its store answers the call. -/
theorem respond_request (h : Owner c key m shard) {call : Call} (readable : call.Readable) :
    shard.respond (call.request m.node key) =
      (Shard.answer (shard.store.perform key false call).1,
        { shard with store := (shard.store.perform key false call).2 }) := by
  have named : key ≠ "" := by
    rintro rfl
    exact absurd h.valid (by decide)
  rw [Router.respond_request h.base named readable, h.serves.running]

/-- A call on the key is one request to its owner. -/
theorem call_eq (h : Owner c key m shard) {call : Call} (readable : call.Readable) :
    c.call key call false =
      (((Reply.complete (Shard.answer (shard.store.perform key false call).1).status
          (Shard.answer (shard.store.perform key false call).1).body).record m.node).map
            (⟨·, m.node.id⟩),
        { c.setShard m.node.id { shard with store := (shard.store.perform key false call).2 } with
          sent := c.sent ++ [(m.node.id, call.request m.node key)] }) := by
  rw [Cluster.call_eq h.distinct h.valid h.member h.owner h.serves, h.respond_request readable]

end Owner

/-! ## From a request to a call -/

section CallFor

variable {c : Cluster} {r : Http.Request} {key : String}

/-- A router that is not stopped refuses the parameters of a request, or what else it asks for,
or makes a call of it. -/
theorem callFor_cases (running : c.stopped = false) (stamp : Stamp) (r : Http.Request)
    (key : String) (asked : Params → Except Payload.Fault Call) :
    (∃ fault, Params.read .router r.queryBytes = .error fault ∧
        c.callFor stamp r key asked = ((Failure.invalidPayload (.params fault)).response, c)) ∨
      ∃ params, Params.read .router r.queryBytes = .ok params ∧
        ((∃ fault, asked params = .error fault ∧
            c.callFor stamp r key asked = ((Failure.invalidPayload fault).response, c)) ∨
          ∃ call, asked params = .ok call ∧
            c.callFor stamp r key asked =
              (Router.answer stamp params.debug (c.call key call false).1,
                (c.call key call false).2)) := by
  rw [callFor]
  split
  · rename_i fault query
    exact Or.inl ⟨fault, query, rfl⟩
  · rename_i params query
    refine Or.inr ⟨params, query, ?_⟩
    split
    · rename_i fault refused
      exact Or.inl ⟨fault, refused, rfl⟩
    · rename_i call made
      refine Or.inr ⟨call, made, ?_⟩
      rw [running]

/-- A write is made of a body that holds a value. -/
theorem write_made {v : Json.Value} (body : Json.Value.read r.body = .ok v) (blank : Payload.Fault)
    (fits : v = .null → blank ≠ .nullDelta) (w : Json.Value → Write) (params : Params) :
    Cluster.write r blank w params = .ok (.write (w v) params.expected) := by
  rw [Cluster.write, Router.payload_ok (Payload.read_ok body blank) fits]
  rfl

theorem write_error {blank : Payload.Fault} {w : Json.Value → Write} {params : Params}
    {fault : Payload.Fault} (refused : Cluster.write r blank w params = .error fault) :
    Router.payload r blank = .error fault := by
  unfold Cluster.write at refused
  cases carried : Router.payload r blank with
  | error fault' =>
    rw [carried] at refused
    cases refused
    rfl
  | ok v =>
    rw [carried] at refused
    cases refused

/-- A write that is made of a request carries the value of its body. -/
theorem write_ok {blank : Payload.Fault} {w : Json.Value → Write} {params : Params} {call : Call}
    (made : Cluster.write r blank w params = .ok call) :
    ∃ v, Json.Value.read r.body = .ok v ∧ call = .write (w v) params.expected := by
  unfold Cluster.write at made
  cases carried : Router.payload r blank with
  | error fault =>
    rw [carried] at made
    cases made
  | ok v =>
    rw [carried] at made
    cases made
    refine ⟨v, ?_, rfl⟩
    unfold Router.payload at carried
    split at carried
    · rename_i body
      split at carried
      · cases carried
      · cases carried
        exact Payload.read_eq_ok body
    · exact Payload.read_eq_ok carried

/-- And it can be read by a shard. -/
theorem write_readable {w : Write} {expected : Option UInt64}
    (body : Json.Value.read r.body = .ok w.payload) (floatFree : w.payload.FloatFree)
    (short : r.body.length ≤ Http.maxBody) : Call.Readable (.write w expected) :=
  ⟨(Json.Value.read_tidy body).plain floatFree,
    Nat.le_trans (Json.Value.length_bytes_le body floatFree) short⟩

end CallFor

/-! ## Requests that are calls -/

/-- The call that the method and the body of a request ask for. -/
inductive Demands (r : Http.Request) (expected : Option UInt64) : Call → Prop where
  | get (method : r.method = "GET") : Demands r expected .get
  | put {v : Json.Value} (method : r.method = "PUT") (short : r.body.length ≤ Http.maxBody)
      (body : Json.Value.read r.body = .ok v) : Demands r expected (.write (.replace v) expected)
  | patch {v : Json.Value} (method : r.method = "PATCH") (short : r.body.length ≤ Http.maxBody)
      (body : Json.Value.read r.body = .ok v) (delta : v ≠ .null) :
      Demands r expected (.write (.merge v) expected)

/-- A request that asks for a call on a key, with parameters that a router can read. -/
structure Carries (r : Http.Request) (key : String) (params : Params) (call : Call) : Prop where
  names : r.Names key
  query : Params.read .router r.queryBytes = .ok params
  demands : Demands r params.expected call

/-- A shard can read the call too. -/
theorem Demands.readable {r : Http.Request} {expected : Option UInt64} {call : Call}
    (h : Demands r expected call) (floatFree : ∀ v, Json.Value.read r.body = .ok v → v.FloatFree) :
    call.Readable := by
  cases h with
  | get method => trivial
  | put method short body => exact write_readable body (floatFree _ body) short
  | patch method short body delta => exact write_readable body (floatFree _ body) short

/-- A router that is not stopped makes the call. -/
theorem respond_carried {c : Cluster} (running : c.stopped = false) {r : Http.Request}
    {key : String} {params : Params} {call : Call} (carries : Carries r key params call)
    (stamp : Stamp) :
    c.respond stamp r =
      (Router.answer stamp params.debug (c.call key call false).1,
        (c.call key call false).2) := by
  have called (asked : Params → Except Payload.Fault Call) (made : asked params = .ok call) :
      c.callFor stamp r key asked =
        (Router.answer stamp params.debug (c.call key call false).1,
          (c.call key call false).2) := by
    simp only [callFor, carries.query, made, running]
  cases carries.demands with
  | get method =>
    have route := Http.ofRequest_get method carries.names
    have other : r.method ≠ "HEAD" := by
      rw [method]
      decide
    simp only [Cluster.respond, serve, route, called (fun _ => .ok .get) rfl,
      Http.Response.toMethod_ne other]
  | put method short body =>
    have route := Http.ofRequest_put method carries.names short
    have made := called _ (write_made body .malformed (by simp) .replace params)
    simp only [Cluster.respond, serve, route, made, Http.Response.toMethod_writes (Or.inl method)]
  | patch method short body delta =>
    have route : Http.Route.ofRequest r = .patch key := by
      rw [Http.ofRequest_names carries.names (by simp [method]), Http.ofItem_patch method short]
    have made := called _ (write_made body .nullDelta (fun null => absurd null delta) .merge params)
    simp only [Cluster.respond, serve, route, made, Http.Response.toMethod_writes (Or.inr method)]

/-! ## New shards -/

theorem shard?_eq_some {c : Cluster} {id : String} {shard : Shard} (h : c.shard? id = some shard) :
    ∃ m ∈ c.members, m.peer = .live shard := by
  unfold shard? at h
  split at h
  · rename_i node shard' linked found
    cases h
    exact ⟨_, List.mem_of_find?_eq_some found, rfl⟩
  · cases h

/-- Two new shards. -/
def twoShards : List Member :=
  [⟨⟨"a", "http://a/"⟩, .live {}, true⟩, ⟨⟨"b", "http://b/"⟩, .live {}, true⟩]

theorem twoShards_live {m : Member} (member : m ∈ twoShards) : m.peer = .live {} := by
  simp only [twoShards, List.mem_cons, List.not_mem_nil, or_false] at member
  rcases member with rfl | rfl <;> rfl

theorem twoShards_fresh : ∀ m ∈ twoShards, m.Fresh := by
  intro m member
  simp only [twoShards, List.mem_cons, List.not_mem_nil, or_false] at member
  rcases member with rfl | rfl
  · exact ⟨.http ['a'] rfl (by simp), {}, ⟨rfl, rfl, rfl⟩, rfl⟩
  · exact ⟨.http ['b'] rfl (by simp), {}, ⟨rfl, rfl, rfl⟩, rfl⟩

/-- Behind a new router, both are empty. -/
theorem shard?_twoShards {c : Cluster} (made : ofMembers twoShards = .ok c) {id : String}
    {shard : Shard} (h : c.shard? id = some shard) : shard = {} := by
  obtain ⟨m, member, live⟩ := shard?_eq_some h
  rw [(ofMembers_ok made).1] at member
  rw [twoShards_live member] at live
  cases live
  rfl

/-- Puts a value under the key `k`. -/
def putRequest (v : Json.Value) : Http.Request :=
  { method := "PUT", target := ⟨"/kv/k", none⟩, body := v.bytes }

theorem putRequest_names (v : Json.Value) : (putRequest v).Names "k" := by
  have place : Http.Resource.ofPath? "/kv/k" = some (.item "k") := by decide
  exact ⟨"k", place, by decide⟩

section PutRequest

variable {v : Json.Value}

theorem ofRequest_putRequest (short : v.bytes.length ≤ Http.maxBody) :
    Http.Route.ofRequest (putRequest v) = .put "k" :=
  Http.ofRequest_put rfl (putRequest_names v) short

/-- A new shard stores the value, at version 1. -/
theorem respond_putRequest (plain : v.Plain Json.maxDepth)
    (short : v.bytes.length ≤ Http.maxBody) :
    (Shard.respond {} (putRequest v)).1 = Shard.answer (.ok ⟨"k", v, 1⟩) := by
  have payload : Shard.payload (putRequest v) .malformed = .ok (v, none) :=
    Router.payload_request rfl (Router.read_body plain.legible .malformed)
  simp only [Shard.respond, Shard.serve, ofRequest_putRequest short, Shard.write, payload]
  rfl

end PutRequest

end Cluster

end ShardStore
