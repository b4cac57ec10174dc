/-
# ShardStore.Proofs.Cluster.Shutdown -- what is stopped moves nothing

A shard that is stopped goes on to answer, but every write ends before it has the lock.  So
no request changes what it holds (`Shard.respond_stopped`), no write is answered with
success, and a read, which depends on what is held and nothing else, is answered as ever
(`Shard.respond_read`).

A router that is stopped gives up every call and every listing before it sends anything
(`Cluster.respond_stopped`).  What it cannot read it refuses as before; a request that it can
read is answered with 503.

Which requests are writes is told by the method (`Http.ofRequest_routing`).

* `Cluster.shutdown_freezes` -- at every point of every run behind a shutdown.
-/
import ShardStore.Proofs.Cluster.Owner
import ShardStore.Proofs.Router.Answer

namespace ShardStore

set_option autoImplicit false

/-! ## Shards -/

/-- With a cancelled token nothing is written. -/
theorem Store.write_token (s : Store) (key : String) (w : Write) (expected : Option UInt64) :
    ∃ fault, (s.write key w expected true).1 = .error fault ∧
      (s.write key w expected true).2.entries = s.entries := by
  have written := write_written s key w expected true
  generalize s.write key w expected true = result at written ⊢
  cases written with
  | @refused fault early => exact ⟨fault, rfl, rfl⟩
  | cancelled cleared token => exact ⟨.cancelled, rfl, rfl⟩
  | rejected cleared token late => cases token
  | stored cleared token next => cases token

namespace Shard

variable {s u : Shard}

/-- A shard that is stopped refuses a write and keeps what it holds. -/
theorem write_stopped (stopped : s.stopped = true) (r : Http.Request) (key : String)
    (blank : Payload.Fault) (w : Json.Value → Write) :
    (∃ fault, (s.write r key blank w).1 = answer (.error fault)) ∧
      (s.write r key blank w).2.store.entries = s.store.entries ∧
      (s.write r key blank w).2.stopped = true := by
  unfold Shard.write
  split
  · rename_i fault refused
    exact ⟨⟨fault, rfl⟩, rfl, stopped⟩
  · rename_i value expected carried
    rw [stopped]
    obtain ⟨fault, result, kept⟩ := s.store.write_token key (w value) expected
    exact ⟨⟨fault, congrArg answer result⟩, kept, rfl⟩

/-- A shard that is stopped keeps what it holds, and stays stopped. -/
theorem respond_stopped (stopped : s.stopped = true) (r : Http.Request) :
    (s.respond r).2.store.entries = s.store.entries ∧ (s.respond r).2.stopped = true := by
  rcases s.snd_respond r with same | ⟨key, blank, w, -, same⟩
  · rw [same]
    exact ⟨rfl, stopped⟩
  · rw [same]
    exact (write_stopped stopped r key blank w).2

/-- And accepts no write. -/
theorem respond_writes (stopped : s.stopped = true) {r : Http.Request} (writes : r.Writes) :
    Http.isSuccess (s.respond r).1.status = false := by
  show Http.isSuccess ((s.serve r).1.toMethod r.method).status = false
  rw [Http.Response.status_toMethod]
  have refused (key : String) (blank : Payload.Fault) (w : Json.Value → Write) :
      Http.isSuccess (s.write r key blank w).1.status = false := by
    obtain ⟨fault, response⟩ := (write_stopped stopped r key blank w).1
    rw [response]
    exact Router.isSuccess_status fault
  unfold Shard.serve
  have routing := Http.ofRequest_routing r
  generalize Http.Route.ofRequest r = route at routing
  cases routing with
  | refused status => exact status
  | listing reads => exact absurd writes reads
  | health reads => exact absurd writes reads
  | get reads => exact absurd writes reads
  | put => exact refused _ _ _
  | patch => exact refused _ _ _

/-- A read is answered by what a shard holds, whether it is stopped or not. -/
theorem respond_read (same : s.store.entries = u.store.entries) {r : Http.Request}
    (reads : ¬ r.Writes) : (s.respond r).1 = (u.respond r).1 := by
  suffices served : (s.serve r).1 = (u.serve r).1 from
    congrArg (Http.Response.toMethod · r.method) served
  unfold Shard.serve
  have routing := Http.ofRequest_routing r
  generalize Http.Route.ofRequest r = route at routing
  cases routing with
  | refused => rfl
  | listing =>
    show Http.Response.json _ (.array ((Assoc.keys s.store.entries).map .string)) =
      Http.Response.json _ (.array ((Assoc.keys u.store.entries).map .string))
    rw [same]
  | health => rfl
  | @get key =>
    have found : s.store.get key = u.store.get key := by
      rw [Store.get, Store.find?, same]
      rfl
    exact congrArg answer found
  | put writes => exact absurd writes reads
  | patch writes => exact absurd writes reads

/-- After any requests a shard that is stopped holds what it held. -/
theorem after_stopped (stopped : s.stopped = true) (rs : List Http.Request) :
    (s.after rs).store.entries = s.store.entries ∧ (s.after rs).stopped = true := by
  induction rs generalizing s with
  | nil => exact ⟨rfl, stopped⟩
  | cons r rs ih =>
    obtain ⟨kept, still⟩ := respond_stopped stopped r
    obtain ⟨entries, last⟩ := ih still
    exact ⟨entries.trans kept, last⟩

end Shard

/-! ## Routers -/

namespace Cluster

open Router (Call Failure Stamp)

/-- A request for a listing, or for a key that can be stored, that a router can read. -/
inductive Legible (r : Http.Request) : Prop where
  | listing (place : r.target.path = "/kv") (method : r.method = "GET" ∨ r.method = "HEAD")
  | get {key : String} {params : Params} (names : r.Names key) (valid : Key.isValid key = true)
      (query : Params.read .router r.queryBytes = .ok params)
      (method : r.method = "GET" ∨ r.method = "HEAD")
  | write {key : String} {params : Params} {v : Json.Value} (names : r.Names key)
      (valid : Key.isValid key = true) (query : Params.read .router r.queryBytes = .ok params)
      (method : r.Writes) (short : r.body.length ≤ Http.maxBody)
      (body : Json.Value.read r.body = .ok v) (delta : r.method = "PATCH" → v ≠ .null)

section Stopped

variable {c : Cluster} {key : String}

/-- A call that is cancelled goes to nobody. -/
theorem call_cancelled (c : Cluster) (key : String) (call : Call) :
    (c.call key call true).2 = c := by
  unfold Cluster.call
  split <;> rfl

/-- A router that is stopped sends nothing, and nothing changes. -/
theorem respond_stopped (stopped : c.stopped = true) (stamp : Stamp) (r : Http.Request) :
    (c.respond stamp r).2 = c := by
  have callFor (key : String) (asked : Params → Except Payload.Fault Call) :
      (c.callFor stamp r key asked).2 = c := by
    unfold Cluster.callFor
    split
    · rfl
    · split
      · rfl
      · rw [stopped]
        exact call_cancelled c key _
  show (c.serve stamp r).2 = c
  unfold Cluster.serve
  cases Http.Route.ofRequest r with
  | refused response => rfl
  | health => rfl
  | listing => simp only [Cluster.list, stopped, if_true]
  | get key => exact callFor key _
  | put key => exact callFor key _
  | patch key => exact callFor key _

/-- A call that a stopped router makes of a request is answered with 503. -/
theorem callFor_stopped (stopped : c.stopped = true) {n : Node} (owner : c.ring.owner key = .ok n)
    (valid : Key.isValid key = true) {r : Http.Request} {params : Params}
    (query : Params.read .router r.queryBytes = .ok params)
    {asked : Params → Except Payload.Fault Call} {call : Call} (made : asked params = .ok call)
    (stamp : Stamp) : (c.callFor stamp r key asked).1.status = 503 := by
  have found : c.owner key = .ok n := owner_eq_ok.2 ⟨owner, valid⟩
  have cancelled : c.call key call true = (.error .cancelled, c) := by
    simp only [Cluster.call, found, if_true]
  simp only [Cluster.callFor, query, made, stopped, cancelled]
  rfl

/-- What a stopped router can read it answers with 503. -/
theorem respond_legible (stopped : c.stopped = true)
    (owned : ∀ key, Key.isValid key = true → ∃ n, c.ring.owner key = .ok n) {r : Http.Request}
    (legible : Legible r) (stamp : Stamp) : (c.respond stamp r).1.status = 503 := by
  show ((c.serve stamp r).1.toMethod r.method).status = 503
  rw [Http.Response.status_toMethod]
  cases legible with
  | listing place method =>
    have resource : Http.Resource.ofPath? r.target.path = some .listing := by
      rw [place]
      rfl
    have allowed : r.method ∈ Http.Resource.listing.methods := by
      simpa [Http.Resource.methods] using method
    have route : Http.Route.ofRequest r = .listing := by
      simp only [Http.Route.ofRequest, resource, allowed, not_true_eq_false, if_false]
    simp only [Cluster.serve, route, Cluster.list, stopped, if_true]
    rfl
  | @get key params names valid query method =>
    obtain ⟨n, owner⟩ := owned key valid
    have route : Http.Route.ofRequest r = .get key := by
      rw [Http.ofRequest_names names (by rcases method with get | head <;> simp [*])]
      exact if_neg (Http.Request.not_writes method)
    simp only [Cluster.serve, route]
    exact callFor_stopped stopped owner valid query rfl stamp
  | @write key params v names valid query method short body delta =>
    obtain ⟨n, owner⟩ := owned key valid
    have item : Http.Route.ofRequest r = Http.Route.ofItem r key :=
      Http.ofRequest_names names (by rcases method with put | patch <;> simp [*])
    rcases method with put | patch
    · simp only [Cluster.serve, item, Http.ofItem_put put short]
      exact callFor_stopped stopped owner valid query (write_made body _ (by simp) _ params) stamp
    · simp only [Cluster.serve, item, Http.ofItem_patch patch short]
      exact callFor_stopped stopped owner valid query
        (write_made body _ (fun null => absurd null (delta patch)) _ params) stamp

end Stopped

/-- The router of these nodes is stopped. -/
structure Halted (nodes : List Node) (ring : Ring) (c : Cluster) : Prop where
  sameRing : c.ring = ring
  sameNodes : c.nodes = nodes
  stopped : c.stopped = true

theorem Halted.invariant (nodes : List Node) (ring : Ring) :
    Invariant nodes ring (Halted nodes ring) where
  ring h := h.sameRing
  nodes h := h.sameNodes
  deliver h id r _ := ⟨h.sameRing, (nodes_deliver id r _).trans h.sameNodes, h.stopped⟩

/-- A cluster keeps its nodes and their ring, whatever its router is asked for. -/
theorem nodes_invariant (nodes : List Node) (ring : Ring) :
    Invariant nodes ring fun c => c.ring = ring ∧ c.nodes = nodes where
  ring h := h.1
  nodes h := h.2
  deliver h id r _ := ⟨h.1, (nodes_deliver id r _).trans h.2⟩

/-! ## Shutdown -/

/-- A shard that is stopped keeps what it holds, accepts no write, and answers reads as it
did, whatever requests come; a router that is stopped sends nothing to any shard, and
answers what it can read with 503, whatever happened before and since. -/
theorem shutdown_freezes {members : List Member} {c : Cluster} (made : ofMembers members = .ok c) :
    (∀ (s : Shard) (rs : List Http.Request),
      (s.stop.after rs).store.entries = s.store.entries ∧
      (∀ r : Http.Request, r.Writes →
        Http.isSuccess ((s.stop.after rs).respond r).1.status = false) ∧
      ∀ r : Http.Request, r.method = "GET" →
        ((s.stop.after rs).respond r).1 = (s.respond r).1) ∧
    ∀ (before since : List Move) (stamp : Stamp) (r : Http.Request),
      let now := (c.afterMoves before).stop.afterMoves since
      (now.respond stamp r).2 = now ∧ (Legible r → (now.respond stamp r).1.status = 503) := by
  obtain ⟨start, ring, -⟩ := ofMembers_ok made
  constructor
  · intro s rs
    have stopped : s.stop.stopped = true := rfl
    obtain ⟨entries, still⟩ := Shard.after_stopped stopped rs
    have kept : (s.stop.after rs).store.entries = s.store.entries := entries
    refine ⟨kept, ?_, ?_⟩
    · intro r writes
      exact Shard.respond_writes still writes
    · intro r get
      exact Shard.respond_read kept (Http.Request.not_writes (.inl get))
  · intro before since stamp r now
    obtain ⟨sameRing, sameNodes⟩ := (nodes_invariant (members.map (·.node)) c.ring).afterMoves
      (fun h => h) ⟨rfl, by rw [start]; rfl⟩ before
    have stopped : Halted (members.map (·.node)) c.ring (c.afterMoves before).stop :=
      ⟨sameRing, sameNodes, rfl⟩
    have halted : Halted (members.map (·.node)) c.ring now :=
      (Halted.invariant _ _).afterMoves (fun h => ⟨h.sameRing, h.sameNodes, rfl⟩) stopped since
    refine ⟨respond_stopped halted.stopped stamp r, fun legible => ?_⟩
    apply respond_legible halted.stopped _ legible
    intro key valid
    obtain ⟨n, -, owner⟩ := Ring.exists_owner ring (Key.notBlank valid)
    exact ⟨n, halted.sameRing ▸ owner⟩

/-- A stopped shard that holds a seven does not let it go; a stopped router answers the same
write with 503 and sends nothing. -/
theorem shutdown_freezes_put :
    let seven : Json.Value := .number (.integer 7 (by decide) (by decide))
    let held : Shard := { store := { entries := [("k", ⟨seven, 1⟩)] } }
    let stamp : Stamp := ⟨"one", 0, ⟨false, Binary64.Magnitude.zero⟩⟩
    ∃ c, ofMembers twoShards = .ok c ∧
      (held.stop.after [putRequest .null]).store.entries = [("k", ⟨seven, 1⟩)] ∧
      (c.stop.respond stamp (putRequest seven)).1.status = 503 ∧
      (c.stop.respond stamp (putRequest seven)).2.sent = c.sent := by
  intro seven held stamp
  obtain ⟨c, made, -, -⟩ := standing_fresh (by decide) (by decide) twoShards_fresh
  obtain ⟨shards, router⟩ := shutdown_freezes made
  have legible : Legible (putRequest seven) := by
    have plain : seven.Plain Json.maxDepth := .integer 7 _ _
    exact .write (putRequest_names seven) (by decide) rfl (.inl rfl) (by decide)
      (Json.Value.read_bytes plain) (by simp [putRequest])
  obtain ⟨still, answer⟩ := router [] [] stamp (putRequest seven)
  have silent : (c.stop.respond stamp (putRequest seven)).2 = c.stop := still
  refine ⟨c, made, (shards held [putRequest .null]).1, answer legible, ?_⟩
  rw [silent]
  rfl

end Cluster

end ShardStore
