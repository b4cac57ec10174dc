/-
# ShardStore.Proofs.Cluster.Surface -- a router answers as the owner of the key would

A router and a shard read a request for a key each on its own, and refuse what they cannot
read in the same order and with the same words.  What the router can read it hands on as a
call, and answers what the shard answers to that.  So a client that does not ask for a
report cannot tell the router from the owner of the key (`surface_transparent`): the
response is alike, the owner's shard ends up the same, and no other shard moves
(`Mirrors`).

The proof goes through the ways in which a write is refused, in the order in which both
sides look for them: the parameters, the body, and `null` for a delta, which the router
refuses before it calls and the shard's store before it writes.
-/
import ShardStore.Proofs.Cluster.Owner
import ShardStore.Proofs.Router.Answer

namespace ShardStore

set_option autoImplicit false

open Router (Call Stamp forwarded)

namespace Cluster

/-- A value without doubles that leaves room for a record around it. -/
def Fits (v : Json.Value) : Prop := v.FloatFree ∧ v.depth ≤ 126

/-- A request for a key that asks a router for no report, and carries a value that fits, if it
carries any. -/
structure Neutral (r : Http.Request) (key : String) : Prop where
  names : r.Names key
  valid : Key.isValid key = true
  form : (r.method = "GET" ∧ r.target.query = none) ∨
    (r.method = "PUT" ∨ r.method = "PATCH") ∧
      (∀ pair ∈ Text.Form.pairs r.queryBytes, pair.1 ≠ "debug") ∧
        ∀ v, Json.Value.read r.body = .ok v → Fits v

/-- What a router makes of a request is what the shard of a node makes of it, and no other
shard moves. -/
structure Mirrors (c : Cluster) (n : Node) (routed : Http.Response × Cluster)
    (direct : Http.Response × Shard) : Prop where
  response : routed.1.Alike direct.1
  owner : routed.2.shard? n.id = some direct.2
  others : ∀ id, id ≠ n.id → routed.2.shard? id = c.shard? id

theorem Fits.plain {v : Json.Value} (h : Fits v) (tidy : v.Tidy) :
    v.Plain (Json.maxDepth - 1) :=
  ⟨h.1, tidy.canonical, h.2⟩

namespace Owner

variable {c : Cluster} {key : String} {m : Member} {shard : Shard}

/-- A request that is refused before it is a call. -/
theorem mirrors_refused (h : Owner c key m shard) {a b : Http.Response} (alike : a.Alike b) :
    Mirrors c m.node (a, c) (b, shard) :=
  ⟨alike, h.named, fun _ _ => rfl⟩

/-- A call that a shard can read, and whose record can be read in turn. -/
theorem mirrors_call (h : Owner c key m shard) (stamp : Stamp) {call : Call}
    (readable : call.Readable)
    (plain : ∀ r, (shard.store.perform key false call).1 = .ok r →
      r.value.Plain (Json.maxDepth - 1)) :
    Mirrors c m.node
      (Router.answer stamp false (c.call key call false).1, (c.call key call false).2)
      (Shard.answer (shard.store.perform key false call).1,
        { shard with store := (shard.store.perform key false call).2 }) := by
  rw [h.call_eq readable, Router.record_answer m.node plain]
  exact ⟨Router.answer_alike stamp m.node _, shard?_setShard_self h.found _,
    fun id other => shard?_setShard_other other _⟩

/-- All values of the owner's shard fit. -/
theorem plain (h : Owner c key m shard) (fits : shard.store.Each Fits) :
    shard.store.Each (·.Plain (Json.maxDepth - 1)) :=
  fun key e found => (fits key e found).plain (h.tidy key e found)

theorem mirrors_get (h : Owner c key m shard) (fits : shard.store.Each Fits) (stamp : Stamp)
    {r : Http.Request} (query : r.target.query = none) :
    Mirrors c m.node (c.callFor stamp r key fun _ => .ok .get)
      (Shard.answer (shard.store.get key), shard) := by
  have none : Params.read .router r.queryBytes = .ok {} := by
    rw [Http.Request.queryBytes, query]
    rfl
  have readable : Call.Readable .get := trivial
  have called := h.mirrors_call stamp readable fun r found => (h.plain fits).get found
  simp only [callFor, none, h.running]
  exact called

/-- A write is refused by both sides for the same reason, or stored as the call that the
router makes of it. -/
theorem mirrors_write (h : Owner c key m shard) (fits : shard.store.Each Fits) (stamp : Stamp)
    {r : Http.Request} (unasked : ∀ pair ∈ Text.Form.pairs r.queryBytes, pair.1 ≠ "debug")
    (new : ∀ v, Json.Value.read r.body = .ok v → Fits v) (short : r.body.length ≤ Http.maxBody)
    {blank : Payload.Fault} {w : Json.Value → Write}
    (kind : (blank = .malformed ∧ w = .replace) ∨ (blank = .nullDelta ∧ w = .merge)) :
    Mirrors c m.node (c.callFor stamp r key (Cluster.write r blank w))
      (shard.write r key blank w) := by
  have query := Params.read_router unasked
  cases found : Params.read .shard r.queryBytes with
  | error fault =>
    rw [found] at query
    simp only [callFor, query, Shard.write, Shard.payload, found]
    exact h.mirrors_refused (.refl _)
  | ok params =>
    rw [found] at query
    have silent := Params.debug_shard found
    cases body : Payload.read blank r.body with
    | error fault =>
      simp only [callFor, query, Cluster.write, Router.payload_error body, Except.map, Shard.write,
        Shard.payload, found, body]
      exact h.mirrors_refused (.refl _)
    | ok v =>
      by_cases null : v = .null ∧ blank = .nullDelta
      · obtain ⟨rfl, rfl⟩ := null
        obtain rfl : w = .merge := by simpa using kind
        have early : Store.clearance key (.merge .null) = .error (.invalidPayload .nullDelta) :=
          Store.clearance_null h.valid
        simp only [callFor, query, Cluster.write, Router.payload_null body, Except.map, Shard.write,
          Shard.payload, found, body, Store.write_refused early]
        exact h.mirrors_refused (.refl _)
      · have carried := Router.payload_ok body fun same other => null ⟨same, other⟩
        have read := Payload.read_eq_ok body
        have payload : (w v).payload = v := by
          rcases kind with ⟨-, rfl⟩ | ⟨-, rfl⟩ <;> rfl
        have readable : Call.Readable (.write (w v) params.expected) :=
          write_readable (payload.symm ▸ read) (payload.symm ▸ (new v read).1) short
        have plain : (w v).payload.Plain (Json.maxDepth - 1) :=
          payload.symm ▸ (new v read).plain (Json.Value.read_tidy read)
        have stored := (h.plain fits).write (fun _ _ => Json.Value.Plain.merge) plain key
          params.expected false
        have called := h.mirrors_call stamp readable stored.2
        rw [h.serves.running] at called
        simp only [callFor, query, Cluster.write, carried, Except.map, silent, h.running, Shard.write,
          Shard.payload, found, body, h.serves.running]
        exact called

end Owner

/-! ## The surface -/

theorem Mirrors.toMethod {c : Cluster} {n : Node} {routed : Http.Response × Cluster}
    {direct : Http.Response × Shard} (h : Mirrors c n routed direct) (method : String) :
    Mirrors c n (routed.1.toMethod method, routed.2) (direct.1.toMethod method, direct.2) :=
  ⟨h.response.toMethod method, h.owner, h.others⟩

theorem Owner.mirrors_respond {c : Cluster} {key : String} {m : Member} {shard : Shard}
    (h : Owner c key m shard) (fits : shard.store.Each Fits) (stamp : Stamp) {r : Http.Request}
    (neutral : Neutral r key) : Mirrors c m.node (c.respond stamp r) (shard.respond r) := by
  suffices served : Mirrors c m.node (c.serve stamp r) (shard.serve r) from
    served.toMethod r.method
  have form := neutral.form
  have method : r.method ∈ ["GET", "PUT", "PATCH"] := by
    rcases form with ⟨get, -⟩ | ⟨put | patch, -⟩ <;> simp [*]
  have writes (other : r.method ≠ "GET") := form.resolve_left fun get => other get.1
  have routed := Http.ofRequest_routed neutral.names method
  rw [Cluster.serve, Shard.serve]
  generalize Http.Route.ofRequest r = route at routed
  cases routed with
  | get get =>
    rcases form with ⟨-, query⟩ | ⟨put | patch, -⟩
    · exact h.mirrors_get fits stamp query
    · simp [get] at put
    · simp [get] at patch
  | long writes long => exact h.mirrors_refused (.refl _)
  | put put short =>
    obtain ⟨-, unasked, new⟩ := writes (by simp [put])
    exact h.mirrors_write fits stamp unasked new short (.inl ⟨rfl, rfl⟩)
  | patch patch short =>
    obtain ⟨-, unasked, new⟩ := writes (by simp [patch])
    exact h.mirrors_write fits stamp unasked new short (.inr ⟨rfl, rfl⟩)

/-- After any requests that leave values that fit in the shards, a router answers a request
for a key that asks for no report as the owner of the key would, with the same effect on the
owner's shard and none on any other. -/
theorem surface_transparent {members : List Member} (some : members ≠ [])
    (distinct : (members.map (·.node.id)).Nodup) (fresh : ∀ m ∈ members, m.Fresh) :
    ∃ c, ofMembers members = .ok c ∧
      ∀ acts : List Act,
        (∀ id shard, (c.afterActs acts).shard? id = .some shard → shard.store.Each Fits) →
        ∀ (stamp : Stamp) (r : Http.Request) (key : String), Neutral r key →
          ∃ n shard, (c.afterActs acts).ring.owner key = .ok n ∧
            (c.afterActs acts).shard? n.id = .some shard ∧
            Mirrors (c.afterActs acts) n ((c.afterActs acts).respond stamp r)
              (shard.respond r) := by
  obtain ⟨c, made, layout, standing⟩ := standing_fresh some distinct fresh
  refine ⟨c, made, ?_⟩
  intro acts fits stamp r key neutral
  have now := standing.after acts
  obtain ⟨m, shard, owner⟩ := now.exists_owner layout neutral.valid
  exact ⟨m.node, shard, owner.owner, owner.named,
    owner.mirrors_respond (fits _ _ owner.named) stamp neutral⟩

/-- Two new shards are put a seven: the router answers with the record, as the owner would. -/
theorem surface_transparent_put :
    let seven : Json.Value := .number (.integer 7 (by decide) (by decide))
    let r := putRequest seven
    let stamp : Stamp := ⟨"one", 0, ⟨false, Binary64.Magnitude.zero⟩⟩
    ∃ c n, ofMembers twoShards = .ok c ∧ c.ring.owner "k" = .ok n ∧
      Mirrors c n (c.respond stamp r) (Shard.respond {} r) ∧
      (c.respond stamp r).1.status = 200 ∧
      (c.respond stamp r).1.body = (Record.mk "k" seven 1).toJson.bytes := by
  intro seven r stamp
  have plain : seven.Plain Json.maxDepth := .integer 7 _ _
  have direct := respond_putRequest plain (by decide)
  have neutral : Neutral r "k" := by
    refine ⟨putRequest_names seven, by decide, .inr ⟨.inl rfl, ?_, ?_⟩⟩
    · rintro pair ⟨⟩
    · intro v read
      rw [show r.body = seven.bytes from rfl, Json.Value.read_bytes plain] at read
      cases read
      exact ⟨plain.floatFree, Nat.zero_le _⟩
  obtain ⟨c, made, always⟩ := surface_transparent (by decide) (by decide) twoShards_fresh
  obtain ⟨n, shard, owner, named, mirrors⟩ := always [] (by
    intro id shard named key e found
    obtain rfl := shard?_twoShards made named
    cases found) stamp r "k" neutral
  obtain rfl := shard?_twoShards made named
  refine ⟨c, n, made, owner, mirrors, ?_, ?_⟩
  · exact mirrors.response.status.trans (congrArg Http.Response.status direct)
  · exact mirrors.response.body.trans (congrArg Http.Response.body direct)

end Cluster

end ShardStore
