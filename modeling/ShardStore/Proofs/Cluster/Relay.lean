/-
# ShardStore.Proofs.Cluster.Relay -- what a router makes of what the owner of a key answers

A router reads the record that the owner of a key answers, and writes it out again.  A
record takes a level of nesting of its own, but both servers take a body that has all the
levels that a text may have.  So a value that is nested that deep is stored by its owner,
and the router cannot read the record that comes back: it answers that it failed, although
the write took effect (`put_lost`).

Nothing else becomes of an answer (`router_relays`).  A request that is not refused by the
router (`respond_cases`) is one request to the owner of its key; a record with room around
it arrives as it is, and what the owner refuses is refused alike.
-/
import ShardStore.Proofs.Cluster.Owner
import ShardStore.Proofs.Json.Nesting
import ShardStore.Proofs.Router.Answer

namespace ShardStore

set_option autoImplicit false

open Router (Call Failure Forwarded Report Stamp)

namespace Router

/-! ## The way back -/

/-- What a router makes of the result of a shard's store, whose values may be nested as deep
as any. -/
def relayed (n : Node) : Except Store.Fault Record → Except Failure Record
  | .ok r => if r.value.depth < Json.maxDepth then .ok r else .error (.unreadable n.id)
  | .error fault => .error (rejection n fault)

theorem record_relayed (n : Node) {result : Except Store.Fault Record}
    (plain : ∀ r, result = .ok r → r.value.Plain Json.maxDepth) :
    (Reply.complete (Shard.answer result).status (Shard.answer result).body).record n =
      relayed n result := by
  cases result with
  | error fault => exact record_answer n (by simp)
  | ok r =>
    have whole := plain r rfl
    by_cases room : r.value.depth < Json.maxDepth
    · have readable : r.value.Plain (Json.maxDepth - 1) :=
        ⟨whole.floatFree, whole.canonical, Nat.le_sub_one_of_lt room⟩
      rw [record_answer n (by rintro _ ⟨⟩; exact readable), relayed, if_pos room, forwarded]
    · -- the record nests a level deeper than its value
      have deep : Json.maxDepth - 1 < r.value.depth :=
        Nat.lt_of_lt_of_le (by decide) (Nat.le_of_not_lt room)
      obtain ⟨fault, unread⟩ := Json.decode_record_refused whole deep
      have success : Http.isSuccess 200 = true := rfl
      simp only [Shard.answer, Http.Response.json, Http.Response.ofBytes, Reply.record, Reply.read,
        Reply.body, success, if_true, unread, relayed, if_neg room]

/-- What a client of a router is told for what the owner of a key answers. -/
inductive Relays : Http.Response → Http.Response → Prop where
  /-- The record, with a report if that was asked for. -/
  | record {r : Record} {routed : Http.Response} (report : Option Report)
      (room : r.value.depth < Json.maxDepth) (status : routed.status = 200)
      (body : routed.body = (Forwarded.mk r report).toJson.bytes) :
      Relays (Shard.answer (.ok r)) routed
  | refusal {fault : Store.Fault} {routed : Http.Response}
      (alike : routed.Alike (Shard.answer (.error fault))) :
      Relays (Shard.answer (.error fault)) routed
  /-- A failure, for a record whose value leaves no room for it. -/
  | lost {r : Record} {routed : Http.Response} (deep : r.value.depth = Json.maxDepth)
      (status : routed.status = 500)
      (body : routed.body = (ErrorBody.mk "An unexpected error occurred.").toJson.bytes) :
      Relays (Shard.answer (.ok r)) routed

theorem answer_relays (stamp : Stamp) (debug : Bool) (n : Node)
    {result : Except Store.Fault Record}
    (shallow : ∀ r, result = .ok r → r.value.depth ≤ Json.maxDepth) :
    Relays (Shard.answer result) (answer stamp debug ((relayed n result).map (⟨·, n.id⟩))) := by
  cases result with
  | error fault => exact .refusal (answer_rejection stamp debug n fault)
  | ok r =>
    by_cases room : r.value.depth < Json.maxDepth
    · rw [relayed, if_pos room]
      exact .record _ room rfl rfl
    · rw [relayed, if_neg room]
      exact .lost (Nat.le_antisymm (shallow r rfl) (Nat.le_of_not_lt room)) rfl rfl

/-- The call that a request for a key asks for. -/
inductive Asks (r : Http.Request) : Call → Prop where
  | get (method : r.method = "GET") : Asks r .get
  | put {v : Json.Value} {params : Params} (method : r.method = "PUT")
      (query : Params.read .router r.queryBytes = .ok params)
      (body : Json.Value.read r.body = .ok v) : Asks r (.write (.replace v) params.expected)
  | patch {v : Json.Value} {params : Params} (method : r.method = "PATCH")
      (query : Params.read .router r.queryBytes = .ok params)
      (body : Json.Value.read r.body = .ok v) : Asks r (.write (.merge v) params.expected)

/-- What a router answers to a request that it makes no call of. -/
inductive Refuses (r : Http.Request) : Http.Response → Prop where
  | long (writes : r.method = "PUT" ∨ r.method = "PATCH") (long : Http.maxBody < r.body.length) :
      Refuses r (.text 413 "Failed to buffer the request body: length limit exceeded")
  | query {fault : Params.Fault} (query : Params.read .router r.queryBytes = .error fault) :
      Refuses r (Failure.invalidPayload (.params fault)).response
  | put {fault : Payload.Fault} (method : r.method = "PUT")
      (body : payload r .malformed = .error fault) :
      Refuses r (Failure.invalidPayload fault).response
  | patch {fault : Payload.Fault} (method : r.method = "PATCH")
      (body : payload r .nullDelta = .error fault) :
      Refuses r (Failure.invalidPayload fault).response

end Router

namespace Cluster

open Router (Asks Refuses Relays)

/-! ## One request -/

theorem Carries.asks {r : Http.Request} {key : String} {params : Params} {call : Call}
    (h : Carries r key params call) : Asks r call := by
  cases h.demands with
  | get method => exact .get method
  | put method short body => exact .put method h.query body
  | patch method short body delta => exact .patch method h.query body

/-- A router that is not stopped refuses a request for a key, or makes a call of it. -/
theorem respond_cases {c : Cluster} (running : c.stopped = false) (stamp : Stamp)
    {r : Http.Request} {key : String} (names : r.Names key)
    (method : r.method ∈ ["GET", "PUT", "PATCH"]) :
    (∃ response, Refuses r response ∧ c.respond stamp r = (response, c)) ∨
      ∃ params call, Carries r key params call := by
  have whole : c.respond stamp r = c.serve stamp r := by
    have other : r.method ≠ "HEAD" := by
      intro head
      rw [head] at method
      exact absurd method (by decide)
    change ((c.serve stamp r).1.toMethod r.method, (c.serve stamp r).2) = c.serve stamp r
    rw [Http.Response.toMethod_ne other]
  have callFor {asked : Params → Except Payload.Fault Call}
      (refuses : ∀ params fault, asked params = .error fault →
        Refuses r (Failure.invalidPayload fault).response)
      (demands : ∀ params call, asked params = .ok call → Demands r params.expected call) :
      (∃ response, Refuses r response ∧ c.callFor stamp r key asked = (response, c)) ∨
        ∃ params call, Carries r key params call := by
    rcases callFor_cases running stamp r key asked with
      ⟨fault, query, refused⟩ | ⟨params, query, ⟨fault, unmade, refused⟩ | ⟨call, made, -⟩⟩
    · exact .inl ⟨_, .query query, refused⟩
    · exact .inl ⟨_, refuses params fault unmade, refused⟩
    · exact .inr ⟨params, call, names, query, demands params call made⟩
  have routed := Http.ofRequest_routed names method
  rw [whole, Cluster.serve]
  generalize Http.Route.ofRequest r = route at routed
  cases routed with
  | get get =>
    refine callFor (fun _ _ unmade => by cases unmade) fun params call made => ?_
    cases made
    exact .get get
  | long writes long => exact .inl ⟨_, .long writes long, rfl⟩
  | put put short =>
    refine callFor (fun _ _ unmade => .put put (write_error unmade)) fun params call made => ?_
    obtain ⟨v, body, rfl⟩ := write_ok made
    exact .put put short body
  | patch patch short =>
    refine callFor (fun _ _ unmade => .patch patch (write_error unmade)) fun params call made => ?_
    obtain ⟨v, body, rfl⟩ := write_ok made
    refine .patch patch short body fun null => ?_
    subst null
    rw [Cluster.write, Router.payload_null (Payload.read_ok body .nullDelta)] at made
    cases made

/-- A router refuses a request and sends nothing, or sends one request to the owner of the
key, whose answer it relays. -/
inductive Relayed (c : Cluster) (n : Node) (shard : Shard) (r : Http.Request) (key : String) :
    Http.Response × Cluster → Prop where
  | refused {response : Http.Response} (refuses : Refuses r response) :
      Relayed c n shard r key (response, c)
  | sent {call : Call} {response : Http.Response} (asks : Asks r call)
      (relays : Relays (shard.respond (call.request n key)).1 response) :
      Relayed c n shard r key (response,
        { c.setShard n.id (shard.respond (call.request n key)).2 with
          sent := c.sent ++ [(n.id, call.request n key)] })

namespace Owner

variable {c : Cluster} {key : String} {m : Member} {shard : Shard}

theorem relayed_call (h : Owner c key m shard)
    (floatFree : shard.store.Each Json.Value.FloatFree) (stamp : Stamp) (debug : Bool)
    {r : Http.Request} {call : Call} (asks : Asks r call) (readable : call.Readable) :
    Relayed c m.node shard r key
      (Router.answer stamp debug (c.call key call false).1, (c.call key call false).2) := by
  have old : shard.store.Each (·.Plain Json.maxDepth) := fun key e found =>
    (h.tidy key e found).plain (floatFree key e found)
  have carried : ∀ w expected, call = .write w expected → w.payload.Plain Json.maxDepth := by
    rintro w expected rfl
    exact readable.1
  have plain := (old.perform (fun _ _ => Json.Value.Plain.merge) carried key false).2
  have relays := Router.answer_relays stamp debug m.node fun r found => (plain r found).shallow
  have respond := h.respond_request readable
  rw [h.call_eq readable, Router.record_relayed m.node plain]
  have sent := Relayed.sent (c := c) asks (by rw [respond]; exact relays)
  rw [respond] at sent
  exact sent

theorem relayed_respond (h : Owner c key m shard)
    (floatFree : shard.store.Each Json.Value.FloatFree) (stamp : Stamp) {r : Http.Request}
    (names : r.Names key) (method : r.method ∈ ["GET", "PUT", "PATCH"])
    (new : ∀ v, Json.Value.read r.body = .ok v → v.FloatFree) :
    Relayed c m.node shard r key (c.respond stamp r) := by
  rcases respond_cases h.running stamp names method with
    ⟨response, refuses, refused⟩ | ⟨params, call, carries⟩
  · rw [refused]
    exact .refused refuses
  · rw [respond_carried h.running carries]
    exact h.relayed_call floatFree stamp _ carries.asks (carries.demands.readable new)

end Owner

/-! ## After any requests -/

/-- After any requests that leave no doubles in the shards, a router relays what the owner of
a key answers: a success becomes a failure only if its value has all levels of nesting. -/
theorem router_relays {members : List Member} (some : members ≠ [])
    (distinct : (members.map (·.node.id)).Nodup) (fresh : ∀ m ∈ members, m.Fresh) :
    ∃ c, ofMembers members = .ok c ∧
      ∀ acts : List Act,
        (∀ id shard, (c.afterActs acts).shard? id = .some shard →
          shard.store.Each Json.Value.FloatFree) →
        ∀ (stamp : Stamp) (r : Http.Request) (key : String), r.Names key →
          Key.isValid key = true → r.method ∈ ["GET", "PUT", "PATCH"] →
          (∀ v, Json.Value.read r.body = .ok v → v.FloatFree) →
          ∃ n shard, (c.afterActs acts).ring.owner key = .ok n ∧
            (c.afterActs acts).shard? n.id = .some shard ∧
            Relayed (c.afterActs acts) n shard r key ((c.afterActs acts).respond stamp r) := by
  obtain ⟨c, made, layout, standing⟩ := standing_fresh some distinct fresh
  refine ⟨c, made, ?_⟩
  intro acts floatFree stamp r key names valid method new
  have now := standing.after acts
  obtain ⟨m, shard, owner⟩ := now.exists_owner layout valid
  exact ⟨m.node, shard, owner.owner, owner.named,
    owner.relayed_respond (floatFree _ _ owner.named) stamp names method new⟩

/-- A router that two new shards stand behind relays a put of nested arrays. -/
theorem router_relays_nested :
    let r := putRequest (Json.Value.nested 126)
    let stamp : Stamp := ⟨"one", 0, ⟨false, Binary64.Magnitude.zero⟩⟩
    ∃ c n, ofMembers twoShards = .ok c ∧ c.ring.owner "k" = .ok n ∧
      Relayed c n {} r "k" (c.respond stamp r) := by
  intro r stamp
  have plain : (Json.Value.nested 126).Plain Json.maxDepth :=
    (Json.Value.plain_nested 126).mono (by decide)
  have floatFree : ∀ v, Json.Value.read r.body = .ok v → v.FloatFree := by
    intro v read
    rw [show r.body = (Json.Value.nested 126).bytes from rfl, Json.Value.read_bytes plain] at read
    cases read
    exact plain.floatFree
  obtain ⟨c, made, always⟩ := router_relays (by decide) (by decide) twoShards_fresh
  obtain ⟨n, shard, owner, named, relayed⟩ := always [] (by
    intro id shard named key e found
    obtain rfl := shard?_twoShards made named
    cases found) stamp r "k" (putRequest_names _) (by decide) (by decide) floatFree
  obtain rfl := shard?_twoShards made named
  exact ⟨c, n, made, owner, relayed⟩

/-- A value with all levels of nesting that is put into a new shard is stored, and the shard
answers with its record; the router answers that it failed. -/
theorem put_lost {v : Json.Value} (plain : v.Plain Json.maxDepth) (full : v.depth = Json.maxDepth)
    (short : v.bytes.length ≤ Http.maxBody) (stamp : Stamp) :
    ∃ c n shard, ofMembers twoShards = .ok c ∧ c.ring.owner "k" = .ok n ∧
      (Shard.respond {} (putRequest v)).1 = Shard.answer (.ok ⟨"k", v, 1⟩) ∧
      (c.respond stamp (putRequest v)).1.status = 500 ∧
      (c.respond stamp (putRequest v)).2.shard? n.id = some shard ∧
      shard.store.get "k" = .ok ⟨"k", v, 1⟩ := by
  have valid : Key.isValid "k" = true := by decide
  obtain ⟨c, made, layout, standing⟩ := standing_fresh (by decide) (by decide) twoShards_fresh
  obtain ⟨m, shard, owner⟩ := standing.exists_owner layout valid
  obtain rfl := shard?_twoShards made owner.named
  have readable : Call.Readable (.write (.replace v) none) := ⟨plain, short⟩
  have carries : Carries (putRequest v) "k" {} (.write (.replace v) none) :=
    ⟨putRequest_names v, rfl, .put rfl short (Json.Value.read_bytes plain)⟩
  have routed := respond_carried standing.running carries stamp
  have result : (Store.perform {} "k" false (.write (.replace v) none)).1 = .ok ⟨"k", v, 1⟩ := rfl
  have lost : Router.relayed m.node (.ok ⟨"k", v, 1⟩) = .error (.unreadable m.node.id) :=
    if_neg (Nat.not_lt_of_le (Nat.le_of_eq full.symm))
  rw [owner.call_eq readable, result,
    Router.record_relayed m.node (by rintro _ ⟨⟩; exact plain), lost] at routed
  refine ⟨c, m.node, { store := (Store.perform {} "k" false (.write (.replace v) none)).2 }, made,
    owner.owner, respond_putRequest plain short, ?_, ?_, rfl⟩
  · rw [routed]
    rfl
  · rw [routed]
    exact shard?_setShard_self owner.found _

/-- So it is with as many arrays in arrays. -/
theorem put_lost_nested :
    let deep := Json.Value.nested 127
    let stamp : Stamp := ⟨"one", 0, ⟨false, Binary64.Magnitude.zero⟩⟩
    ∃ c n shard, ofMembers twoShards = .ok c ∧ c.ring.owner "k" = .ok n ∧
      (Shard.respond {} (putRequest deep)).1 = Shard.answer (.ok ⟨"k", deep, 1⟩) ∧
      (c.respond stamp (putRequest deep)).1.status = 500 ∧
      (c.respond stamp (putRequest deep)).2.shard? n.id = some shard ∧
      shard.store.get "k" = .ok ⟨"k", deep, 1⟩ := by
  have short : (Json.Value.nested 127).bytes.length ≤ Http.maxBody := by
    rw [Json.Value.length_bytes_nested]
    decide
  exact put_lost (Json.Value.plain_nested 127) (Json.Value.depth_nested 127) short _

end Cluster

end ShardStore
