/-
# ShardStore.Proofs.Cluster.Reprint -- a put through a router is a put of the printed value

A router does not hand on the text of a body.  It reads the value and prints it again, and the
owner of the key reads that text (`Owner.put_reprinted`).  So the owner stores what it reads of
the printed value, under the size limit for bodies, which holds of the printed text anew; and
the router has a record to answer with if it can read the owner's (`Router.passedStatus`).

If all numbers of the value are steady and its text is short enough, that is what a put of the
same bytes at the owner itself would do (`respond_carrying`), and the status is the same too
where the value leaves a level of nesting for the record (`passedStatus_put`).

Not every double is steady.  The one that is read from `1e-30` is printed as
`9.999999999999999e-31`, which is read as its neighbour, so the owner holds another value than
it would have stored itself (`put_neighbour`).

* `put_as_printed` -- after any requests to a router with new shards.
-/
import ShardStore.Proofs.Cluster.Owner
import ShardStore.Proofs.Router.Answer
import ShardStore.Proofs.Router.Verdict

namespace ShardStore

set_option autoImplicit false

open Router (Call Failure Reply Stamp)

/-! ## Statuses -/

/-- The status under which a router passes on the response of a shard: a success remains one if
there is a record in it that can be read. -/
def Router.passedStatus (response : Http.Response) : Nat :=
  if Http.isSuccess response.status then
    match Record.schema.decode response.body with
    | .ok _ => 200
    | .error _ => 500
  else response.status

theorem Router.status_answer (stamp : Stamp) (debug : Bool) (n : Node) (response : Http.Response) :
    (answer stamp debug
      (((Reply.complete response.status response.body).record n).map (⟨·, n.id⟩))).status =
      passedStatus response := by
  unfold passedStatus Reply.record Reply.read Reply.body
  by_cases success : Http.isSuccess response.status = true
  · simp only [success, if_true]
    cases Record.schema.decode response.body with
    | ok r => rfl
    | error fault => rfl
  · simp only [success, Bool.false_eq_true, if_false]
    exact status_rejected n.id response.status _

/-! ## Shards -/

/-- The request with the text of a value for its body. -/
def Http.Request.carrying (r : Http.Request) (v : Json.Value) : Http.Request :=
  { r with body := v.bytes }

/-- A replacing write answers with the value that it was given. -/
theorem Store.write_replace {s : Store} {key : String} {v : Json.Value} {expected : Option UInt64}
    {cancelled : Bool} {record : Record}
    (done : (s.write key (.replace v) expected cancelled).1 = .ok record) : record.value = v := by
  have written := write_written s key (.replace v) expected cancelled
  generalize s.write key (.replace v) expected cancelled = result at written done
  cases written with
  | refused early => cases done
  | cancelled cleared token => cases done
  | rejected cleared token late => cases done
  | @stored e cleared token next =>
    cases done
    rw [(Entry.next_ok next).1]
    cases s.find? key <;> rfl

namespace Shard

variable {s : Shard} {r : Http.Request} {key : String} {v : Json.Value} {expected : Option UInt64}

/-- A put whose value can be read is a call on the store. -/
theorem respond_put (method : r.method = "PUT") (names : r.Names key)
    (query : Params.read .shard r.queryBytes = .ok { expected := expected })
    (short : r.body.length ≤ Http.maxBody) (body : Json.Value.read r.body = .ok v) (s : Shard) :
    s.respond r =
      (answer (s.store.write key (.replace v) expected s.stopped).1,
        { s with store := (s.store.write key (.replace v) expected s.stopped).2 }) := by
  have route := Http.ofRequest_put method names short
  have payload := Router.payload_request query (Payload.read_ok body .malformed)
  have writes : r.Writes := Or.inl method
  simp only [respond, serve, route, write, payload, Http.Response.toMethod_writes writes]

/-- A shard cannot tell a value from its text, if the text is read back. -/
theorem respond_carrying (method : r.method = "PUT") (names : r.Names key)
    (query : Params.read .shard r.queryBytes = .ok { expected := expected })
    (short : r.body.length ≤ Http.maxBody) (body : Json.Value.read r.body = .ok v)
    (steady : v.Steady) (printed : v.bytes.length ≤ Http.maxBody) (s : Shard) :
    s.respond (r.carrying v) = s.respond r := by
  have tidy := Json.Value.read_tidy body
  have legible : v.Legible Json.maxDepth := ⟨steady, tidy.canonical, tidy.shallow⟩
  have again : s.respond (r.carrying v) = _ :=
    respond_put (r := r.carrying v) method names query printed legible.read_bytes s
  rw [again, respond_put method names query short body]

/-- The record that a put is answered with can be read, if the value leaves a level for it. -/
theorem passedStatus_put (method : r.method = "PUT") (names : r.Names key)
    (query : Params.read .shard r.queryBytes = .ok { expected := expected })
    (short : r.body.length ≤ Http.maxBody) (body : Json.Value.read r.body = .ok v)
    (steady : v.Steady) (room : v.depth ≤ 126) (s : Shard) :
    Router.passedStatus (s.respond r).1 = (s.respond r).1.status := by
  rw [respond_put method names query short body]
  show Router.passedStatus (answer (s.store.write key (.replace v) expected s.stopped).1) = _
  cases done : (s.store.write key (.replace v) expected s.stopped).1 with
  | error fault => exact if_neg (by simp [answer, Http.Response.json, Http.Response.ofBytes,
      Router.isSuccess_status])
  | ok record =>
    obtain rfl := Store.write_replace done
    have legible : record.value.Legible (Json.maxDepth - 1) :=
      ⟨steady, (Json.Value.read_tidy body).canonical, room⟩
    have decoded := Json.decode_record legible
    have success : Http.isSuccess 200 = true := rfl
    simp only [Router.passedStatus, answer, Http.Response.json, Http.Response.ofBytes, success,
      if_true, decoded]

end Shard

/-! ## Routers -/

namespace Cluster

/-- What came of a request to a router is what came of one to the shard of a node, but for what
the router can read of the answer. -/
structure Passes (c : Cluster) (n : Node) (routed : Http.Response × Cluster)
    (direct : Http.Response × Shard) : Prop where
  status : routed.1.status = Router.passedStatus direct.1
  owner : routed.2.shard? n.id = some direct.2
  others : ∀ id, id ≠ n.id → routed.2.shard? id = c.shard? id

section Put

variable {c : Cluster} {key : String} {m : Member} {shard : Shard} {r : Http.Request}
  {params : Params} {v : Json.Value}

theorem Owner.put_reprinted (h : Owner c key m shard) (stamp : Stamp) (method : r.method = "PUT")
    (names : r.Names key) (query : Params.read .router r.queryBytes = .ok params)
    (short : r.body.length ≤ Http.maxBody) (body : Json.Value.read r.body = .ok v) :
    Passes c m.node (c.respond stamp r) (shard.respond (r.carrying v)) := by
  let call : Call := .write (.replace v) params.expected
  have carries : Carries r key params call := ⟨names, query, .put method short body⟩
  -- the owner reads of the router's request what it would read of the client's
  have named : key ≠ "" := by
    rintro rfl
    exact absurd h.valid (by decide)
  have same : shard.respond (call.request m.node key) = shard.respond (r.carrying v) := by
    apply Shard.respond_congr (Router.request_names h.base named call) (u := r.carrying v) names
    · exact method.symm
    · rfl
    · rw [Router.read_query h.base]
      exact (Params.read_shard query).symm
  rw [respond_carried h.running carries,
    Cluster.call_eq h.distinct h.valid h.member h.owner h.serves, same]
  refine ⟨Router.status_answer .., ?_, ?_⟩
  · exact shard?_setShard_self h.found _
  · intro id other
    exact shard?_setShard_other other _

end Put

/-- After any requests, a put through a router does at the owner of the key what a put of the
printed value would do, and nothing elsewhere.  That is what a put of the same bytes would do
if the numbers of the value are steady and its text is no longer than a body may be; and it is
answered with the same status if the value leaves a level of nesting for the record. -/
theorem put_as_printed {members : List Member} (some : members ≠ [])
    (distinct : (members.map (·.node.id)).Nodup) (fresh : ∀ m ∈ members, m.Fresh) :
    ∃ c, ofMembers members = .ok c ∧
      ∀ (acts : List Act) (stamp : Stamp) (r : Http.Request) (key : String) (params : Params)
        (v : Json.Value), r.method = "PUT" → r.Names key → Key.isValid key = true →
        Params.read .router r.queryBytes = .ok params → r.body.length ≤ Http.maxBody →
        Json.Value.read r.body = .ok v →
        ∃ n shard, (c.afterActs acts).ring.owner key = .ok n ∧
          (c.afterActs acts).shard? n.id = .some shard ∧
          Passes (c.afterActs acts) n ((c.afterActs acts).respond stamp r)
            (shard.respond (r.carrying v)) ∧
          (v.Steady → v.bytes.length ≤ Http.maxBody →
            shard.respond (r.carrying v) = shard.respond r) ∧
          (v.Steady → v.depth ≤ 126 →
            Router.passedStatus (shard.respond r).1 = (shard.respond r).1.status) := by
  obtain ⟨c, made, layout, standing⟩ := standing_fresh some distinct fresh
  refine ⟨c, made, ?_⟩
  intro acts stamp r key params v method names valid query short body
  have now := standing.after acts
  have direct := Params.read_shard query
  obtain ⟨m, shard, owner⟩ := now.exists_owner layout valid
  refine ⟨m.node, shard, owner.owner, owner.named, ?_, ?_, ?_⟩
  · exact owner.put_reprinted stamp method names query short body
  · intro steady printed
    exact Shard.respond_carrying method names direct short body steady printed shard
  · intro steady room
    exact Shard.passedStatus_put method names direct short body steady room shard

/-- One and a half, put through a router with two new shards. -/
theorem put_as_printed_fraction :
    let r : Http.Request :=
      { method := "PUT", target := ⟨"/kv/k", none⟩, body := Text.Utf8.bytes "1.5" }
    let stamp : Stamp := ⟨"one", 0, ⟨false, Binary64.Magnitude.zero⟩⟩
    ∃ c n, ofMembers twoShards = .ok c ∧ c.ring.owner "k" = .ok n ∧
      c.shard? n.id = some {} ∧ (c.respond stamp r).1.status = (Shard.respond {} r).1.status ∧
      (c.respond stamp r).2.shard? n.id = some (Shard.respond {} r).2 := by
  intro r stamp
  let half : Json.Number :=
    .float ⟨false, 6755399441055744, 1022, by decide, by decide, by decide⟩
  have body : Json.Value.read r.body = .ok (.number half) :=
    Json.Value.readNumber?_eq_some.1 (by decide +kernel)
  have steady : (Json.Value.number half).Steady := .number (by decide +kernel)
  have printed : (Json.Value.number half).bytes.length ≤ Http.maxBody := by decide +kernel
  have room : (Json.Value.number half).depth ≤ 126 := Nat.zero_le _
  obtain ⟨c, made, always⟩ := put_as_printed (by decide) (by decide) twoShards_fresh
  obtain ⟨n, shard, owner, named, passes, same, kept⟩ := always [] stamp r "k" {} (.number half) rfl
    ⟨"k", by decide, by decide⟩ (by decide) rfl (by decide) body
  obtain rfl := shard?_twoShards made named
  have status := passes.status
  have after := passes.owner
  rw [same steady printed] at status after
  rw [kept steady room] at status
  exact ⟨c, n, made, owner, named, status, after⟩

/-- A value that is put through a router is stored as another one, although the owner, in the
same state, would store it as it is. -/
theorem put_neighbour :
    let r : Http.Request :=
      { method := "PUT", target := ⟨"/kv/k", none⟩, body := Text.Utf8.bytes "1e-30" }
    let stamp : Stamp := ⟨"one", 0, ⟨false, Binary64.Magnitude.zero⟩⟩
    ∃ c n shard v w, ofMembers twoShards = .ok c ∧ c.ring.owner "k" = .ok n ∧
      c.shard? n.id = some {} ∧
      (Shard.respond {} r).1.status = 200 ∧ (c.respond stamp r).1.status = 200 ∧
      (Shard.respond {} r).2.store.get "k" = .ok ⟨"k", v, 1⟩ ∧
      (c.respond stamp r).2.shard? n.id = some shard ∧
      shard.store.get "k" = .ok ⟨"k", w, 1⟩ ∧ v ≠ w := by
  intro r stamp
  let v : Json.Number :=
    .float ⟨false, 5708990770823839, 922, by decide, by decide, by decide⟩
  let w : Json.Number :=
    .float ⟨false, 5708990770823840, 922, by decide, by decide, by decide⟩
  have body : Json.Value.read r.body = .ok (.number v) :=
    Json.Value.readNumber?_eq_some.1 (by decide +kernel)
  have neighbour : Json.Value.read (r.carrying (.number v)).body = .ok (.number w) :=
    Json.Value.readNumber?_eq_some.1 (by decide +kernel)
  have names : r.Names "k" := ⟨"k", by decide, by decide⟩
  have unversioned : Params.read .shard r.queryBytes = .ok { expected := none } := rfl
  have noParams : Params.read .router r.queryBytes = .ok {} := rfl
  have direct := Shard.respond_put rfl names unversioned (by decide) body {}
  have routed := Shard.respond_put (r := r.carrying (.number v)) rfl names unversioned
    (by decide +kernel) neighbour {}
  have valid : Key.isValid "k" = true := by decide
  obtain ⟨c, made, layout, standing⟩ := standing_fresh (by decide) (by decide) twoShards_fresh
  obtain ⟨m, shard, owner⟩ := standing.exists_owner layout valid
  obtain rfl := shard?_twoShards made owner.named
  have passes := owner.put_reprinted stamp rfl names noParams (by decide) body
  refine ⟨c, m.node, _, .number v, .number w, made, owner.owner, owner.named, ?_, ?_, ?_,
    passes.owner, ?_, ?_⟩
  · rw [direct]
    rfl
  · rw [passes.status]
    decide +kernel
  · rw [direct]
    rfl
  · rw [routed]
    rfl
  · intro same
    have digits : v ≠ w := by decide
    exact digits (Json.Value.number.inj same)

end Cluster

end ShardStore
