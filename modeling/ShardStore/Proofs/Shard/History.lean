/-
# ShardStore.Proofs.Shard.History -- a shard holds what its accepted writes made

A write that is answered with 200 is accepted (`Shard.Accepted`).  Each accepted write asked
the store for one call (`Shard.call?`), and the store is what these calls alone make of an
empty one, in the order of the requests.  Any other request leaves the store as it was, up to
the locks, which no call can see (`Store.Alike`).  So all that a reader can find is in the
responses to the accepted writes: a key is answered with the last of them that named it,
however the key was spelled, and the listing holds the keys that were named.

* `Shard.respond_effect` -- what one request does to a running shard;
* `Shard.Retained.after` -- what all accepted writes of a run have left;
* `Shard.accepted_history` -- the reads after any run of requests.
-/
import ShardStore.Proofs.Http.Route
import ShardStore.Proofs.Shard.Requests
import ShardStore.Proofs.Store.History

namespace ShardStore

set_option autoImplicit false

/-! ## Stores that look alike -/

/-- Two stores of the same entries, which no calls can tell apart. -/
structure Store.Alike (s u : Store) : Prop where
  entries : s.entries = u.entries
  answers : ∀ calls, (s.run calls).1 = (u.run calls).1

theorem Store.alike_of_entries {s u : Store} (same : s.entries = u.entries) : s.Alike u := by
  refine ⟨same, fun calls => ?_⟩
  induction calls generalizing s u with
  | nil => rfl
  | cons c rest ih =>
    obtain ⟨answer, kept⟩ := call_congr same c
    rw [run_cons, run_cons, answer, ih kept]

namespace Shard

/-! ## Accepted writes -/

/-- A write, and a response that says that it was done. -/
def Accepted (x : Http.Request × Http.Response) : Prop := x.1.Writes ∧ x.2.status = 200

instance (x : Http.Request × Http.Response) : Decidable (Accepted x) :=
  inferInstanceAs (Decidable (_ ∧ _))

theorem filter_accepted {x : Http.Request × Http.Response} (accepted : Accepted x) :
    [x].filter (Accepted ·) = [x] :=
  List.filter_cons_of_pos (decide_eq_true accepted)

theorem filter_other {x : Http.Request × Http.Response} (other : ¬ Accepted x) :
    [x].filter (Accepted ·) = [] :=
  List.filter_cons_of_neg (by simpa using other)

/-- Requests, one after the other, each with the response to it. -/
def exchange (s : Shard) : List Http.Request → List (Http.Request × Http.Response)
  | [] => []
  | r :: rest => (r, (s.respond r).1) :: (s.respond r).2.exchange rest

/-- The accepted writes among requests, in order. -/
def accepted (s : Shard) (rs : List Http.Request) : List (Http.Request × Http.Response) :=
  (s.exchange rs).filter (Accepted ·)

theorem accepted_cons (s : Shard) (r : Http.Request) (rest : List Http.Request) :
    s.accepted (r :: rest) =
      [(r, (s.respond r).1)].filter (Accepted ·) ++ (s.respond r).2.accepted rest :=
  List.filter_append [(r, (s.respond r).1)] _

/-- The call that a write with this payload is. -/
def callFor (r : Http.Request) (key : String) (blank : Payload.Fault) (w : Json.Value → Write) :
    Option Store.Call :=
  match payload r blank with
  | .ok (value, expected) => some (.write key (w value) expected false)
  | .error _ => none

/-- The call on its store that a write asks a running shard for. -/
def call? (r : Http.Request) : Option Store.Call :=
  match Http.Route.ofRequest r with
  | .put key => callFor r key .malformed .replace
  | .patch key => callFor r key .nullDelta .merge
  | _ => none

/-! ## One request -/

/-- What a request does to a running shard: an accepted write makes its call and is answered
with the new record, and all else keeps what the store holds. -/
inductive Effect (s : Shard) (r : Http.Request) : Http.Response × Shard → Prop where
  | kept {response : Http.Response} {store : Store} (other : ¬ Accepted (r, response))
      (same : store.entries = s.store.entries) : Effect s r (response, { s with store })
  | stored {key : String} {w : Write} {expected : Option UInt64} {e : Entry}
      (writes : r.Writes) (names : r.Names key) (valid : Key.isValid key = true)
      (asks : call? r = some (.write key w expected false))
      (done : s.store.write key w expected false =
        (.ok (e.record key), (s.store.touch key).store key e)) :
      Effect s r (answer (.ok (e.record key)), { s with store := (s.store.touch key).store key e })

variable {s : Shard} {r : Http.Request}

theorem not_accepted_fault (r : Http.Request) (fault : Store.Fault) :
    ¬ Accepted (r, answer (.error fault)) := by
  rintro ⟨-, status⟩
  have failed : fault.status ≠ 200 := by
    cases fault <;> simp [Store.Fault.status]
  exact failed status

theorem write_effect (running : s.stopped = false) {key : String} {blank : Payload.Fault}
    {w : Json.Value → Write} (writes : r.Writes) (names : r.Names key)
    (asks : call? r = callFor r key blank w) : Effect s r (s.write r key blank w) := by
  unfold callFor at asks
  unfold Shard.write
  cases carried : payload r blank with
  | error fault => exact .kept (not_accepted_fault r fault) rfl
  | ok pair =>
    obtain ⟨value, expected⟩ := pair
    rw [carried] at asks
    have written := Store.write_written s.store key (w value) expected s.stopped
    show Effect s r (answer (s.store.write key (w value) expected s.stopped).1,
      { s with store := (s.store.write key (w value) expected s.stopped).2 })
    generalize result : s.store.write key (w value) expected s.stopped = ended at written
    cases written with
    | refused early => exact .kept (not_accepted_fault r _) rfl
    | cancelled cleared token => exact .kept (not_accepted_fault r _) rfl
    | rejected cleared token late => exact .kept (not_accepted_fault r _) rfl
    | stored cleared token next =>
      rw [running] at result
      exact .stored writes names (Store.clearance_ok cleared).1 asks result

theorem respond_effect (running : s.stopped = false) (r : Http.Request) :
    Effect s r (s.respond r) := by
  have routing := Http.ofRequest_routing r
  have read {response : Http.Response} (other : ¬ Accepted (r, response)) :
      Effect s r (response, s) := .kept other rfl
  show Effect s r ((s.serve r).1.toMethod r.method, (s.serve r).2)
  generalize routed : Http.Route.ofRequest r = route at routing
  cases routing with
  | @refused response failed =>
    simp only [serve, routed]
    apply read
    rintro ⟨-, status⟩
    rw [Http.Response.status_toMethod] at status
    rw [status] at failed
    cases failed
  | listing reads =>
    simp only [serve, routed]
    exact read fun accepted => reads accepted.1
  | health reads =>
    simp only [serve, routed]
    exact read fun accepted => reads accepted.1
  | get reads names =>
    simp only [serve, routed]
    exact read fun accepted => reads accepted.1
  | put writes names =>
    rw [Http.Response.toMethod_writes writes]
    simp only [serve, routed]
    exact write_effect running writes names (by simp only [call?, routed])
  | patch writes names =>
    rw [Http.Response.toMethod_writes writes]
    simp only [serve, routed]
    exact write_effect running writes names (by simp only [call?, routed])

/-! ## All requests -/

/-- The last response to a request that named the key. -/
def lastFor (key : String) (log : List (Http.Request × Http.Response)) : Option Http.Response :=
  ((log.filter (·.1.Names key)).getLast?).map (·.2)

theorem lastFor_append_other {log : List (Http.Request × Http.Response)}
    {x : Http.Request × Http.Response} {key : String} (other : ¬ x.1.Names key) :
    lastFor key (log ++ [x]) = lastFor key log := by
  simp only [lastFor, List.filter_append, List.filter_cons, other, decide_false,
    Bool.false_eq_true, if_false, List.filter_nil, List.append_nil]

theorem lastFor_append {log : List (Http.Request × Http.Response)}
    {x : Http.Request × Http.Response} {key : String} (names : x.1.Names key) :
    lastFor key (log ++ [x]) = some x.2 := by
  simp only [lastFor, List.filter_append, List.filter_cons, names, decide_true, if_true,
    List.filter_nil, List.getLast?_concat, Option.map_some]

theorem isSome_lastFor (key : String) (log : List (Http.Request × Http.Response)) :
    (lastFor key log).isSome = true ↔ ∃ x ∈ log, x.1.Names key := by
  simp [lastFor]

/-- The calls of accepted writes, which all succeed, with the records that they end with.  Made
on an empty store, they leave it as the store is. -/
structure Replay (log : List (Http.Request × Http.Response)) (calls : List Store.Call)
    (records : List Record) (store : Store) : Prop where
  asks : log.map (call? ·.1) = calls.map some
  answers : (Store.empty.run calls).1 = records.map (fun x => .record (.ok x))
  responses : log.map (·.2) = records.map (fun x => answer (.ok x))
  entries : store.entries = (Store.empty.run calls).2.entries

/-- One more accepted write is one more call. -/
theorem Replay.concat {log : List (Http.Request × Http.Response)} {calls : List Store.Call}
    {records : List Record} {store : Store} {c : Store.Call} {record : Record}
    (h : Replay log calls records store) (asks : call? r = some c)
    (done : (store.call c).1 = .record (.ok record)) :
    Replay (log ++ [(r, answer (.ok record))]) (calls ++ [c]) (records ++ [record])
      (store.call c).2 := by
  obtain ⟨answered, kept⟩ := Store.call_congr h.entries c
  constructor
  · rw [List.map_append, h.asks, List.map_append, List.map_singleton, asks, List.map_singleton]
  · rw [Store.run_append, h.answers, List.map_append]
    show _ ++ [((Store.empty.run calls).2.call c).1] = _
    rw [← answered, done, List.map_singleton]
  · rw [List.map_append, h.responses, List.map_append, List.map_singleton, List.map_singleton]
  · rw [Store.run_append]
    exact kept

/-- What accepted writes have left in a running shard that was empty before them: the store is
what their calls make, and under each key stands the record that the last response for the key
holds. -/
structure Retained (log : List (Http.Request × Http.Response)) (s : Shard) : Prop where
  running : s.stopped = false
  replay : ∃ calls records, Replay log calls records s.store
  last : ∀ key, (s.store.find? key).map (fun e => answer (.ok (e.record key))) = lastFor key log

namespace Retained

variable {log : List (Http.Request × Http.Response)}

theorem fresh : Retained [] {} where
  running := rfl
  replay := ⟨[], [], ⟨rfl, rfl, rfl, rfl⟩⟩
  last _ := rfl

theorem respond (h : Retained log s) (r : Http.Request) :
    Retained (log ++ [(r, (s.respond r).1)].filter (Accepted ·)) (s.respond r).2 := by
  have effect := respond_effect h.running r
  generalize s.respond r = result at effect ⊢
  cases effect with
  | @kept response store other same =>
    rw [filter_other other, List.append_nil]
    obtain ⟨calls, records, replay⟩ := h.replay
    refine ⟨h.running, ⟨calls, records, { replay with entries := same.trans replay.entries }⟩, ?_⟩
    intro key
    rw [← h.last key, Store.find?, same, Store.find?]
  | @stored key w expected e writes names valid asks done =>
    rw [filter_accepted ⟨writes, rfl⟩]
    obtain ⟨calls, records, replay⟩ := h.replay
    refine ⟨h.running, ?_, ?_⟩
    · have called : s.store.call (.write key w expected false) =
          (.record (.ok (e.record key)), (s.store.touch key).store key e) := by
        simp only [Store.call, done]
      have succeeds : (s.store.call (.write key w expected false)).1 =
          .record (.ok (e.record key)) := by rw [called]
      have more := replay.concat asks succeeds
      rw [called] at more
      exact ⟨_, _, more⟩
    · intro x
      show Option.map _ (((s.store.touch key).store key e).find? x) = _
      rw [Store.find?_store]
      by_cases same : x = key
      · subst same
        rw [if_pos rfl, lastFor_append names, Option.map_some]
      · have other : ¬ r.Names x := fun named => same (named.unique names)
        rw [if_neg same, lastFor_append_other other, ← h.last x]
        rfl

theorem after (h : Retained log s) (rs : List Http.Request) :
    Retained (log ++ s.accepted rs) (s.after rs) := by
  induction rs generalizing log s with
  | nil =>
    show Retained (log ++ []) s
    rwa [List.append_nil]
  | cons r rest ih =>
    rw [accepted_cons, ← List.append_assoc]
    exact ih (h.respond r)

theorem sound (h : Retained log s) :
    Assoc.Sorted s.store.entries ∧ ∀ key ∈ s.store.keys, Key.isValid key = true := by
  obtain ⟨calls, records, replay⟩ := h.replay
  have sound := Store.sound_empty.run calls
  rw [Store.keys, replay.entries]
  exact ⟨sound.sorted, sound.valid⟩

theorem mem_keys (h : Retained log s) (key : String) :
    key ∈ s.store.keys ↔ ∃ x ∈ log, x.1.Names key := by
  rw [Store.mem_keys, ← isSome_lastFor, ← h.last key, Option.isSome_map]

end Retained

/-! ## Reads -/

theorem respond_get (s : Shard) {key : String} (method : r.method = "GET") (names : r.Names key) :
    (s.respond r).1 = answer (s.store.get key) := by
  have other : r.method ≠ "HEAD" := by simp [method]
  simp only [respond, serve, Http.ofRequest_get method names, Http.Response.toMethod_ne other]

theorem respond_listing (s : Shard) (method : r.method = "GET")
    (place : Http.Resource.ofPath? r.target.path = some .listing) :
    (s.respond r).1 = .json 200 (.array (s.store.keys.map .string)) := by
  have route : Http.Route.ofRequest r = .listing := by
    simp [Http.Route.ofRequest, place, Http.Resource.methods, method]
  have other : r.method ≠ "HEAD" := by simp [method]
  simp only [respond, serve, route, Http.Response.toMethod_ne other]

/-- After any requests the store of a new shard is what the calls of the accepted writes make,
and a request that is no accepted write changes nothing that can be seen.  A key is read from
the last accepted write that named it; the listing holds the keys named, ascending. -/
theorem accepted_history (rs : List Http.Request) :
    let s := after {} rs
    let log := accepted {} rs
    (∃ (calls : List Store.Call) (records : List Record), log.map (call? ·.1) = calls.map some ∧
      (Store.empty.run calls).1 = records.map (fun x => .record (.ok x)) ∧
      log.map (·.2) = records.map (fun x => answer (.ok x)) ∧
      s.store.Alike (Store.empty.run calls).2) ∧
    (∀ r, ¬ Accepted (r, (s.respond r).1) → (s.respond r).2.store.Alike s.store) ∧
    (∀ r key, r.method = "GET" → r.Names key →
      (s.respond r).1 =
        if ¬ Key.isValid key then
          .json 400 (ErrorBody.mk (Store.Fault.invalidKey key).message).toJson
        else
          match (log.filter (·.1.Names key)).getLast? with
          | some x => x.2
          | none => .json 404 (ErrorBody.mk (Store.Fault.notFound key).message).toJson) ∧
    ∃ keys : List String, keys.Pairwise (· < ·) ∧
      (∀ key, key ∈ keys ↔ ∃ x ∈ log, x.1.Names key) ∧
      ∀ r, r.method = "GET" → Http.Resource.ofPath? r.target.path = some .listing →
        (s.respond r).1 = .json 200 (.array (keys.map .string)) := by
  intro s log
  have retained : Retained log s := Retained.fresh.after rs
  refine ⟨?_, ?_, ?_, ?_⟩
  · obtain ⟨calls, records, replay⟩ := retained.replay
    exact ⟨calls, records, replay.asks, replay.answers, replay.responses,
      Store.alike_of_entries replay.entries⟩
  · intro r other
    have effect := respond_effect retained.running r
    generalize s.respond r = result at effect other
    cases effect with
    | kept _ same => exact Store.alike_of_entries same
    | stored writes => exact absurd ⟨writes, rfl⟩ other
  · intro r key method names
    rw [respond_get s method names, Store.get]
    split
    · rfl
    · have last := retained.last key
      rw [lastFor] at last
      cases found : s.store.find? key with
      | none =>
        rw [found] at last
        rw [Option.map_eq_none_iff.1 last.symm]
        rfl
      | some e =>
        rw [found] at last
        obtain ⟨x, final, response⟩ := Option.map_eq_some_iff.1 last.symm
        rw [final]
        exact response.symm
  · refine ⟨s.store.keys, retained.sound.1, retained.mem_keys, ?_⟩
    intro r method place
    exact respond_listing s method place

/-- A key written under one spelling is read under another, past a write that was rejected
for its version. -/
theorem accepted_history_spellings :
    let put : Http.Request :=
      { method := "PUT", target := ⟨"/kv/%61", none⟩, body := Text.Utf8.bytes "true" }
    let patch : Http.Request :=
      { method := "PATCH", target := ⟨"/kv/a", some "ifVersion=5"⟩,
        body := Text.Utf8.bytes "true" }
    let get : Http.Request := { method := "GET", target := ⟨"/kv/a", none⟩ }
    (respond {} put).1.status = 200 ∧ get.Names "a" ∧
      ((after {} [put, patch]).respond get).1 = (respond {} put).1 := by
  intro put patch get
  have written : Accepted (put, (respond {} put).1) := ⟨Or.inl rfl, by decide +kernel⟩
  have rejected : ¬ Accepted (patch, ((respond {} put).2.respond patch).1) := by
    rintro ⟨-, status⟩
    have conflict : ((respond {} put).2.respond patch).1.status = 409 := by decide +kernel
    rw [conflict] at status
    cases status
  have log : accepted {} [put, patch] = [(put, (respond {} put).1)] := by
    rw [accepted_cons, filter_accepted written, accepted_cons, filter_other rejected]
    rfl
  have spelt : put.Names "a" := ⟨"%61", by decide, by decide⟩
  have names : get.Names "a" := ⟨"a", by decide, by decide⟩
  refine ⟨written.2, names, ?_⟩
  rw [(accepted_history [put, patch]).2.2.1 get "a" rfl names, log]
  simp only [List.filter_cons, spelt, decide_true, if_true, List.filter_nil]
  rfl

end Shard

end ShardStore
