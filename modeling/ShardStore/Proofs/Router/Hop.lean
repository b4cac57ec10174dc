/-
# ShardStore.Proofs.Router.Hop -- from the router to a shard and back

A call that a request can carry is answered by a live shard as the shard's store answers
it (`respond_request`), and what the router makes of the answer is the store's result
again: the record as it is, or the refusal with its status and its error body
(`record_answer`).  The keys of a shard come back as they are (`keys_answer`).

The records that a store answers can be read as long as it holds nothing but plain values
(`Store.Plain`), which every call keeps that a request can carry.
-/
import ShardStore.Proofs.Router.Request
import ShardStore.Proofs.Store.Refusal
import ShardStore.Proofs.Store.Step

namespace ShardStore

set_option autoImplicit false

/-! ## Calls on a store -/

namespace Store

/-- A call of a router on the store itself. -/
def perform (s : Store) (key : String) (cancelled : Bool) :
    Router.Call → Except Fault Record × Store
  | .get => (s.get key, s)
  | .write w expected => s.write key w expected cancelled

/-- A call on a key that cannot be stored is refused, whatever the store holds. -/
theorem perform_invalid {key : String} (invalid : Key.isValid key = false) (s : Store)
    (cancelled : Bool) (call : Router.Call) :
    s.perform key cancelled call = (.error (.invalidKey key), s) := by
  cases call with
  | get => simp [perform, get, invalid]
  | write w expected => exact write_refused (clearance_invalid invalid w) expected cancelled

/-- And a call on another key is never refused for its key. -/
theorem perform_valid {key : String} (valid : Key.isValid key = true) (s : Store)
    (cancelled : Bool) (call : Router.Call) (refused : String) :
    (s.perform key cancelled call).1 ≠ .error (.invalidKey refused) := by
  cases call with
  | get =>
    simp only [perform, get, valid, not_true_eq_false, if_false]
    split <;> simp
  | write w expected =>
    have written := write_written s key w expected cancelled
    simp only [perform]
    generalize s.write key w expected cancelled = result at written ⊢
    cases written with
    | refused early =>
      rcases clearance_error early with ⟨invalid, -⟩ | ⟨-, -, rfl⟩
      · rw [valid] at invalid
        cases invalid
      · simp
    | cancelled cleared token => simp
    | rejected cleared token late =>
      obtain ⟨v, -, -, rfl⟩ := Entry.next_error late
      simp
    | stored cleared token next => simp

/-- A call on two stores that hold the same under its key is answered alike, and stored in
both or in neither. -/
theorem perform_congr {s u : Store} {key : String} (same : s.find? key = u.find? key)
    (cancelled : Bool) (call : Router.Call) :
    (s.perform key cancelled call).1 = (u.perform key cancelled call).1 ∧
      (((s.perform key cancelled call).2.entries = s.entries ∧
          (u.perform key cancelled call).2.entries = u.entries) ∨
        ∃ e, Key.isValid key = true ∧
          (s.perform key cancelled call).2.entries = Assoc.insert key e s.entries ∧
          (u.perform key cancelled call).2.entries = Assoc.insert key e u.entries) := by
  cases call with
  | get => exact ⟨by simp only [perform, get, same], Or.inl ⟨rfl, rfl⟩⟩
  | write w expected => exact write_congr same w expected cancelled

/-- Every value of the store has a property. -/
def Each (P : Json.Value → Prop) (s : Store) : Prop :=
  ∀ key e, s.find? key = some e → P e.value

section Each

variable {P : Json.Value → Prop} {s : Store}

theorem each_empty (P : Json.Value → Prop) : Each P empty := by
  rintro key e ⟨⟩

theorem Each.get (h : s.Each P) {key : String} {r : Record} (found : s.get key = .ok r) :
    P r.value := by
  unfold Store.get at found
  split at found
  · cases found
  · split at found
    · rename_i e held
      cases found
      exact h key e held
    · cases found

theorem each_after (closed : ∀ v w, P v → P w → P (v.merge w)) {current : Option Entry} {w : Write}
    (old : ∀ e, current = some e → P e.value) (new : P w.payload) :
    P (Entry.after current w).value := by
  cases current with
  | none => exact new
  | some e =>
    cases w with
    | replace value => exact new
    | merge delta => exact closed _ _ (old e rfl) new

theorem Each.store (h : s.Each P) {e : Entry} (new : P e.value) (key : String) :
    (s.store key e).Each P := by
  intro x e' found
  rw [find?_store] at found
  split at found
  · cases found
    exact new
  · exact h x e' found

/-- What a merge keeps, a write of it keeps in the store and in the record it answers. -/
theorem Each.write (h : s.Each P) (closed : ∀ v w, P v → P w → P (v.merge w)) {w : Write}
    (new : P w.payload) (key : String) (expected : Option UInt64) (cancelled : Bool) :
    (s.write key w expected cancelled).2.Each P ∧
      ∀ r, (s.write key w expected cancelled).1 = .ok r → P r.value := by
  have written := write_written s key w expected cancelled
  generalize s.write key w expected cancelled = result at written ⊢
  cases written with
  | refused early => exact ⟨h, by simp⟩
  | cancelled cleared token => exact ⟨h, by simp⟩
  | rejected cleared token late => exact ⟨h, by simp⟩
  | @stored e cleared token next =>
    have value : P e.value := by
      rw [(Entry.next_ok next).1]
      exact each_after closed (h key) new
    refine ⟨Each.store (s := s.touch key) h value key, ?_⟩
    rintro r ⟨⟩
    exact value

theorem Each.perform (h : s.Each P) (closed : ∀ v w, P v → P w → P (v.merge w)) {call : Router.Call}
    (new : ∀ w expected, call = .write w expected → P w.payload) (key : String)
    (cancelled : Bool) :
    (s.perform key cancelled call).2.Each P ∧
      ∀ r, (s.perform key cancelled call).1 = .ok r → P r.value := by
  cases call with
  | get => exact ⟨h, fun r found => h.get found⟩
  | write w expected => exact h.write closed (new w expected rfl) key expected cancelled

end Each

/-- Every value is plain below the record that will hold it. -/
def Plain (s : Store) : Prop :=
  ∀ key e, s.find? key = some e → e.value.Plain (Json.maxDepth - 1)

theorem plain_empty : Plain empty := each_empty _

theorem Plain.perform {s : Store} (h : Plain s) {call : Router.Call} (portable : call.Portable)
    (key : String) (cancelled : Bool) :
    Plain (s.perform key cancelled call).2 ∧
      ∀ r, (s.perform key cancelled call).1 = .ok r → r.value.Plain (Json.maxDepth - 1) := by
  refine Each.perform h (fun _ _ => Json.Value.Plain.merge) ?_ key cancelled
  rintro w expected rfl
  exact portable.1

end Store

namespace Router

/-! ## There -/

theorem payload_request {r : Http.Request} {expected : Option UInt64} {v : Json.Value}
    {blank : Payload.Fault} (query : Params.read .shard r.queryBytes = .ok { expected := expected })
    (body : Payload.read blank r.body = .ok v) : Shard.payload r blank = .ok (v, expected) := by
  simp only [Shard.payload, query, body]

/-- A shard answers the request for a call as its store answers the call. -/
theorem respond_request {n : Node} (base : n.IsBase) {key : String} (named : key ≠ "")
    {call : Call} (readable : call.Readable) (s : Shard) :
    s.respond (call.request n key) =
      (Shard.answer (s.store.perform key s.stopped call).1,
        { s with store := (s.store.perform key s.stopped call).2 }) := by
  have route := ofRequest_request base named readable
  cases call with
  | get =>
    simp only [Shard.respond, Shard.serve, route, Call.route]
    rfl
  | write w expected =>
    have query := read_query base key w expected
    have body (blank : Payload.Fault) := read_body readable.1.legible blank
    cases w with
    | replace value =>
      have payload := payload_request query (body .malformed)
      simp only [Shard.respond, Shard.serve, route, Call.route, Shard.write, payload]
      rfl
    | merge delta =>
      have payload := payload_request query (body .nullDelta)
      simp only [Shard.respond, Shard.serve, route, Call.route, Shard.write, payload]
      rfl

/-! ## And back -/

/-- What a router makes of a refusal by a shard. -/
def rejection (n : Node) (fault : Store.Fault) : Failure :=
  .rejected n.id fault.status (String.ofList (ErrorBody.mk fault.message).toJson.text)

/-- What a router makes of the result of a shard's store. -/
def forwarded (n : Node) : Except Store.Fault Record → Except Failure Record
  | .ok r => .ok r
  | .error fault => .error (rejection n fault)

theorem isSuccess_status (fault : Store.Fault) : Http.isSuccess fault.status = false := by
  cases fault <;> rfl

/-- What a shard refuses is still told by what the router makes of it. -/
theorem rejection_injective {n : Node} {f g : Store.Fault} (h : rejection n f = rejection n g) :
    f = g := by
  simp only [rejection, Failure.rejected.injEq, true_and] at h
  refine Store.Fault.eq_of_message h.1 ?_
  have text := String.ofList_injective h.2
  exact congrArg ErrorBody.error (Json.error_bytes_injective (congrArg Text.Utf8.encode text))

theorem record_answer (n : Node) {result : Except Store.Fault Record}
    (plain : ∀ r, result = .ok r → r.value.Plain (Json.maxDepth - 1)) :
    (Reply.complete (Shard.answer result).status (Shard.answer result).body).record n =
      forwarded n result := by
  cases result with
  | ok r =>
    have decoded := Json.decode_record (plain r rfl).legible
    have success : Http.isSuccess 200 = true := rfl
    simp only [Shard.answer, Http.Response.json, Http.Response.ofBytes, Reply.record, Reply.read,
      Reply.body, success, if_true, decoded, forwarded]
  | error fault =>
    simp only [Shard.answer, Http.Response.json, Http.Response.ofBytes, Reply.record, Reply.read,
      Reply.body, isSuccess_status, Bool.false_eq_true, if_false, Json.Value.bytes,
      Text.Utf8.decodeLossy_encode, forwarded, rejection]

/-! ## Listings -/

theorem ofRequest_listRequest {n : Node} (base : n.IsBase) :
    Http.Route.ofRequest (listRequest n) = .listing := by
  have url : n.url "/kv" = String.ofList (n.address.toList ++ ['k', 'v']) := by
    apply String.toList_injective
    rw [Node.url, String.toList_append, String.toList_ofList, String.toList_ofList]
    simp
  have target : (listRequest n).target = { path := "/kv", query := none } := by
    rw [listRequest, url, Http.ofReference_base base (by decide)]
    rfl
  have method : (listRequest n).method = "GET" := rfl
  have resource : Http.Resource.ofPath? "/kv" = some .listing := rfl
  simp [Http.Route.ofRequest, target, resource, method, Http.Resource.methods]

/-- A shard answers a listing with its keys, and the router reads them. -/
theorem keys_answer {n : Node} (base : n.IsBase) (s : Shard) :
    (s.respond (listRequest n)).2 = s ∧
      (Reply.complete (s.respond (listRequest n)).1.status
        (s.respond (listRequest n)).1.body).keys n = .ok s.store.keys := by
  have method : (listRequest n).method = "GET" := rfl
  have respond : s.respond (listRequest n) =
      (.json 200 (.array (s.store.keys.map .string)), s) := by
    simp only [Shard.respond, Shard.serve, ofRequest_listRequest base, Http.Response.toMethod,
      method]
    rfl
  have success : Http.isSuccess 200 = true := rfl
  rw [respond]
  refine ⟨rfl, ?_⟩
  simp only [Http.Response.json, Http.Response.ofBytes, Reply.keys, Reply.read, Reply.body, success,
    if_true, Json.readKeys_array]

end Router

end ShardStore
