/-
# ShardStore.Shard -- one shard as a server

A shard answers requests from its store.  Once it is stopped, writes are cancelled and
reads go on.  Every refusal of the store is an error body under the status of its cause.
-/
import ShardStore.Http.Route
import ShardStore.Store.Basic

namespace ShardStore

set_option autoImplicit false

/-- The status that a refusal is answered with. -/
def Store.Fault.status : Store.Fault → Nat
  | .invalidKey _ | .invalidPayload _ => 400
  | .versionMismatch .. => 409
  | .notFound _ => 404
  | .cancelled => 503

structure Shard where
  store : Store := {}
  stopped : Bool := false

namespace Shard

instance : Inhabited Shard := ⟨{}⟩

/-- What a call on the store answers. -/
def answer : Except Store.Fault Record → Http.Response
  | .ok r => .json 200 r.toJson
  | .error fault => .json fault.status (ErrorBody.mk fault.message).toJson

/-- The value and the expected version that a write request carries. -/
def payload (r : Http.Request) (blank : Payload.Fault) :
    Except Store.Fault (Json.Value × Option UInt64) :=
  match Params.read .shard r.queryBytes with
  | .error fault => .error (.invalidPayload (.params fault))
  | .ok params =>
    match Payload.read blank r.body with
    | .error fault => .error (.invalidPayload fault)
    | .ok value => .ok (value, params.expected)

/-- A write of what the request carries. -/
def write (s : Shard) (r : Http.Request) (key : String) (blank : Payload.Fault)
    (w : Json.Value → Write) : Http.Response × Shard :=
  match payload r blank with
  | .error fault => (answer (.error fault), s)
  | .ok (value, expected) =>
    let (result, store) := s.store.write key (w value) expected s.stopped
    (answer result, { s with store })

def serve (s : Shard) (r : Http.Request) : Http.Response × Shard :=
  match Http.Route.ofRequest r with
  | .refused response => (response, s)
  | .health => (.text 200 "ok", s)
  | .listing => (.json 200 (.array (s.store.keys.map .string)), s)
  | .get key => (answer (s.store.get key), s)
  | .put key => s.write r key .malformed .replace
  | .patch key => s.write r key .nullDelta .merge

/-- The response to a request, and the shard after it. -/
def respond (s : Shard) (r : Http.Request) : Http.Response × Shard :=
  let (response, s) := s.serve r
  (response.toMethod r.method, s)

def stop (s : Shard) : Shard := { s with stopped := true }

end Shard

end ShardStore
