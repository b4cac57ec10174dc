/-
# ShardStore.Router.Surface -- a router as a server

A router serves the paths that a shard serves.  A call on a key is answered with the
record, under headers that name the request, the shard involved and the time; with
`debug=true` the record carries a report.  A request whose parameters or body cannot be
read is refused before it is a call, and without these headers.
-/
import ShardStore.Cluster
import ShardStore.Http.Route

namespace ShardStore.Router

set_option autoImplicit false

/-- What a router notes of a request: a name for it, and the times for the whole request,
in hundredths of a millisecond, and for the call on the shard, in milliseconds. -/
structure Stamp where
  requestId : String
  hundredths : Nat
  milliseconds : Binary64

namespace Stamp

/-- The time with two decimals. -/
def time (s : Stamp) : String :=
  let cents := s.hundredths % 100
  let zero := if cents < 10 then "0" else ""
  s!"{s.hundredths / 100}.{zero}{cents}"

end Stamp

/-! ## Answers -/

/-- Can the text stand in a header? -/
def isHeaderText (s : String) : Bool :=
  s.toList.all fun c => (0x20 ≤ c.toNat && c.toNat ≠ 0x7F) || c = '\t'

/-- Names the request, the node and the time in headers; a node whose name cannot stand
in one is left out. -/
def attachHeaders (stamp : Stamp) (node : Option String) (r : Http.Response) : Http.Response :=
  let named := (node.filter isHeaderText).toList.map fun id => ("x-debug-node", id)
  { r with
    headers := r.headers ++ [("x-debug-requestid", stamp.requestId)] ++ named
      ++ [("x-debug-executiontimems", stamp.time)] }

/-- The answer to a call on a key. -/
def answer (stamp : Stamp) (debug : Bool) : Except Failure Cluster.Served → Http.Response
  | .ok served =>
    let report : Option Report :=
      if debug then some ⟨served.node, stamp.milliseconds⟩ else none
    attachHeaders stamp (some served.node) (.json 200 (Forwarded.mk served.record report).toJson)
  | .error failure => attachHeaders stamp failure.node? failure.response

/-- The answer to a listing. -/
def answerList : Except Failure (List ListingRecord) → Http.Response
  | .ok records =>
    .ofBytes 200 "application/x-ndjson" (Text.Utf8.encode (listingText records))
  | .error failure => failure.response

/-! ## Requests -/

/-- The payload of a write; `null` is none that could be merged. -/
def payload (r : Http.Request) (blank : Payload.Fault) : Except Payload.Fault Json.Value :=
  match Payload.read blank r.body with
  | .ok .null => if blank = .nullDelta then .error .nullDelta else .ok .null
  | result => result

end Router

namespace Cluster

open Router (Stamp Failure)

/-- A call on a key with the parameters of a request. -/
def callFor (c : Cluster) (stamp : Stamp) (r : Http.Request) (key : String)
    (call : Params → Except Payload.Fault Router.Call) : Http.Response × Cluster :=
  match Params.read .router r.queryBytes with
  | .error fault => ((Failure.invalidPayload (.params fault)).response, c)
  | .ok params =>
    match call params with
    | .error fault => ((Failure.invalidPayload fault).response, c)
    | .ok call =>
      let (result, c) := c.call key call c.stopped
      (Router.answer stamp params.debug result, c)

/-- A write of what a request carries. -/
def write (r : Http.Request) (blank : Payload.Fault) (w : Json.Value → Write) (params : Params) :
    Except Payload.Fault Router.Call :=
  (Router.payload r blank).map fun v => .write (w v) params.expected

def serve (c : Cluster) (stamp : Stamp) (r : Http.Request) : Http.Response × Cluster :=
  match Http.Route.ofRequest r with
  | .refused response => (response, c)
  | .health => (.text 200 "ok", c)
  | .listing =>
    let (result, c) := c.list c.stopped
    (Router.answerList result, c)
  | .get key => c.callFor stamp r key fun _ => .ok .get
  | .put key => c.callFor stamp r key (write r .malformed .replace)
  | .patch key => c.callFor stamp r key (write r .nullDelta .merge)

/-- The router's response to a request, and the cluster after it. -/
def respond (c : Cluster) (stamp : Stamp) (r : Http.Request) : Http.Response × Cluster :=
  let (response, c) := c.serve stamp r
  (response.toMethod r.method, c)

end Cluster

end ShardStore
