/-
# ShardStore.Router.Failure -- why a router has no record to give

A call fails before it leaves the router (a bad key or payload, or the router stops), on
the way (no answer arrives), or at the shard (it refuses, or its answer cannot be read).
Every failure has a text and a response of its own; a shard's refusal is handed on with
its status and its body, unless the body is blank.
-/
import ShardStore.Http.Message
import ShardStore.Http.Status
import ShardStore.Ring
import ShardStore.Store.Entry

namespace ShardStore.Router

set_option autoImplicit false

inductive Failure where
  /-- No node owns the key. -/
  | noOwner (fault : Ring.Fault)
  | invalidKey (key : String)
  | invalidPayload (fault : Payload.Fault)
  /-- The shard answered without success. -/
  | rejected (node : String) (status : Nat) (body : String)
  /-- No answer arrived. -/
  | unreachable (node : Node)
  /-- The shard answered with success, but not with what was asked for. -/
  | unreadable (node : String)
  | cancelled
deriving DecidableEq, Repr

namespace Failure

def message : Failure → String
  | .noOwner fault => fault.message
  | .invalidKey key => (Store.Fault.invalidKey key).message
  | .invalidPayload fault => fault.message
  | .rejected node status _ => s!"Node '{node}' responded with {Http.statusText status}."
  | .unreachable node => s!"Unable to reach node '{node.id}' at {node.address}."
  | .unreadable node => s!"Node '{node}' returned an unreadable response."
  | .cancelled => "The request was cancelled."

/-- The shard at which a call failed. -/
def node? : Failure → Option String
  | .rejected node _ _ | .unreadable node => some node
  | .unreachable node => some node.id
  | _ => none

/-- An error body under a status. -/
def refusal (status : Nat) (text : String) : Http.Response :=
  .json status (ErrorBody.mk text).toJson

def response : Failure → Http.Response
  | .rejected _ status body =>
    if Text.isBlank body then .bare status
    else .ofBytes status "application/json" (Text.Utf8.bytes body)
  | .unreachable node => refusal 503 s!"Node '{node.id}' is unavailable."
  | .unreadable _ => refusal 500 "An unexpected error occurred."
  | .cancelled => refusal 503 Failure.cancelled.message
  | failure => refusal 400 failure.message

end Failure

end ShardStore.Router
