/-
# ShardStore.Router.Client -- asking a shard

A call on a key is one request to the node that owns it; nothing is repeated.  What comes
back is sorted by how far it got: nothing at all, an answer without success, an answer
with success whose body cannot be read, or the record.
-/
import ShardStore.Router.Failure
import ShardStore.Text.Numeral

namespace ShardStore.Router

set_option autoImplicit false

/-! ## Requests -/

/-- A call on one key. -/
inductive Call where
  | get
  | write (w : Write) (expected : Option UInt64)

/-- The URL of a key at a node, with the version the key must have. -/
def keyUrl (n : Node) (key : String) (expected : Option UInt64) : String :=
  let segment := Text.Percent.encode (Text.Utf8.bytes key)
  let path := n.url ("/kv/" ++ String.ofList (Text.Utf8.decodeLossy segment))
  match expected with
  | some version =>
    path ++ "?ifVersion=" ++ String.ofList (Text.Numeral.render version.toNat)
  | none => path

/-- The method that asks for a write. -/
def verb : Write → String
  | .replace _ => "PUT"
  | .merge _ => "PATCH"

def Call.request (call : Call) (n : Node) (key : String) : Http.Request :=
  match call with
  | .get => { method := "GET", target := .ofReference (keyUrl n key none) }
  | .write w expected => {
      method := verb w
      target := .ofReference (keyUrl n key expected)
      contentType := some "application/json"
      body := w.payload.bytes }

/-- The request for all keys of a node. -/
def listRequest (n : Node) : Http.Request :=
  { method := "GET", target := .ofReference (n.url "/kv") }

/-! ## Replies -/

/-- What arrives for a request.  A reply is never a redirect: a client would follow one by itself
and hand on what it finds there, so a status of 301, 302, 303, 307 or 308 belongs to an answer
that names no other place. -/
inductive Reply where
  /-- No answer: refused, closed, or too late. -/
  | nothing
  | complete (status : Nat) (body : List UInt8)
  /-- The connection broke inside the body. -/
  | cut (status : Nat) (body : List UInt8)
deriving DecidableEq, Inhabited, Repr

/-- The body of a success; a refusal is taken as text, and without text if it was cut. -/
def Reply.body (n : Node) : Reply → Except Failure (List UInt8)
  | .nothing => .error (.unreachable n)
  | .complete status body =>
    if Http.isSuccess status then .ok body
    else .error (.rejected n.id status (String.ofList (Text.Utf8.decodeLossy body)))
  | .cut status _ =>
    if Http.isSuccess status then .error (.unreadable n.id)
    else .error (.rejected n.id status "")

/-- What a reader finds in the body of a success. -/
def Reply.read {α : Type} (n : Node) (reader : List UInt8 → Except Json.Fault α)
    (reply : Reply) : Except Failure α :=
  match reply.body n with
  | .error failure => .error failure
  | .ok body =>
    match reader body with
    | .ok a => .ok a
    | .error _ => .error (.unreadable n.id)

def Reply.record (n : Node) (reply : Reply) : Except Failure Record :=
  reply.read n Record.schema.decode

/-- Reads an array of strings. -/
def readKeys (bs : List UInt8) : Except Json.Fault (List String) := do
  match Json.skipSpace bs with
  | [] => throw .truncated
  | b :: rest =>
    if b = 0x5B then
      Json.finish (← Json.items (Json.scalar .text) (bs.length + 1) true [] rest)
    else throw .malformed

def Reply.keys (n : Node) (reply : Reply) : Except Failure (List String) :=
  reply.read n readKeys

end ShardStore.Router
