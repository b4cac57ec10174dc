/-
# ShardStore.Http.Route -- what a request asks a server to do

Shards and routers serve the same paths: `/kv` lists keys, `/kv/{segment}` reads and
writes one key, `/health` answers that the server lives.  `HEAD` is `GET` without a
body.  The segment is percent-encoded UTF-8; a write has a body of at most 2 MiB.

Faults are found in this order: the path, the method, the segment, the body's size.
-/
import ShardStore.Http.Message
import ShardStore.Text.Percent

namespace ShardStore.Http

set_option autoImplicit false

/-- The place that a path names. -/
inductive Resource where
  | listing
  | item (segment : String)
  | health
deriving DecidableEq, Repr

def Resource.ofPath? (path : String) : Option Resource :=
  match path.toList with
  | '/' :: 'k' :: 'v' :: '/' :: segment =>
    if segment ≠ [] ∧ '/' ∉ segment then some (.item (String.ofList segment)) else none
  | _ =>
    if path = "/kv" then some .listing
    else if path = "/health" then some .health
    else none

def Resource.methods : Resource → List String
  | .listing | .health => ["GET", "HEAD"]
  | .item _ => ["GET", "HEAD", "PUT", "PATCH"]

/-- The longest body of a write. -/
def maxBody : Nat := 2097152

/-- A request that a server can act on, or the response that refuses it. -/
inductive Route where
  | listing
  | health
  | get (key : String)
  | put (key : String)
  | patch (key : String)
  | refused (response : Response)

/-- The key that a path segment spells. -/
def keyOf? (segment : String) : Option String :=
  (Text.Utf8.decode? (Text.Percent.decode (Text.Utf8.bytes segment))).map String.ofList

def Route.ofItem (r : Request) (key : String) : Route :=
  if r.method = "PUT" ∨ r.method = "PATCH" then
    if r.body.length > maxBody then
      .refused (.text 413 "Failed to buffer the request body: length limit exceeded")
    else if r.method = "PUT" then .put key
    else .patch key
  else .get key

def Route.ofRequest (r : Request) : Route :=
  match Resource.ofPath? r.target.path with
  | none => .refused (.bare 404)
  | some resource =>
    if r.method ∉ resource.methods then
      .refused { status := 405, headers := [("allow", String.intercalate "," resource.methods)] }
    else
      match resource with
      | .listing => .listing
      | .health => .health
      | .item segment =>
        match keyOf? segment with
        | some key => .ofItem r key
        | none => .refused (.text 400 "Invalid URL: Invalid UTF-8 in `key`")

end ShardStore.Http
