/-
# ShardStore.Http.Message -- requests and responses

A request names a target by a URI reference: a path and possibly a query.  The scheme
and authority of an absolute reference do not matter, and a fragment is never sent.
A response has a status, headers with lower-case names, and a body of bytes.
-/
import ShardStore.Json.Printer

namespace ShardStore.Http

set_option autoImplicit false

/-! ## Requests -/

/-- What a request asks for, with the percent escapes still in it. -/
structure Target where
  path : String
  query : Option String
deriving DecidableEq, Repr

/-- The characters from the path on. -/
def pathOnward : List Char → List Char
  | ':' :: '/' :: '/' :: rest => rest.dropWhile fun c => c ≠ '/' && c ≠ '?'
  | _ :: rest => pathOnward rest
  | [] => []

/-- Reads a reference; a reference that does not begin with a slash may name a scheme and
an authority first. -/
def Target.ofReference (reference : String) : Target :=
  let sent := reference.toList.takeWhile (· ≠ '#')
  let onward := if sent.head? = some '/' then sent else pathOnward sent
  let path := onward.takeWhile (· ≠ '?')
  let query := onward.dropWhile (· ≠ '?')
  { path := if path.isEmpty then "/" else String.ofList path
    query := if query.isEmpty then none else some (String.ofList query.tail) }

/-- The path and query as they stand in a request line. -/
def Target.text (t : Target) : String :=
  match t.query with
  | some q => t.path ++ "?" ++ q
  | none => t.path

structure Request where
  method : String
  target : Target
  contentType : Option String := none
  body : List UInt8 := []

/-- The query string as bytes. -/
def Request.queryBytes (r : Request) : List UInt8 :=
  Text.Utf8.bytes (r.target.query.getD "")

/-! ## Responses -/

structure Response where
  status : Nat
  headers : List (String × String) := []
  body : List UInt8 := []

namespace Response

def header? (r : Response) (name : String) : Option String := r.headers.lookup name

def contentType : String := "content-type"

def ofBytes (status : Nat) (type : String) (body : List UInt8) : Response :=
  { status, headers := [(contentType, type)], body }

def json (status : Nat) (v : Json.Value) : Response :=
  ofBytes status "application/json" v.bytes

def text (status : Nat) (s : String) : Response :=
  ofBytes status "text/plain; charset=utf-8" (Text.Utf8.bytes s)

def bare (status : Nat) : Response := { status }

/-- A response to `HEAD` has no body. -/
def toMethod (r : Response) (method : String) : Response :=
  if method = "HEAD" then { r with body := [] } else r

end Response

end ShardStore.Http
