/-
# ShardStore.Router.Exchange -- calls on shards as HTTP text

A router speaks to a node over plain HTTP/1.1, with one connection for each request, and
reads until the node closes it.  Of what was received, interim responses do not count.
Without a whole head there is no reply.  The body is what its chunks make, or as long as
the head says, or all that came; a body that ends too early is a cut one.

The requests that a router sends for a request do not depend on any reply
(`Cluster.requestsFor`), so they can be sent first and answered then
(`Cluster.respondWith`).
-/
import ShardStore.Router.Surface
import ShardStore.Url.Basic

namespace ShardStore.Router

set_option autoImplicit false

/-! ## Requests -/

/-- The host and port that a plain HTTP address names. -/
def endpoint? (address : String) : Option (String × Nat) := do
  let (scheme, rest) ← Url.scheme? (Url.clean address)
  if scheme ≠ "http" then failure
  let (_, authority) ← (Url.credentials .web (rest.dropWhile Url.isSlash)).toOption
  let n := Url.hostLength .web false authority
  let digits := ((authority.drop n).dropWhile (· = ':')).takeWhile Char.isDigit
  let port := if digits = [] then 80 else Url.Ipv4.valueOf 10 digits
  return (String.ofList ((authority.take n).filter fun c => c ≠ '[' && c ≠ ']'), port)

/-- The text of a request to a host. -/
def requestBytes (host : String) (r : Http.Request) : List UInt8 :=
  let type := match r.contentType with
    | some t => s!"content-type: {t}\r\n"
    | none => ""
  Text.Utf8.bytes (s!"{r.method} {r.target.text} HTTP/1.1\r\nhost: {host}\r\n{type}"
    ++ s!"content-length: {r.body.length}\r\nconnection: close\r\n\r\n") ++ r.body

/-! ## Replies -/

/-- Cuts a head from what is behind its empty line; bytes already read are held reversed. -/
def cutHead (read : List UInt8) : List UInt8 → Option (List UInt8 × List UInt8)
  | 0x0D :: 0x0A :: 0x0D :: 0x0A :: rest => some (read.reverse, rest)
  | b :: rest => cutHead (b :: read) rest
  | [] => none

/-- The lines of a head. -/
def headLines (head : List UInt8) : List String :=
  (head.splitOn 0x0A).map fun line => Text.trim (String.ofList (Text.Utf8.decodeLossy line))

/-- The value of a header, whose name is given in small letters. -/
def field? (name : String) (lines : List String) : Option String :=
  lines.findSome? fun line =>
    let cs := line.toList
    let key := cs.takeWhile (· ≠ ':')
    if String.ofList (key.map Char.toLower) = name then
      some (Text.trim (String.ofList (cs.drop (key.length + 1))))
    else none

/-- The status in the first line of a head. -/
def status? (lines : List String) : Option Nat := do
  let first ← lines.head?
  let code := ((first.toList.dropWhile (· ≠ ' ')).drop 1).takeWhile Char.isDigit
  if code.length = 3 then some (Url.Ipv4.valueOf 10 code) else none

/-- Puts chunks together; `none` if the last one is missing.  The fuel is more than the
number of chunks. -/
def dechunk : Nat → List UInt8 → Option (List UInt8)
  | 0, _ => none
  | fuel + 1, bs =>
    let digits := bs.takeWhile fun b => (Text.Percent.hexValue? b).isSome
    let size := digits.foldl (fun n b => 16 * n + (Text.Percent.hexValue? b).getD 0) 0
    let behind := (bs.dropWhile (· ≠ 0x0A)).drop 1
    if digits = [] then none
    else if size = 0 then some []
    else if behind.length < size + 2 then none
    else (dechunk fuel (behind.drop (size + 2))).map (behind.take size ++ ·)

/-- The reply that a head and the bytes behind it make. -/
def Reply.ofParts (status : Nat) (lines : List String) (behind : List UInt8) : Reply :=
  if status = 204 ∨ status = 304 then .complete status []
  else if (field? "transfer-encoding" lines).isSome then
    match dechunk (behind.length + 1) behind with
    | some body => .complete status body
    | none => .cut status behind
  else
    match (field? "content-length" lines).bind String.toNat? with
    | some n =>
      if n ≤ behind.length then .complete status (behind.take n) else .cut status behind
    | none => .complete status behind

/-- Reads on behind interim responses; the fuel is more than their number. -/
def Reply.ofBytesFrom : Nat → List UInt8 → Reply
  | 0, _ => .nothing
  | fuel + 1, bs =>
    match cutHead [] bs with
    | none => .nothing
    | some (head, behind) =>
      let lines := headLines head
      match status? lines with
      | none => .nothing
      | some status =>
        if status < 200 then ofBytesFrom fuel behind else .ofParts status lines behind

/-- The reply in what was received until the connection ended. -/
def Reply.ofBytes (received : List UInt8) : Reply := ofBytesFrom (received.length + 1) received

end ShardStore.Router

namespace ShardStore.Cluster

open Router (Reply Stamp)

/-! ## A request in two steps -/

/-- The requests that the router sends for a request. -/
def requestsFor (c : Cluster) (r : Http.Request) : List (String × Http.Request) :=
  let stamp : Stamp := ⟨"", 0, ⟨false, Binary64.Magnitude.zero⟩⟩
  (c.respond stamp r).2.sent.drop c.sent.length

/-- The response to a request when the nodes reply as given. -/
def respondWith (c : Cluster) (replies : List (String × Reply)) (stamp : Stamp)
    (r : Http.Request) : Http.Response :=
  let members := c.members.map fun m =>
    match replies.lookup m.node.id with
    | some reply => { m with peer := .scripted [reply], linked := true }
    | none => m
  (({ c with members } : Cluster).respond stamp r).1

end ShardStore.Cluster
