/-
# ShardStore.Cluster -- a router and its shards

A cluster is a router together with what stands at the addresses of its nodes: a live
shard, nothing, or a server that gives answers from a script.  The link to a node may be
down.  The router keeps count of the requests it sends.

* `Cluster.call` is one call on a key: at most one request, to the key's owner;
* `Cluster.list` asks every node once.
-/
import ShardStore.Router.Client
import ShardStore.Router.Wire
import ShardStore.Shard

namespace ShardStore

set_option autoImplicit false

namespace Cluster

open Router (Call Failure ListingRecord Reply)

/-! ## Members -/

/-- What stands at the address of a node. -/
inductive Peer where
  | live (shard : Shard)
  | dead
  /-- Gives the replies in turn, the last one for ever. -/
  | scripted (replies : List Reply)

def Peer.receive (r : Http.Request) : Peer → Reply × Peer
  | .live shard =>
    let (response, shard) := shard.respond r
    (.complete response.status response.body, .live shard)
  | .dead => (.nothing, .dead)
  | .scripted [] => (.nothing, .scripted [])
  | .scripted [reply] => (reply, .scripted [reply])
  | .scripted (reply :: rest) => (reply, .scripted rest)

structure Member where
  node : Node
  peer : Peer
  linked : Bool := true

def Member.receive (m : Member) (r : Http.Request) : Reply × Member :=
  if m.linked then
    let (reply, peer) := m.peer.receive r
    (reply, { m with peer })
  else (.nothing, m)

/-- Hands a request to the first member of a name. -/
def deliver (id : String) (r : Http.Request) : List Member → Reply × List Member
  | [] => (.nothing, [])
  | m :: rest =>
    if m.node.id = id then
      let (reply, m) := m.receive r
      (reply, m :: rest)
    else
      let (reply, rest) := deliver id r rest
      (reply, m :: rest)

end Cluster

structure Cluster where
  members : List Cluster.Member
  ring : Ring
  /-- Is the router stopped? -/
  stopped : Bool := false
  /-- The requests sent, with the nodes they were sent to. -/
  sent : List (String × Http.Request) := []

namespace Cluster

open Router (Call Failure ListingRecord Reply)

/-- Why there is no cluster. -/
inductive Fault where
  | topology (fault : Topology.Fault)
  | ring (fault : Ring.Fault)
deriving DecidableEq, Repr

def ofMembers (members : List Member) : Except Fault Cluster :=
  match Topology.ofNodes (members.map (·.node)) with
  | .error fault => .error (.topology fault)
  | .ok t =>
    match Ring.ofTopology t with
    | .error fault => .error (.ring fault)
    | .ok ring => .ok { members, ring }

def nodes (c : Cluster) : List Node := c.members.map (·.node)

/-- The member with a name. -/
def find? (c : Cluster) (id : String) : Option Member := c.members.find? (·.node.id = id)

def stop (c : Cluster) : Cluster := { c with stopped := true }

/-! ## Calls -/

/-- Sends a request to a node. -/
def send (c : Cluster) (n : Node) (r : Http.Request) : Reply × Cluster :=
  let (reply, members) := deliver n.id r c.members
  (reply, { c with members, sent := c.sent ++ [(n.id, r)] })

/-- The owner of a valid key. -/
def owner (c : Cluster) (key : String) : Except Failure Node :=
  match c.ring.owner key with
  | .error fault => .error (.noOwner fault)
  | .ok n => if Key.isValid key then .ok n else .error (.invalidKey key)

/-- A record, and the node that served it. -/
structure Served where
  record : Record
  node : String

/-- A call on a key. -/
def call (c : Cluster) (key : String) (call : Call) (cancelled : Bool) :
    Except Failure Served × Cluster :=
  match c.owner key with
  | .error failure => (.error failure, c)
  | .ok n =>
    if cancelled then (.error .cancelled, c)
    else
      let (reply, c) := c.send n (call.request n key)
      ((reply.record n).map (⟨·, n.id⟩), c)

/-- Asks the nodes for their keys, one after the other. -/
def ask (c : Cluster) : List Node → List Router.Listing.Outcome × Cluster
  | [] => ([], c)
  | n :: rest =>
    let (reply, c) := c.send n (Router.listRequest n)
    let (outcomes, c) := c.ask rest
    ((n, reply.keys n) :: outcomes, c)

/-- The keys of all shards, whose answers arrive in the order of the nodes. -/
def list (c : Cluster) (cancelled : Bool) : Except Failure (List ListingRecord) × Cluster :=
  if cancelled then (.error .cancelled, c)
  else
    let (outcomes, c) := c.ask c.nodes
    (Router.Listing.ofOutcomes outcomes, c)

/-! ## Shards -/

/-- The live shard with a name. -/
def shard? (c : Cluster) (id : String) : Option Shard :=
  match c.find? id with
  | some { peer := .live shard, .. } => some shard
  | _ => none

/-- Puts a live shard in the place of the peer with a name. -/
def setShard (c : Cluster) (id : String) (shard : Shard) : Cluster :=
  { c with
    members := c.members.map fun m => if m.node.id = id then { m with peer := .live shard } else m }

end Cluster

end ShardStore
