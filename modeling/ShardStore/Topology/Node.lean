/-
# ShardStore.Topology.Node -- shards as a router knows them

A node is the name of a shard and the base URL of its server, which ends in a slash.
-/
import ShardStore.Json.Decode

namespace ShardStore

set_option autoImplicit false

structure Node where
  id : String
  address : String
deriving DecidableEq, Repr

namespace Node

/-- The node at an address, which gets a slash at its end if it has none. -/
def located (id address : String) : Node :=
  ⟨id, if address.toList.getLast? = some '/' then address else address ++ "/"⟩

/-- The URL of a path below the node's address. -/
def url (n : Node) (path : String) : String :=
  n.address ++ String.ofList (path.toList.dropWhile (· = '/'))

def display (n : Node) : String := s!"{n.id} ({n.address})"

def toJson (n : Node) : Json.Value :=
  .object [("id", .string n.id), ("address", .string n.address)]

/-- The fields of a node that have been read. -/
structure Partial where
  id : Option String := none
  address : Option String := none

def schema : Json.Record Partial Node where
  name := "Node"
  slots := [
    .ofKind "id" (·.id) (fun p a => { p with id := some a }) .text,
    .ofKind "address" (·.address) (fun p a => { p with address := some a }) .text]
  empty := {}
  complete p := do
    return { id := ← Json.need "id" p.id, address := ← Json.need "address" p.address }

end Node

end ShardStore
