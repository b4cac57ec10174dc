/-
# ShardStore.Topology.Basic -- the shards of a cluster

A topology is a nonempty list of nodes with distinct names, in a fixed order.  It is
given node by node, or built from a configuration, whose faults are found in the order
base name, service name, number of shards, port, and then shard by shard.
-/
import ShardStore.Topology.Config
import ShardStore.Topology.Node
import ShardStore.Url.Basic

namespace ShardStore

set_option autoImplicit false

namespace Topology

/-- Why there is no topology. -/
inductive Fault where
  | missingBaseName
  | missingServiceName
  | replicaCount (count : Nat)
  | port (number : Nat)
  | emptyHost (node : String)
  | address (node text : String)
  | noNodes
  | duplicate (node : String)
deriving DecidableEq, Repr

def Fault.message : Fault → String
  | .missingBaseName => "base name must not be empty"
  | .missingServiceName => "service name must not be empty"
  | .replicaCount count => s!"replica count must be at least 1, got {count}"
  | .port number => s!"port must be between 1 and 65535, got {number}"
  | .emptyHost node => s!"host template resolved to an empty host for node '{node}'"
  | .address node text => s!"address '{text}' for node '{node}' is not a valid URL"
  | .noNodes => "at least one node must be configured"
  | .duplicate node => s!"duplicate node identifier '{node}'"

end Topology

structure Topology where
  nodes : List Node

namespace Topology

/-! ## From nodes -/

/-- The first member of a list that occurs before. -/
def firstRepeated? : List String → List String → Option String
  | _, [] => none
  | seen, x :: rest => if x ∈ seen then some x else firstRepeated? (x :: seen) rest

def ofNodes (nodes : List Node) : Except Fault Topology :=
  if nodes = [] then .error .noNodes
  else
    match firstRepeated? [] (nodes.map (·.id)) with
    | some id => .error (.duplicate id)
    | none => .ok ⟨nodes⟩

/-- The node with a name. -/
def get? (t : Topology) (id : String) : Option Node := t.nodes.find? (·.id = id)

/-! ## From a configuration -/

def Config.check (c : Config) : Except Fault Unit :=
  if Text.isBlank c.baseName then .error .missingBaseName
  else if Text.isBlank c.serviceName then .error .missingServiceName
  else if c.replicaCount < 1 then .error (.replicaCount c.replicaCount)
  else if c.port < 1 ∨ 65535 < c.port then .error (.port c.port)
  else .ok ()

/-- The shard with a number. -/
def Config.node (c : Config) (index : Nat) : Except Fault Node :=
  if c.host index = "" then .error (.emptyHost (c.nodeId index))
  else
    match Url.ofString (c.address index) with
    | .error _ => .error (.address (c.nodeId index) (c.address index))
    | .ok _ => .ok (.located (c.nodeId index) (c.address index))

/-- The shards of `count` numbers from `index` on. -/
def Config.nodesFrom (c : Config) : Nat → Nat → Except Fault (List Node)
  | 0, _ => .ok []
  | count + 1, index => do
    let n ← c.node index
    return n :: (← c.nodesFrom count (index + 1))

/-- The topology that a configuration describes.  Memory is taken as unbounded: a
program that sets room aside for all shards at once has no outcome where they are more than its
memory holds. -/
def ofConfig (c : Config) : Except Fault Topology := do
  c.check
  ofNodes (← c.nodesFrom c.replicaCount 0)

end Topology

end ShardStore
