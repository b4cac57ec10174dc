/-
# ShardStore.Ring -- which node owns a key

Every node has 128 points on a ring of 32-bit positions, hashed from its name.  A key
belongs to the node of the first point at or behind its own position, and behind the
last point the ring begins again.  Points at one position stay in the order of the node
list, so the node that comes first there owns it.

The points are sorted once, and every lookup halves them until it has found its point.
-/
import ShardStore.Digest.Sha256
import ShardStore.Text.Category
import ShardStore.Text.Utf8
import ShardStore.Topology.Basic

namespace ShardStore

set_option autoImplicit false

namespace Ring

/-- The position of a text: the first four bytes of its digest, the lowest first. -/
def position (s : String) : UInt32 :=
  match Digest.Sha256.digest (Text.Utf8.bytes s) with
  | a :: b :: c :: d :: _ => Digest.Sha256.word d c b a
  | _ => 0

/-- The number of points that every node has. -/
def pointsPerNode : Nat := 128

structure Point where
  position : UInt32
  node : Node
deriving DecidableEq, Repr

/-- The points of a node. -/
def pointsOf (n : Node) : List Point :=
  (List.range pointsPerNode).map fun i => ⟨position s!"{n.id}-vn-{i}", n⟩

/-- Why no node is selected. -/
inductive Fault where
  | noNodes
  | emptyKey
deriving DecidableEq, Repr

def Fault.message : Fault → String
  | .noNodes => "no nodes are registered; the hash ring cannot be built"
  | .emptyKey => "key must be provided"

end Ring

structure Ring where
  /-- The points by position, ascending. -/
  points : List Ring.Point
  nodeCount : Nat

namespace Ring

def ofNodes (nodes : List Node) : Except Fault Ring :=
  if nodes = [] then .error .noNodes
  else
    .ok {
      points := (nodes.flatMap pointsOf).mergeSort fun p q => p.position ≤ q.position
      nodeCount := nodes.length }

def ofTopology (t : Topology) : Except Fault Ring := ofNodes t.nodes

/-- The number of sorted points before a position, found by halving: those below `low` are
before it, and those from `high` on are not. -/
def search (points : List Point) (place : UInt32) (low high : Nat) : Nat :=
  if low < high then
    let middle := (low + high) / 2
    if points[middle]?.any (·.position < place) then search points place (middle + 1) high
    else search points place low middle
  else low
termination_by high - low

/-- The index of the point that a position leads to. -/
def index (r : Ring) (place : UInt32) : Nat :=
  let before := search r.points place 0 r.points.length
  if before < r.points.length then before else 0

/-- The first point at or behind a position, or else the first of all. -/
def successor? (r : Ring) (place : UInt32) : Option Point := r.points[r.index place]?

/-- The node that owns a key. -/
def owner (r : Ring) (key : String) : Except Fault Node :=
  if Text.isBlank key then .error .emptyKey
  else
    match r.successor? (position key) with
    | some p => .ok p.node
    | none => .error .noNodes

end Ring

end ShardStore
