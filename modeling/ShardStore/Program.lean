/-
# ShardStore.Program -- from arguments to a server

A program either ends at once, with an exit code and a text, or is a server: a shard
with an empty store, or a router over its shards.  A router finds its topology before it
asks for its address.
-/
import ShardStore.CommandLine.Parser
import ShardStore.CommandLine.Report
import ShardStore.Router.Surface

namespace ShardStore.Program

set_option autoImplicit false

/-- The end of a program: without a fault the text goes to the output, else to the error
output. -/
structure Exit where
  code : Nat
  text : String
deriving DecidableEq, Repr

inductive Server where
  | shard (bind : SocketAddress) (s : Shard)
  /-- A router with the time allowed for a call on a shard, in milliseconds. -/
  | router (bind : SocketAddress) (timeout : Nat) (c : Cluster)

/-- A failure to start. -/
def failed (context cause : String) : Exit := ⟨1, CommandLine.Report.failure context cause⟩

/-- The arguments make no command. -/
def Exit.ofFault (fault : CommandLine.Fault) : Exit :=
  ⟨fault.exitCode, CommandLine.Report.shown fault.pieces⟩

/-- What the system says of an error. -/
def systemText (error : Nat) : String :=
  let text := match error with
    | 13 => "Permission denied"
    | 97 => "Address family not supported by protocol"
    | 98 => "Address already in use"
    | 99 => "Cannot assign requested address"
    | n => s!"Unknown error {n}"
  s!"{text} (os error {error})"

/-- An address cannot be taken. -/
def cannotListen (bind : SocketAddress) (error : Nat) : Exit :=
  failed s!"cannot bind {bind.text}" (systemText error)

/-- The system error that stands against an address, if any. -/
abbrev Refusal : Type := SocketAddress → Option Nat

/-- Takes an address to listen on. -/
def listen (refusal : Refusal) (bind : SocketAddress) : Except Exit Unit :=
  match refusal bind with
  | none => .ok ()
  | some error => .error (cannotListen bind error)

/-- The cluster of a topology, of whose shards nothing is known yet. -/
def cluster (t : Topology) : Except Exit Cluster :=
  match Cluster.ofMembers (t.nodes.map fun node => { node, peer := .dead }) with
  | .ok c => .ok c
  | .error (.topology fault) => .error (failed "invalid node topology" fault.message)
  | .error (.ring fault) => .error (failed "cannot build hash ring" fault.message)

/-- The server that a command starts, on a host that refuses some addresses. -/
def start (refusal : Refusal) : CommandLine.Command → Except Exit Server
  | .node bind => do
    listen refusal bind
    return .shard bind {}
  | .router options =>
    match options.topology with
    | .error fault => .error (failed "invalid node topology" fault.message)
    | .ok t => do
      let c ← cluster t
      listen refusal options.bind
      return .router options.bind options.requestTimeout c

/-- What arguments and an environment start. -/
def run (refusal : Refusal) (args : List String)
    (env : CommandLine.Environment) : Except Exit Server :=
  match CommandLine.parse args env with
  | .error fault => .error (.ofFault fault)
  | .ok command => start refusal command

end ShardStore.Program
