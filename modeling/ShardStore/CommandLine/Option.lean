/-
# ShardStore.CommandLine.Option -- the options of the two roles

Every option takes one value, given behind its name, or else in an environment variable,
or else by default.  Only `--node` may be given more than once, and its value may hold
several nodes between commas.
-/
import ShardStore.SocketAddress
import ShardStore.Text.Numeral
import ShardStore.Topology.Basic

namespace ShardStore.CommandLine

set_option autoImplicit false

/-! ## Options -/

inductive Opt where
  | bind
  | requestTimeout
  | node
  | baseName
  | serviceName
  | replicas
  | nodePort
  | scheme
  | namespaceName
  | clusterDomain
  | hostTemplate
deriving DecidableEq, Repr

namespace Opt

/-- The name behind two dashes. -/
def name : Opt → String
  | .bind => "bind"
  | .requestTimeout => "request-timeout-ms"
  | .node => "node"
  | .baseName => "base-name"
  | .serviceName => "service-name"
  | .replicas => "replicas"
  | .nodePort => "node-port"
  | .scheme => "scheme"
  | .namespaceName => "namespace"
  | .clusterDomain => "cluster-domain"
  | .hostTemplate => "host-template"

/-- What stands for the value in messages. -/
def placeholder : Opt → String
  | .bind => "BIND"
  | .requestTimeout => "REQUEST_TIMEOUT_MS"
  | .node => "NODES"
  | .baseName => "BASE_NAME"
  | .serviceName => "SERVICE_NAME"
  | .replicas => "REPLICAS"
  | .nodePort => "NODE_PORT"
  | .scheme => "SCHEME"
  | .namespaceName => "NAMESPACE"
  | .clusterDomain => "CLUSTER_DOMAIN"
  | .hostTemplate => "HOST_TEMPLATE"

/-- The environment variable that gives the value. -/
def environmentName (o : Opt) : String := "KVSHARD_" ++ o.placeholder

/-- The option as messages show it. -/
def usage (o : Opt) : String := s!"--{o.name} <{o.placeholder}>"

/-- May the option be given more than once? -/
def repeats (o : Opt) : Bool := o = .node

end Opt

/-! ## Roles -/

inductive Role where
  | node
  | router
deriving DecidableEq, Repr

namespace Role

/-- The options of a role, in the order in which the environment is looked at. -/
def options : Role → List Opt
  | .node => [.bind]
  | .router => [.bind, .requestTimeout, .node, .baseName, .serviceName, .replicas, .nodePort,
      .scheme, .namespaceName, .clusterDomain, .hostTemplate]

/-- The address on which a role listens by default. -/
def defaultBind : Role → SocketAddress
  | .node => .v4 [0, 0, 0, 0] 7000
  | .router => .v4 [0, 0, 0, 0] 8080

/-- The option with a name. -/
def option? (r : Role) (name : String) : Option Opt := r.options.find? (·.name = name)

end Role

/-! ## Values -/

/-- Reads a node as `id=url`; the URL has to be one for a web server. -/
def parseNode (spec : String) : Except String Node :=
  let cs := spec.toList
  let id := cs.takeWhile (· ≠ '=')
  if id.length = cs.length then .error s!"expected `id=url`, got '{spec}'"
  else
    let name := Text.trim (String.ofList id)
    let address := Text.trim (String.ofList (cs.drop (id.length + 1)))
    if name = "" then .error s!"node id is missing in '{spec}'"
    else
      match Url.ofString address with
      | .error fault => .error s!"invalid node url '{address}': {fault.message}"
      | .ok url =>
        if (url.scheme = "http" ∨ url.scheme = "https") ∧ url.hasHost then
          .ok (.located name address)
        else .error s!"node url '{address}' must be an http(s) address"

/-- The values that have been given. -/
structure Settings where
  bind : Option SocketAddress := none
  requestTimeout : Option Nat := none
  nodes : Option (List Node) := none
  baseName : Option String := none
  serviceName : Option String := none
  replicas : Option Nat := none
  nodePort : Option Nat := none
  scheme : Option String := none
  namespaceName : Option String := none
  clusterDomain : Option String := none
  hostTemplate : Option String := none

namespace Settings

/-- Has the option been given? -/
def has (s : Settings) : Opt → Bool
  | .bind => s.bind.isSome
  | .requestTimeout => s.requestTimeout.isSome
  | .node => s.nodes.isSome
  | .baseName => s.baseName.isSome
  | .serviceName => s.serviceName.isSome
  | .replicas => s.replicas.isSome
  | .nodePort => s.nodePort.isSome
  | .scheme => s.scheme.isSome
  | .namespaceName => s.namespaceName.isSome
  | .clusterDomain => s.clusterDomain.isSome
  | .hostTemplate => s.hostTemplate.isSome

/-- A 64-bit number. -/
def natural (value : String) : Except String Nat :=
  match Text.Numeral.natural 0xFFFFFFFFFFFFFFFF value.toList with
  | .ok n => .ok n
  | .error fault => .error fault.message

/-- A 32-bit number, read as a signed 64-bit one. -/
def word (value : String) : Except String Nat :=
  match Text.Numeral.integer value.toList with
  | .ok n =>
    if 0 ≤ n ∧ n < 0x100000000 then .ok n.toNat else .error s!"{n} is not in 0..=4294967295"
  | .error fault => .error fault.message

/-- Sets an option; an error is a value that does not fit, with the reason. -/
def set (s : Settings) (o : Opt) (value : String) : Except (String × String) Settings :=
  let fit {α : Type} (r : Except String α) : Except (String × String) α :=
    match r with
    | .ok a => .ok a
    | .error reason => .error (value, reason)
  match o with
  | .bind =>
    match SocketAddress.ofString? value with
    | some a => .ok { s with bind := some a }
    | none => .error (value, "invalid socket address syntax")
  | .requestTimeout => (fit (natural value)).map fun n => { s with requestTimeout := some n }
  | .node => do
    let specs := (value.toList.splitOn ',').map String.ofList
    let nodes ← specs.mapM fun spec =>
      match parseNode spec with
      | .ok n => Except.ok n
      | .error reason => .error (spec, reason)
    return { s with nodes := some (s.nodes.getD [] ++ nodes) }
  | .baseName => .ok { s with baseName := some value }
  | .serviceName => .ok { s with serviceName := some value }
  | .replicas => (fit (natural value)).map fun n => { s with replicas := some n }
  | .nodePort => (fit (word value)).map fun n => { s with nodePort := some n }
  | .scheme => .ok { s with scheme := some value }
  | .namespaceName => .ok { s with namespaceName := some value }
  | .clusterDomain => .ok { s with clusterDomain := some value }
  | .hostTemplate => .ok { s with hostTemplate := some value }

/-- The configuration that the options describe. -/
def config (s : Settings) : Topology.Config :=
  let usual : Topology.Config :=
    { baseName := "kvstore", serviceName := "kvstore-hl", replicaCount := 3 }
  { baseName := s.baseName.getD usual.baseName
    serviceName := s.serviceName.getD usual.serviceName
    replicaCount := s.replicas.getD usual.replicaCount
    port := s.nodePort.getD usual.port
    scheme := s.scheme.getD usual.scheme
    namespaceName := s.namespaceName.getD usual.namespaceName
    clusterDomain := s.clusterDomain.getD usual.clusterDomain
    hostTemplate := s.hostTemplate.getD usual.hostTemplate }

end Settings

/-! ## Commands -/

structure RouterOptions where
  bind : SocketAddress
  /-- The time allowed for a call on a shard, in milliseconds. -/
  requestTimeout : Nat
  nodes : List Node
  config : Topology.Config

/-- The shards of a router: those given, or else those of the configuration. -/
def RouterOptions.topology (o : RouterOptions) : Except Topology.Fault Topology :=
  if o.nodes = [] then Topology.ofConfig o.config else Topology.ofNodes o.nodes

inductive Command where
  | node (bind : SocketAddress)
  | router (options : RouterOptions)

/-- The command of a role with the given options. -/
def Settings.command (s : Settings) (role : Role) : Command :=
  let bind := s.bind.getD role.defaultBind
  match role with
  | .node => .node bind
  | .router =>
    .router {
      bind
      requestTimeout := s.requestTimeout.getD 5000
      nodes := s.nodes.getD []
      config := s.config }

end ShardStore.CommandLine
