/-
# ShardStore.Topology.Config -- a set of like shards, described once

A configuration describes the members of an ordinal replica set: a base name, from which
the names of the shards are made by number, and a template for their hosts.  All names
count without the white space around them.
-/
import ShardStore.Json.Decode
import ShardStore.Text.Category
import ShardStore.Topology.Host

namespace ShardStore.Topology

set_option autoImplicit false

structure Config where
  baseName : String
  serviceName : String
  replicaCount : Nat
  port : Nat := 7000
  scheme : String := "http"
  namespaceName : String := "default"
  clusterDomain : String := "cluster.local"
  hostTemplate : String := "\x7bnodeId\x7d.\x7bserviceName\x7d.\x7bnamespace\x7d.svc.\x7bdomain\x7d"
deriving DecidableEq, Repr

namespace Config

/-! ## Names -/

/-- The name of the shard with a number. -/
def nodeId (c : Config) (index : Nat) : String := s!"{Text.trim c.baseName}-{index}"

/-- The scheme of all addresses; a blank one is the usual one. -/
def schemeName (c : Config) : String :=
  if Text.isBlank c.scheme then "http" else Text.trim c.scheme

/-- What the placeholders of a template stand for, in the order of their replacement. -/
def placeholders (c : Config) (index : Nat) : List (String × String) :=
  [("nodeId", c.nodeId index),
    ("baseName", Text.trim c.baseName),
    ("serviceName", Text.trim c.serviceName),
    ("headlessServiceName", Text.trim c.serviceName),
    ("namespace", Text.trim c.namespaceName),
    ("domain", Text.trim c.clusterDomain),
    ("clusterDomain", Text.trim c.clusterDomain),
    ("replicaIndex", toString index)]

/-- The host of the shard with a number. -/
def host (c : Config) (index : Nat) : String :=
  Host.normalize (Host.substitute (c.placeholders index) c.hostTemplate)

/-- The address of the shard with a number. -/
def address (c : Config) (index : Nat) : String :=
  s!"{c.schemeName}://{c.host index}:{c.port}/"

/-! ## JSON -/

def toJson (c : Config) : Json.Value :=
  .object [("baseName", .string c.baseName), ("serviceName", .string c.serviceName),
    ("replicaCount", .natural c.replicaCount), ("port", .natural c.port),
    ("scheme", .string c.scheme), ("namespace", .string c.namespaceName),
    ("clusterDomain", .string c.clusterDomain), ("hostTemplate", .string c.hostTemplate)]

/-- The fields of a configuration that have been read. -/
structure Partial where
  baseName : Option String := none
  serviceName : Option String := none
  replicaCount : Option Nat := none
  port : Option Nat := none
  scheme : Option String := none
  namespaceName : Option String := none
  clusterDomain : Option String := none
  hostTemplate : Option String := none

/-- The configuration of the fields, the usual values in place of absent ones. -/
def Partial.complete (p : Partial) : Except Json.Fault Config := do
  let usual : Config := {
    baseName := ← Json.need "baseName" p.baseName
    serviceName := ← Json.need "serviceName" p.serviceName
    replicaCount := ← Json.need "replicaCount" p.replicaCount }
  return { usual with
    port := p.port.getD usual.port
    scheme := p.scheme.getD usual.scheme
    namespaceName := p.namespaceName.getD usual.namespaceName
    clusterDomain := p.clusterDomain.getD usual.clusterDomain
    hostTemplate := p.hostTemplate.getD usual.hostTemplate }

def schema : Json.Record Partial Config where
  name := "TopologyConfig"
  slots := [
    .ofKind "baseName" (·.baseName) (fun p a => { p with baseName := some a }) .text,
    .ofKind "serviceName" (·.serviceName) (fun p a => { p with serviceName := some a }) .text,
    .ofKind "replicaCount" (·.replicaCount) (fun p a => { p with replicaCount := some a })
      (.natural "usize" 0xFFFFFFFFFFFFFFFF),
    (Json.Slot.ofKind "port" (·.port) (fun p a => { p with port := some a })
      (.natural "u32" 0xFFFFFFFF)).optional,
    (Json.Slot.ofKind "scheme" (·.scheme) (fun p a => { p with scheme := some a })
      .text).optional,
    (Json.Slot.ofKind "namespace" (·.namespaceName)
      (fun p a => { p with namespaceName := some a }) .text).optional,
    (Json.Slot.ofKind "clusterDomain" (·.clusterDomain)
      (fun p a => { p with clusterDomain := some a }) .text).optional,
    (Json.Slot.ofKind "hostTemplate" (·.hostTemplate)
      (fun p a => { p with hostTemplate := some a }) .text).optional]
  empty := {}
  complete := Partial.complete

end Config

end ShardStore.Topology
