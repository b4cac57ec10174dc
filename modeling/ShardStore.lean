import ShardStore.Main
import ShardStore.Proofs.Cluster.Relay
import ShardStore.Proofs.Cluster.Sharding
import ShardStore.Proofs.Cluster.Surface
import ShardStore.Proofs.Lock.Fairness
import ShardStore.Proofs.Router.Counter
import ShardStore.Proofs.Store.Interleaving
import ShardStore.Proofs.Store.Versions
import ShardStore.Proofs.Store.Independence
import ShardStore.Proofs.Lock.Isolation
import ShardStore.Proofs.Cluster.Shutdown
import ShardStore.Proofs.Cluster.Outage
import ShardStore.Proofs.Ring.Nearest
import ShardStore.Proofs.Shard.Refusals
import ShardStore.Proofs.Shard.History
import ShardStore.Proofs.Cluster.Reprint
import ShardStore.Proofs.Ring.Clockwise
import ShardStore.Proofs.Ring.Collision
import ShardStore.Proofs.Store.Outcome
import ShardStore.Proofs.Store.Patches
import ShardStore.Proofs.Json.Merge
import ShardStore.Proofs.Store.Race
import ShardStore.Proofs.Router.KeyUrl
import ShardStore.Proofs.CommandLine.Nodes
import ShardStore.Proofs.Cluster.Listing
import ShardStore.Proofs.Router.Verdict
import ShardStore.Proofs.Cluster.Forwarding
import ShardStore.Proofs.Topology.Template
import ShardStore.Proofs.Topology.Frame
import ShardStore.Proofs.CommandLine.Specs
import ShardStore.Proofs.Router.Lines
import ShardStore.Proofs.Router.Wire
import ShardStore.Proofs.CommandLine.NodeLists
import ShardStore.Proofs.Topology.NormalForm
import ShardStore.Proofs.Topology.Nodes
