/-
# ShardStore.Proofs.Cluster.Sharding -- many shards are one store

A router with live shards under distinct names answers calls and listings as one store
would that gets the same calls.  What carries the proof is that the shards divide that
store's entries among them: a shard holds what the store holds under the keys that its
node owns, and nothing else (`Divided`).  A call goes to the one shard that holds its key
as the store does, so the two are answered alike, and stored in both or in neither; all
other shards hold nothing under the key before or after.

* `Cluster.Partition` -- the shards divide a store;
* `Cluster.sharding_invisible` -- they do so at every point of every run, and the router
  answers as the store does.
-/
import ShardStore.Proofs.Cluster.Agreement
import ShardStore.Proofs.Cluster.Delivery
import ShardStore.Proofs.Ring

namespace ShardStore

set_option autoImplicit false

open Router (Ask ListingRecord)

/-! ## Shares -/

/-- The entries whose keys a node owns. -/
def Ring.share (ring : Ring) (n : Node) (entries : List (String × Entry)) :
    List (String × Entry) :=
  entries.filter fun p => ring.owns n p.1

namespace Ring

variable {ring : Ring} {n : Node} {key : String}

theorem lookup_share (ring : Ring) (n : Node) (key : String) (entries : List (String × Entry)) :
    (ring.share n entries).lookup key = if ring.owns n key then entries.lookup key else none :=
  Assoc.lookup_filter (ring.owns n) key entries

theorem keys_share (ring : Ring) (n : Node) (entries : List (String × Entry)) :
    Assoc.keys (ring.share n entries) = (Assoc.keys entries).filter (ring.owns n) :=
  Assoc.keys_filter (ring.owns n) entries

/-- An entry that is put under a key goes to the share of the key's owner. -/
theorem share_insert_owner (owner : ring.owner key = .ok n) (e : Entry)
    {entries : List (String × Entry)} (sorted : Assoc.Sorted entries) :
    ring.share n (Assoc.insert key e entries) = Assoc.insert key e (ring.share n entries) :=
  Assoc.filter_insert_of_pos (ring.owns n) (owns_iff.2 owner) e sorted

theorem share_insert_other (owner : ring.owner key = .ok n) {o : Node} (other : o ≠ n) (e : Entry)
    (entries : List (String × Entry)) :
    ring.share o (Assoc.insert key e entries) = ring.share o entries := by
  refine Assoc.filter_insert_of_neg (ring.owns o) ?_ e entries
  rw [← Bool.not_eq_true, owns_iff, owner]
  exact fun same => other (Except.ok.inj same).symm

end Ring

namespace Cluster

/-- Nodes under distinct names, each at its base URL, and their ring. -/
structure Layout (nodes : List Node) (ring : Ring) : Prop where
  distinct : (nodes.map (·.id)).Nodup
  based : ∀ n ∈ nodes, n.IsBase
  made : Ring.ofNodes nodes = .ok ring

namespace Layout

variable {nodes : List Node} {ring : Ring} {keys : List String}

theorem nodup_members (layout : Layout nodes ring) {c : Cluster} (same : c.nodes = nodes) :
    (c.members.map (·.node.id)).Nodup := by
  have names := layout.distinct
  rwa [← same, Cluster.nodes, List.map_map] at names

/-- No key is in the shares of two nodes. -/
theorem nodup_shares (layout : Layout nodes ring) (once : keys.Nodup) :
    (nodes.flatMap fun n => keys.filter (ring.owns n)).Nodup := by
  rw [List.nodup_flatMap]
  constructor
  · intro n _
    exact once.filter _
  · refine layout.distinct.of_map.imp ?_
    intro n o apart key hn ho
    apply apart
    have one := Ring.owns_iff.1 (List.mem_filter.1 hn).2
    rw [Ring.owns_iff.1 (List.mem_filter.1 ho).2] at one
    exact (Except.ok.inj one).symm

/-- Every key that can be stored is in the share of a node. -/
theorem mem_shares (layout : Layout nodes ring) (valid : ∀ key ∈ keys, Key.isValid key = true)
    {key : String} : key ∈ nodes.flatMap (fun n => keys.filter (ring.owns n)) ↔ key ∈ keys := by
  rw [List.mem_flatMap]
  constructor
  · rintro ⟨n, -, member⟩
    exact (List.mem_filter.1 member).1
  · intro present
    obtain ⟨n, among, owner⟩ := Ring.exists_owner layout.made (Key.notBlank (valid key present))
    exact ⟨n, among, List.mem_filter.2 ⟨present, Ring.owns_iff.2 owner⟩⟩

end Layout

/-- The shards of a cluster divide the entries of a store among them. -/
structure Divided (nodes : List Node) (ring : Ring) (c : Cluster) (s : Store) : Prop where
  sameRing : c.ring = ring
  sameNodes : c.nodes = nodes
  serves : ∀ m ∈ c.members, ∃ shard, m.Serves shard ∧
    shard.store.entries = ring.share m.node s.entries
  sorted : Assoc.Sorted s.entries
  valid : ∀ key ∈ s.keys, Key.isValid key = true
  plain : s.Plain

namespace Divided

variable {nodes : List Node} {ring : Ring} {c : Cluster} {s : Store}

theorem member (h : Divided nodes ring c s) {n : Node} (among : n ∈ nodes) :
    ∃ m ∈ c.members, m.node = n := by
  rw [← h.sameNodes] at among
  exact List.mem_map.1 among

theorem among (h : Divided nodes ring c s) {m : Member} (member : m ∈ c.members) :
    m.node ∈ nodes :=
  h.sameNodes ▸ List.mem_map_of_mem member

theorem distinct (h : Divided nodes ring c s) (layout : Layout nodes ring) :
    (c.members.map (·.node.id)).Nodup :=
  layout.nodup_members h.sameNodes

/-! ## One call -/

/-- A call reaches the shard of the key's owner, which answers it as the store does. -/
theorem call_eq (h : Divided nodes ring c s) (layout : Layout nodes ring) {key : String}
    (valid : Key.isValid key = true) {call : Router.Call} (portable : call.Portable)
    {m : Member} (member : m ∈ c.members) (owner : ring.owner key = .ok m.node) {shard : Shard}
    (serves : m.Serves shard) :
    c.call key call false =
      (((Router.Reply.complete (Shard.answer (shard.store.perform key false call).1).status
          (Shard.answer (shard.store.perform key false call).1).body).record m.node).map
            (⟨·, m.node.id⟩),
        { c with
          members := c.members.map fun x =>
            if x.node.id = m.node.id then
              m.hold { store := (shard.store.perform key false call).2 }
            else x
          sent := c.sent ++ [(m.node.id, call.request m.node key)] }) := by
  have named : key ≠ "" := by
    rintro rfl
    exact absurd valid (by decide)
  have respond := Router.respond_request (layout.based _ (h.among member)) named
    portable.readable shard
  rw [serves.running] at respond
  rw [Cluster.call_eq (h.distinct layout) valid member (h.sameRing ▸ owner) serves, respond,
    ← members_setShard (h.distinct layout) member]
  rfl

/-- After a call that is stored under a key, or not at all, the shards divide what the store
holds then. -/
theorem next (h : Divided nodes ring c s) (layout : Layout nodes ring) {key : String}
    {m : Member} (member : m ∈ c.members) (owner : ring.owner key = .ok m.node) {shard : Shard}
    (serves : m.Serves shard) (held : shard.store.entries = ring.share m.node s.entries)
    {t u : Store} (plain : u.Plain)
    (change : (t.entries = shard.store.entries ∧ u.entries = s.entries) ∨
      ∃ e, Key.isValid key = true ∧ t.entries = Assoc.insert key e shard.store.entries ∧
        u.entries = Assoc.insert key e s.entries)
    (sent : List (String × Http.Request)) :
    Divided nodes ring
      { c with
        members := c.members.map fun x =>
          if x.node.id = m.node.id then m.hold { store := t } else x
        sent := sent } u := by
  have only {x : Member} (hx : x ∈ c.members) (same : x.node.id = m.node.id) : x = m :=
    List.inj_on_of_nodup_map (h.distinct layout) hx member same
  refine ⟨h.sameRing, ?_, ?_, ?_, ?_, plain⟩
  · rw [← h.sameNodes, Cluster.nodes, Cluster.nodes, List.map_map]
    apply List.map_congr_left
    intro x hx
    simp only [Function.comp_apply]
    split
    · rename_i same
      rw [only hx same, Member.hold_node]
    · rfl
  · intro y among
    obtain ⟨x, hx, rfl⟩ := List.mem_map.1 among
    split
    · refine ⟨{ store := t }, serves.hold rfl, ?_⟩
      rw [Member.hold_node]
      rcases change with ⟨left, right⟩ | ⟨e, -, left, right⟩
      · rw [left, right, held]
      · rw [left, right, held, Ring.share_insert_owner owner e h.sorted]
    · rename_i other
      obtain ⟨shard', serves', held'⟩ := h.serves x hx
      refine ⟨shard', serves', ?_⟩
      rcases change with ⟨-, right⟩ | ⟨e, -, -, right⟩
      · rw [right, held']
      · have apart : x.node ≠ m.node := fun same => other (congrArg Node.id same)
        rw [right, held', Ring.share_insert_other owner apart]
  · rcases change with ⟨-, right⟩ | ⟨e, -, -, right⟩
    · exact right ▸ h.sorted
    · exact right ▸ Assoc.sorted_insert key e h.sorted
  · intro x present
    rcases change with ⟨-, right⟩ | ⟨e, valid, -, right⟩
    · rw [Store.keys, right] at present
      exact h.valid x present
    · rw [Store.keys, right, Assoc.keys_insert] at present
      rcases present with rfl | present
      · exact valid
      · exact h.valid x present

/-- One call is answered as the store answers it, and the shards divide the store after it. -/
theorem call (h : Divided nodes ring c s) (layout : Layout nodes ring) (key : String)
    {call : Router.Call} (portable : call.Portable) :
    Router.Agrees ring key (c.call key call false).1 (s.perform key false call).1 ∧
      Divided nodes ring (c.call key call false).2 (s.perform key false call).2 := by
  cases valid : Key.isValid key with
  | false =>
    obtain ⟨failure, invalid, refused⟩ := c.call_invalid valid call
    rw [refused, Store.perform_invalid valid]
    exact ⟨Router.agrees_invalidKey invalid, h⟩
  | true =>
    obtain ⟨n, among, owner⟩ := Ring.exists_owner layout.made (Key.notBlank valid)
    obtain ⟨m, member, rfl⟩ := h.member among
    obtain ⟨shard, serves, held⟩ := h.serves m member
    have same : shard.store.find? key = s.find? key := by
      rw [Store.find?, held, Ring.lookup_share, if_pos (Ring.owns_iff.2 owner), Store.find?]
    obtain ⟨result, change⟩ := Store.perform_congr same false call
    obtain ⟨plain, readable⟩ := h.plain.perform portable key false
    rw [h.call_eq layout valid portable member owner serves, result,
      Router.record_answer m.node readable]
    exact ⟨Router.agrees_forwarded owner (Store.perform_valid valid s false call),
      h.next layout member owner serves held plain change _⟩

/-! ## One listing -/

/-- What the shards name when they are all asked. -/
theorem list_eq (h : Divided nodes ring c s) (layout : Layout nodes ring) :
    ∃ log, c.list false =
      (.ok ((nodes.flatMap fun n =>
          (Assoc.keys (ring.share n s.entries)).map (ListingRecord.mk · n.id)).mergeSort
            Router.Listing.precedes),
        { c with sent := log }) := by
  have serve : ∀ n ∈ c.nodes, ∃ m ∈ c.members, m.node = n ∧
      (m.receive (Router.listRequest n)).1.keys n = .ok (Assoc.keys (ring.share n s.entries)) ∧
        (m.receive (Router.listRequest n)).2 = m := by
    intro n among
    rw [h.sameNodes] at among
    obtain ⟨m, member, rfl⟩ := h.member among
    obtain ⟨shard, serves, held⟩ := h.serves m member
    have answer := Member.receive_listRequest serves.linked serves.live (layout.based _ among)
    rw [Store.keys, held] at answer
    exact ⟨m, member, rfl, answer⟩
  obtain ⟨log, asked⟩ := ask_eq (h.distinct layout) _ c.ring c.stopped c.sent serve
  refine ⟨log, ?_⟩
  simp only [Cluster.list, Bool.false_eq_true, if_false, asked, Router.Listing.ofOutcomes]
  rw [Router.Listing.gather_ok, h.sameNodes]
  rfl

/-- A listing names the keys of the store, each beside its owner. -/
theorem lists (h : Divided nodes ring c s) (layout : Layout nodes ring) :
    Router.Lists ring (c.list false).1 s.keys := by
  obtain ⟨log, listed⟩ := h.list_eq layout
  let lines := nodes.flatMap fun n =>
    (Assoc.keys (ring.share n s.entries)).map (ListingRecord.mk · n.id)
  have named : lines.map (·.key) = nodes.flatMap fun n => s.keys.filter (ring.owns n) := by
    simp only [lines, List.map_flatMap, List.map_map, Ring.keys_share]
    simp [Function.comp_def, Store.keys]
  have sorted := (List.mergeSort_perm lines Router.Listing.precedes).map (·.key)
  rw [named] at sorted
  refine ⟨_, congrArg Prod.fst listed, ?_, ?_, ?_⟩
  · exact sorted.nodup_iff.2 (layout.nodup_shares (h.sorted.imp Std.ne_of_lt))
  · intro key
    exact sorted.mem_iff.trans (layout.mem_shares h.valid)
  · intro r member
    obtain ⟨n, -, line⟩ := List.mem_flatMap.1 (List.mem_mergeSort.1 member)
    obtain ⟨key, held, rfl⟩ := List.mem_map.1 line
    rw [Ring.keys_share] at held
    exact ⟨n, Ring.owns_iff.1 (List.mem_filter.1 held).2, rfl⟩

theorem list (h : Divided nodes ring c s) (layout : Layout nodes ring) :
    Divided nodes ring (c.list false).2 s := by
  obtain ⟨log, listed⟩ := h.list_eq layout
  rw [listed]
  exact ⟨h.sameRing, h.sameNodes, h.serves, h.sorted, h.valid, h.plain⟩

/-! ## Any number of calls and listings -/

theorem step (h : Divided nodes ring c s) (layout : Layout nodes ring) {ask : Ask}
    (portable : ask.Portable) : Divided nodes ring (c.step ask) (s.step ask) := by
  cases ask with
  | call key call => exact (h.call layout key portable).2
  | list => exact h.list layout

theorem after (h : Divided nodes ring c s) (layout : Layout nodes ring) {asks : List Ask}
    (portable : ∀ ask ∈ asks, ask.Portable) :
    Divided nodes ring (c.after asks) (s.after asks) := by
  induction asks generalizing c s with
  | nil => exact h
  | cons ask asks ih =>
    apply ih (h.step layout (portable ask List.mem_cons_self))
    intro other among
    exact portable other (List.mem_cons_of_mem _ among)

end Divided

/-- The shards of the nodes divide a store: each holds what the store holds under the keys
that its node owns, and every key of the store is in exactly one shard. -/
structure Partition (nodes : List Node) (ring : Ring) (c : Cluster) (s : Store) : Prop where
  share : ∀ n ∈ nodes, ∃ shard, c.shard? n.id = some shard ∧
    shard.store.entries = ring.share n s.entries
  whole : ∀ key ∈ s.keys, ∃! n, n ∈ nodes ∧
    ∃ shard, c.shard? n.id = some shard ∧ key ∈ shard.store.keys

theorem Divided.shard?_eq {nodes : List Node} {ring : Ring} {c : Cluster} {s : Store}
    (h : Divided nodes ring c s) (layout : Layout nodes ring) {n : Node} (among : n ∈ nodes) :
    ∃ shard, c.shard? n.id = some shard ∧ shard.store.entries = ring.share n s.entries := by
  obtain ⟨m, member, rfl⟩ := h.member among
  obtain ⟨shard, serves, held⟩ := h.serves m member
  exact ⟨shard, (shard?_serves (h.distinct layout) member serves).2, held⟩

theorem Divided.partition {nodes : List Node} {ring : Ring} {c : Cluster} {s : Store}
    (h : Divided nodes ring c s) (layout : Layout nodes ring) : Partition nodes ring c s := by
  refine ⟨fun n among => h.shard?_eq layout among, ?_⟩
  intro key present
  have held {n : Node} (among : n ∈ nodes) :
      (∃ shard, c.shard? n.id = some shard ∧ key ∈ shard.store.keys) ↔
        ring.owner key = .ok n := by
    obtain ⟨shard, live, entries⟩ := h.shard?_eq layout among
    have keys : key ∈ shard.store.keys ↔ ring.owner key = .ok n := by
      rw [Store.keys, entries, Ring.keys_share, List.mem_filter, Ring.owns_iff]
      exact and_iff_right present
    rw [← keys]
    constructor
    · rintro ⟨shard', live', member⟩
      rw [live] at live'
      cases live'
      exact member
    · exact fun member => ⟨shard, live, member⟩
  obtain ⟨n, among, owner⟩ := Ring.exists_owner layout.made (Key.notBlank (h.valid key present))
  refine ⟨n, ⟨among, (held among).2 owner⟩, ?_⟩
  rintro o ⟨amongToo, other⟩
  have ownerToo := (held amongToo).1 other
  rw [owner] at ownerToo
  exact (Except.ok.inj ownerToo).symm

/-- A new shard stands at the base URL of its node. -/
structure Member.Fresh (m : Member) : Prop where
  base : m.node.IsBase
  serves : ∃ shard, m.Serves shard ∧ shard.store.entries = []

/-- A router with new shards under distinct names answers every call, and every listing, as
one store does that gets the same calls; and at every point the shards divide that store. -/
theorem sharding_invisible {members : List Member} (some : members ≠ [])
    (distinct : (members.map (·.node.id)).Nodup) (fresh : ∀ m ∈ members, m.Fresh) :
    ∃ c, ofMembers members = .ok c ∧
      ∀ asks : List Ask, (∀ ask ∈ asks, ask.Portable) →
        Partition (members.map (·.node)) c.ring (c.after asks) (Store.empty.after asks) ∧
        (∀ (key : String) (call : Router.Call), call.Portable →
          Router.Agrees c.ring key ((c.after asks).call key call false).1
            ((Store.empty.after asks).perform key false call).1) ∧
        Router.Lists c.ring ((c.after asks).list false).1 (Store.empty.after asks).keys := by
  have named : ((members.map (·.node)).map (·.id)).Nodup := by rwa [List.map_map]
  have nodes : members.map (·.node) ≠ [] := by simpa using some
  obtain ⟨ring, made⟩ := Ring.exists_ofNodes nodes
  have built : ofMembers members = .ok { members, ring } := by
    simp only [ofMembers, Topology.ofNodes_eq_ok nodes named, Ring.ofTopology, made]
  have layout : Layout (members.map (·.node)) ring := by
    refine ⟨named, ?_, made⟩
    intro n among
    obtain ⟨m, member, rfl⟩ := List.mem_map.1 among
    exact (fresh m member).base
  have start : Divided (members.map (·.node)) ring { members, ring } Store.empty := by
    refine ⟨rfl, rfl, ?_, List.Pairwise.nil, by rintro key ⟨⟩, Store.plain_empty⟩
    intro m member
    obtain ⟨shard, serves, nothing⟩ := (fresh m member).serves
    exact ⟨shard, serves, nothing⟩
  refine ⟨_, built, ?_⟩
  intro asks portable
  have divided := start.after layout portable
  refine ⟨divided.partition layout, ?_, divided.lists layout⟩
  intro key call carried
  exact (divided.call layout key carried).1

/-- Two shards, one of which gets a seven: it is read back, and a put that expects another
version is refused by its owner. -/
theorem sharding_invisible_two_shards :
    let seven : Json.Value := .number (.integer 7 (by decide) (by decide))
    let asks : List Ask := [.call "k" (.write (.replace seven) none), .list]
    ∃ c n, ofMembers [⟨⟨"a", "http://a/"⟩, .live {}, true⟩, ⟨⟨"b", "http://b/"⟩, .live {}, true⟩] =
        .ok c ∧
      c.ring.owner "k" = .ok n ∧
      ((c.after asks).call "k" .get false).1 = .ok ⟨⟨"k", seven, 1⟩, n.id⟩ ∧
      ((c.after asks).call "k" (.write (.replace seven) (some 5)) false).1 =
        .error (.rejected n.id 409 (String.ofList
          (ErrorBody.mk (Store.Fault.versionMismatch "k" 5 1).message).toJson.text)) ∧
      Router.Lists c.ring ((c.after asks).list false).1 ["k"] := by
  intro seven asks
  have portable (expected : Option UInt64) :
      Router.Call.Portable (.write (.replace seven) expected) :=
    ⟨Json.Value.Plain.integer 7 _ _, by decide⟩
  have fresh : ∀ m ∈ [(⟨⟨"a", "http://a/"⟩, .live {}, true⟩ : Member),
      ⟨⟨"b", "http://b/"⟩, .live {}, true⟩], m.Fresh := by
    have scheme : ∀ c ∈ ['h', 't', 't', 'p'], c ∉ [':', '/', '#'] := by simp
    intro m member
    simp only [List.mem_cons, List.not_mem_nil, or_false] at member
    rcases member with rfl | rfl
    · exact ⟨⟨_, ['a'], rfl, scheme, by simp⟩, {}, ⟨rfl, rfl, rfl⟩, rfl⟩
    · exact ⟨⟨_, ['b'], rfl, scheme, by simp⟩, {}, ⟨rfl, rfl, rfl⟩, rfl⟩
  obtain ⟨c, built, always⟩ := sharding_invisible (by simp) (by decide) fresh
  obtain ⟨-, agrees, lists⟩ := always asks (by
    intro ask among
    simp only [asks, List.mem_cons, List.not_mem_nil, or_false] at among
    rcases among with rfl | rfl
    · exact portable none
    · trivial)
  obtain ⟨n, owner, reads⟩ := ((agrees "k" .get trivial).record ⟨"k", seven, 1⟩).1 rfl
  obtain ⟨o, owner', refuses⟩ := ((agrees "k" _ (portable (some 5))).refusal
    (.versionMismatch "k" 5 1) (by simp)).1 rfl
  rw [owner] at owner'
  cases owner'
  exact ⟨c, n, built, owner, reads, refuses, lists⟩

end Cluster

end ShardStore
