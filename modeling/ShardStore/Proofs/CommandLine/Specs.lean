/-
# ShardStore.Proofs.CommandLine.Specs -- shards of a configuration, given one by one

A router gets its shards node by node or from a configuration, and checks their addresses in
two places: `parseNode` wants a URL for web servers, a configuration any URL.  A spec of a name
without `=` falls apart into the name and the address it was put together from
(`parseNode_spec`), so the first check is all that may go wrong with a shard of a configuration
whose base name has no `=`.

The shards of one configuration share a scheme, and it decides for all of them: with `http` or
`https` each is read back from its spec, with any other scheme each is refused
(`parseNode_ofConfig`).
-/
import ShardStore.CommandLine.Option
import ShardStore.Proofs.Topology.Config
import ShardStore.Proofs.Url.Scheme

namespace ShardStore

set_option autoImplicit false

/-- A node as the command line has it. -/
def Node.spec (n : Node) : String := n.id ++ "=" ++ n.address

namespace Topology.Config

variable {c : Config} {index : Nat}

/-! ## Names and addresses of shards -/

theorem mem_nodeId {mark : Char} (sign : mark ≠ '-') (other : mark.isDigit = false) :
    mark ∈ (c.nodeId index).toList ↔ mark ∈ (Text.trim c.baseName).toList := by
  have noDigit : mark ∉ Nat.toDigits 10 index := fun member => by
    rw [Text.Numeral.isDigit_of_mem_toDigits member] at other
    cases other
  simp [toList_nodeId, sign, noDigit]

theorem trim_nodeId (sound : c.Sound) : Text.trim (c.nodeId index) = c.nodeId index := by
  refine Text.trim_eq_self (fun x first => ?_) fun x last => ?_
  · have named : (Text.trim c.baseName).toList ≠ [] := by simpa using sound.baseName
    rw [toList_nodeId, List.head?_append_of_ne_nil _ named, Text.toList_trim] at first
    exact Text.head?_strip x first
  · obtain ⟨d, ds, digits, -⟩ := Text.Numeral.toDigits_eq_cons index
    rw [toList_nodeId, List.getLast?_append_of_ne_nil _ (List.cons_ne_nil _ _), digits,
      List.getLast?_cons_cons, ← digits] at last
    exact Text.isSpace_of_isDigit
      (Text.Numeral.isDigit_of_mem_toDigits (List.mem_of_getLast? last))

/-- The scheme is not blank at its beginning, and not empty. -/
theorem head?_schemeName : ∃ first, c.schemeName.toList.head? = some first ∧
    Text.isSpace first = false := by
  unfold schemeName
  split
  · exact ⟨'h', rfl, rfl⟩
  · rename_i visible
    have named : (Text.trim c.scheme).toList ≠ [] := by
      simpa using mt Text.trim_eq_empty.1 visible
    obtain ⟨first, rest, chars⟩ := List.exists_cons_of_ne_nil named
    have front : (Text.trim c.scheme).toList.head? = some first := by
      rw [chars]
      rfl
    refine ⟨first, front, ?_⟩
    rw [Text.toList_trim] at front
    exact Text.head?_strip first front

theorem trim_address : Text.trim (c.address index) = c.address index := by
  obtain ⟨first, front, visible⟩ := head?_schemeName (c := c)
  refine Text.trim_eq_self (fun x here => ?_) fun x last => ?_
  · rw [toList_address, List.head?_append, front] at here
    cases here
    exact visible
  · rw [getLast?_address] at last
    cases last
    rfl

/-- The scheme of an address is in front of what differs between the shards. -/
theorem protocol?_address (index : Nat) :
    Url.protocol? (c.address index) = Url.protocol? (c.schemeName ++ ":") := by
  have whole : c.address index = c.schemeName ++ ":" ++ ("//" ++ c.host index ++ ":" ++
      toString c.port ++ "/") := by
    apply String.toList_injective
    simp [toList_address]
  rw [whole, Url.protocol?_append]

theorem ofString_address (fit : ∀ f, ¬ c.Unfit index f) :
    ∃ url, Url.ofString (c.address index) = .ok url := by
  cases parsed : Url.ofString (c.address index) with
  | ok url => exact ⟨url, rfl⟩
  | error fault =>
    by_cases empty : c.host index = ""
    · exact absurd (.host empty) (fit _)
    · rw [← address_shard] at parsed
      exact absurd (.address empty parsed) (fit _)

end Topology.Config

namespace CommandLine

open ShardStore.Topology

variable {n : Node}

/-! ## Specs -/

/-- A spec falls apart where it was put together. -/
theorem parseNode_spec (plain : '=' ∉ n.id.toList) (named : n.id ≠ "")
    (id : Text.trim n.id = n.id) (address : Text.trim n.address = n.address)
    {url : Url} (parsed : Url.ofString n.address = .ok url) :
    parseNode n.spec =
      if url.scheme = "http" ∨ url.scheme = "https" then .ok (.located n.id n.address)
      else .error s!"node url '{n.address}' must be an http(s) address" := by
  have text : n.spec.toList = n.id.toList ++ '=' :: n.address.toList := by simp [Node.spec]
  have front : n.spec.toList.takeWhile (· ≠ '=') = n.id.toList := by
    rw [text, Text.takeWhile_append_cons (by decide), List.takeWhile_eq_self_iff]
    exact fun c member => decide_eq_true fun same => plain (same ▸ member)
  have marked : n.id.toList.length ≠ n.spec.toList.length := by
    rw [text]
    simp
  have behind : n.spec.toList.drop (n.id.toList.length + 1) = n.address.toList := by
    rw [text, List.drop_append]
    simp
  simp only [parseNode, front, if_neg marked, behind, String.ofList_toList, id, address,
    if_neg named, parsed]
  by_cases web : url.scheme = "http" ∨ url.scheme = "https"
  · rw [if_pos ⟨web, Url.hasHost_of_web parsed web⟩, if_pos web]
  · rw [if_neg fun both => web both.1, if_neg web]

theorem parseNode_shard {c : Config} {index : Nat} (sound : c.Sound)
    (plain : '=' ∉ (Text.trim c.baseName).toList) {url : Url}
    (parsed : Url.ofString (c.shard index).address = .ok url) :
    parseNode (c.shard index).spec =
      if url.scheme = "http" ∨ url.scheme = "https" then .ok (c.shard index)
      else .error s!"node url '{(c.shard index).address}' must be an http(s) address" := by
  have unmarked : '=' ∉ (c.shard index).id.toList := by
    rwa [Config.id_shard, Config.mem_nodeId (by decide) (by decide)]
  have named : (c.shard index).id ≠ "" := by
    rw [Config.id_shard, ← String.toList_eq_nil_iff.ne, Config.toList_nodeId]
    simp
  have id : Text.trim (c.shard index).id = (c.shard index).id := Config.trim_nodeId sound
  have address : Text.trim (c.shard index).address = (c.shard index).address := by
    rw [Config.address_shard, Config.trim_address]
  have whole : Node.located (c.shard index).id (c.shard index).address = c.shard index := by
    rw [Config.id_shard, Config.address_shard, Config.located_address]
  rw [parseNode_spec unmarked named id address parsed, whole]

/-- The shards of a configuration have a scheme in common.  With `http` or `https` each of them
is read back from its spec, and with any other each is refused. -/
theorem parseNode_ofConfig {c : Config} {t : Topology} (built : ofConfig c = .ok t)
    (plain : '=' ∉ (Text.trim c.baseName).toList) :
    ∃ scheme, Url.protocol? (c.schemeName ++ ":") = some scheme ∧
      (∀ n ∈ t.nodes, ∃ url, Url.ofString n.address = .ok url ∧ url.scheme = scheme) ∧
      ∀ n ∈ t.nodes, parseNode n.spec =
        if scheme = "http" ∨ scheme = "https" then .ok n
        else .error s!"node url '{n.address}' must be an http(s) address" := by
  obtain ⟨⟨sound, fit⟩, nodes⟩ := Config.ofConfig_eq_ok.1 built
  have parsed (i : Nat) (among : i < c.replicaCount) :
      ∃ url, Url.ofString (c.shard i).address = .ok url ∧
        Url.protocol? (c.schemeName ++ ":") = some url.scheme := by
    obtain ⟨url, parsed⟩ := Config.ofString_address (fit i among)
    refine ⟨url, by rw [Config.address_shard, parsed], ?_⟩
    rw [← Config.protocol?_address i, Url.protocol?_of_ofString parsed]
  -- there is a shard, and all have its scheme
  obtain ⟨first, -, scheme⟩ := parsed 0 sound.replicaCount
  have each (n : Node) (member : n ∈ t.nodes) : ∃ i url, n = c.shard i ∧
      Url.ofString n.address = .ok url ∧ url.scheme = first.scheme := by
    rw [nodes] at member
    obtain ⟨i, among, rfl⟩ := List.mem_map.1 member
    obtain ⟨url, parsed, same⟩ := parsed i (List.mem_range.1 among)
    rw [scheme, Option.some_inj] at same
    exact ⟨i, url, rfl, parsed, same.symm⟩
  refine ⟨first.scheme, scheme, fun n member => ?_, fun n member => ?_⟩
  · obtain ⟨-, url, -, parsed, same⟩ := each n member
    exact ⟨url, parsed, same⟩
  · obtain ⟨i, url, rfl, parsed, same⟩ := each n member
    rw [parseNode_shard sound plain parsed, same]

/-- Two shards at addresses of version 6. -/
def numbered : Config where
  baseName := "kv"
  serviceName := "kv-hl"
  replicaCount := 2
  scheme := " HTTPS "
  hostTemplate := "[::\x7breplicaIndex\x7d]"

/-- The scheme counts in small letters, and the addresses keep it as it was given. -/
theorem parseNode_ofConfig_capitals :
    ofConfig numbered = .ok ⟨[⟨"kv-0", "HTTPS://[::0]:7000/"⟩, ⟨"kv-1", "HTTPS://[::1]:7000/"⟩]⟩ ∧
      parseNode "kv-1=HTTPS://[::1]:7000/" = .ok ⟨"kv-1", "HTTPS://[::1]:7000/"⟩ := by
  have built : ofConfig numbered =
    .ok ⟨[⟨"kv-0", "HTTPS://[::0]:7000/"⟩, ⟨"kv-1", "HTTPS://[::1]:7000/"⟩]⟩ := rfl
  obtain ⟨scheme, found, -, read⟩ := parseNode_ofConfig built (by decide)
  have https : Url.protocol? (numbered.schemeName ++ ":") = some "https" := rfl
  rw [https, Option.some_inj] at found
  subst found
  exact ⟨built, read ⟨"kv-1", "HTTPS://[::1]:7000/"⟩ (by simp)⟩

/-- With a scheme that is not for the web a topology is built from shards that are refused one
by one. -/
theorem parseNode_ofConfig_ftp :
    ofConfig { numbered with scheme := "ftp" } =
        .ok ⟨[⟨"kv-0", "ftp://[::0]:7000/"⟩, ⟨"kv-1", "ftp://[::1]:7000/"⟩]⟩ ∧
      '=' ∉ (Text.trim numbered.baseName).toList ∧
      parseNode "kv-0=ftp://[::0]:7000/" =
        .error "node url 'ftp://[::0]:7000/' must be an http(s) address" :=
  ⟨rfl, by decide, rfl⟩

end CommandLine

end ShardStore
