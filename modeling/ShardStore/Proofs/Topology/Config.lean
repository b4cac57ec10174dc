/-
# ShardStore.Proofs.Topology.Config -- what becomes of a configuration

The checks of a configuration run in a fixed order and stop at the first that fails: base
name, service name, number of shards, port, and then for each shard in turn its host and its
address.  `Config.Fails` is this order, written down without the loop, and the topology of a
configuration fails in exactly this way (`ofConfig_outcome`).

The checks that follow on a list of nodes never fail.  There are nodes since the number of
shards has been checked, and their names differ whatever the base name is, also one that ends
in a number itself, since the number of the shard is all that stands behind it
(`nodeId_injective`).
-/
import Mathlib.Data.List.Nodup
import ShardStore.Proofs.Ring
import ShardStore.Proofs.Text.Numeral
import ShardStore.Proofs.Text.Trim
import ShardStore.Topology.Basic

namespace ShardStore.Topology

set_option autoImplicit false

namespace Config

variable (c : Config)

/-! ## Shards -/

/-- The shard with a number: its name and its address, in full. -/
def shard (index : Nat) : Node where
  id := Text.trim c.baseName ++ "-" ++ toString index
  address := (if Text.trim c.scheme = "" then "http" else Text.trim c.scheme) ++ "://" ++
    c.host index ++ ":" ++ toString c.port ++ "/"

theorem id_shard (index : Nat) : (c.shard index).id = c.nodeId index := rfl

theorem address_shard (index : Nat) : (c.shard index).address = c.address index := by
  simp only [shard, address, schemeName, Text.trim_eq_empty]
  rfl

theorem toList_number (n : Nat) : (toString n).toList = Nat.toDigits 10 n := Nat.toList_repr

theorem toList_nodeId (index : Nat) :
    (c.nodeId index).toList = (Text.trim c.baseName).toList ++ '-' :: Nat.toDigits 10 index := by
  simp [← id_shard, shard]

theorem toList_address (index : Nat) :
    (c.address index).toList = c.schemeName.toList ++ ':' :: '/' :: '/' ::
      ((c.host index).toList ++ ':' :: (Nat.toDigits 10 c.port ++ ['/'])) := by
  simp [← address_shard, shard, schemeName, Text.trim_eq_empty]

/-- The names that a template may ask for. -/
def names : List String :=
  ["nodeId", "baseName", "serviceName", "headlessServiceName", "namespace", "domain",
    "clusterDomain", "replicaIndex"]

theorem names_placeholders (index : Nat) : (c.placeholders index).map (·.1) = names := rfl

/-- The number of a shard can be told from its name. -/
theorem nodeId_injective : Function.Injective c.nodeId := by
  intro i j same
  have chars := congrArg String.toList same
  rw [toList_nodeId, toList_nodeId] at chars
  exact Text.Numeral.toDigits_injective (List.cons.inj (List.append_cancel_left chars)).2

theorem getLast?_address (index : Nat) : (c.address index).toList.getLast? = some '/' := by
  simp [toList_address, List.getLast?_cons]

/-- Nothing is put behind the address of a shard. -/
theorem located_address (index : Nat) :
    Node.located (c.nodeId index) (c.address index) = c.shard index := by
  rw [Node.located, if_pos (c.getLast?_address index), ← address_shard, ← id_shard]

/-! ## What may be wrong -/

/-- The settings that are looked at before the shards are in order. -/
structure Sound : Prop where
  baseName : Text.trim c.baseName ≠ ""
  serviceName : Text.trim c.serviceName ≠ ""
  replicaCount : 1 ≤ c.replicaCount
  port : 1 ≤ c.port ∧ c.port ≤ 65535

/-- What is wrong with a shard. -/
inductive Unfit (index : Nat) : Fault → Prop where
  | host (empty : c.host index = "") : Unfit index (.emptyHost (c.shard index).id)
  | address {fault : Url.Fault} (some : c.host index ≠ "")
      (refused : Url.ofString (c.shard index).address = .error fault) :
      Unfit index (.address (c.shard index).id (c.shard index).address)

/-- The first check that fails. -/
inductive Fails : Fault → Prop where
  | baseName (blank : Text.trim c.baseName = "") : Fails .missingBaseName
  | serviceName (named : Text.trim c.baseName ≠ "") (blank : Text.trim c.serviceName = "") :
      Fails .missingServiceName
  | replicaCount (named : Text.trim c.baseName ≠ "") (served : Text.trim c.serviceName ≠ "")
      (none : c.replicaCount < 1) : Fails (.replicaCount c.replicaCount)
  | port (named : Text.trim c.baseName ≠ "") (served : Text.trim c.serviceName ≠ "")
      (some : 1 ≤ c.replicaCount) (outside : ¬ (1 ≤ c.port ∧ c.port ≤ 65535)) :
      Fails (.port c.port)
  | shard (sound : c.Sound) {index : Nat} {fault : Fault} (among : index < c.replicaCount)
      (before : ∀ i < index, ∀ f, ¬ c.Unfit i f) (unfit : c.Unfit index fault) : Fails fault

variable {c}

/-! ## One shard -/

theorem node_eq_error {index : Nat} {fault : Fault} :
    c.node index = .error fault ↔ c.Unfit index fault := by
  unfold node
  constructor
  · intro refused
    split at refused
    · rename_i empty
      cases refused
      exact .host empty
    · rename_i some
      split at refused
      · rename_i parse
        cases refused
        rw [← id_shard, ← address_shard]
        exact .address some (address_shard c index ▸ parse)
      · cases refused
  · rintro (empty | ⟨some, refused⟩)
    · rw [if_pos empty]
      rfl
    · rw [address_shard] at refused
      rw [if_neg some, refused, ← address_shard]
      rfl

theorem node_eq_ok {index : Nat} {n : Node} :
    c.node index = .ok n ↔ (∀ f, ¬ c.Unfit index f) ∧ n = c.shard index := by
  cases made : c.node index with
  | error fault =>
    have unfit := node_eq_error.1 made
    exact ⟨nofun, fun fit => absurd unfit (fit.1 fault)⟩
  | ok m =>
    have fit (f : Fault) : ¬ c.Unfit index f := fun unfit => by
      rw [node_eq_error.2 unfit] at made
      cases made
    have whole : m = c.shard index := by
      unfold node at made
      split at made
      · cases made
      · split at made
        · cases made
        · rw [← Except.ok.inj made, located_address]
    rw [whole, Except.ok.injEq, eq_comm, and_iff_right fit]

/-! ## All shards -/

/-- All shards of so many numbers are fit. -/
theorem nodesFrom_fit (count start : Nat)
    (fit : ∀ i, start ≤ i → i < start + count → ∀ f, ¬ c.Unfit i f) :
    c.nodesFrom count start = .ok ((List.range' start count).map c.shard) := by
  induction count generalizing start with
  | zero => rfl
  | succ count ih =>
    have first := node_eq_ok.2 ⟨fit start (Nat.le_refl _) (by omega), rfl⟩
    have rest := ih (start + 1) fun i above below => fit i (by omega) (by omega)
    rw [nodesFrom, first, rest]
    rfl

/-- The first shard that is not fit is reported. -/
theorem nodesFrom_unfit (count start : Nat) {index : Nat} {fault : Fault} (above : start ≤ index)
    (below : index < start + count) (before : ∀ i, start ≤ i → i < index → ∀ f, ¬ c.Unfit i f)
    (unfit : c.Unfit index fault) : c.nodesFrom count start = .error fault := by
  induction count generalizing start with
  | zero => omega
  | succ count ih =>
    rcases Nat.eq_or_lt_of_le above with rfl | later
    · rw [nodesFrom, node_eq_error.2 unfit]
      rfl
    · have first := node_eq_ok.2 ⟨before start (Nat.le_refl _) later, rfl⟩
      have rest := ih (start + 1) later (by omega)
        fun i up down => before i (by omega) down
      rw [nodesFrom, first, rest]
      rfl

/-! ## All checks -/

theorem check_sound (sound : c.Sound) : c.check = .ok () := by
  have named : ¬ Text.isBlank c.baseName := mt Text.trim_eq_empty.2 sound.baseName
  have served : ¬ Text.isBlank c.serviceName := mt Text.trim_eq_empty.2 sound.serviceName
  rw [check, if_neg named, if_neg served, if_neg (Nat.not_lt.2 sound.replicaCount),
    if_neg (by have := sound.port; omega)]

theorem check_error {fault : Fault} (refused : c.check = .error fault) :
    ofConfig c = .error fault := by
  rw [ofConfig, refused]
  rfl

theorem Fails.ofConfig_eq {fault : Fault} (fails : c.Fails fault) :
    ofConfig c = .error fault := by
  cases fails with
  | baseName blank =>
    refine check_error ?_
    rw [check, if_pos (Text.trim_eq_empty.1 blank)]
  | serviceName named blank =>
    refine check_error ?_
    rw [check, if_neg (mt Text.trim_eq_empty.2 named), if_pos (Text.trim_eq_empty.1 blank)]
  | replicaCount named served none =>
    refine check_error ?_
    rw [check, if_neg (mt Text.trim_eq_empty.2 named), if_neg (mt Text.trim_eq_empty.2 served),
      if_pos none]
  | port named served some outside =>
    refine check_error ?_
    rw [check, if_neg (mt Text.trim_eq_empty.2 named), if_neg (mt Text.trim_eq_empty.2 served),
      if_neg (Nat.not_lt.2 some), if_pos (by omega)]
  | shard sound among before unfit =>
    have stopped := nodesFrom_unfit c.replicaCount 0 (Nat.zero_le _) (by rwa [Nat.zero_add])
      (fun i _ => before i) unfit
    rw [ofConfig, check_sound sound, stopped]
    rfl

theorem nodup_shards (count : Nat) :
    (((List.range count).map c.shard).map (·.id)).Nodup := by
  rw [List.map_map]
  exact List.nodup_range.map c.nodeId_injective

theorem ofConfig_fit (sound : c.Sound) (fit : ∀ i < c.replicaCount, ∀ f, ¬ c.Unfit i f) :
    ofConfig c = .ok ⟨(List.range c.replicaCount).map c.shard⟩ := by
  have made := nodesFrom_fit c.replicaCount 0 fun i _ below => fit i (by omega)
  rw [← List.range_eq_range'] at made
  have some : (List.range c.replicaCount).map c.shard ≠ [] := by
    have := sound.replicaCount
    simp
    omega
  rw [ofConfig, check_sound sound, made]
  exact ofNodes_eq_ok some (nodup_shards _)

/-- Either a check fails or all is in order. -/
theorem fails_or_fit (c : Config) :
    (∃ fault, c.Fails fault) ∨ c.Sound ∧ ∀ i < c.replicaCount, ∀ f, ¬ c.Unfit i f := by
  by_cases named : Text.trim c.baseName = ""
  · exact .inl ⟨_, .baseName named⟩
  by_cases served : Text.trim c.serviceName = ""
  · exact .inl ⟨_, .serviceName named served⟩
  by_cases none : c.replicaCount < 1
  · exact .inl ⟨_, .replicaCount named served none⟩
  by_cases port : 1 ≤ c.port ∧ c.port ≤ 65535
  · have sound : c.Sound := ⟨named, served, Nat.not_lt.1 none, port⟩
    by_cases unfit : ∃ i, i < c.replicaCount ∧ ∃ f, c.Unfit i f
    · -- the least number of a shard that is not fit
      classical
      obtain ⟨among, fault, first⟩ := Nat.find_spec unfit
      refine .inl ⟨fault, .shard sound among (fun i earlier f wrong => ?_) first⟩
      exact Nat.find_min unfit earlier ⟨Nat.lt_trans earlier among, f, wrong⟩
    · exact .inr ⟨sound, fun i among f wrong => unfit ⟨i, among, f, wrong⟩⟩
  · exact .inl ⟨_, .port named served (Nat.not_lt.1 none) port⟩

theorem get?_shard {count index : Nat} (among : index < count) :
    (⟨(List.range count).map c.shard⟩ : Topology).get? (c.shard index).id =
      some (c.shard index) := by
  have member : c.shard index ∈ (List.range count).map c.shard :=
    List.mem_map_of_mem (List.mem_range.2 among)
  exact find?_named (c.nodup_shards count) member

theorem ofConfig_eq_error {fault : Fault} : ofConfig c = .error fault ↔ c.Fails fault := by
  refine ⟨fun refused => ?_, Fails.ofConfig_eq⟩
  rcases fails_or_fit c with ⟨other, fails⟩ | ⟨sound, fit⟩
  · rw [fails.ofConfig_eq] at refused
    exact Except.error.inj refused ▸ fails
  · rw [ofConfig_fit sound fit] at refused
    cases refused

theorem ofConfig_eq_ok {t : Topology} :
    ofConfig c = .ok t ↔ (c.Sound ∧ ∀ i < c.replicaCount, ∀ f, ¬ c.Unfit i f) ∧
      t.nodes = (List.range c.replicaCount).map c.shard := by
  constructor
  · intro made
    rcases fails_or_fit c with ⟨fault, fails⟩ | ⟨sound, fit⟩
    · rw [fails.ofConfig_eq] at made
      cases made
    · rw [ofConfig_fit sound fit] at made
      cases made
      exact ⟨⟨sound, fit⟩, rfl⟩
  · rintro ⟨⟨sound, fit⟩, nodes⟩
    rw [ofConfig_fit sound fit, ← nodes]

end Config

/-- What becomes of a configuration: it fails as its first check that fails does, and never
for want of nodes or for a name that two nodes share; otherwise the topology has the shards of
all numbers in order, each found by its name. -/
theorem ofConfig_outcome (c : Config) :
    (∀ fault, ofConfig c = .error fault ↔ c.Fails fault) ∧
    (∀ fault, ofConfig c = .error fault → fault ≠ .noNodes ∧ ∀ id, fault ≠ .duplicate id) ∧
    (∀ t, ofConfig c = .ok t ↔
      (c.Sound ∧ ∀ i < c.replicaCount, ∀ f, ¬ c.Unfit i f) ∧
        t.nodes = (List.range c.replicaCount).map c.shard) ∧
    ∀ t, ofConfig c = .ok t → (t.nodes.map (·.id)).Nodup ∧
      ∀ i < c.replicaCount, t.get? (c.shard i).id = some (c.shard i) := by
  refine ⟨fun _ => Config.ofConfig_eq_error, fun fault refused => ?_,
    fun _ => Config.ofConfig_eq_ok, fun t made => ?_⟩
  · cases Config.ofConfig_eq_error.1 refused with
    | shard _ _ _ unfit => cases unfit <;> exact ⟨nofun, nofun⟩
    | _ => exact ⟨nofun, nofun⟩
  · obtain ⟨-, nodes⟩ := Config.ofConfig_eq_ok.1 made
    obtain ⟨nodes'⟩ := t
    subst nodes
    exact ⟨Config.nodup_shards _, fun i => Config.get?_shard⟩

end ShardStore.Topology
