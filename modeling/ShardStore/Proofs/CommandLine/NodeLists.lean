/-
# ShardStore.Proofs.CommandLine.NodeLists -- node lists are read back, however they are cut

A list of nodes is written as specs with commas between them (`Node.specs`).  Cut into groups it is
given one group after the other, between other options if need be, or as a whole in the
environment.  A node whose name and address hold no mark that cuts is read back from its spec
(`Node.Listed`), so in each of these ways the nodes come out in their order (`exists_sets`), and
the topology is made of them, whatever the other options say (`parse_nodes`).
-/
import ShardStore.Proofs.CommandLine.Given
import ShardStore.Proofs.CommandLine.Specs

namespace ShardStore

set_option autoImplicit false

/-! ## Nodes and their specs -/

/-- Specs between commas. -/
def Node.specs (ns : List Node) : String := ",".intercalate (ns.map Node.spec)

/-- The node that a router makes of a name and an address. -/
def Node.listed (n : Node) : Node := .located n.id n.address

/-- A name and an address that can stand in a list: the name is not empty, begins with no dash,
and has no `=` or comma and no blank around it; the address has no comma and no blank around it,
and is a URL of a web server. -/
structure Node.Listed (n : Node) : Prop where
  named : n.id ≠ ""
  noDash : n.id.toList.head? ≠ some '-'
  noSign : '=' ∉ n.id.toList
  noComma : ',' ∉ n.id.toList
  trimmed : Text.trim n.id = n.id
  addressNoComma : ',' ∉ n.address.toList
  addressTrimmed : Text.trim n.address = n.address
  web : ∃ url, Url.ofString n.address = .ok url ∧ (url.scheme = "http" ∨ url.scheme = "https")

namespace CommandLine

variable {n : Node} {group : List Node}

theorem parseNode_listed (h : n.Listed) : parseNode n.spec = .ok n.listed := by
  obtain ⟨url, parsed, web⟩ := h.web
  rw [parseNode_spec h.noSign h.named h.trimmed h.addressTrimmed parsed, if_pos web, Node.listed]

theorem toList_spec : n.spec.toList = n.id.toList ++ '=' :: n.address.toList := by
  simp [Node.spec]

theorem toList_specs : (Node.specs group).toList =
    [','].intercalate (group.map fun n => n.spec.toList) := by
  rw [Node.specs, String.toList_intercalate, List.map_map]
  rfl

/-- A comma is between specs and in none of them. -/
theorem splitOn_specs (filled : group ≠ []) (listed : ∀ n ∈ group, n.Listed) :
    (Node.specs group).toList.splitOn ',' = group.map fun n => n.spec.toList := by
  rw [toList_specs, List.splitOn_intercalate ',' (fun spec member => ?_) (by simpa using filled)]
  obtain ⟨n, among, rfl⟩ := List.mem_map.1 member
  have h := listed n among
  rw [toList_spec, List.mem_append, List.mem_cons]
  rintro (name | sign | address)
  · exact h.noComma name
  · cases sign
  · exact h.addressNoComma address

/-- A list of specs sets the nodes. -/
theorem sets_specs (filled : group ≠ []) (listed : ∀ n ∈ group, n.Listed) :
    Settings.Sets (Node.specs group) .node fun s =>
      { s with nodes := some (s.nodes.getD [] ++ group.map Node.listed) } := by
  refine .node ?_
  rw [splitOn_specs filled listed, List.forall₂_map_left_iff, List.forall₂_map_right_iff,
    List.forall₂_same]
  intro n member
  rw [String.ofList_toList]
  exact parseNode_listed (listed n member)

/-- A list of specs begins as its first name does. -/
theorem head?_specs (filled : group ≠ []) (listed : ∀ n ∈ group, n.Listed) :
    (Node.specs group).toList.head? ≠ some '-' := by
  obtain ⟨n, more, rfl⟩ := List.exists_cons_of_ne_nil filled
  have h := listed n List.mem_cons_self
  have named : n.id.toList ≠ [] := mt String.toList_eq_nil_iff.1 h.named
  have front : ∃ rest, (Node.specs (n :: more)).toList = n.id.toList ++ rest := by
    rw [toList_specs, List.map_cons, toList_spec]
    cases more with
    | nil => exact ⟨_, List.intercalate_singleton⟩
    | cons m more =>
      rw [List.map_cons, List.intercalate_cons_cons, List.append_assoc, List.append_assoc]
      exact ⟨_, rfl⟩
  obtain ⟨rest, text⟩ := front
  rw [text, List.head?_append_of_ne_nil _ named]
  exact h.noDash

/-! ## Taking lists of nodes -/

/-- The option takes the value. -/
def Fits (o : Opt) (value : String) : Prop := ∃ s, ({} : Settings).set o value = .ok s

/-- The values that are given for nodes. -/
def nodeValues (gs : List (Opt × String)) : List String :=
  (gs.filter (·.1 = .node)).map Prod.snd

theorem nodeValues_append (gs more : List (Opt × String)) :
    nodeValues (gs ++ more) = nodeValues gs ++ nodeValues more := by
  simp [nodeValues]

/-- Whatever other options are between them, groups of nodes bring their nodes in order. -/
theorem exists_sets {gs : List (Opt × String)} (fits : ∀ g ∈ gs, g.1 ≠ .node → Fits g.1 g.2)
    {groups : List (List Node)} (values : nodeValues gs = groups.map Node.specs)
    (listed : ∀ group ∈ groups, group ≠ [] ∧ ∀ n ∈ group, n.Listed) :
    ∃ fs, List.Forall₂ (fun g f => Settings.Sets g.2 g.1 f) gs fs ∧
      ∀ s : Settings, (fs.foldl (fun s f => f s) s).nodes.getD [] =
        s.nodes.getD [] ++ groups.flatten.map Node.listed := by
  induction gs generalizing groups with
  | nil =>
    obtain rfl : groups = [] := by simpa [nodeValues] using values.symm
    exact ⟨[], .nil, by simp⟩
  | cons g gs ih =>
    have later (h : Opt × String) (member : h ∈ gs) := fits h (List.mem_cons_of_mem g member)
    by_cases node : g.1 = .node
    · obtain ⟨o, value⟩ := g
      obtain rfl : o = .node := node
      rw [nodeValues, List.filter_cons_of_pos (by simp), List.map_cons] at values
      obtain ⟨group, rest, rfl, rfl, left⟩ := List.map_eq_cons_iff.1 values.symm
      obtain ⟨⟨filled, each⟩, others⟩ := List.forall_mem_cons.1 listed
      obtain ⟨fs, sets, nodes⟩ := ih later left.symm others
      refine ⟨_, .cons (sets_specs filled each) sets, fun s => ?_⟩
      rw [List.foldl_cons, nodes]
      simp
    · rw [nodeValues, List.filter_cons_of_neg (by simpa using node)] at values
      obtain ⟨_, fit⟩ := fits g List.mem_cons_self node
      obtain ⟨f, first, -⟩ := Settings.set_eq_ok_iff.1 fit
      obtain ⟨fs, sets, nodes⟩ := ih later values listed
      refine ⟨_, .cons first sets, fun s => ?_⟩
      rw [List.foldl_cons, nodes, first.nodes node]

/-! ## Arguments and environment -/

/-- The options beside the nodes raise no fault: each is given once at most, with a value that fits
it and does not look like an option, and what the environment has for the others fits them. -/
structure Sound (gs : List Given) (env : Environment) : Prop where
  once : gs.Pairwise fun g h => g.option = h.option → g.option = .node
  fits : ∀ g ∈ gs, g.option ≠ .node → Fits g.option g.value
  shown : ∀ g ∈ gs, g.option ≠ .node → g.Shown
  environment : ∀ o value, o ≠ .node → o ∉ gs.map Given.option →
    env o.environmentName = some value → Fits o value

theorem mem_options (o : Opt) : o ∈ Role.router.options := by
  cases o <;> decide

variable {gs : List Given} {env : Environment}

theorem Sound.fits_taken (sound : Sound gs env) :
    ∀ g ∈ taken .router gs env, g.1 ≠ .node → Fits g.1 g.2 := by
  intro g member other
  rcases List.mem_append.1 member with given | set
  · obtain ⟨g, among, rfl⟩ := List.mem_map.1 given
    exact sound.fits g among other
  · obtain ⟨⟨-, fresh⟩, set⟩ := mem_missing.1 set
    exact sound.environment g.1 g.2 other fresh set

theorem Sound.once_taken (sound : Sound gs env) :
    (taken .router gs env).Pairwise fun g h => g.1 = h.1 → g.1 = .node := by
  rw [taken, List.pairwise_append]
  refine ⟨List.pairwise_map.2 sound.once, ?_, ?_⟩
  · exact (missing_once env _ (by decide)).imp fun apart same => absurd same apart
  · rintro g given h set same
    obtain ⟨g, among, rfl⟩ := List.mem_map.1 given
    exact absurd (List.mem_map.2 ⟨g, among, same⟩) (mem_missing.1 set).1.2

/-- The command is a router of these nodes, and its topology is made of them. -/
def RoutesTo (nodes : List Node) (result : Except Fault Command) : Prop :=
  ∃ o : RouterOptions, result = .ok (.router o) ∧ o.nodes = nodes.map Node.listed ∧
    o.topology = Topology.ofNodes (nodes.map Node.listed)

/-- Whether they come from arguments or from the environment, groups of nodes make a router of all
of them. -/
theorem routesTo_of_values (sound : Sound gs env) (shown : ∀ g ∈ gs, g.Shown)
    {groups : List (List Node)} (nonempty : groups.flatten ≠ [])
    (values : nodeValues (taken .router gs env) = groups.map Node.specs)
    (listed : ∀ group ∈ groups, group ≠ [] ∧ ∀ n ∈ group, n.Listed) :
    RoutesTo groups.flatten (parse ("router" :: gs.flatMap Given.args) env) := by
  obtain ⟨fs, sets, nodes⟩ := exists_sets sound.fits_taken values listed
  have done := State.giveAll_sets (s := {}) sets sound.once_taken fun g _ _ =>
    Settings.has_empty g.1
  have all := nodes {}
  rw [show ({} : Settings).nodes.getD [] = [] from rfl, List.nil_append] at all
  generalize fs.foldl (fun s f => f s) {} = settings at done all
  have read : parse ("router" :: gs.flatMap Given.args) env = .ok (settings.command .router) := by
    show readRole .router _ _ = _
    rw [readRole_given (fun g _ => mem_options g.option) shown, done]
    rfl
  refine ⟨_, read, all, ?_⟩
  show (if settings.nodes.getD [] = [] then _ else _) = _
  rw [all, if_neg (by simpa using nonempty)]

theorem nodeValues_missing_nil {given os : List Opt} (none : .node ∈ given ∨ .node ∉ os) :
    nodeValues (missing env given os) = [] := by
  rw [nodeValues, List.map_eq_nil_iff, List.filter_eq_nil_iff]
  intro g member node
  obtain ⟨⟨among, fresh⟩, -⟩ := mem_missing.1 member
  rw [of_decide_eq_true node] at among fresh
  exact none.elim fresh fun absent => absent among

/-- What the environment has for nodes counts if no nodes are given. -/
theorem nodeValues_missing {given : List Opt} (fresh : .node ∉ given) {value : String}
    (set : env "KVSHARD_NODES" = some value) :
    nodeValues (missing env given Role.router.options) = [value] := by
  have options : Role.router.options = [.bind, .requestTimeout] ++ ([.node] ++
      [.baseName, .serviceName, .replicas, .nodePort, .scheme, .namespaceName, .clusterDomain,
        .hostTemplate]) := rfl
  have here : missing env given [.node] = [(.node, value)] := by
    have name : Opt.node.environmentName = "KVSHARD_NODES" := rfl
    simp [missing, fresh, name, set]
  rw [options, missing_append, missing_append, nodeValues_append, nodeValues_append, here,
    nodeValues_missing_nil (.inr (by decide)), nodeValues_missing_nil (.inr (by decide))]
  rfl

theorem mem_nodeValues {value : String} :
    value ∈ nodeValues (gs.map Given.setting) ↔ ∃ g ∈ gs, g.option = .node ∧ g.value = value := by
  simp [nodeValues, Given.setting, and_assoc]

theorem nodeValues_ne_nil :
    nodeValues (gs.map Given.setting) ≠ [] ↔ .node ∈ gs.map Given.option := by
  constructor
  · intro some
    obtain ⟨value, member⟩ := List.exists_mem_of_ne_nil _ some
    obtain ⟨g, among, node, -⟩ := mem_nodeValues.1 member
    exact List.mem_map.2 ⟨g, among, node⟩
  · intro member
    obtain ⟨g, among, node⟩ := List.mem_map.1 member
    exact List.ne_nil_of_mem (mem_nodeValues.2 ⟨g, among, node, rfl⟩)

/-- Groups of nodes do not look like options either. -/
theorem shown_of_values (sound : Sound gs env) {groups : List (List Node)}
    (values : nodeValues (gs.map Given.setting) = groups.map Node.specs)
    (listed : ∀ group ∈ groups, group ≠ [] ∧ ∀ n ∈ group, n.Listed) : ∀ g ∈ gs, g.Shown := by
  intro g member
  by_cases node : g.option = .node
  · have value := mem_nodeValues.2 ⟨g, member, node, rfl⟩
    rw [values] at value
    obtain ⟨group, among, same⟩ := List.mem_map.1 value
    intro _ c cs text
    have head := head?_specs (listed group among).1 (listed group among).2
    rw [same, text] at head
    exact head rfl
  · exact sound.shown g member node

/-- A list of nodes is read back in order, however it is cut into groups that are given one after
the other, and also as a whole from the environment if no nodes are given.  Other options may be
given or set as long as they raise no fault, among them those that describe a topology; it is made
of the nodes. -/
theorem parse_nodes {nodes : List Node} (nonempty : nodes ≠ []) (listed : ∀ n ∈ nodes, n.Listed)
    (sound : Sound gs env) :
    (∀ groups : List (List Node), groups.flatten = nodes → (∀ group ∈ groups, group ≠ []) →
      nodeValues (gs.map Given.setting) = groups.map Node.specs →
      RoutesTo nodes (parse ("router" :: gs.flatMap Given.args) env)) ∧
    (nodeValues (gs.map Given.setting) = [] → env "KVSHARD_NODES" = some (Node.specs nodes) →
      RoutesTo nodes (parse ("router" :: gs.flatMap Given.args) env)) := by
  constructor
  · rintro groups rfl filled values
    have each : ∀ group ∈ groups, group ≠ [] ∧ ∀ n ∈ group, n.Listed := fun group member =>
      ⟨filled group member, fun n among => listed n (List.mem_flatten.2 ⟨group, member, among⟩)⟩
    have given : .node ∈ gs.map Given.option := by
      rw [← nodeValues_ne_nil, values, ne_eq, List.map_eq_nil_iff]
      rintro rfl
      exact nonempty rfl
    refine routesTo_of_values sound (shown_of_values sound values each) nonempty ?_ each
    rw [taken, nodeValues_append, values, nodeValues_missing_nil (.inl given), List.append_nil]
  · intro none set
    have absent : .node ∉ gs.map Given.option := mt nodeValues_ne_nil.2 (not_not_intro none)
    have shown : ∀ g ∈ gs, g.Shown :=
      shown_of_values sound (show _ = [].map Node.specs from none) (by simp)
    have whole : [nodes].flatten = nodes := by simp
    have values : nodeValues (taken .router gs env) = [nodes].map Node.specs := by
      rw [taken, nodeValues_append, none, nodeValues_missing absent set]
      rfl
    rw [← whole] at nonempty ⊢
    refine routesTo_of_values sound shown nonempty values ?_
    rw [List.forall_mem_singleton]
    exact ⟨by simpa using nonempty, listed⟩

/-- Two groups with a count of replicas between them, which no template would take, and then the
list that the environment has. -/
theorem parse_nodes_two_groups :
    let a : Node := ⟨"a", "http://[::1]:7000"⟩
    let b : Node := ⟨"b c", "https://[::1]:8443/p=q:r"⟩
    let c : Node := ⟨"c", "http://[::1]/"⟩
    let env : Environment := fun name =>
      if name = "KVSHARD_NODES" then some "c=http://[::1]/" else none
    RoutesTo [a, b, c] (parse ["router", "--node", "a=http://[::1]:7000", "--replicas=0",
        "--node=b c=https://[::1]:8443/p=q:r,c=http://[::1]/"] env) ∧
      RoutesTo [c] (parse ["router", "--replicas", "0"] env) := by
  intro a b c env
  have listedA : Node.Listed ⟨"a", "http://[::1]:7000"⟩ :=
    ⟨by decide, by decide, by decide, by decide, by decide, by decide, by decide,
      ⟨"http", true⟩, rfl, .inl rfl⟩
  have listedB : Node.Listed ⟨"b c", "https://[::1]:8443/p=q:r"⟩ :=
    ⟨by decide, by decide, by decide, by decide, by decide, by decide, by decide,
      ⟨"https", true⟩, rfl, .inr rfl⟩
  have listedC : Node.Listed ⟨"c", "http://[::1]/"⟩ :=
    ⟨by decide, by decide, by decide, by decide, by decide, by decide, by decide,
      ⟨"http", true⟩, rfl, .inl rfl⟩
  have fits : Fits .replicas "0" := ⟨_, rfl⟩
  have environment (o : Opt) (value : String) (other : o ≠ .node)
      (set : env o.environmentName = some value) : Fits o value := by
    have unset : env o.environmentName = none := by
      cases o
      case node => exact absurd rfl other
      all_goals rfl
    rw [unset] at set
    cases set
  constructor
  · have sound : Sound [⟨.node, "a=http://[::1]:7000", false⟩, ⟨.replicas, "0", true⟩,
        ⟨.node, "b c=https://[::1]:8443/p=q:r,c=http://[::1]/", true⟩] env :=
      ⟨by decide, by simpa using fits, by simp [Given.Shown],
        fun o value other _ set => environment o value other set⟩
    exact (parse_nodes (by simp)
      (by simpa using ⟨listedA, listedB, listedC⟩) sound).1 [[a], [b, c]] rfl (by simp) rfl
  · have sound : Sound [⟨.replicas, "0", false⟩] env :=
      ⟨by simp, by simpa using fits, by simp [Given.Shown],
        fun o value other _ set => environment o value other set⟩
    exact (parse_nodes (by simp) (by simpa using listedC) sound).2 rfl rfl

end CommandLine

end ShardStore
