/-
# ShardStore.Proofs.CommandLine.Given -- the options of a role, in order

Setting an option to a value that fits it changes this option and no other, and which values fit
does not depend on what has been set before (`Settings.Sets`, `Settings.set_eq_ok_iff`).

An option is given as `--name=value`, or as `--name` with the value in the next argument, which is
looked at later (`Given`).  Either way the reader takes the options one by one in their order
(`readOptions_given`), and then those that have not been given from the environment, in the order
of the role (`readEnvironment_eq`).  So the arguments and the environment of a role come to one
list of options with their values (`taken`, `readRole_given`), and if all values fit, what is
taken of the list is the sum of their changes (`State.giveAll_sets`).
-/
import ShardStore.CommandLine.Parser
import ShardStore.Proofs.Except
import ShardStore.Proofs.Text.Trim

namespace ShardStore.CommandLine

set_option autoImplicit false

/-! ## Setting an option -/

namespace Settings

variable {s s' : Settings} {o : Opt} {value : String}

/-- What a value makes of an option, whatever has been set before. -/
inductive Sets (value : String) : Opt → (Settings → Settings) → Prop where
  | bind {a : SocketAddress} (fits : SocketAddress.ofString? value = some a) :
      Sets value .bind fun s => { s with bind := some a }
  | requestTimeout {n : Nat} (fits : natural value = .ok n) :
      Sets value .requestTimeout fun s => { s with requestTimeout := some n }
  | node {ns : List Node}
      (fits : List.Forall₂ (fun spec n => parseNode (String.ofList spec) = .ok n)
        (value.toList.splitOn ',') ns) :
      Sets value .node fun s => { s with nodes := some (s.nodes.getD [] ++ ns) }
  | baseName : Sets value .baseName fun s => { s with baseName := some value }
  | serviceName : Sets value .serviceName fun s => { s with serviceName := some value }
  | replicas {n : Nat} (fits : natural value = .ok n) :
      Sets value .replicas fun s => { s with replicas := some n }
  | nodePort {n : Nat} (fits : word value = .ok n) :
      Sets value .nodePort fun s => { s with nodePort := some n }
  | scheme : Sets value .scheme fun s => { s with scheme := some value }
  | namespaceName : Sets value .namespaceName fun s => { s with namespaceName := some value }
  | clusterDomain : Sets value .clusterDomain fun s => { s with clusterDomain := some value }
  | hostTemplate : Sets value .hostTemplate fun s => { s with hostTemplate := some value }

theorem spec_eq_ok {spec : String} {n : Node} :
    (match parseNode spec with
      | .ok n => Except.ok n
      | .error reason => .error (spec, reason)) = .ok n ↔ parseNode spec = .ok n := by
  cases parseNode spec <;> simp

theorem fit_eq_ok {α : Type} {r : Except String α} {f : α → Settings} :
    (Except.map f (match r with
      | .ok a => Except.ok a
      | .error reason => .error (value, reason))) = .ok s' ↔ ∃ a, r = .ok a ∧ f a = s' := by
  cases r <;> simp [Except.map]

theorem set_eq_ok_iff : s.set o value = .ok s' ↔ ∃ f, Sets value o f ∧ s' = f s := by
  constructor
  · intro done
    cases o
    case bind =>
      simp only [set] at done
      split at done
      · rename_i fits
        cases done
        exact ⟨_, .bind fits, rfl⟩
      · cases done
    case node =>
      obtain ⟨ns, read, same⟩ := bind_eq_ok.1 done
      cases same
      rw [mapM_eq_ok, List.forall₂_map_left_iff] at read
      exact ⟨_, .node (read.imp fun _ _ => spec_eq_ok.1), rfl⟩
    case requestTimeout =>
      obtain ⟨n, fits, rfl⟩ := fit_eq_ok.1 done
      exact ⟨_, .requestTimeout fits, rfl⟩
    case replicas =>
      obtain ⟨n, fits, rfl⟩ := fit_eq_ok.1 done
      exact ⟨_, .replicas fits, rfl⟩
    case nodePort =>
      obtain ⟨n, fits, rfl⟩ := fit_eq_ok.1 done
      exact ⟨_, .nodePort fits, rfl⟩
    all_goals
      cases done
      exact ⟨_, by constructor, rfl⟩
  · rintro ⟨f, sets, rfl⟩
    cases sets with
    | bind fits => simp [set, fits]
    | node fits =>
      refine bind_eq_ok.2 ⟨_, ?_, rfl⟩
      rw [mapM_eq_ok, List.forall₂_map_left_iff]
      exact fits.imp fun _ _ => spec_eq_ok.2
    | requestTimeout fits => exact fit_eq_ok.2 ⟨_, fits, rfl⟩
    | replicas fits => exact fit_eq_ok.2 ⟨_, fits, rfl⟩
    | nodePort fits => exact fit_eq_ok.2 ⟨_, fits, rfl⟩
    | _ => rfl

theorem has_empty (o : Opt) : ({} : Settings).has o = false := by
  cases o <;> rfl

theorem Sets.has {f : Settings → Settings} (sets : Sets value o f) (s : Settings) (p : Opt) :
    (f s).has p = (s.has p || decide (p = o)) := by
  cases sets <;> cases p <;> simp [Settings.has]

theorem Sets.nodes {f : Settings → Settings} (sets : Sets value o f) (other : o ≠ .node)
    (s : Settings) : (f s).nodes = s.nodes := by
  cases sets with
  | node => exact absurd rfl other
  | _ => rfl

end Settings

/-! ## Taking options -/

namespace State

variable {s s' : State} {o : Opt} {value : String}

theorem give_eq_ok (done : s.give o value = .ok s') :
    ∃ f, Settings.Sets value o f ∧ s' = { s with settings := f s.settings } := by
  rw [give] at done
  split at done
  · cases done
  · split at done
    · rename_i set
      obtain ⟨f, sets, rfl⟩ := Settings.set_eq_ok_iff.1 set
      cases done
      exact ⟨f, sets, rfl⟩
    · cases done

theorem give_sets {f : Settings → Settings} (sets : Settings.Sets value o f)
    (fresh : s.settings.has o = false ∨ o = .node) :
    s.give o value = .ok { s with settings := f s.settings } := by
  have first : ¬ (s.settings.has o = true ∧ ¬ o.repeats = true) := by
    rintro ⟨given, once⟩
    rcases fresh with fresh | rfl
    · rw [fresh] at given
      cases given
    · exact once rfl
  rw [give, if_neg first, Settings.set_eq_ok_iff.2 ⟨f, sets, rfl⟩]

theorem resolve_pending (done : s.resolve = .ok s') : s'.pending = none := by
  rw [resolve] at done
  split at done
  · rename_i idle
    cases done
    exact idle
  · cases done
  · obtain ⟨f, -, rfl⟩ := give_eq_ok done
    rfl

theorem resolve_idle (idle : s.pending = none) : s.resolve = .ok s := by
  rw [resolve, idle]

/-- Gives options their values one by one. -/
def giveAll (s : State) (gs : List (Opt × String)) : Except Fault State :=
  gs.foldlM (fun s g => s.give g.1 g.2) s

theorem giveAll_cons (s : State) (g : Opt × String) (gs : List (Opt × String)) :
    s.giveAll (g :: gs) = s.give g.1 g.2 >>= fun s => s.giveAll gs :=
  List.foldlM_cons

theorem giveAll_append (s : State) (gs more : List (Opt × String)) :
    s.giveAll (gs ++ more) = s.giveAll gs >>= fun s => s.giveAll more :=
  List.foldlM_append

theorem has_giveAll {s s' : State} {gs : List (Opt × String)} (done : s.giveAll gs = .ok s')
    (p : Opt) : s'.settings.has p = (s.settings.has p || decide (p ∈ gs.map Prod.fst)) := by
  induction gs generalizing s with
  | nil =>
    cases done
    simp
  | cons g gs ih =>
    rw [giveAll_cons] at done
    obtain ⟨next, given, more⟩ := bind_eq_ok.1 done
    obtain ⟨f, sets, rfl⟩ := give_eq_ok given
    simp only [ih more, sets.has, List.map_cons, List.mem_cons, Bool.decide_or, Bool.or_assoc]

/-- Options whose values fit are taken with all their changes, if none that is not for nodes is
given twice. -/
theorem giveAll_sets {s : State} {gs : List (Opt × String)} {fs : List (Settings → Settings)}
    (sets : List.Forall₂ (fun g f => Settings.Sets g.2 g.1 f) gs fs)
    (once : gs.Pairwise fun g h => g.1 = h.1 → g.1 = .node)
    (fresh : ∀ g ∈ gs, g.1 ≠ .node → s.settings.has g.1 = false) :
    s.giveAll gs = .ok { s with settings := fs.foldl (fun s f => f s) s.settings } := by
  induction sets generalizing s with
  | nil => rfl
  | @cons g f gs fs first more ih =>
    obtain ⟨apart, once⟩ := List.pairwise_cons.1 once
    have new : s.settings.has g.1 = false ∨ g.1 = .node :=
      or_iff_not_imp_right.2 (fresh g List.mem_cons_self)
    rw [giveAll_cons, give_sets first new]
    refine ih once fun h member other => ?_
    have different : h.1 ≠ g.1 := fun same => other (same ▸ apart h member same.symm)
    show (f s.settings).has h.1 = false
    rw [first.has, fresh h (List.mem_cons_of_mem g member) other, decide_eq_false different]
    rfl

end State

/-! ## Options as arguments -/

theorem option?_name {r : Role} {o : Opt} (known : o ∈ r.options) : r.option? o.name = some o := by
  cases r
  · cases List.mem_singleton.1 known
    rfl
  · cases o <;> rfl

/-- A name goes up to its value, if it has one. -/
theorem name_plain (o : Opt) : ∃ c cs, o.name.toList = c :: cs ∧ '=' ∉ c :: cs := by
  cases o <;> exact ⟨_, _, rfl, by decide⟩

theorem splitLong_name (o : Opt) : splitLong o.name.toList = (o.name, none) := by
  cases o <;> decide

theorem splitLong_joined (o : Opt) (value : String) :
    splitLong (o.name.toList ++ '=' :: value.toList) = (o.name, some value) := by
  obtain ⟨c, cs, name, plain⟩ := name_plain o
  have front : (o.name.toList ++ '=' :: value.toList).takeWhile (· ≠ '=') = o.name.toList := by
    rw [Text.takeWhile_append_cons (by decide), List.takeWhile_eq_self_iff]
    exact fun x member => decide_eq_true fun same => plain (name ▸ same ▸ member)
  simp only [splitLong, front]
  simp

/-- An option with its value, in one argument or in two. -/
structure Given where
  option : Opt
  value : String
  joined : Bool

namespace Given

def args (g : Given) : List String :=
  if g.joined then ["--" ++ g.option.name ++ "=" ++ g.value] else ["--" ++ g.option.name, g.value]

def setting (g : Given) : Opt × String := (g.option, g.value)

/-- A value in an argument of its own does not look like an option. -/
def Shown (g : Given) : Prop := g.joined = false → ∀ c cs, g.value.toList ≠ '-' :: c :: cs

end Given

section Reading

variable {role : Role} {s : State} {o : Opt}

theorem readOptions_joined (known : o ∈ role.options) (value : String) (rest : List String) :
    readOptions role s (("--" ++ o.name ++ "=" ++ value) :: rest) =
      s.resolve >>= fun s => s.give o value >>= fun s => readOptions role s rest := by
  obtain ⟨c, cs, name, -⟩ := name_plain o
  have text : ("--" ++ o.name ++ "=" ++ value).toList =
      '-' :: '-' :: (o.name.toList ++ '=' :: value.toList) := by simp
  have parts := splitLong_joined o value
  rw [readOptions.eq_def]
  simp only [text]
  rw [name] at parts ⊢
  simp only [List.cons_append] at parts ⊢
  simp only [parts, option?_name known]

theorem readOptions_name (known : o ∈ role.options) (rest : List String) :
    readOptions role s (("--" ++ o.name) :: rest) =
      s.resolve >>= fun s => readOptions role { s with pending := some (o, none) } rest := by
  obtain ⟨c, cs, name, -⟩ := name_plain o
  have text : ("--" ++ o.name).toList = '-' :: '-' :: o.name.toList := by simp
  have parts := splitLong_name o
  rw [readOptions.eq_def]
  simp only [text]
  rw [name] at parts ⊢
  simp only [parts, option?_name known]

theorem readOptions_value (waiting : s.pending = some (o, none)) {value : String}
    (shown : ∀ c cs, value.toList ≠ '-' :: c :: cs) (rest : List String) :
    readOptions role s (value :: rest) =
      readOptions role { s with pending := some (o, some value) } rest := by
  rw [readOptions.eq_def]
  simp only
  split
  · rename_i dashes
    exact absurd dashes (shown _ _)
  · rename_i dashes
    exact absurd dashes (shown _ _)
  · rename_i dash
    exact absurd dash (shown _ _)
  · simp only [waiting]

/-- Behind an option the reader goes on from where it has taken the option, but for a value that
it still has to look at. -/
theorem readOptions_args {g : Given} (known : g.option ∈ role.options) (shown : g.Shown)
    (rest : List String) :
    ∃ next : State → Except Fault State,
      (readOptions role s (g.args ++ rest) =
        s.resolve >>= fun s => next s >>= fun s => readOptions role s rest) ∧
      ∀ s : State, s.pending = none → (next s >>= State.resolve) = s.give g.option g.value := by
  rw [Given.args]
  split
  · refine ⟨fun s => s.give g.option g.value, readOptions_joined known g.value rest, ?_⟩
    intro s idle
    show s.give g.option g.value >>= State.resolve = _
    cases given : s.give g.option g.value with
    | error fault => rfl
    | ok next =>
      obtain ⟨f, -, rfl⟩ := State.give_eq_ok given
      exact State.resolve_idle (s := { s with settings := f s.settings }) idle
  · rename_i apart
    refine ⟨fun s => .ok { s with pending := some (g.option, some g.value) }, ?_, ?_⟩
    · have value (s : State) :
          readOptions role { s with pending := some (g.option, none) } (g.value :: rest) =
            readOptions role { s with pending := some (g.option, some g.value) } rest :=
        readOptions_value rfl (shown (by simpa using apart)) rest
      rw [List.cons_append, List.singleton_append, readOptions_name known]
      simp only [value]
      rfl
    · rintro ⟨settings, pending⟩ idle
      cases idle
      rfl

/-- The options are taken one by one, in their order. -/
theorem readOptions_given {gs : List Given} (known : ∀ g ∈ gs, g.option ∈ role.options)
    (shown : ∀ g ∈ gs, g.Shown) :
    readOptions role s (gs.flatMap Given.args) =
      s.resolve >>= fun s => s.giveAll (gs.map Given.setting) := by
  induction gs generalizing s with
  | nil =>
    rw [List.flatMap_nil, readOptions]
    cases s.resolve <;> rfl
  | cons g gs ih =>
    have later (s : State) := @ih s (fun h member => known h (List.mem_cons_of_mem g member))
      fun h member => shown h (List.mem_cons_of_mem g member)
    obtain ⟨next, reads, takes⟩ := readOptions_args (s := s) (known g List.mem_cons_self)
      (shown g List.mem_cons_self) (gs.flatMap Given.args)
    rw [List.flatMap_cons, reads]
    cases resolved : s.resolve with
    | error fault => rfl
    | ok idle =>
      calc (next idle >>= fun s => readOptions role s (gs.flatMap Given.args))
        _ = next idle >>= fun s => s.resolve >>= fun s => s.giveAll (gs.map Given.setting) := by
          simp only [later]
        _ = (next idle >>= State.resolve) >>= fun s => s.giveAll (gs.map Given.setting) :=
          (bind_assoc ..).symm
        _ = idle.giveAll ((g :: gs).map Given.setting) := by
          rw [takes idle (State.resolve_pending resolved), List.map_cons, State.giveAll_cons]
          rfl

end Reading

/-! ## The environment -/

/-- The options that have not been given, with their values in the environment. -/
def missing (env : Environment) (given os : List Opt) : List (Opt × String) :=
  (os.filter (· ∉ given)).filterMap fun o => (env o.environmentName).map (o, ·)

theorem mem_missing {env : Environment} {given os : List Opt} {g : Opt × String} :
    g ∈ missing env given os ↔
      (g.1 ∈ os ∧ g.1 ∉ given) ∧ env g.1.environmentName = some g.2 := by
  obtain ⟨o, value⟩ := g
  simp only [missing, List.mem_filterMap, List.mem_filter, decide_eq_true_eq,
    Option.map_eq_some_iff, Prod.mk.injEq]
  constructor
  · rintro ⟨_, among, _, set, rfl, rfl⟩
    exact ⟨among, set⟩
  · rintro ⟨among, set⟩
    exact ⟨o, among, value, set, rfl, rfl⟩

theorem missing_once (env : Environment) (given : List Opt) {os : List Opt} (once : os.Nodup) :
    (missing env given os).Pairwise fun g h => g.1 ≠ h.1 := by
  rw [missing, List.pairwise_filterMap]
  refine (once.filter _).imp fun {o p} apart g set h set' => ?_
  obtain ⟨_, -, rfl⟩ := Option.map_eq_some_iff.1 set
  obtain ⟨_, -, rfl⟩ := Option.map_eq_some_iff.1 set'
  exact apart

theorem missing_append (env : Environment) (given os more : List Opt) :
    missing env given (os ++ more) = missing env given os ++ missing env given more := by
  simp [missing]

theorem readEnvironment_eq (env : Environment) {given os : List Opt} (once : os.Nodup) {s : State}
    (has : ∀ o ∈ os, s.settings.has o = decide (o ∈ given)) :
    readEnvironment env s os = s.giveAll (missing env given os) := by
  induction os generalizing s with
  | nil => rfl
  | cons o os ih =>
    obtain ⟨apart, once⟩ := List.nodup_cons.1 once
    have later (p : Opt) (member : p ∈ os) := has p (List.mem_cons_of_mem o member)
    rw [readEnvironment, has o List.mem_cons_self]
    split
    · rename_i known
      rw [ih once later, missing, missing, List.filter_cons_of_neg (by simpa using known)]
    · rename_i unknown
      rw [missing, List.filter_cons_of_pos (by simpa using unknown)]
      split
      · rename_i unset
        rw [List.filterMap_cons_none (by rw [unset]; rfl), ih once later, missing]
      · rename_i value set
        rw [List.filterMap_cons_some (b := (o, value)) (by rw [set]; rfl), State.giveAll_cons]
        cases done : s.give o value with
        | error fault => rfl
        | ok next =>
          obtain ⟨f, sets, rfl⟩ := State.give_eq_ok done
          refine ih once fun p member => ?_
          have other : p ≠ o := fun same => apart (same ▸ member)
          rw [sets.has, later p member, decide_eq_false other, Bool.or_false]

/-- The options that a role takes, with their values, in their order. -/
def taken (role : Role) (gs : List Given) (env : Environment) : List (Opt × String) :=
  gs.map Given.setting ++ missing env (gs.map Given.option) role.options

/-- The arguments of a role and its environment come to one list of options with values. -/
theorem readRole_given {role : Role} {gs : List Given} (known : ∀ g ∈ gs, g.option ∈ role.options)
    (shown : ∀ g ∈ gs, g.Shown) (env : Environment) :
    readRole role (gs.flatMap Given.args) env =
      ({} : State).giveAll (taken role gs env) >>= fun s => .ok (s.settings.command role) := by
  have once : role.options.Nodup := by cases role <;> decide
  have given : (gs.map Given.setting).map Prod.fst = gs.map Given.option := by
    rw [List.map_map]
    rfl
  rw [readRole, readOptions_given known shown, State.resolve_idle rfl, taken, State.giveAll_append]
  show (({} : State).giveAll (gs.map Given.setting) >>= _) = _
  cases done : ({} : State).giveAll (gs.map Given.setting) with
  | error fault => rfl
  | ok s =>
    have has (o : Opt) : s.settings.has o = decide (o ∈ gs.map Given.option) := by
      rw [State.has_giveAll done, given, Settings.has_empty, Bool.false_or]
    show (readEnvironment env s role.options >>= _) = State.giveAll s _ >>= _
    rw [readEnvironment_eq env once fun o _ => has o]
    rfl

end ShardStore.CommandLine
