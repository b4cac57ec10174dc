/-
# ShardStore.Proofs.Topology.Template -- the placeholders of a template in one pass

A template is filled by replacing one placeholder after the other, so a value may bring in
or complete a placeholder of a later kind.  Nothing of the sort happens if the values have
no braces and no brace of the template opens behind an open one: then the host is the one
that a single pass from the left makes, which looks up each name where it stands
(`host_eq_fill`).

The induction is on the list of placeholders.  What the first replacements have made is what
one pass makes that knows the first placeholders alone, and one more replacement is one more
placeholder known (`replace_fillFrom`).
-/
import Mathlib.Data.List.Chain
import ShardStore.Assoc
import ShardStore.Proofs.Topology.Config
import ShardStore.Proofs.Topology.Replacement

namespace ShardStore

set_option autoImplicit false

namespace Host

/-! ## One pass -/

/-- Fills a template from the left, given what stands behind a brace that is open.  A name
between braces that has a value goes for the value, and everything else is copied. -/
def fillFrom (value? : String → Option String) : Option (List Char) → List Char → List Char
  | none, [] => []
  | some name, [] => '\x7b' :: name
  | none, c :: rest =>
    if c = '\x7b' then fillFrom value? (some []) rest else c :: fillFrom value? none rest
  | some name, c :: rest =>
    if c = '\x7b' then '\x7b' :: (name ++ fillFrom value? (some []) rest)
    else if c = '\x7d' then
      match value? (String.ofList name) with
      | some value => value.toList ++ fillFrom value? none rest
      | none => '\x7b' :: (name ++ '\x7d' :: fillFrom value? none rest)
    else fillFrom value? (some (name ++ [c])) rest

def fill (value? : String → Option String) (template : String) : String :=
  String.ofList (fillFrom value? none template.toList)

/-- A text without braces. -/
abbrev Braceless (text : List Char) : Prop := Bare '\x7b' '\x7d' text

def isBrace (c : Char) : Bool := c = '\x7b' || c = '\x7d'

/-- The next brace behind one that opens does not open. -/
def Flat (template : List Char) : Prop :=
  (template.filter isBrace).IsChain fun a b => ¬ (a = '\x7b' ∧ b = '\x7b')

instance (template : List Char) : Decidable (Flat template) :=
  inferInstanceAs (Decidable (List.IsChain _ _))

theorem Flat.of_append (front : List Char) {back : List Char} (flat : Flat (front ++ back)) :
    Flat back := by
  rw [Flat, List.filter_append] at flat
  exact flat.right_of_append

theorem Flat.notBraceless {text back : List Char}
    (flat : Flat ('\x7b' :: (text ++ '\x7b' :: back))) : ¬ Braceless text := by
  intro plain
  have none : text.filter isBrace = [] := List.filter_eq_nil_iff.2 fun c member brace => by
    simp only [isBrace, Bool.or_eq_true, decide_eq_true_eq] at brace
    rcases brace with rfl | rfl
    · exact plain.opening member
    · exact plain.closing member
  rw [Flat, List.filter_cons_of_pos (by decide), List.filter_append, none, List.nil_append,
    List.filter_cons_of_pos (by decide)] at flat
  exact (List.isChain_cons_cons.1 flat).1 ⟨rfl, rfl⟩

/-- What has been read and not been written. -/
def held : Option (List Char) → List Char
  | none => []
  | some name => '\x7b' :: name

theorem placeholder_eq (name : String) : placeholder name = braced '\x7b' '\x7d' name.toList := rfl

theorem braces_differ : '\x7b' ≠ '\x7d' := by decide

theorem braceless_nil : Braceless [] := ⟨List.not_mem_nil, List.not_mem_nil⟩

theorem Braceless.concat {c : Char} {text : List Char} (plain : Braceless text)
    (opens : c ≠ '\x7b') (closes : c ≠ '\x7d') : Braceless (text ++ [c]) :=
  ⟨by simp [plain.opening, opens.symm], by simp [plain.closing, closes.symm]⟩

/-! ## One more placeholder -/

/-- The values that are known when one more is. -/
def extend (value? : String → Option String) (name value other : String) : Option String :=
  (value? other).or (if name = other then some value else none)

variable {value? : String → Option String} {name value : String} {read : List Char}

/-- A brace that nothing closes begins no placeholder. -/
theorem replace_unclosed (plain : Braceless read) :
    replace (placeholder name) value.toList ('\x7b' :: read) = '\x7b' :: read := by
  have elsewhere : ¬ placeholder name <+: '\x7b' :: read := fun stands =>
    plain.closing ((List.cons_prefix_cons.1 stands).2.subset (by simp))
  have copied := replace_apart (name.toList ++ ['\x7d']) plain.opening value.toList []
  rw [List.append_nil, replace_nil, List.append_nil] at copied
  rw [replace_kept _ elsewhere]
  exact congrArg ('\x7b' :: ·) copied

/-- What a pass writes for a name between braces, with one more placeholder known or not. -/
theorem replace_closed (known : ∀ other v, value? other = some v → Braceless v.toList)
    (hn : Braceless name.toList) (plain : Braceless read) (rest : List Char) :
    replace (placeholder name) value.toList
        (match value? (String.ofList read) with
          | some v => v.toList ++ rest
          | none => '\x7b' :: (read ++ '\x7d' :: rest)) =
      match extend value? name value (String.ofList read) with
      | some v => v.toList ++ replace (placeholder name) value.toList rest
      | none => '\x7b' :: (read ++ '\x7d' :: replace (placeholder name) value.toList rest) := by
  unfold extend
  cases found : value? (String.ofList read) with
  | some v => exact replace_apart _ (known _ v found).opening value.toList rest
  | none =>
    have step := replace_braced braces_differ hn plain value.toList rest
    rw [braced_append, ← placeholder_eq] at step
    by_cases same : name = String.ofList read
    · have names : name.toList = read := by rw [same, String.toList_ofList]
      simpa only [if_pos same, if_pos names, Option.none_or] using step
    · have names : name.toList ≠ read := fun h => same (by rw [← h, String.ofList_toList])
      simpa only [if_neg same, if_neg names, Option.none_or, braced_append] using step

/-- The replacement of a placeholder in what a pass has made is a pass that knows it. -/
theorem replace_fillFrom (known : ∀ other v, value? other = some v → Braceless v.toList)
    (hn : Braceless name.toList) (template : List Char) (state : Option (List Char))
    (flat : Flat (held state ++ template)) (plain : ∀ read ∈ state, Braceless read) :
    replace (placeholder name) value.toList (fillFrom value? state template) =
      fillFrom (extend value? name value) state template := by
  induction template generalizing state with
  | nil =>
    cases state with
    | none => rfl
    | some read => exact replace_unclosed (plain read rfl)
  | cons c rest ih =>
    cases state with
    | none =>
      by_cases opens : c = '\x7b'
      · subst opens
        simp only [fillFrom, if_true]
        refine ih (some []) flat fun read member => ?_
        rw [← Option.some.inj member]
        exact braceless_nil
      · have foreign : '\x7b' ∉ [c] := by simpa using Ne.symm opens
        have copied := replace_apart (name.toList ++ ['\x7d']) foreign value.toList
          (fillFrom value? none rest)
        simp only [fillFrom, if_neg opens]
        rw [← ih none (Flat.of_append [c] flat) nofun]
        exact copied
    | some read =>
      have opened := plain read rfl
      by_cases opens : c = '\x7b'
      · subst opens
        exact absurd opened (Flat.notBraceless flat)
      by_cases closes : c = '\x7d'
      · subst closes
        have behind : Flat rest := Flat.of_append ('\x7b' :: (read ++ ['\x7d']))
          (by simpa [held] using flat)
        simp only [fillFrom, if_neg opens, if_true]
        rw [replace_closed known hn opened, ih none behind nofun]
      · simp only [fillFrom, if_neg opens, if_neg closes]
        refine ih (some (read ++ [c])) (by simpa [held] using flat) fun other member => ?_
        rw [← Option.some.inj member]
        exact opened.concat opens closes

/-- Without placeholders a pass copies. -/
theorem fillFrom_nothing (template : List Char) (state : Option (List Char)) :
    fillFrom (fun _ => none) state template = held state ++ template := by
  induction template generalizing state with
  | nil => cases state <;> simp [fillFrom, held]
  | cons c rest ih =>
    cases state with
    | none =>
      by_cases opens : c = '\x7b' <;> simp [fillFrom, held, opens, ih]
    | some read =>
      by_cases opens : c = '\x7b'
      · simp [fillFrom, held, opens, ih]
      · by_cases closes : c = '\x7d' <;> simp [fillFrom, held, opens, closes, ih]

/-! ## All placeholders -/

theorem foldl_replace (value? : String → Option String) {values : List (String × String)}
    {template : List Char} (flat : Flat template)
    (plain : ∀ v ∈ values, Braceless v.1.toList ∧ Braceless v.2.toList)
    (known : ∀ other v, value? other = some v → Braceless v.toList) :
    values.foldl (fun host v => replace (placeholder v.1) v.2.toList host)
        (fillFrom value? none template) =
      fillFrom (fun other => (value? other).or (values.lookup other)) none template := by
  induction values generalizing value? with
  | nil => simp
  | cons v values ih =>
    have hv := plain v List.mem_cons_self
    have wider : ∀ other w, extend value? v.1 v.2 other = some w → Braceless w.toList := by
      intro other w found
      rcases Option.or_eq_some_iff.1 found with before | ⟨-, now⟩
      · exact known other w before
      · rw [Option.ite_none_right_eq_some] at now
        exact Option.some.inj now.2 ▸ hv.2
    rw [List.foldl_cons, replace_fillFrom known hv.1 template none flat nofun,
      ih _ (fun w member => plain w (List.mem_cons_of_mem v member)) wider]
    congr 1
    funext other
    rw [extend, Option.or_assoc, Assoc.lookup_cons_eq_ite]
    by_cases same : v.1 = other
    · rw [if_pos same, if_pos same.symm, Option.some_or]
    · rw [if_neg same, if_neg (Ne.symm same), Option.none_or]

/-- Replacing placeholders one after the other is one pass that knows them all. -/
theorem substitute_eq_fill {values : List (String × String)} {template : String}
    (flat : Flat template.toList)
    (plain : ∀ v ∈ values, Braceless v.1.toList ∧ Braceless v.2.toList) :
    substitute values template = fill (values.lookup ·) template := by
  have filled := foldl_replace (fun _ => none) flat plain (by simp)
  rw [fillFrom_nothing, held, List.nil_append] at filled
  simp only [substitute, filled, Option.none_or, fill]

end Host

namespace Topology.Config

variable (c : Config) (index : Nat)

/-- What a placeholder stands for, by its name. -/
def value? : String → Option String
  | "nodeId" => some s!"{Text.trim c.baseName}-{index}"
  | "baseName" => some (Text.trim c.baseName)
  | "serviceName" | "headlessServiceName" => some (Text.trim c.serviceName)
  | "namespace" => some (Text.trim c.namespaceName)
  | "domain" | "clusterDomain" => some (Text.trim c.clusterDomain)
  | "replicaIndex" => some (toString index)
  | _ => none

theorem lookup_placeholders (name : String) :
    (c.placeholders index).lookup name = c.value? index name := by
  unfold value?
  split <;> simp_all [placeholders, nodeId, Assoc.lookup_cons_eq_ite]

variable {c}

/-! ## Values without braces -/

theorem braceless_trim {s : String} (plain : Host.Braceless s.toList) :
    Host.Braceless (Text.trim s).toList := by
  rw [Text.toList_trim]
  exact ⟨fun member => plain.opening (Text.strip_subset _ _ member),
    fun member => plain.closing (Text.strip_subset _ _ member)⟩

theorem braceless_digits (n : Nat) : Host.Braceless (Nat.toDigits 10 n) :=
  ⟨fun member => absurd (Text.Numeral.isDigit_of_mem_toDigits member) (by decide),
    fun member => absurd (Text.Numeral.isDigit_of_mem_toDigits member) (by decide)⟩

theorem braceless_nodeId (plain : Host.Braceless c.baseName.toList) (index : Nat) :
    Host.Braceless (c.nodeId index).toList := by
  have base := braceless_trim plain
  have number := braceless_digits index
  rw [toList_nodeId]
  exact ⟨by simp [base.opening, number.opening], by simp [base.closing, number.closing]⟩

theorem braceless_placeholders
    (plain : ∀ s ∈ [c.baseName, c.serviceName, c.namespaceName, c.clusterDomain],
      Host.Braceless s.toList) (index : Nat) :
    ∀ v ∈ c.placeholders index, Host.Braceless v.1.toList ∧ Host.Braceless v.2.toList := by
  have name : ∀ n ∈ (c.placeholders index).map (·.1), Host.Braceless n.toList := by
    rw [names_placeholders]
    decide
  have trimmed (s : String)
      (given : s ∈ [c.baseName, c.serviceName, c.namespaceName, c.clusterDomain]) :
      Host.Braceless (Text.trim s).toList := braceless_trim (plain s given)
  have service := trimmed c.serviceName (by simp)
  have domain := trimmed c.clusterDomain (by simp)
  have number : Host.Braceless (toString index).toList := by
    rw [toList_number]
    exact braceless_digits index
  intro v member
  refine ⟨name v.1 (List.mem_map_of_mem member), ?_⟩
  simp only [placeholders, List.mem_cons, List.not_mem_nil, or_false] at member
  rcases member with rfl | rfl | rfl | rfl | rfl | rfl | rfl | rfl
  · exact braceless_nodeId (plain c.baseName (by simp)) index
  · exact trimmed c.baseName (by simp)
  · exact service
  · exact service
  · exact trimmed c.namespaceName (by simp)
  · exact domain
  · exact domain
  · exact number

/-- The host of a shard is the normal form of the template, filled in one pass. -/
theorem host_eq_fill (c : Config)
    (plain : ∀ s ∈ [c.baseName, c.serviceName, c.namespaceName, c.clusterDomain],
      Host.Braceless s.toList)
    (flat : Host.Flat c.hostTemplate.toList) (index : Nat) :
    c.host index = Host.normalize (Host.fill (c.value? index) c.hostTemplate) := by
  rw [host, Host.substitute_eq_fill flat (braceless_placeholders plain index)]
  simp only [lookup_placeholders]

/-- A template with both names of a value, a name that is unknown and a brace that stays open. -/
theorem host_eq_fill_aliases :
    let c : Config :=
      { baseName := " kv ", serviceName := "kv-hl", replicaCount := 4, clusterDomain := "a.b",
        hostTemplate :=
          "\x7bnodeId\x7d.\x7bdomain\x7d.\x7bclusterDomain\x7d.\x7bnode\x7d\x7d.\x7bx" }
    (∀ s ∈ [c.baseName, c.serviceName, c.namespaceName, c.clusterDomain],
      Host.Braceless s.toList) ∧
    Host.Flat c.hostTemplate.toList ∧
    c.host 3 = Host.normalize (Host.fill (c.value? 3) c.hostTemplate) ∧
    c.host 3 = "kv-3.a.b.a.b.\x7bnode\x7d\x7d.\x7bx" := by
  intro c
  have plain : ∀ s ∈ [c.baseName, c.serviceName, c.namespaceName, c.clusterDomain],
      Host.Braceless s.toList := by decide
  have flat : Host.Flat c.hostTemplate.toList := by decide
  exact ⟨plain, flat, host_eq_fill c plain flat 3, by decide⟩

end Topology.Config

end ShardStore
