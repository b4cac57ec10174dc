/-
# ShardStore.Proofs.Topology.Frame -- shards of a template have addresses of their own

The host of a shard depends on the shard's number only in that the digits of the number
stand at some places of a text.  Such a text is a `Frame`, with a gap at each of the places.
Every step on the way from the template to the host leaves the digits alone, since no
placeholder has a digit in its name and digits are neither white space nor dots: the step,
made on the frame, is the step made on the text with any number written in
(`withNumber_replace`, `withNumber_strip`, `withNumber_collapse`).

A gap once there stays, and the placeholders of the name and of the number bring one in, in
their turn or when it comes (`gap_substitute`).  A frame with a gap tells the number: numbers of
different length give texts of different length, and numbers of the same length differ at the
first gap (`withNumber_injective`).
-/
import ShardStore.Proofs.Topology.Config
import ShardStore.Proofs.Topology.Replacement
import ShardStore.Proofs.Topology.Segments

namespace ShardStore

set_option autoImplicit false

namespace Host

/-- A text with gaps for a number. -/
abbrev Frame : Type := List (Option Char)

/-- The frame with a number written into its gaps. -/
def withNumber (number : List Char) (f : Frame) : List Char :=
  f.flatMap fun x => x.elim number fun c => [c]

variable {number : List Char} {f g : Frame}

@[simp] theorem withNumber_nil : withNumber number [] = [] := rfl

@[simp] theorem withNumber_some (c : Char) :
    withNumber number (some c :: f) = c :: withNumber number f := rfl

@[simp] theorem withNumber_none : withNumber number (none :: f) = number ++ withNumber number f :=
  rfl

@[simp] theorem withNumber_append :
    withNumber number (f ++ g) = withNumber number f ++ withNumber number g :=
  List.flatMap_append

@[simp] theorem withNumber_map (text : List Char) : withNumber number (text.map some) = text := by
  induction text with
  | nil => rfl
  | cons c text ih => rw [List.map_cons, withNumber_some, ih]

/-! ## The number can be told -/

theorem length_withNumber (number : List Char) (f : Frame) :
    (withNumber number f).length + f.count none = f.length + f.count none * number.length := by
  induction f with
  | nil => simp
  | cons x f ih =>
    cases x with
    | none =>
      simp only [withNumber_none, List.length_append, List.count_cons_self, List.length_cons,
        Nat.add_mul]
      omega
    | some c =>
      simp only [withNumber_some, List.length_cons, ne_eq, reduceCtorEq, not_false_eq_true,
        List.count_cons_of_ne]
      omega

/-- Different numbers in the gaps of one frame make different texts. -/
theorem withNumber_injective (gap : none ∈ f) : Function.Injective (withNumber · f) := by
  intro m n same
  have lengths : m.length = n.length := by
    have count := List.count_pos_iff.2 gap
    have product : f.count none * m.length = f.count none * n.length := by
      have hm := length_withNumber m f
      have hn := length_withNumber n f
      have texts : (withNumber m f).length = (withNumber n f).length := congrArg List.length same
      omega
    exact Nat.eq_of_mul_eq_mul_left count product
  induction f with
  | nil => cases gap
  | cons x f ih =>
    cases x with
    | none => exact (List.append_inj same lengths).1
    | some c => exact ih ((List.mem_cons.1 gap).resolve_left nofun) (List.cons.inj same).2

/-! ## Replacement -/

section

variable {pattern : List Char} (shown : number ≠ [])

include shown

/-- A pattern that shares no character with the number stands clear of the gaps. -/
theorem prefix_withNumber (apart : ∀ c ∈ number, c ∉ pattern) :
    pattern <+: withNumber number f ↔ pattern.map some <+: f := by
  induction pattern generalizing f with
  | nil => simp
  | cons a pattern ih =>
    have behind : ∀ c ∈ number, c ∉ pattern := fun c member also =>
      apart c member (List.mem_cons_of_mem a also)
    cases f with
    | nil => simp
    | cons x f =>
      cases x with
      | some c => simp [List.cons_prefix_cons, ih behind]
      | none =>
        obtain ⟨d, rest, rfl⟩ := List.exists_cons_of_ne_nil shown
        have other : a ≠ d := fun same => apart d List.mem_cons_self (same ▸ List.mem_cons_self)
        simp [List.cons_prefix_cons, other]

theorem withNumber_replace {c : Char} (apart : ∀ d ∈ number, d ∉ c :: pattern) (text f : Frame) :
    withNumber number (replace ((c :: pattern).map some) text f) =
      replace (c :: pattern) (withNumber number text) (withNumber number f) := by
  have some : (c :: pattern).map some ≠ [] := List.cons_ne_nil _ _
  induction f using replace_induction some with
  | nil => rfl
  | found back ih =>
    rw [replace_found some, withNumber_append, withNumber_append, withNumber_map,
      replace_found (List.cons_ne_nil _ _), ih]
  | kept x back elsewhere ih =>
    rw [replace_kept text elsewhere]
    cases x with
    | some d =>
      have still := mt (prefix_withNumber shown apart).1 elsewhere
      rw [withNumber_some] at still ⊢
      rw [withNumber_some, replace_kept _ still, ih]
    | none =>
      have foreign : c ∉ number := fun member => apart c member List.mem_cons_self
      rw [withNumber_none, withNumber_none, replace_apart pattern foreign, ih]

/-! ## The normal form -/

theorem withNumber_dropWhile {p : Char → Bool} (apart : ∀ c ∈ number, p c = false) (f : Frame) :
    withNumber number (f.dropWhile (·.any p)) = (withNumber number f).dropWhile p := by
  induction f with
  | nil => rfl
  | cons x f ih =>
    cases x with
    | some c => by_cases drop : p c <;> simp [drop, ih]
    | none =>
      obtain ⟨d, rest, rfl⟩ := List.exists_cons_of_ne_nil shown
      simp [apart d List.mem_cons_self]

omit shown in
theorem reverse_withNumber :
    (withNumber number f).reverse = withNumber number.reverse f.reverse := by
  induction f with
  | nil => rfl
  | cons x f ih => cases x <;> simp [ih]

theorem withNumber_strip {p : Char → Bool} (apart : ∀ c ∈ number, p c = false) (f : Frame) :
    withNumber number (Text.strip (·.any p) f) = Text.strip p (withNumber number f) := by
  have back : ∀ c ∈ number.reverse, p c = false := fun c member =>
    apart c (List.mem_reverse.1 member)
  have turned : number.reverse ≠ [] := List.reverse_ne_nil_iff.2 shown
  rw [Text.strip, Text.strip, ← withNumber_dropWhile shown apart, reverse_withNumber,
    ← withNumber_dropWhile turned back, reverse_withNumber, List.reverse_reverse]

theorem head?_withNumber {c : Char} (foreign : c ∉ number) :
    (withNumber number f).head? = some c ↔ f.head? = some (some c) := by
  cases f with
  | nil => simp
  | cons x f =>
    cases x with
    | some d => simp
    | none =>
      obtain ⟨d, rest, rfl⟩ := List.exists_cons_of_ne_nil shown
      have other : d ≠ c := fun same => foreign (same ▸ List.mem_cons_self)
      simp [other]

end

theorem withNumber_collapse {dot : Char} (shown : number ≠ []) (foreign : dot ∉ number)
    (f : Frame) :
    withNumber number (collapse (some dot) f) = collapse dot (withNumber number f) := by
  induction f with
  | nil => rfl
  | cons x f ih =>
    rw [collapse_cons]
    cases x with
    | some c =>
      rw [withNumber_some, collapse_cons]
      simp only [head?_withNumber shown foreign, Option.some_inj]
      split
      · exact ih
      · rw [withNumber_some, ih]
    | none =>
      rw [if_neg (by simp), withNumber_none, withNumber_none, collapse_apart foreign, ih]

/-! ## Placeholders -/

/-- The replacement of placeholders one after the other, by texts that may have gaps. -/
def substituteFrames : List (String × Frame) → Frame → Frame
  | [], f => f
  | v :: values, f => substituteFrames values (replace ((placeholder v.1).map some) v.2 f)

theorem withNumber_substitute (shown : number ≠ []) {values : List (String × Frame)}
    (apart : ∀ v ∈ values, ∀ c ∈ number, c ∉ placeholder v.1) (template : String) :
    (substitute (values.map fun v => (v.1, String.ofList (withNumber number v.2)))
        template).toList =
      withNumber number (substituteFrames values (template.toList.map some)) := by
  rw [substitute, String.toList_ofList, List.foldl_map]
  conv_lhs => rw [← @withNumber_map number template.toList]
  generalize template.toList.map some = f
  induction values generalizing f with
  | nil => rfl
  | cons v values ih =>
    have step : withNumber number (replace ((placeholder v.1).map some) v.2 f) =
        replace (placeholder v.1) (withNumber number v.2) (withNumber number f) :=
      withNumber_replace shown (apart v List.mem_cons_self) v.2 f
    simp only [List.foldl_cons, substituteFrames, String.toList_ofList] at ih ⊢
    rw [← ih fun w member => apart w (List.mem_cons_of_mem v member), step]

theorem map_placeholder (name : String) :
    (placeholder name).map some = braced (some '\x7b') (some '\x7d') (name.toList.map some) := by
  simp [placeholder, braced]

theorem bare_map {name : List Char} (plain : Bare '\x7b' '\x7d' name) :
    Bare (some '\x7b') (some '\x7d') (name.map some) :=
  ⟨by simp [plain.opening], by simp [plain.closing]⟩

/-- A gap stays, and a placeholder whose value has a gap brings it in. -/
theorem gap_substitute {values : List (String × Frame)}
    (plain : ∀ v ∈ values, Bare '\x7b' '\x7d' v.1.toList) {f : Frame}
    (gap : none ∈ f ∨ ∃ name text, Bare '\x7b' '\x7d' name.toList ∧
      values.lookup name = some text ∧ none ∈ text ∧ (placeholder name).map some <:+: f) :
    none ∈ substituteFrames values f := by
  induction values generalizing f with
  | nil =>
    rcases gap with gap | ⟨_, _, _, nothing, _⟩
    · exact gap
    · cases nothing
  | cons v values ih =>
    have apart : some '\x7b' ≠ some '\x7d' := by decide
    have bare := bare_map (plain v List.mem_cons_self)
    refine ih (fun w member => plain w (List.mem_cons_of_mem v member)) ?_
    rcases gap with gap | ⟨name, text, named, found, gap, stands⟩
    · have foreign : none ∉ (placeholder v.1).map some := by simp
      exact .inl (mem_replace (by simp [placeholder]) foreign gap)
    · rw [Assoc.lookup_cons_eq_ite] at found
      rw [map_placeholder] at stands
      split at found
      · rename_i same
        cases found
        subst same
        rw [map_placeholder]
        exact .inl (mem_replace_braced apart bare.opening gap stands)
      · rename_i other
        refine .inr ⟨name, text, named, found, gap, ?_⟩
        have names : v.1.toList.map some ≠ name.toList.map some := fun same =>
          have chars := List.map_injective_iff.2 (Option.some_injective _) same
          other (String.toList_injective chars).symm
        rw [map_placeholder, map_placeholder]
        exact infix_replace apart bare (bare_map named) names stands

end Host

namespace Topology.Config

open Host

variable (c : Config)

/-! ## Hosts -/

/-- The values of the placeholders, with gaps for the number of the shard. -/
def frames : List (String × Frame) :=
  [("nodeId", (Text.trim c.baseName).toList.map some ++ [some '-', none]),
    ("baseName", (Text.trim c.baseName).toList.map some),
    ("serviceName", (Text.trim c.serviceName).toList.map some),
    ("headlessServiceName", (Text.trim c.serviceName).toList.map some),
    ("namespace", (Text.trim c.namespaceName).toList.map some),
    ("domain", (Text.trim c.clusterDomain).toList.map some),
    ("clusterDomain", (Text.trim c.clusterDomain).toList.map some),
    ("replicaIndex", [none])]

theorem placeholders_eq_frames (index : Nat) :
    c.placeholders index =
      c.frames.map fun v => (v.1, String.ofList (withNumber (Nat.toDigits 10 index) v.2)) := by
  have name : c.nodeId index = String.ofList (withNumber (Nat.toDigits 10 index)
      ((Text.trim c.baseName).toList.map some ++ [some '-', none])) := by
    apply String.toList_injective
    simp [toList_nodeId]
  have number : toString index = String.ofList (withNumber (Nat.toDigits 10 index) [none]) := by
    apply String.toList_injective
    simp
  rw [placeholders, name, number]
  simp only [frames, List.map_cons, List.map_nil, withNumber_map, String.ofList_toList]

theorem names_frames : c.frames.map (·.1) = names := rfl

/-- The host of a shard is a text with the number of the shard in its gaps, and it has a gap if
the template asks for the number. -/
theorem exists_frame : ∃ f : Frame,
    (placeholder "nodeId" <:+: c.hostTemplate.toList ∨
      placeholder "replicaIndex" <:+: c.hostTemplate.toList → none ∈ f) ∧
    ∀ index, (c.host index).toList = withNumber (Nat.toDigits 10 index) f := by
  refine ⟨Text.strip (·.any (· = '.')) (collapse (some '.') (Text.strip (·.any Text.isSpace)
    (substituteFrames c.frames (c.hostTemplate.toList.map some)))),
    fun asked => ?_, fun index => ?_⟩
  · have bare : ∀ name ∈ c.frames.map (·.1), Bare '\x7b' '\x7d' name.toList := by
      rw [names_frames]
      decide
    rw [Text.mem_strip rfl, mem_collapse (by decide), Text.mem_strip rfl]
    refine gap_substitute (fun v member => bare v.1 (List.mem_map_of_mem member)) (.inr ?_)
    rcases asked with asked | asked
    · exact ⟨"nodeId", _, by decide, rfl, by simp, asked.map some⟩
    · exact ⟨"replicaIndex", _, by decide, rfl, by simp, asked.map some⟩
  · have letters : ∀ name ∈ c.frames.map (·.1), (placeholder name).any Char.isDigit = false := by
      rw [names_frames]
      decide
    have digits (d : Char) (member : d ∈ Nat.toDigits 10 index) : d.isDigit = true :=
      Text.Numeral.isDigit_of_mem_toDigits member
    have shown : Nat.toDigits 10 index ≠ [] := Nat.toDigits_ne_nil
    have other (d : Char) (letter : ¬ d.isDigit) : d ∉ Nat.toDigits 10 index := fun member =>
      letter (digits d member)
    have apart : ∀ v ∈ c.frames, ∀ d ∈ Nat.toDigits 10 index, d ∉ placeholder v.1 :=
      fun v member d digit named =>
        other d (List.any_eq_false.1 (letters v.1 (List.mem_map_of_mem member)) d named) digit
    have spaceless : ∀ d ∈ Nat.toDigits 10 index, Text.isSpace d = false := fun d member =>
      Text.isSpace_of_isDigit (digits d member)
    have dotless : ∀ d ∈ Nat.toDigits 10 index, decide (d = '.') = false := fun d member =>
      decide_eq_false fun same => other '.' (by decide) (same ▸ member)
    rw [host, Host.normalize, String.toList_ofList, placeholders_eq_frames,
      withNumber_substitute shown apart, ← withNumber_strip shown spaceless,
      ← withNumber_collapse shown (other '.' (by decide)), ← withNumber_strip shown dotless]

theorem host_injective (asked : placeholder "nodeId" <:+: c.hostTemplate.toList ∨
    placeholder "replicaIndex" <:+: c.hostTemplate.toList) : Function.Injective c.host := by
  obtain ⟨f, gap, hosts⟩ := c.exists_frame
  intro i j same
  have texts : withNumber (Nat.toDigits 10 i) f = withNumber (Nat.toDigits 10 j) f := by
    rw [← hosts, ← hosts, same]
  exact Text.Numeral.toDigits_injective (withNumber_injective (gap asked) texts)

theorem address_injective (asked : placeholder "nodeId" <:+: c.hostTemplate.toList ∨
    placeholder "replicaIndex" <:+: c.hostTemplate.toList) : Function.Injective c.address := by
  intro i j same
  have chars := congrArg String.toList same
  rw [toList_address, toList_address] at chars
  have behind := List.append_cancel_left chars
  simp only [List.cons.injEq, true_and] at behind
  exact c.host_injective asked (String.toList_injective (List.append_cancel_right behind))

/-- Whatever else a configuration says, if its template asks for the name or the number of the
shard, then no two of its shards have the same address. -/
theorem nodup_addresses {c : Config} {t : Topology} (built : ofConfig c = .ok t)
    (asked : placeholder "nodeId" <:+: c.hostTemplate.toList ∨
      placeholder "replicaIndex" <:+: c.hostTemplate.toList) :
    (t.nodes.map (·.address)).Nodup := by
  rw [(ofConfig_eq_ok.1 built).2, List.map_map]
  refine List.nodup_range.map fun i j same => c.address_injective asked ?_
  simpa only [Function.comp_apply, address_shard] using same

/-- A base name that brings in the number of the shard once more. -/
def nested : Config where
  baseName := "\x7breplicaIndex\x7d"
  serviceName := "kv"
  replicaCount := 3
  hostTemplate := "[::\x7breplicaIndex\x7d:\x7bbaseName\x7d]"

theorem nodup_addresses_nested :
    ofConfig nested = .ok ⟨[⟨"\x7breplicaIndex\x7d-0", "http://[::0:0]:7000/"⟩,
      ⟨"\x7breplicaIndex\x7d-1", "http://[::1:1]:7000/"⟩,
      ⟨"\x7breplicaIndex\x7d-2", "http://[::2:2]:7000/"⟩]⟩ ∧
    placeholder "replicaIndex" <:+: nested.hostTemplate.toList ∧
    ["http://[::0:0]:7000/", "http://[::1:1]:7000/", "http://[::2:2]:7000/"].Nodup := by
  have asked : placeholder "replicaIndex" <:+: nested.hostTemplate.toList := by decide
  exact ⟨rfl, asked, nodup_addresses (c := nested) rfl (.inr asked)⟩

end Topology.Config

end ShardStore
