/-
# ShardStore.Proofs.Topology.Replacement -- what replacement does to a text

Replacement reads a text once: where the pattern stands it writes the new text and goes on
behind the pattern (`replace_found`), elsewhere it copies a character (`replace_kept`).
These two steps are an induction principle (`replace_induction`), and nothing else here
opens the definition.

The patterns that matter are names between an opening and a closing mark, with no mark
inside.  Two of them never overlap, so the replacement of one leaves every other where it
stands (`replace_braced`, `infix_replace`).
-/
import Mathlib.Data.List.Infix
import ShardStore.Topology.Host

namespace ShardStore.Host

set_option autoImplicit false

variable {α : Type} [DecidableEq α] {pattern text front back : List α} {c : α}

/-! ## The two steps -/

theorem replaceFrom_drop (pattern text front back : List α) :
    replaceFrom pattern text front.length (front ++ back) = replace pattern text back := by
  induction front with
  | nil => rfl
  | cons c front ih => exact ih

@[simp] theorem replace_nil (pattern text : List α) : replace pattern text [] = [] := rfl

theorem replace_found (shown : pattern ≠ []) (text back : List α) :
    replace pattern text (pattern ++ back) = text ++ replace pattern text back := by
  obtain ⟨c, pattern, rfl⟩ := List.exists_cons_of_ne_nil shown
  have stands : (c :: pattern).isPrefixOf (c :: (pattern ++ back)) = true :=
    List.isPrefixOf_iff_prefix.2 (List.prefix_append (c :: pattern) back)
  rw [replace, List.cons_append, replaceFrom, if_pos stands]
  exact congrArg (text ++ ·) (replaceFrom_drop (c :: pattern) text pattern back)

theorem replace_kept (text : List α) (elsewhere : ¬ pattern <+: c :: back) :
    replace pattern text (c :: back) = c :: replace pattern text back := by
  rw [replace, replaceFrom, if_neg fun stands => elsewhere (List.isPrefixOf_iff_prefix.1 stands)]
  rfl

/-- Reading a text from the left, by occurrences of a pattern and single characters. -/
theorem replace_induction {motive : List α → Prop} (shown : pattern ≠ []) (nil : motive [])
    (found : ∀ back, motive back → motive (pattern ++ back))
    (kept : ∀ c back, ¬ pattern <+: c :: back → motive back → motive (c :: back))
    (host : List α) : motive host := by
  induction length : host.length using Nat.strongRecOn generalizing host with
  | _ n ih =>
    subst length
    by_cases stands : pattern <+: host
    · obtain ⟨back, rfl⟩ := stands
      have shorter : back.length < (pattern ++ back).length := by
        have := List.length_pos_iff.2 shown
        simp
        omega
      exact found back (ih _ shorter back rfl)
    · cases host with
      | nil => exact nil
      | cons c back => exact kept c back stands (ih _ (Nat.lt_succ_self _) back rfl)

/-! ## Where the pattern does not stand -/

/-- Characters that do not begin the pattern are copied. -/
theorem replace_apart (pattern : List α) (absent : c ∉ front) (text back : List α) :
    replace (c :: pattern) text (front ++ back) = front ++ replace (c :: pattern) text back := by
  induction front with
  | nil => rfl
  | cons d front ih =>
    have elsewhere : ¬ c :: pattern <+: d :: (front ++ back) := fun stands =>
      absent (List.mem_cons.2 (.inl (List.cons_prefix_cons.1 stands).1))
    rw [List.cons_append, replace_kept text elsewhere,
      ih fun member => absent (List.mem_cons_of_mem d member), List.cons_append]

/-- A character outside the pattern survives. -/
theorem mem_replace {host : List α} (shown : pattern ≠ []) (foreign : c ∉ pattern)
    (member : c ∈ host) : c ∈ replace pattern text host := by
  induction host using replace_induction shown with
  | nil => cases member
  | found back ih =>
    rw [replace_found shown]
    exact List.mem_append_right text (ih ((List.mem_append.1 member).resolve_left foreign))
  | kept d back elsewhere ih =>
    rw [replace_kept text elsewhere]
    exact List.mem_cons.2 ((List.mem_cons.1 member).imp_right ih)

omit [DecidableEq α] in
/-- A pattern without a character, where it stands in front of it, ends in front of it. -/
theorem prefix_of_prefix_append (absent : c ∉ pattern) (stands : pattern <+: front ++ c :: back) :
    pattern <+: front := by
  rcases List.prefix_or_prefix_of_prefix stands (List.prefix_append front (c :: back)) with
    short | ⟨rest, rfl⟩
  · exact short
  · rw [List.prefix_append_right_inj] at stands
    cases rest with
    | nil => rw [List.append_nil]
    | cons d rest =>
      obtain ⟨rfl, -⟩ := List.cons_prefix_cons.1 stands
      exact absurd (List.mem_append_right front List.mem_cons_self) absent

/-- No occurrence goes across a character that the pattern has only at its head. -/
theorem replace_append (once : c ∉ pattern) (text front back : List α) :
    replace (c :: pattern) text (front ++ c :: back) =
      replace (c :: pattern) text front ++ replace (c :: pattern) text (c :: back) := by
  have shown : c :: pattern ≠ [] := List.cons_ne_nil c pattern
  induction front using replace_induction shown with
  | nil => rfl
  | found rest ih =>
    rw [List.append_assoc, replace_found shown, replace_found shown, ih, List.append_assoc]
  | kept d rest elsewhere ih =>
    have still : ¬ c :: pattern <+: d :: (rest ++ c :: back) := fun stands => by
      obtain ⟨rfl, tail⟩ := List.cons_prefix_cons.1 stands
      exact elsewhere (List.cons_prefix_cons.2 ⟨rfl, prefix_of_prefix_append once tail⟩)
    rw [List.cons_append, replace_kept text still, ih, replace_kept text elsewhere,
      List.cons_append]

/-! ## Names between marks -/

/-- A name between an opening and a closing mark. -/
def braced (opening closing : α) (name : List α) : List α := opening :: (name ++ [closing])

/-- A name without marks. -/
structure Bare (opening closing : α) (name : List α) : Prop where
  opening : opening ∉ name
  closing : closing ∉ name

instance (opening closing : α) (name : List α) : Decidable (Bare opening closing name) :=
  decidable_of_iff (opening ∉ name ∧ closing ∉ name)
    ⟨fun ⟨hopening, hclosing⟩ => ⟨hopening, hclosing⟩, fun bare => ⟨bare.opening, bare.closing⟩⟩

variable {opening closing : α} {m n : List α}

omit [DecidableEq α] in
theorem braced_ne_nil : braced opening closing m ≠ [] := List.cons_ne_nil _ _

omit [DecidableEq α] in
theorem braced_append (back : List α) :
    braced opening closing m ++ back = opening :: (m ++ closing :: back) := by
  simp [braced]

theorem takeWhile_name (absent : closing ∉ m) (back : List α) :
    (m ++ closing :: back).takeWhile (· ≠ closing) = m := by
  rw [List.takeWhile_append_of_pos fun c member =>
      decide_eq_true (ne_of_mem_of_not_mem member absent),
    List.takeWhile_cons_of_neg (by simp), List.append_nil]

/-- Of names without their closing mark none begins another. -/
theorem name_eq_of_braced (hm : closing ∉ m) (hn : closing ∉ n)
    (stands : braced opening closing m <+: braced opening closing n ++ back) : m = n := by
  obtain ⟨rest, parts⟩ := stands
  rw [braced_append, braced_append] at parts
  rw [← takeWhile_name hm rest, (List.cons.inj parts).2, takeWhile_name hn]

/-- What replacing one name makes of another, or of the same. -/
theorem replace_braced (apart : opening ≠ closing) (hm : Bare opening closing m)
    (hn : Bare opening closing n) (text back : List α) :
    replace (braced opening closing m) text (braced opening closing n ++ back) =
      (if m = n then text else braced opening closing n) ++
        replace (braced opening closing m) text back := by
  by_cases same : m = n
  · subst same
    rw [if_pos rfl, replace_found braced_ne_nil]
  · have elsewhere : ¬ braced opening closing m <+: opening :: ((n ++ [closing]) ++ back) :=
      fun stands => same (name_eq_of_braced hm.closing hn.closing stands)
    have behind : opening ∉ n ++ [closing] := by simp [hn.opening, apart]
    calc replace (braced opening closing m) text (opening :: ((n ++ [closing]) ++ back))
        = opening :: replace (braced opening closing m) text ((n ++ [closing]) ++ back) :=
          replace_kept text elsewhere
      _ = opening :: ((n ++ [closing]) ++ replace (braced opening closing m) text back) :=
          congrArg (opening :: ·) (replace_apart _ behind text back)
      _ = _ := by rw [if_neg same]; rfl

/-- What stands before a name is replaced on its own. -/
theorem replace_append_braced (apart : opening ≠ closing) (hm : opening ∉ m)
    (text front back : List α) :
    replace (braced opening closing m) text (front ++ braced opening closing n ++ back) =
      replace (braced opening closing m) text front ++
        replace (braced opening closing m) text (braced opening closing n ++ back) := by
  have once : opening ∉ m ++ [closing] := by simp [hm, apart]
  rw [List.append_assoc, braced_append]
  exact replace_append once text front (n ++ closing :: back)

/-- The replacement of one name leaves the others standing. -/
theorem infix_replace (apart : opening ≠ closing) (hm : Bare opening closing m)
    (hn : Bare opening closing n) (other : m ≠ n) {host : List α}
    (stands : braced opening closing n <:+: host) :
    braced opening closing n <:+: replace (braced opening closing m) text host := by
  obtain ⟨front, back, rfl⟩ := stands
  rw [replace_append_braced apart hm.opening, replace_braced apart hm hn, if_neg other,
    ← List.append_assoc]
  exact List.infix_append _ _ _

/-- The replacement of a name that stands in a text brings the new text in. -/
theorem mem_replace_braced (apart : opening ≠ closing) (hm : opening ∉ m) (brought : c ∈ text)
    {host : List α} (stands : braced opening closing m <:+: host) :
    c ∈ replace (braced opening closing m) text host := by
  obtain ⟨front, back, rfl⟩ := stands
  rw [replace_append_braced apart hm, replace_found braced_ne_nil]
  exact List.mem_append_right _ (List.mem_append_left _ brought)

end ShardStore.Host
