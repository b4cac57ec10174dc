/-
# ShardStore.Proofs.Text.Trim -- text without its blank ends

Trimming drops characters of one kind from both ends of a text and no others: what is left
begins and ends with a character of another kind (`head?_strip`, `getLast?_strip`), which are the
first and the last of the text (`head?_strip_eq_find?`, `getLast?_strip_eq_find?`), a text that
begins and ends so is left alone (`strip_eq_self`), and a text of nothing else vanishes
(`trim_eq_empty`).
-/
import Mathlib.Data.List.DropRight
import ShardStore.Text.Category

namespace ShardStore.Text

set_option autoImplicit false

variable {α : Type} {p : α → Bool} {x : α} {xs : List α}

/-! ## Members -/

theorem mem_dropWhile (keep : p x = false) : x ∈ xs.dropWhile p ↔ x ∈ xs := by
  constructor
  · exact fun member => (List.dropWhile_suffix p).subset member
  · intro member
    rw [← List.takeWhile_append_dropWhile (p := p) (l := xs), List.mem_append] at member
    rcases member with front | back
    · rw [List.mem_takeWhile_imp front] at keep
      cases keep
    · exact back

theorem mem_strip (keep : p x = false) : x ∈ strip p xs ↔ x ∈ xs := by
  rw [strip, List.mem_reverse, mem_dropWhile keep, List.mem_reverse, mem_dropWhile keep]

theorem isInfix_strip (p : α → Bool) (xs : List α) : strip p xs <:+: xs :=
  (List.rdropWhile_prefix p _).isInfix.trans (List.dropWhile_suffix p).isInfix

theorem strip_subset (p : α → Bool) (xs : List α) : strip p xs ⊆ xs :=
  (isInfix_strip p xs).subset

/-- No character of another kind goes. -/
theorem filter_strip (p : α → Bool) (xs : List α) :
    (strip p xs).filter (fun x => !p x) = xs.filter fun x => !p x := by
  have front (xs : List α) : (xs.dropWhile p).filter (fun x => !p x) = xs.filter fun x => !p x := by
    induction xs with
    | nil => rfl
    | cons x xs ih => by_cases drop : p x <;> simp [drop, ih]
  rw [strip, List.filter_reverse, front, List.filter_reverse, List.reverse_reverse, front]

/-- What is behind a member of another kind does not count. -/
theorem takeWhile_append_cons (stop : p x = false) (ys : List α) :
    (xs ++ x :: ys).takeWhile p = xs.takeWhile p := by
  induction xs with
  | nil => simp [stop]
  | cons a xs ih => simp only [List.cons_append, List.takeWhile_cons, ih]

theorem dropWhile_append_cons (keep : p x = false) (ys : List α) :
    (xs ++ x :: ys).dropWhile p = xs.dropWhile p ++ x :: ys := by
  rw [List.dropWhile_append]
  split
  · rename_i nothing
    rw [List.isEmpty_iff.1 nothing, List.dropWhile_cons_of_neg (by simp [keep])]
    rfl
  · rfl

theorem strip_append_cons (keep : p x = false) (ys : List α) :
    strip p (xs ++ x :: ys) = xs.dropWhile p ++ x :: ys.rdropWhile p := by
  rw [strip, dropWhile_append_cons keep, List.reverse_append, List.reverse_cons,
    List.append_assoc, List.singleton_append, dropWhile_append_cons keep]
  simp [List.rdropWhile]

/-! ## Ends -/

theorem head?_strip : ∀ x ∈ (strip p xs).head?, p x = false := by
  intro x first
  have front : (xs.dropWhile p).head? = some x := by
    obtain ⟨rest, strips⟩ := List.head?_eq_some_iff.1 first
    obtain ⟨back, whole⟩ := List.rdropWhile_prefix p (xs.dropWhile p)
    rw [← whole, show (xs.dropWhile p).rdropWhile p = x :: rest from strips]
    rfl
  have foreign := List.head?_dropWhile_not p xs
  rw [front] at foreign
  simpa using foreign

theorem getLast?_strip : ∀ x ∈ (strip p xs).getLast?, p x = false := by
  intro x last
  rw [strip, List.getLast?_reverse] at last
  have foreign := List.head?_dropWhile_not p (xs.dropWhile p).reverse
  rw [last] at foreign
  simpa using foreign

theorem head?_eq_find? (first : ∀ x ∈ xs.head?, p x = false) :
    xs.head? = xs.find? fun x => !p x := by
  cases xs with
  | nil => rfl
  | cons x xs => simp [first x rfl]

/-- What is left goes from the first character of another kind to the last. -/
theorem head?_strip_eq_find? (p : α → Bool) (xs : List α) :
    (strip p xs).head? = xs.find? fun x => !p x := by
  rw [head?_eq_find? head?_strip, ← List.head?_filter, filter_strip, List.head?_filter]

theorem getLast?_strip_eq_find? (p : α → Bool) (xs : List α) :
    (strip p xs).getLast? = xs.reverse.find? fun x => !p x := by
  have last : ∀ x ∈ (strip p xs).reverse.head?, p x = false := by
    rw [List.head?_reverse]
    exact getLast?_strip
  rw [← List.head?_reverse, head?_eq_find? last, ← List.head?_filter, List.filter_reverse,
    filter_strip, ← List.filter_reverse, List.head?_filter]

theorem strip_eq_self (first : ∀ x ∈ xs.head?, p x = false)
    (last : ∀ x ∈ xs.getLast?, p x = false) : strip p xs = xs := by
  have front : xs.dropWhile p = xs := by
    cases xs with
    | nil => rfl
    | cons x xs => exact List.dropWhile_cons_of_neg (by simp [first x rfl])
  have back : xs.rdropWhile p = xs := List.rdropWhile_eq_self_iff.2 fun some => by
    simp [last _ (List.getLast?_eq_some_getLast some)]
  rw [strip, front]
  exact back

theorem strip_eq_nil : strip p xs = [] ↔ ∀ x ∈ xs, p x = true := by
  constructor
  · intro nothing x member
    by_contra foreign
    have left := (mem_strip (Bool.eq_false_iff.2 foreign)).2 member
    rw [nothing] at left
    cases left
  · intro all
    rw [strip, List.dropWhile_eq_nil_iff.2 all]
    rfl

/-! ## White space -/

theorem isSpace_of_isDigit {c : Char} (digit : c.isDigit = true) : isSpace c = false := by
  have between : 48 ≤ c.toNat ∧ c.toNat ≤ 57 := Char.isDigit_iff_toNat.1 digit
  simp [isSpace]
  omega

theorem toList_trim (s : String) : (trim s).toList = strip isSpace s.toList := by
  rw [trim, String.toList_ofList]

theorem trim_eq_empty {s : String} : trim s = "" ↔ isBlank s = true := by
  rw [← String.toList_eq_nil_iff, toList_trim, strip_eq_nil, isBlank, List.all_eq_true]

/-- A text whose ends are not blank is left alone. -/
theorem trim_eq_self {s : String} (first : ∀ c ∈ s.toList.head?, isSpace c = false)
    (last : ∀ c ∈ s.toList.getLast?, isSpace c = false) : trim s = s := by
  rw [trim, strip_eq_self first last, String.ofList_toList]

end ShardStore.Text
