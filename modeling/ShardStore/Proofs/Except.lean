/-
# ShardStore.Proofs.Except -- results that are there

A result that is there was made from results that are there.
-/
import Mathlib.Data.List.Forall2

namespace ShardStore

set_option autoImplicit false

variable {ε α β : Type} {x : Except ε α}

theorem bind_eq_ok {f : α → Except ε β} {b : β} :
    (x >>= f) = .ok b ↔ ∃ a, x = .ok a ∧ f a = .ok b := by
  cases x <;> simp [bind, Except.bind]

theorem map_eq_ok {f : α → β} {b : β} : x.map f = .ok b ↔ ∃ a, x = .ok a ∧ f a = b := by
  cases x <;> simp [Except.map]

/-- A list of results is there if each of them is. -/
theorem mapM_eq_ok {f : α → Except ε β} {xs : List α} {ys : List β} :
    xs.mapM f = .ok ys ↔ List.Forall₂ (fun x y => f x = .ok y) xs ys := by
  induction xs generalizing ys with
  | nil =>
    rw [List.mapM_nil, List.forall₂_nil_left_iff]
    exact ⟨fun same => (Except.ok.inj same).symm, fun same => same ▸ rfl⟩
  | cons x xs ih =>
    rw [List.mapM_cons, bind_eq_ok, List.forall₂_cons_left_iff]
    constructor
    · rintro ⟨y, head, rest⟩
      obtain ⟨more, tail, same⟩ := bind_eq_ok.1 rest
      exact ⟨y, more, head, ih.1 tail, (Except.ok.inj same).symm⟩
    · rintro ⟨y, more, head, tail, rfl⟩
      exact ⟨y, head, bind_eq_ok.2 ⟨more, ih.2 tail, rfl⟩⟩

end ShardStore
