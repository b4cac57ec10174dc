/-
# ShardStore.Proofs.Text.Numeral -- written numerals are read back

A numeral begins with zero only for zero, has nothing but digits, and is read as the
number it was written for, if the reader's bound allows that number (`natural_render`).
-/
import Mathlib.Tactic.IntervalCases
import ShardStore.Text.Numeral

namespace ShardStore.Text.Numeral

set_option autoImplicit false

/-! ## The digits of a number -/

/-- A numeral begins with zero only for zero. -/
theorem toDigits_eq_cons (n : Nat) :
    ∃ d ds, Nat.toDigits 10 n = d :: ds ∧ (d = '0' → n = 0 ∧ ds = []) := by
  induction n using Nat.strongRecOn with
  | _ n ih =>
    by_cases small : n < 10
    · refine ⟨Nat.digitChar n, [], Nat.toDigits_of_lt_base small, fun zero => ⟨?_, rfl⟩⟩
      interval_cases n <;> first | rfl | exact absurd zero (by decide)
    · obtain ⟨d, ds, digits, leading⟩ := ih (n / 10) (by omega)
      refine ⟨d, ds ++ [Nat.digitChar (n % 10)], ?_, fun zero => ?_⟩
      · rw [Nat.toDigits_of_base_le (by decide) (by omega), digits]
        rfl
      · have := (leading zero).1
        omega

theorem isDigit_of_mem_toDigits {n : Nat} {c : Char} (h : c ∈ Nat.toDigits 10 n) : c.isDigit :=
  Nat.isDigit_of_mem_toDigits (by decide) (by decide) h

theorem toDigits_injective : Function.Injective (Nat.toDigits 10) := by
  intro a b same
  rw [← Nat.ofDigitChars_ten_toDigits (n := a), same, Nat.ofDigitChars_ten_toDigits]

/-! ## Reading digits -/

theorem le_ofDigitChars (cs : List Char) (n : Nat) : n ≤ Nat.ofDigitChars 10 cs n := by
  induction cs generalizing n with
  | nil => simp
  | cons c cs ih =>
    rw [Nat.ofDigitChars_cons]
    have := ih (10 * n + (c.toNat - '0'.toNat))
    omega

theorem digits_ofDigitChars {limit : Nat} {excess : Fault} {cs : List Char}
    (h : ∀ c ∈ cs, c.isDigit) (value : Nat) (fits : Nat.ofDigitChars 10 cs value ≤ limit) :
    digits limit excess value cs = .ok (Nat.ofDigitChars 10 cs value) := by
  induction cs generalizing value with
  | nil => rw [digits, Nat.ofDigitChars_nil]
  | cons c cs ih =>
    rw [Nat.ofDigitChars_cons] at fits ⊢
    have below := Nat.le_trans (le_ofDigitChars cs _) fits
    simp only [digits, h c List.mem_cons_self, if_true, below]
    exact ih (fun x hx => h x (List.mem_cons_of_mem _ hx)) _ fits

/-- A written number is read back. -/
theorem natural_render {limit n : Nat} (fits : n ≤ limit) : natural limit (render n) = .ok n := by
  obtain ⟨d, ds, written, -⟩ := toDigits_eq_cons n
  have allDigits : ∀ c ∈ d :: ds, c.isDigit := fun c member =>
    isDigit_of_mem_toDigits (n := n) (written ▸ member)
  have noSign : d ≠ '+' := by
    rintro rfl
    exact absurd (allDigits _ List.mem_cons_self) (by decide)
  have value : Nat.ofDigitChars 10 (d :: ds) 0 = n := by
    rw [← written, Nat.ofDigitChars_ten_toDigits]
  have read : digits limit .tooLarge 0 (d :: ds) = .ok n := by
    rw [digits_ofDigitChars allDigits 0 (by rw [value]; exact fits), value]
  rw [render, written, natural.eq_def]
  split
  · rename_i nothing
    cases nothing
  · rename_i sign
    cases sign
    exact absurd rfl noSign
  · exact read

end ShardStore.Text.Numeral
