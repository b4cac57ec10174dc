/-
# ShardStore.Binary64.Basic -- finite double-precision numbers, exactly

A magnitude is `significand * 2 ^ scale / 2 ^ 1074`, with a significand below
`2 ^ 53` and a scale of at most 2045.  A magnitude that is not at the lowest scale
has a significand of at least `2 ^ 52`, so two magnitudes of one value are equal.
A number is a magnitude with a sign, and zero has both signs.

All arithmetic goes through `Magnitude.ofRatio?`, which rounds an exact quotient to
the nearest magnitude, a tie to the even significand, and gives `none` past the
largest magnitude.
-/

namespace ShardStore.Binary64

set_option autoImplicit false

/-- A finite double without its sign. -/
structure Magnitude where
  significand : Nat
  scale : Nat
  significand_lt : significand < 0x20000000000000
  scale_le : scale ≤ 2045
  normal : scale = 0 ∨ 0x10000000000000 ≤ significand
deriving DecidableEq

/-! ## Rounding -/

/-- The natural number nearest to `num / den`, a tie going to the even one. -/
def roundDiv (num den : Nat) : Nat :=
  let q := num / den
  let r := num % den
  if 2 * r < den ∨ (2 * r = den ∧ q % 2 = 0) then q else q + 1

theorem roundDiv_eq_or (num den : Nat) :
    roundDiv num den = num / den ∨ roundDiv num den = num / den + 1 := by
  simp only [roundDiv]; split <;> simp

/-- A power of ten. -/
def tens (n : Nat) : Nat := Nat.pow 10 n

/-- The scale at which a quotient of `q` lowest units has a 53-bit significand. -/
def scaleOf (q : Nat) : Nat := q.log2 - 52

theorem le_shiftRight_scaleOf {q : Nat} (h : scaleOf q ≠ 0) : 0x10000000000000 ≤ q >>> scaleOf q := by
  have hq : q ≠ 0 := by rintro rfl; exact h (by decide)
  rw [Nat.shiftRight_eq_div_pow, Nat.le_div_iff_mul_le (Nat.two_pow_pos _)]
  calc 0x10000000000000 * 2 ^ scaleOf q = 2 ^ (52 + scaleOf q) := (Nat.pow_add 2 52 _).symm
    _ = 2 ^ q.log2 := by congr 1; unfold scaleOf at h ⊢; omega
    _ ≤ q := Nat.log2_self_le hq

theorem le_roundDiv_scaleOf {units den : Nat} (h : scaleOf (units / den) ≠ 0) :
    0x10000000000000 ≤ roundDiv units (den <<< scaleOf (units / den)) := by
  have hle := le_shiftRight_scaleOf h
  rw [Nat.shiftRight_eq_div_pow, Nat.div_div_eq_div_mul, ← Nat.shiftLeft_eq] at hle
  rcases roundDiv_eq_or units (den <<< scaleOf (units / den)) with e | e <;> omega

/-- The magnitude nearest to `num / den`; `none` if it would be infinite. -/
def Magnitude.ofRatio? (num den : Nat) : Option Magnitude :=
  let units := num <<< 1074
  let scale := scaleOf (units / den)
  let rounded := roundDiv units (den <<< scale)
  if hm : rounded < 0x20000000000000 then
    if hs : scale ≤ 2045 then
      some {
        significand := rounded
        scale
        significand_lt := hm
        scale_le := hs
        normal := by
          by_cases h : scaleOf (units / den) = 0
          · exact .inl h
          · exact .inr (le_roundDiv_scaleOf h) }
    else none
  else
    if hs : scale + 1 ≤ 2045 then
      some {
        significand := 0x10000000000000
        scale := scale + 1
        significand_lt := by decide
        scale_le := hs
        normal := .inr (Nat.le_refl _) }
    else none

/-! ## Arithmetic -/

namespace Magnitude

def zero : Magnitude where
  significand := 0
  scale := 0
  significand_lt := by decide
  scale_le := by decide
  normal := .inl rfl

def isZero (x : Magnitude) : Bool := x.significand = 0

/-- The value as a multiple of the lowest unit. -/
def units (x : Magnitude) : Nat := x.significand <<< x.scale

def mul? (x y : Magnitude) : Option Magnitude := ofRatio? (x.units * y.units) (1 <<< 2148)

/-- The quotient; `y` is not zero. -/
def div? (x y : Magnitude) : Option Magnitude := ofRatio? x.units y.units

/-- The magnitude nearest to a power of ten. -/
def powerOfTen? (n : Nat) : Option Magnitude := ofRatio? (tens n) 1

end Magnitude

end ShardStore.Binary64

namespace ShardStore

/-- A finite double-precision number. -/
structure Binary64 where
  negative : Bool
  magnitude : Binary64.Magnitude
deriving DecidableEq

end ShardStore
