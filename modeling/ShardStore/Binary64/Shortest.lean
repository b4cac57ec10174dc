/-
# ShardStore.Binary64.Shortest -- the fewest digits that read back

A magnitude owns the interval of reals that round to it; the ends belong to it when
its significand is even.  On each decimal grid only the two neighbours of the value
can lie nearest, so the shortest text takes the first grid, from one digit up, on
which a neighbour lies inside, the nearer one if both do, and the even one of a tie.

All comparisons are between natural numbers: a quarter of the last binary place is
the unit, so both half-way points, and the closer one below a power of two, are whole.
-/
import ShardStore.Binary64.Basic

namespace ShardStore.Binary64

set_option autoImplicit false

/-- The number `digits * 10 ^ exponent`. -/
structure Decimal where
  digits : Nat
  exponent : Int
deriving DecidableEq, Repr

/-- Drops the zeros at the end of a list of digits, at most `count` of them. -/
def Decimal.normalize : Nat → Decimal → Decimal
  | 0, d => d
  | n + 1, d =>
    if d.digits ≠ 0 ∧ d.digits % 10 = 0 then
      normalize n ⟨d.digits / 10, d.exponent + 1⟩
    else d

namespace Magnitude

/-! ## The interval, in quarters of the last place -/

def low (x : Magnitude) : Nat :=
  4 * x.significand - if x.significand = 0x10000000000000 ∧ x.scale ≠ 0 then 1 else 2

def high (x : Magnitude) : Nat := 4 * x.significand + 2

/-- The size of a quarter of the last place, over `10 ^ exponent`, as a quotient. -/
def quarter (x : Magnitude) (exponent : Int) : Nat × Nat :=
  (tens (-exponent).toNat <<< x.scale, tens exponent.toNat <<< 1076)

/-- Does `n * 10 ^ exponent` read back as `x`? -/
def owns (x : Magnitude) (exponent : Int) (n : Nat) : Bool :=
  let (num, den) := x.quarter exponent
  if x.significand % 2 = 0 then
    x.low * num ≤ n * den && n * den ≤ x.high * num
  else
    x.low * num < n * den && n * den < x.high * num

/-- The neighbour of `x` on the grid of `10 ^ exponent` that reads back, if any. -/
def onGrid? (x : Magnitude) (exponent : Int) : Option Decimal :=
  let (num, den) := x.quarter exponent
  let value := 4 * x.significand * num
  let below := value / den
  let above := below + 1
  match x.owns exponent below, x.owns exponent above with
  | true, true =>
    let nearest := roundDiv value den
    some ⟨if nearest = below then below else above, exponent⟩
  | true, false => some ⟨below, exponent⟩
  | false, true => some ⟨above, exponent⟩
  | false, false => none

/-! ## The size of a value -/

/-- How many times `num` has to be multiplied by ten to reach `den`, counted from `n`. -/
def shortfall : Nat → Nat → Nat → Nat → Nat
  | 0, n, _, _ => n
  | fuel + 1, n, num, den => if den ≤ num then n else shortfall fuel (n + 1) (10 * num) den

/-- The exponent of the leading decimal digit of a magnitude other than zero. -/
def leading (x : Magnitude) : Int :=
  let den := 1 <<< 1074
  if den ≤ x.units then Int.ofNat ((Nat.toDigits 10 (x.units / den)).length - 1)
  else -Int.ofNat (shortfall 400 0 x.units den)

/-- The shortest decimal that reads back as `x`, without zeros at its end. -/
def shortest (x : Magnitude) : Decimal :=
  if x.isZero then ⟨0, 0⟩
  else
    let grids := (List.range 17).map fun n : Nat => x.leading - (n : Int)
    ((grids.findSome? x.onGrid?).getD ⟨0, 0⟩).normalize 17

end Magnitude

end ShardStore.Binary64
