/-
# ShardStore.Json.Number -- why a text is refused, and reading numbers

A text can end too early, break the grammar (numbers out of range, nesting past the
limit and text behind the value count as that), or hold a value of another shape
than the reader wants.  The first fault in reading order is the one reported.

A number is a sign, an integer part without needless zeros, and optionally a
fraction and an exponent.  Its digits are collected into a significand for as long
as that stays below `2 ^ 64`: later digits of the integer part count in the exponent
of ten, later digits of the fraction not at all.  Without fraction, exponent and
dropped digits the number is an integer if it fits 64 bits, minus zero excepted.

Every other number is a double, computed with one rounding for the significand and
one for its product with, or quotient by, a power of ten up to `10 ^ 308`; a smaller
power is reached by dividing by `10 ^ 308` first.  An infinite result is refused.
-/
import ShardStore.Json.Value

namespace ShardStore.Json

set_option autoImplicit false

/-! ## Faults -/

inductive Fault where
  | truncated
  | malformed
  | shape (message : String)
deriving DecidableEq, Repr

/-- Reads something at the head of a text and hands on the rest. -/
abbrev Reader (α : Type) : Type := List UInt8 → Except Fault (α × List UInt8)

/-! ## Doubles from a significand and a power of ten -/

open Binary64 (Magnitude)

/-- Divides by `10 ^ e` in steps of at most `10 ^ 308`. -/
def divideByTens (x : Magnitude) : Nat → Nat → Option Magnitude
  | 0, e => Magnitude.powerOfTen? e >>= x.div?
  | steps + 1, e =>
    if x.isZero then some x
    else do
      let y ← Magnitude.powerOfTen? 308 >>= x.div?
      divideByTens y steps (e - 308)

/-- The double for `significand * 10 ^ exponent`; `none` if it is infinite. -/
def doubleOf? (significand : Nat) (exponent : Int) : Option Magnitude := do
  let x ← Magnitude.ofRatio? significand 1
  if 0 ≤ exponent then
    if x.isZero then some x
    else if exponent ≤ 308 then Magnitude.powerOfTen? exponent.toNat >>= x.mul?
    else none
  else
    let e := (-exponent).toNat
    divideByTens x ((e - 1) / 308) e

/-! ## Digits -/

def isDigit (b : UInt8) : Bool := 0x30 ≤ b && b ≤ 0x39

def digitValue (b : UInt8) : Nat := b.toNat - 0x30

/-- Collects digits while the significand stays below `2 ^ 64`: the significand, how many
digits were taken, and the rest. -/
def collect : Nat → Nat → List UInt8 → Nat × Nat × List UInt8
  | significand, taken, [] => (significand, taken, [])
  | significand, taken, b :: rest =>
    let next := 10 * significand + digitValue b
    if isDigit b ∧ next < 0x10000000000000000 then collect next (taken + 1) rest
    else (significand, taken, b :: rest)

/-- The value of exponent digits, held at a bound past which it makes no difference. -/
def exponentValue (digits : List UInt8) : Nat :=
  digits.foldl (fun n b => min (10 * n + digitValue b) 0x10000000000) 0

/-! ## Numbers -/

def refuseOr {α : Type} (rest : List UInt8) : Option α → Except Fault (α × List UInt8)
  | some a => .ok (a, rest)
  | none => .error .malformed

def float (negative : Bool) (significand : Nat) (exponent : Int) : Reader Number := fun rest =>
  refuseOr rest ((doubleOf? significand exponent).map fun x => .float ⟨negative, x⟩)

/-- Reads on behind `e`. -/
def exponentPart (negative : Bool) (significand : Nat) (exponent : Int) : Reader Number
  | [] => .error .truncated
  | b :: rest =>
    let down := b = 0x2D
    let unsigned := if b = 0x2B ∨ down then rest else b :: rest
    match unsigned with
    | [] => .error .truncated
    | d :: _ =>
      if isDigit d then
        let e := Int.ofNat (exponentValue (unsigned.takeWhile isDigit))
        float negative significand (if down then exponent - e else exponent + e)
          (unsigned.dropWhile isDigit)
      else .error .malformed

/-- Reads an exponent if there is one. -/
def scaled (negative : Bool) (significand : Nat) (exponent : Int) : Reader Number
  | [] => float negative significand exponent []
  | b :: rest =>
    if b = 0x65 ∨ b = 0x45 then exponentPart negative significand exponent rest
    else float negative significand exponent (b :: rest)

/-- Reads on behind the point. -/
def fraction (negative : Bool) (significand : Nat) (exponent : Int) : Reader Number
  | [] => .error .truncated
  | b :: rest =>
    if isDigit b then
      let (significand, taken, rest) := collect significand 0 (b :: rest)
      scaled negative significand (exponent - taken) (rest.dropWhile isDigit)
    else .error .malformed

/-- A number of nothing but an integer part that fits the significand. -/
def whole (negative : Bool) (n : Nat) : Option Number :=
  if negative then
    if h : 0 < n ∧ n ≤ 0x8000000000000000 then some (.integer (-(n : Int)) (by omega) (by omega))
    else (doubleOf? n 0).map fun x => .float ⟨true, x⟩
  else if h : n < 0x10000000000000000 then some (.integer n (by omega) (by omega))
  else none

/-- Reads a number behind its sign. -/
def unsignedNumber (negative : Bool) : Reader Number
  | [] => .error .truncated
  | b :: rest =>
    if ¬ isDigit b then .error .malformed
    else
      let (significand, _, rest) :=
        if b = 0x30 then (0, 1, rest) else collect (digitValue b) 1 rest
      let dropped := rest.takeWhile isDigit
      if b = 0x30 ∧ ¬ dropped.isEmpty then .error .malformed
      else
        match rest.dropWhile isDigit with
        | [] =>
          if dropped.isEmpty then refuseOr [] (whole negative significand)
          else float negative significand dropped.length []
        | p :: behind =>
          if p = 0x2E then fraction negative significand dropped.length behind
          else if p = 0x65 ∨ p = 0x45 then
            exponentPart negative significand dropped.length behind
          else if dropped.isEmpty then refuseOr (p :: behind) (whole negative significand)
          else float negative significand dropped.length (p :: behind)

end ShardStore.Json
