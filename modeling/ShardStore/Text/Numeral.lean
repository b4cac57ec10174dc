/-
# ShardStore.Text.Numeral -- decimal numerals with a bound

A numeral is a nonempty run of decimal digits, after an optional sign where signs
are allowed.  It is read from the left and the first fault met is reported: a
character that is no digit, or the digit that carries the value past the bound.

* `natural` reads an unsigned numeral, `integer` a signed 64-bit one;
* `render` writes a number in the form that `natural` reads.
-/

namespace ShardStore.Text.Numeral

set_option autoImplicit false

inductive Fault where
  | empty
  | badDigit
  | tooLarge
  | tooSmall
deriving DecidableEq, Repr

def Fault.message : Fault → String
  | .empty => "cannot parse integer from empty string"
  | .badDigit => "invalid digit found in string"
  | .tooLarge => "number too large to fit in target type"
  | .tooSmall => "number too small to fit in target type"

/-- Reads the digits on from `value`; `excess` is the fault of passing `limit`. -/
def digits (limit : Nat) (excess : Fault) : Nat → List Char → Except Fault Nat
  | value, [] => .ok value
  | value, c :: rest =>
    if c.isDigit then
      let next := 10 * value + (c.toNat - '0'.toNat)
      if next ≤ limit then digits limit excess next rest else .error excess
    else .error .badDigit

/-- At least one digit. -/
def unsigned (limit : Nat) (excess : Fault) : List Char → Except Fault Nat
  | [] => .error .badDigit
  | cs => digits limit excess 0 cs

/-- An unsigned numeral of at most `limit`; a leading plus is allowed. -/
def natural (limit : Nat) : List Char → Except Fault Nat
  | [] => .error .empty
  | '+' :: cs => unsigned limit .tooLarge cs
  | cs => unsigned limit .tooLarge cs

/-- A signed numeral in the range of 64-bit integers. -/
def integer : List Char → Except Fault Int
  | [] => .error .empty
  | '+' :: cs => (unsigned 0x7FFFFFFFFFFFFFFF .tooLarge cs).map Int.ofNat
  | '-' :: cs => (unsigned 0x8000000000000000 .tooSmall cs).map fun n => -Int.ofNat n
  | cs => (unsigned 0x7FFFFFFFFFFFFFFF .tooLarge cs).map Int.ofNat

def render (n : Nat) : List Char := Nat.toDigits 10 n

end ShardStore.Text.Numeral
