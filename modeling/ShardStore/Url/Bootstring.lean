/-
# ShardStore.Url.Bootstring -- the code of labels beyond ASCII

A label in code holds its ASCII characters first, then a hyphen, then digits; without
ASCII characters there are only digits.  They are numbers of variable length in base 36,
one for each other character in the order of code points: how far to go on, counting a
step for each place in the text at each code point.  After each number the weights of
the digits of the next are set by a bias.
-/

namespace ShardStore.Url.Bootstring

set_option autoImplicit false

/-- The value of a digit: letters from 0, decimal digits from 26. -/
def digit? (c : Char) : Option Nat :=
  if c.isLower then some (c.toNat - 'a'.toNat)
  else if c.isUpper then some (c.toNat - 'A'.toNat)
  else if c.isDigit then some (c.toNat - '0'.toNat + 26)
  else none

/-- Brings a delta into the range of the bias; the fuel bounds the divisions. -/
def damp : Nat → Nat → Nat → Nat
  | 0, k, delta => k + 36 * delta / (delta + 38)
  | fuel + 1, k, delta =>
    if delta > 455 then damp fuel (k + 36) (delta / 35) else k + 36 * delta / (delta + 38)

/-- The bias after a delta that made a text of `length` characters. -/
def adapt (delta length : Nat) (first : Bool) : Nat :=
  let delta := if first then delta / 700 else delta / 2
  damp 64 0 (delta + delta / length)

/-- A decoder between two digits: the code point and place reached, the bias, the
characters so far, and the open number: its start, its weight and its digit's position. -/
structure State where
  code : Nat := 128
  place : Nat := 0
  bias : Nat := 72
  out : List Nat
  start : Nat := 0
  weight : Nat := 1
  position : Nat := 36

/-- Places and weights stay below this. -/
def bound : Nat := 0x100000000

def State.push (s : State) (d : Nat) : Option State :=
  let place := s.place + d * s.weight
  let threshold := min 26 (max 1 (s.position - s.bias))
  let weight := s.weight * (36 - threshold)
  if place ≥ bound then none
  else if d < threshold then
    let length := s.out.length + 1
    let code := s.code + place / length
    let place' := place % length
    if code > 0x10FFFF ∨ (0xD800 ≤ code ∧ code ≤ 0xDFFF) then none
    else
      some {
        code
        place := place' + 1
        bias := adapt (place - s.start) length (s.start = 0)
        out := s.out.take place' ++ code :: s.out.drop place'
        start := place' + 1 }
  else if weight ≥ bound then none
  else some { s with place, weight, position := s.position + 36 }

/-- The ASCII characters and the digits of a label in code.  A hyphen in front parts
nothing. -/
def split (cs : List Char) : List Char × List Char :=
  let digits := (cs.reverse.takeWhile (· ≠ '-')).reverse
  match cs.take (cs.length - digits.length - 1) with
  | [] => ([], cs)
  | head => (head, digits)

/-- The characters that a label in code spells. -/
def decode? (cs : List Char) : Option (List Char) := do
  let (head, digits) := split cs
  let s ← (← digits.mapM digit?).foldlM State.push { out := head.map Char.toNat }
  if s.weight = 1 ∧ s.position = 36 then some (s.out.map Char.ofNat) else none

end ShardStore.Url.Bootstring
