/-
# ShardStore.Text.Table -- tables that give code points numbers

A row is for one code point, for a run of them, or for every second one of a run, and
holds the numbers that they are given.  Rows are written as text, all numbers in hex:

* `AA:61` gives U+00AA the number 0x61;
* `C0-D6:E0` is for all of U+00C0 to U+00D6, and `100/12E:101` for every second one;
* `132:69.6A` gives two numbers.
-/

namespace ShardStore.Text

set_option autoImplicit false

structure Row where
  first : Nat
  last : Nat
  step : Nat
  values : List Nat
deriving DecidableEq, Repr

namespace Row

def covers (r : Row) (n : Nat) : Bool :=
  r.first ≤ n && n ≤ r.last && (n - r.first) % r.step = 0

/-! ## Reading -/

def digit (c : Char) : Nat :=
  if c.isDigit then c.toNat - '0'.toNat else c.toNat - 'A'.toNat + 10

def number (cs : List Char) : Nat := cs.foldl (fun n c => 16 * n + digit c) 0

def isRunSign (c : Char) : Bool := c = '-' || c = '/'

def ofChars (cs : List Char) : Row :=
  let places := cs.takeWhile (· ≠ ':')
  let values := ((cs.drop (places.length + 1)).splitOn '.').map number
  let first := number (places.takeWhile (!isRunSign ·))
  match places.dropWhile (!isRunSign ·) with
  | [] => { first, last := first, step := 1, values }
  | sign :: last => { first, last := number last, step := if sign = '-' then 1 else 2, values }

end Row

abbrev Table : Type := List Row

namespace Table

/-- The table whose rows are written in lines, with single blanks between rows. -/
def ofLines (lines : List String) : Table :=
  lines.flatMap fun line => (line.toList.splitOn ' ').map Row.ofChars

/-- The row for a code point, in a table whose rows ascend. -/
def row? : Table → Nat → Option Row
  | [], _ => none
  | r :: rest, n => if n < r.first then none else if r.covers n then some r else row? rest n

end Table

end ShardStore.Text
