/-
# ShardStore.Text.Percent -- percent-encoded bytes, and query strings of them

In a path segment or a query every byte may be spelled `%XX`.  Writing leaves only
the unreserved characters (letters, digits, `-`, `.`, `_`, `~`) as they are;
reading takes any spelling, and a `%` that two hex digits do not follow is itself.

The pieces of a query string between `&` are pairs of a name and a value; an empty
piece is none.  A piece is cut at its first `=`, and without one its value is empty.
In both parts `+` is a space, then percent escapes are read, then the bytes become
text with U+FFFD for defects.
-/
import ShardStore.Text.Utf8

namespace ShardStore.Text

set_option autoImplicit false

namespace Percent

/-- The characters that never need an escape. -/
def isUnreserved (b : UInt8) : Bool :=
  (0x30 ≤ b && b ≤ 0x39) || (0x41 ≤ b && b ≤ 0x5A) || (0x61 ≤ b && b ≤ 0x7A)
    || b = 0x2D || b = 0x2E || b = 0x5F || b = 0x7E

/-- The upper-case hex digit of a number below sixteen. -/
def hexDigit (n : Nat) : UInt8 :=
  if n < 10 then UInt8.ofNat (0x30 + n) else UInt8.ofNat (0x37 + n)

/-- The number a hex digit of either case stands for. -/
def hexValue? (b : UInt8) : Option Nat :=
  if 0x30 ≤ b ∧ b ≤ 0x39 then some (b.toNat - 0x30)
  else if 0x41 ≤ b ∧ b ≤ 0x46 then some (b.toNat - 0x37)
  else if 0x61 ≤ b ∧ b ≤ 0x66 then some (b.toNat - 0x57)
  else none

def encodeByte (b : UInt8) : List UInt8 :=
  if isUnreserved b then [b] else [0x25, hexDigit (b.toNat / 16), hexDigit (b.toNat % 16)]

def encode (bs : List UInt8) : List UInt8 := bs.flatMap encodeByte

/-- The byte that two hex digits spell. -/
def pair? (h l : UInt8) : Option UInt8 :=
  match hexValue? h, hexValue? l with
  | some x, some y => some (UInt8.ofNat (16 * x + y))
  | _, _ => none

/-- Reads on behind the bytes already read, which are held reversed. -/
def decodeFrom (read : List UInt8) : List UInt8 → List UInt8
  | p :: h :: l :: rest =>
    match p == 0x25, pair? h l with
    | true, some b => decodeFrom (b :: read) rest
    | _, _ => decodeFrom (p :: read) (h :: l :: rest)
  | bs => read.reverse ++ bs

def decode (bs : List UInt8) : List UInt8 := decodeFrom [] bs

end Percent

/-! ## Query strings -/

namespace Form

/-- One part of a pair as text. -/
def text (part : List UInt8) : String :=
  String.ofList (Utf8.decodeLossy (Percent.decode (part.map fun b => if b = 0x2B then 0x20 else b)))

def pair (piece : List UInt8) : String × String :=
  (text (piece.takeWhile (· ≠ 0x3D)), text ((piece.dropWhile (· ≠ 0x3D)).drop 1))

/-- The pairs of a query string in order. -/
def pairs (query : List UInt8) : List (String × String) :=
  ((query.splitOn 0x26).filter (! ·.isEmpty)).map pair

end Form

end ShardStore.Text
