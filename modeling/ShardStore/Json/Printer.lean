/-
# ShardStore.Json.Printer -- the text of a JSON value

Text is compact: no white space, fields in the order of the object.  In a string
only the quote, the backslash and the control characters below U+0020 are escaped.
An integer is its decimal digits.  A double has its shortest digits, written out
when the leading digit stands at a decimal exponent from -5 to 15, with at least one
digit on each side of the point, and with a signed exponent otherwise.

The text of nested values is collected in reverse (`Value.textOnto`), so that its
length does not nest calls.
-/
import ShardStore.Json.Value
import ShardStore.Binary64.Shortest
import ShardStore.Text.Utf8

namespace ShardStore.Json

set_option autoImplicit false

/-! ## Strings -/

/-- The characters that stand for one character inside quotes. -/
def escape (c : Char) : List Char :=
  if c = '"' then ['\\', '"']
  else if c = '\\' then ['\\', '\\']
  else if c = '\n' then ['\\', 'n']
  else if c = '\r' then ['\\', 'r']
  else if c = '\t' then ['\\', 't']
  else if c = '\x08' then ['\\', 'b']
  else if c = '\x0c' then ['\\', 'f']
  else if c.toNat < 0x20 then
    ['\\', 'u', '0', '0', Nat.digitChar (c.toNat / 16), Nat.digitChar (c.toNat % 16)]
  else [c]

/-- A string between quotes. -/
def quote (s : String) : List Char := '"' :: (s.toList.flatMap escape ++ ['"'])

/-! ## Numbers -/

def integerText (n : Int) : List Char :=
  if n < 0 then '-' :: Nat.toDigits 10 n.natAbs else Nat.toDigits 10 n.natAbs

/-- Decimal digits whose first stands at `exponent`. -/
def decimalText (digits : List Char) (exponent : Int) : List Char :=
  let zeros (n : Nat) := List.replicate n '0'
  if -5 ≤ exponent ∧ exponent ≤ 15 then
    if 0 ≤ exponent then
      let whole := exponent.toNat + 1
      let fraction := digits.drop whole
      digits.take whole ++ zeros (whole - digits.length) ++
        '.' :: (if fraction.isEmpty then ['0'] else fraction)
    else
      '0' :: '.' :: (zeros ((-exponent).toNat - 1) ++ digits)
  else
    let significand :=
      match digits with
      | [] => []
      | [d] => [d]
      | d :: rest => d :: '.' :: rest
    significand ++ 'e' :: (if exponent < 0 then '-' else '+') :: Nat.toDigits 10 exponent.natAbs

def floatText (x : Binary64) : List Char :=
  let shortest := x.magnitude.shortest
  let digits := Nat.toDigits 10 shortest.digits
  let text := decimalText digits (shortest.exponent + (digits.length - 1 : Nat))
  if x.negative then '-' :: text else text

def Number.text : Number → List Char
  | .integer n _ _ => integerText n
  | .float x => floatText x

/-! ## Values -/

def boolText (b : Bool) : List Char :=
  if b then ['t', 'r', 'u', 'e'] else ['f', 'a', 'l', 's', 'e']

mutual

/-- The text of a value, reversed, in front of `acc`. -/
def Value.textOnto (acc : List Char) : Value → List Char
  | .null => 'l' :: 'l' :: 'u' :: 'n' :: acc
  | .bool b => (boolText b).reverseAux acc
  | .number n => n.text.reverseAux acc
  | .string s => (quote s).reverseAux acc
  | .array [] => ']' :: '[' :: acc
  | .array (v :: vs) => ']' :: itemsOnto (v.textOnto ('[' :: acc)) vs
  | .object [] => '\x7d' :: '\x7b' :: acc
  | .object ((k, v) :: fs) =>
    '\x7d' :: fieldsOnto (v.textOnto (':' :: (quote k).reverseAux ('\x7b' :: acc))) fs

/-- The items behind the first. -/
def itemsOnto (acc : List Char) : List Value → List Char
  | [] => acc
  | v :: vs => itemsOnto (v.textOnto (',' :: acc)) vs

/-- The fields behind the first. -/
def fieldsOnto (acc : List Char) : List (String × Value) → List Char
  | [] => acc
  | (k, v) :: fs => fieldsOnto (v.textOnto (':' :: (quote k).reverseAux (',' :: acc))) fs

end

/-- The compact text of a value. -/
def Value.text (v : Value) : List Char := (v.textOnto []).reverse

/-- The compact text of a value as bytes. -/
def Value.bytes (v : Value) : List UInt8 := Text.Utf8.encode v.text

end ShardStore.Json
