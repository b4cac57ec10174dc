/-
# ShardStore.SocketAddress -- where a server listens

An address of the internet and a port: `1.2.3.4:80`, or `[2001:db8::1]:80` with an
optional scope behind `%`.  Decimal numbers of an IPv4 address have at most three digits
and no needless zeros; ports and scopes may have them.  An IPv6 address has eight groups
of up to four hex digits, a gap in place of one group or more, and may end in an IPv4
address.  It is written with its longest run of zeros, if that is longer than one, as
the gap.
-/
import ShardStore.Url.Host

namespace ShardStore

set_option autoImplicit false

inductive SocketAddress where
  | v4 (octets : List Nat) (port : Nat)
  | v6 (groups : List Nat) (scope port : Nat)
deriving DecidableEq, Repr

namespace SocketAddress

/-! ## Reading -/

/-- Reads something at the head of a text and hands on the rest. -/
abbrev Reader (α : Type) : Type := List Char → Option (α × List Char)

open Url.Ipv4 (isHex valueOf)

/-- The character itself. -/
def mark (c : Char) : Reader Unit
  | [] => none
  | d :: rest => if d = c then some ((), rest) else none

/-- A decimal number of at most `max`, with any number of zeros before it. -/
def decimal (max : Nat) : Reader Nat := fun cs =>
  let digits := cs.takeWhile Char.isDigit
  if digits ≠ [] ∧ valueOf 10 digits ≤ max then
    some (valueOf 10 digits, cs.drop digits.length)
  else none

/-- A decimal byte of at most three digits, without needless zeros. -/
def octet : Reader Nat := fun cs =>
  let digits := cs.takeWhile Char.isDigit
  if digits.length ≤ 3 ∧ (digits.length ≤ 1 ∨ digits.head? ≠ some '0') then decimal 255 cs
  else none

/-- Up to four hex digits. -/
def group : Reader Nat := fun cs =>
  let digits := cs.takeWhile isHex
  if digits ≠ [] ∧ digits.length ≤ 4 then some (valueOf 16 digits, cs.drop digits.length)
  else none

/-- Four bytes between dots. -/
def dotted : Reader (List Nat) := fun cs => do
  let (a, cs) ← octet cs
  let (_, cs) ← mark '.' cs
  let (b, cs) ← octet cs
  let (_, cs) ← mark '.' cs
  let (c, cs) ← octet cs
  let (_, cs) ← mark '.' cs
  let (d, cs) ← octet cs
  return ([a, b, c, d], cs)

/-- Reads something behind a colon, or at once if it is the first. -/
def separated {α : Type} (first : Bool) (read : Reader α) : Reader α := fun cs =>
  if first then read cs else do
    let (_, cs) ← mark ':' cs
    read cs

/-- The groups at the head of a text, at most `limit`, and whether the last two were
written as an IPv4 address. -/
def groups (first : Bool) : Nat → List Char → List Nat × Bool × List Char
  | 0, cs => ([], false, cs)
  | limit + 1, cs =>
    match (if 0 < limit then separated first dotted cs else none) with
    | some ([a, b, c, d], rest) => ([256 * a + b, 256 * c + d], true, rest)
    | _ =>
      match separated first group cs with
      | some (g, rest) =>
        let (more, closed, rest) := groups false limit rest
        (g :: more, closed, rest)
      | none => ([], false, cs)

def ipv6 : Reader (List Nat) := fun cs => do
  let (head, closed, cs) := groups true 8 cs
  if head.length = 8 then return (head, cs)
  if closed then failure
  let (_, cs) ← mark ':' cs
  let (_, cs) ← mark ':' cs
  let (tail, _, cs) := groups true (7 - head.length) cs
  return (head ++ List.replicate (8 - head.length - tail.length) 0 ++ tail, cs)

/-- A scope, zero if none is written. -/
def scope : Reader Nat := fun cs =>
  match cs with
  | '%' :: rest => decimal 0xFFFFFFFF rest
  | _ => some (0, cs)

def address : Reader SocketAddress := fun cs => do
  match cs with
  | '[' :: cs =>
    let (groups, cs) ← ipv6 cs
    let (scope, cs) ← scope cs
    let (_, cs) ← mark ']' cs
    let (_, cs) ← mark ':' cs
    let (port, cs) ← decimal 65535 cs
    return (.v6 groups scope port, cs)
  | _ =>
    let (octets, cs) ← dotted cs
    let (_, cs) ← mark ':' cs
    let (port, cs) ← decimal 65535 cs
    return (.v4 octets port, cs)

/-- The address that a text is. -/
def ofString? (s : String) : Option SocketAddress :=
  match address s.toList with
  | some (a, []) => some a
  | _ => none

/-! ## Writing -/

def dottedText (octets : List Nat) : String := String.intercalate "." (octets.map toString)

/-- A group in hex. -/
def hexText (n : Nat) : String := String.ofList (Nat.toDigits 16 n)

def groupsText (groups : List Nat) : String := String.intercalate ":" (groups.map hexText)

/-- The number of zeros at the head of a list. -/
def zeros (groups : List Nat) : Nat := (groups.takeWhile (· = 0)).length

/-- The start and length of the longest run of zeros, the first of equal ones; `start` is
the place of the list's head. -/
def longestGap (start : Nat) : List Nat → Nat × Nat
  | [] => (start, 0)
  | g :: rest =>
    let here := zeros (g :: rest)
    let later := longestGap (start + 1) rest
    if here ≥ later.2 then (start, here) else later

def ipv6Text (groups : List Nat) : String :=
  match groups with
  | [0, 0, 0, 0, 0, 0xFFFF, a, b] =>
    "::ffff:" ++ dottedText [a / 256, a % 256, b / 256, b % 256]
  | _ =>
    let (start, length) := longestGap 0 groups
    if 1 < length then
      groupsText (groups.take start) ++ "::" ++ groupsText (groups.drop (start + length))
    else groupsText groups

def text : SocketAddress → String
  | .v4 octets port => s!"{dottedText octets}:{port}"
  | .v6 groups scope port =>
    if scope = 0 then s!"[{ipv6Text groups}]:{port}" else s!"[{ipv6Text groups}%{scope}]:{port}"

end SocketAddress

end ShardStore
