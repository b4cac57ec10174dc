/-
# ShardStore.Url.Host -- the hosts of URLs

A host between square brackets is an IPv6 address.  In the well-known schemes any other
host is a domain name with percent escapes, and a name whose last label is a number is
an IPv4 address: up to four numbers in decimal, octal or hex, of which the last fills
the bytes that are left.  In other schemes the host is opaque: only a few characters are
not allowed.
-/
import ShardStore.Url.Domain

namespace ShardStore.Url

set_option autoImplicit false

/-- Why a text is no URL. -/
inductive Fault where
  | relative
  | emptyHost
  | domain
  | port
  | ipv4
  | ipv6
  | character
deriving DecidableEq, Repr

def Fault.message : Fault → String
  | .relative => "relative URL without a base"
  | .emptyHost => "empty host"
  | .domain => "invalid international domain name"
  | .port => "invalid port number"
  | .ipv4 => "invalid IPv4 address"
  | .ipv6 => "invalid IPv6 address"
  | .character => "invalid domain character"

/-! ## IPv4 -/

namespace Ipv4

def isOctal (c : Char) : Bool := '0' ≤ c && c ≤ '7'

def isHex (c : Char) : Bool := c.isDigit || ('a' ≤ c && c ≤ 'f') || ('A' ≤ c && c ≤ 'F')

def hexValue (c : Char) : Nat :=
  if c.isDigit then c.toNat - '0'.toNat
  else if c.isLower then c.toNat - 'a'.toNat + 10
  else c.toNat - 'A'.toNat + 10

def valueOf (base : Nat) (cs : List Char) : Nat := cs.foldl (fun n c => base * n + hexValue c) 0

/-- The number that a label spells. -/
def number? : List Char → Option Nat
  | [] => none
  | '0' :: 'x' :: cs | '0' :: 'X' :: cs => if cs.all isHex then some (valueOf 16 cs) else none
  | '0' :: c :: cs => if (c :: cs).all isOctal then some (valueOf 8 (c :: cs)) else none
  | cs => if cs.all Char.isDigit then some (valueOf 10 cs) else none

/-- The labels, without an empty one at the end. -/
def labels (name : List Char) : List (List Char) :=
  let all := name.splitOn '.'
  if all.getLast? = some [] then all.dropLast else all

/-- Is the last label a number? -/
def looksNumeric (name : List Char) : Bool :=
  match (labels name).getLast? with
  | none | some [] => false
  | some last => last.all Char.isDigit || (number? last).isSome

/-- Are the labels an address? -/
def isAddress (name : List Char) : Bool :=
  match (labels name).mapM number? with
  | none => false
  | some numbers =>
    numbers.length ≤ 4 && numbers.dropLast.all (· < 256)
      && numbers.getLast?.any (· < 1 <<< (8 * (5 - numbers.length)))

end Ipv4

/-! ## IPv6 -/

namespace Ipv6

/-- A decimal byte without needless zeros. -/
def isByte (cs : List Char) : Bool :=
  cs ≠ [] && cs.all Char.isDigit && (cs.length = 1 || cs.head? ≠ some '0') && cs.length ≤ 3
    && Ipv4.valueOf 10 cs < 256

/-- An IPv4 address in its usual form. -/
def isDotted (cs : List Char) : Bool :=
  let parts := cs.splitOn '.'
  parts.length = 4 && parts.all isByte

/-- Reads pieces of up to four hex digits: whether the text is an address, given how many
pieces came before and whether a gap was seen.  The fuel is the text's length. -/
def pieces : Nat → Nat → Bool → List Char → Bool
  | _, count, gap, [] => gap || count = 8
  | 0, _, _, _ => false
  | fuel + 1, count, gap, c :: rest =>
    if count = 8 then false
    else if c = ':' then !gap && pieces fuel (count + 1) true rest
    else
      let text := c :: rest
      let digits := (text.take 4).takeWhile Ipv4.isHex
      match text.drop digits.length with
      | [] => gap || count + 1 = 8
      | d :: more =>
        if d = '.' then digits ≠ [] && count ≤ 6 && isDotted text && (gap || count + 2 = 8)
        else if d = ':' then more ≠ [] && pieces fuel (count + 1) gap more
        else false

def isAddress (cs : List Char) : Bool :=
  match cs with
  | ':' :: ':' :: rest => pieces (rest.length + 1) 1 true rest
  | ':' :: _ => false
  | _ => cs.length ≥ 2 && pieces (cs.length + 1) 0 false cs

end Ipv6

/-! ## Hosts -/

/-- Checks an address between brackets. -/
def bracketed (host : List Char) : Except Fault Unit :=
  if host.getLast? = some ']' ∧ Ipv6.isAddress (host.drop 1).dropLast then .ok ()
  else .error .ipv6

/-- The plain form of the host of a well-known scheme. -/
def plainHost (host : List Char) : Except Fault (List Char) :=
  if host.head? = some '[' then (bracketed host).map fun _ => host
  else
    match Domain.ofBytes? (Text.Percent.decode (Text.Utf8.encode host)) with
    | none => .error .domain
    | some [] => .error .emptyHost
    | some name =>
      if Ipv4.looksNumeric name ∧ ¬ Ipv4.isAddress name then .error .ipv4 else .ok name

/-- The characters that no opaque host holds. -/
def isForbiddenInOpaque (c : Char) : Bool :=
  c ∈ ['\x00', '\t', '\n', '\r', ' ', '#', '/', ':', '<', '>', '?', '@', '[', '\\', ']', '^', '|']

/-- Checks the host of any other scheme. -/
def checkOpaque (host : List Char) : Except Fault Unit :=
  if host.head? = some '[' then bracketed host
  else if host.any isForbiddenInOpaque then .error .character
  else .ok ()

end ShardStore.Url
