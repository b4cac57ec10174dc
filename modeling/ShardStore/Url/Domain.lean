/-
# ShardStore.Url.Domain -- domain names

A domain name is UTF-8 text.  Its plain form has every character replaced by what it
stands for, and marks joined to the characters before them.  The plain form is cut into
labels at dots.  Each of its characters must be allowed, no label may begin with a mark,
joiners must stand where they may, and labels must keep to one direction if the name is
bidirectional.

A label that begins with `xn--` holds other characters in code: it must decode to a label
with a character beyond ASCII that is its own plain form and well-formed itself.
-/
import ShardStore.Text.Composed
import ShardStore.Text.Percent
import ShardStore.Text.Utf8
import ShardStore.Url.Bootstring
import ShardStore.Url.Direction
import ShardStore.Url.Joining

namespace ShardStore.Url.Domain

set_option autoImplicit false

def isAscii (cs : List Char) : Bool := cs.all (·.toNat < 0x80)

/-- The plain form of a text. -/
def plainForm (cs : List Char) : List Char := Text.Composed.text (cs.flatMap plain)

/-! ## Labels -/

/-- A label beyond ASCII has at most this many characters. -/
def lengthLimit : Nat := 1000

/-- A label in code has at most this many characters behind its mark. -/
def codeLimit : Nat := 2000

def isWellFormed (label : List Char) : Bool :=
  isAscii label
    || label.length ≤ lengthLimit && !label.head?.any isMark && joinersHold [] label

/-- The characters of a label, decoded if it is in code; `none` for a bad code. -/
def decoded? : List Char → Option (List Char)
  | 'x' :: 'n' :: '-' :: '-' :: code => do
    let cs ← if isAscii code && code.length ≤ codeLimit then Bootstring.decode? code else none
    if !isAscii cs && cs.all isAllowed && plainForm cs == cs then some cs else none
  | label => some label

/-! ## Names -/

/-- The plain form of the domain name that bytes spell. -/
def ofBytes? (bytes : List UInt8) : Option (List Char) := do
  let name := plainForm (← Text.Utf8.decode? bytes)
  let labels ← (name.splitOn '.').mapM decoded?
  if name.all isAllowed && labels.all isWellFormed && directionsHold labels then some name
  else none

end ShardStore.Url.Domain
