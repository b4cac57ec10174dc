/-
# ShardStore.Text.Utf8 -- text as bytes

A text is written as the UTF-8 bytes of its characters.  Bytes are read back one
at a time: a lead byte opens a sequence that owes continuation bytes, the first
of which is bounded so that overlong forms, surrogates and values above U+10FFFF
never begin.  A sequence that breaks off is one defect, and the byte that broke it
is read afresh as a lead byte.

* `symbols` gives the characters and defects of a byte list, in order;
* `decode?` refuses every defect, `decodeLossy` writes U+FFFD for each.
-/

namespace ShardStore.Text.Utf8

set_option autoImplicit false

/-! ## Writing -/

def encode (cs : List Char) : List UInt8 := cs.flatMap String.utf8EncodeChar

/-- The bytes of a string. -/
def bytes (s : String) : List UInt8 := encode s.toList

@[simp] theorem encode_nil : encode [] = [] := rfl

@[simp] theorem encode_cons (c : Char) (cs : List Char) :
    encode (c :: cs) = String.utf8EncodeChar c ++ encode cs := rfl

theorem encode_append (a b : List Char) : encode (a ++ b) = encode a ++ encode b := by
  simp [encode, List.flatMap_append]

/-! ## Reading -/

/-- A sequence that is still open: the bits read so far, how many continuation
bytes follow the next one, and the bounds of the next one. -/
structure Pending where
  bits : Nat
  later : Nat
  low : UInt8 := 0x80
  high : UInt8 := 0xBF

/-- What a byte means where a sequence may begin. -/
inductive Lead where
  | scalar (c : Char)
  | opens (p : Pending)
  | stray

def Lead.ofByte (b : UInt8) : Lead :=
  if b ≤ 0x7F then .scalar (Char.ofNat b.toNat)
  else if b < 0xC2 then .stray
  else if b ≤ 0xDF then .opens { bits := b.toNat % 32, later := 0 }
  else if b = 0xE0 then .opens { bits := 0, later := 1, low := 0xA0 }
  else if b = 0xED then .opens { bits := 13, later := 1, high := 0x9F }
  else if b ≤ 0xEF then .opens { bits := b.toNat % 16, later := 1 }
  else if b = 0xF0 then .opens { bits := 0, later := 2, low := 0x90 }
  else if b ≤ 0xF3 then .opens { bits := b.toNat % 8, later := 2 }
  else if b = 0xF4 then .opens { bits := 4, later := 2, high := 0x8F }
  else .stray

/-- The sequence after one more continuation byte: finished, or open still. -/
def Pending.push (p : Pending) (b : UInt8) : Char ⊕ Pending :=
  let bits := p.bits * 64 + b.toNat % 64
  match p.later with
  | 0 => .inl (Char.ofNat bits)
  | n + 1 => .inr { bits, later := n }

/-- Reads on from an open sequence, if any; the result so far is held reversed. -/
def scan : Option Pending → List (Option Char) → List UInt8 → List (Option Char)
  | none, read, [] => read.reverse
  | some _, read, [] => (none :: read).reverse
  | none, read, b :: rest =>
    match Lead.ofByte b with
    | .scalar c => scan none (some c :: read) rest
    | .opens p => scan (some p) read rest
    | .stray => scan none (none :: read) rest
  | some p, read, b :: rest =>
    if p.low ≤ b ∧ b ≤ p.high then
      match p.push b with
      | .inl c => scan none (some c :: read) rest
      | .inr q => scan (some q) read rest
    else
      match Lead.ofByte b with
      | .scalar c => scan none (some c :: none :: read) rest
      | .opens q => scan (some q) (none :: read) rest
      | .stray => scan none (none :: none :: read) rest

/-- The characters of a byte list in order, `none` for each defect. -/
def symbols (bs : List UInt8) : List (Option Char) := scan none [] bs

/-- The characters of well-formed bytes. -/
def decode? (bs : List UInt8) : Option (List Char) :=
  let read := symbols bs
  if read.all Option.isSome then some (read.filterMap id) else none

/-- Every defect becomes U+FFFD. -/
def decodeLossy (bs : List UInt8) : List Char :=
  (symbols bs).map fun c => c.getD '\uFFFD'

end ShardStore.Text.Utf8
