/-
# ShardStore.Json.Reader -- reading JSON values

White space is space, tab, line feed and carriage return.  Strings hold well-formed
UTF-8 without control characters below U+0020; an escape may spell any character, one
above U+FFFF as a pair of surrogates, and a surrogate without its partner is refused.
Arrays and objects nest at most 127 deep.

* `value` reads one value, `Value.read` a whole text;
* `skip` passes over a value of which only the outline is checked: it counts no
  nesting and looks at no number's size and no string's characters.
-/
import ShardStore.Json.Number
import ShardStore.Text.Utf8
import ShardStore.Text.Percent

namespace ShardStore.Json

set_option autoImplicit false

/-! ## Marks -/

def isSpace (b : UInt8) : Bool := b = 0x20 || b = 9 || b = 10 || b = 13

def skipSpace (bs : List UInt8) : List UInt8 := bs.dropWhile isSpace

/-- The given bytes and no others. -/
def literal : List UInt8 → List UInt8 → Except Fault (List UInt8)
  | [], bs => .ok bs
  | _ :: _, [] => .error .truncated
  | w :: ws, b :: bs => if b = w then literal ws bs else .error .malformed

/-- The rest of `null` behind its first letter, and so on. -/
def nullTail : List UInt8 := [0x75, 0x6C, 0x6C]
def trueTail : List UInt8 := [0x72, 0x75, 0x65]
def falseTail : List UInt8 := [0x61, 0x6C, 0x73, 0x65]

/-! ## Strings -/

/-- The code unit that four hex digits spell. -/
def codeUnit? (a b c d : UInt8) : Option Nat := do
  let a ← Text.Percent.hexValue? a
  let b ← Text.Percent.hexValue? b
  let c ← Text.Percent.hexValue? c
  let d ← Text.Percent.hexValue? d
  return 4096 * a + 256 * b + 16 * c + d

def isHighSurrogate (n : Nat) : Bool := 0xD800 ≤ n && n < 0xDC00
def isLowSurrogate (n : Nat) : Bool := 0xDC00 ≤ n && n < 0xE000

/-- The byte that a one-letter escape stands for. -/
def unescape? (b : UInt8) : Option UInt8 :=
  if b = 0x22 ∨ b = 0x5C ∨ b = 0x2F then some b
  else if b = 0x62 then some 0x08
  else if b = 0x66 then some 0x0C
  else if b = 0x6E then some 0x0A
  else if b = 0x72 then some 0x0D
  else if b = 0x74 then some 0x09
  else none

/-- Puts the bytes of a code point in front of bytes held reversed. -/
def pushCode (n : Nat) (read : List UInt8) : List UInt8 :=
  (String.utf8EncodeChar (Char.ofNat n)).reverseAux read

/-- The bytes of a string up to its closing quote, behind those read, which are held reversed. -/
def stringBytes (read : List UInt8) : Reader (List UInt8)
  | [] => .error .truncated
  | b :: rest =>
    if b = 0x22 then .ok (read.reverse, rest)
    else if b < 0x20 then .error .malformed
    else if b ≠ 0x5C then stringBytes (b :: read) rest
    else
      match rest with
      | [] => .error .truncated
      | e :: rest =>
        if e ≠ 0x75 then
          match unescape? e with
          | some c => stringBytes (c :: read) rest
          | none => .error .malformed
        else
          match rest with
          | u :: v :: w :: x :: rest =>
            match codeUnit? u v w x with
            | none => .error .malformed
            | some n =>
              if isLowSurrogate n then .error .malformed
              else if ¬ isHighSurrogate n then stringBytes (pushCode n read) rest
              else
                match rest with
                | [] => .error .truncated
                | p :: rest =>
                  if p ≠ 0x5C then .error .malformed
                  else
                    match rest with
                    | [] => .error .truncated
                    | q :: rest =>
                      if q ≠ 0x75 then .error .malformed
                      else
                        match rest with
                        | u :: v :: w :: x :: rest =>
                          match codeUnit? u v w x with
                          | none => .error .malformed
                          | some m =>
                            if isLowSurrogate m then
                              let code := 0x10000 + (n - 0xD800) * 0x400 + (m - 0xDC00)
                              stringBytes (pushCode code read) rest
                            else .error .malformed
                        | _ => .error .truncated
          | _ => .error .truncated

/-- Reads a string behind its opening quote. -/
def string : Reader String := fun bs => do
  let (read, rest) ← stringBytes [] bs
  match Text.Utf8.decode? read with
  | some cs => return (String.ofList cs, rest)
  | none => throw .malformed

/-! ## Brackets -/

/-- Where a list or an object goes on. -/
inductive Next where
  | closed (rest : List UInt8)
  | item (rest : List UInt8)

/-- Finds the next item of an array, or its end. -/
def nextItem (first : Bool) (bs : List UInt8) : Except Fault Next :=
  match skipSpace bs with
  | [] => .error .truncated
  | b :: rest =>
    if b = 0x5D then .ok (.closed rest)
    else if first then .ok (.item (b :: rest))
    else if b = 0x2C then
      match skipSpace rest with
      | [] => .error .truncated
      | c :: rest => if c = 0x5D then .error .malformed else .ok (.item (c :: rest))
    else .error .malformed

/-- Finds the name of the next field, behind its opening quote, or the end of the object. -/
def nextField (first : Bool) (bs : List UInt8) : Except Fault Next :=
  match skipSpace bs with
  | [] => .error .truncated
  | b :: rest =>
    if b = 0x7D then .ok (.closed rest)
    else if first then
      if b = 0x22 then .ok (.item rest) else .error .malformed
    else if b = 0x2C then
      match skipSpace rest with
      | [] => .error .truncated
      | c :: rest => if c = 0x22 then .ok (.item rest) else .error .malformed
    else .error .malformed

/-- The colon behind a name. -/
def colon (bs : List UInt8) : Except Fault (List UInt8) :=
  match skipSpace bs with
  | [] => .error .truncated
  | b :: rest => if b = 0x3A then .ok rest else .error .malformed

/-- The items of an array; the fuel is more than their number. -/
def items {α : Type} (item : Reader α) : Nat → Bool → List α → Reader (List α)
  | 0, _, _ => fun _ => .error .malformed
  | fuel + 1, first, read => fun bs => do
    match ← nextItem first bs with
    | .closed rest => return (read.reverse, rest)
    | .item rest =>
      let (a, rest) ← item rest
      items item fuel false (a :: read) rest

/-- The fields of an object; the fuel is more than their number. -/
def fields {α : Type} (item : Reader α) :
    Nat → Bool → List (String × α) → Reader (List (String × α))
  | 0, _, _ => fun _ => .error .malformed
  | fuel + 1, first, read => fun bs => do
    match ← nextField first bs with
    | .closed rest => return (read.reverse, rest)
    | .item rest =>
      let (name, rest) ← string rest
      let rest ← colon rest
      let (a, rest) ← item rest
      fields item fuel false ((name, a) :: read) rest

/-! ## Values -/

/-- Reads a value that nests at most `depth` deep; the fuel is more than the text's length. -/
def value (fuel : Nat) : Nat → Reader Value
  | depth, bs =>
    match skipSpace bs with
    | [] => .error .truncated
    | b :: rest =>
      if b = 0x6E then do return (.null, ← literal nullTail rest)
      else if b = 0x74 then do return (.bool true, ← literal trueTail rest)
      else if b = 0x66 then do return (.bool false, ← literal falseTail rest)
      else if b = 0x22 then do
        let (s, rest) ← string rest
        return (.string s, rest)
      else if b = 0x2D then do
        let (n, rest) ← unsignedNumber true rest
        return (.number n, rest)
      else if isDigit b then do
        let (n, rest) ← unsignedNumber false (b :: rest)
        return (.number n, rest)
      else if b = 0x5B ∨ b = 0x7B then
        match depth with
        | 0 => .error .malformed
        | depth + 1 =>
          if b = 0x5B then do
            let (vs, rest) ← items (value fuel depth) fuel true [] rest
            return (.array vs, rest)
          else do
            let (fs, rest) ← fields (value fuel depth) fuel true [] rest
            return (.object (Assoc.ofList fs), rest)
      else .error .malformed

/-- The deepest nesting of arrays and objects that is read. -/
def maxDepth : Nat := 127

/-- Nothing but white space may follow. -/
def finish {α : Type} (read : α × List UInt8) : Except Fault α :=
  if (skipSpace read.2).isEmpty then .ok read.1 else .error .malformed

/-- The value that a whole text holds. -/
def Value.read (bs : List UInt8) : Except Fault Value :=
  value (bs.length + 1) maxDepth bs >>= finish

/-! ## Passing over values -/

/-- The end of a string behind its opening quote. -/
def skipString : List UInt8 → Except Fault (List UInt8)
  | [] => .error .truncated
  | b :: rest =>
    if b = 0x22 then .ok rest
    else if b < 0x20 then .error .malformed
    else if b ≠ 0x5C then skipString rest
    else
      match rest with
      | [] => .error .truncated
      | e :: rest =>
        if e ≠ 0x75 then
          if (unescape? e).isSome then skipString rest else .error .malformed
        else
          match rest with
          | u :: v :: w :: x :: rest =>
            if (codeUnit? u v w x).isSome then skipString rest else .error .malformed
          | _ => .error .truncated

/-- One digit or more. -/
def skipDigits : List UInt8 → Except Fault (List UInt8)
  | [] => .error .malformed
  | d :: rest => if isDigit d then .ok (rest.dropWhile isDigit) else .error .malformed

/-- The end of an exponent, if there is one. -/
def skipExponent : List UInt8 → Except Fault (List UInt8)
  | [] => .ok []
  | b :: rest =>
    if b = 0x65 ∨ b = 0x45 then
      match rest with
      | s :: digits => if s = 0x2B ∨ s = 0x2D then skipDigits digits else skipDigits (s :: digits)
      | [] => .error .malformed
    else .ok (b :: rest)

/-- The end of a number behind its sign. -/
def skipNumber : List UInt8 → Except Fault (List UInt8)
  | [] => .error .malformed
  | b :: rest =>
    if ¬ isDigit b then .error .malformed
    else
      let behind := if b = 0x30 then rest else rest.dropWhile isDigit
      match behind with
      | [] => .ok []
      | p :: more =>
        if isDigit p then .error .malformed
        else if p = 0x2E then skipDigits more >>= skipExponent
        else skipExponent (p :: more)

/-- The brackets that may be open. -/
inductive Bracket where
  | square
  | curly
deriving DecidableEq, Repr

def Bracket.closing : Bracket → UInt8
  | .square => 0x5D
  | .curly => 0x7D

/-- Where the passage over a value stands: before a value; behind a value or an opening
bracket, inside the bracket of the list's head; or before the name of a field. -/
inductive Stand where
  | value
  | behind (fresh : Bool)
  | name

/-- A place in the passage: where it stands, the open brackets, the rest of the text. -/
abbrev Place : Type := Stand × List Bracket × List UInt8

/-- Passes over one mark, literal, number or string at a byte that begins a value. -/
def Place.value (opened : List Bracket) (b : UInt8) (rest : List UInt8) : Except Fault Place :=
  let behind (rest : List UInt8) : Place := (.behind false, opened, rest)
  if b = 0x6E then (literal nullTail rest).map behind
  else if b = 0x74 then (literal trueTail rest).map behind
  else if b = 0x66 then (literal falseTail rest).map behind
  else if b = 0x22 then (skipString rest).map behind
  else if b = 0x2D then (skipNumber rest).map behind
  else if isDigit b then (skipNumber (b :: rest)).map behind
  else if b = 0x5B then .ok (.behind true, .square :: opened, rest)
  else if b = 0x7B then .ok (.behind true, .curly :: opened, rest)
  else .error .malformed

/-- One step of the passage. -/
def Place.step : Place → Except Fault Place
  | (stand, opened, bs) =>
    match skipSpace bs with
    | [] => .error .truncated
    | b :: rest =>
      match stand, opened with
      | .value, _ => Place.value opened b rest
      | .name, _ =>
        if b = 0x22 then do return (.value, opened, ← colon (← skipString rest))
        else .error .malformed
      | .behind _, [] => .ok (stand, [], bs)
      | .behind fresh, bracket :: outer =>
        let inside : Stand := if bracket = .curly then .name else .value
        if b = bracket.closing then .ok (.behind false, outer, rest)
        else if fresh then .ok (inside, opened, b :: rest)
        else if b = 0x2C then .ok (inside, opened, rest)
        else .error .malformed

/-- Steps until no bracket is open behind a value; the fuel is more than the steps. -/
def skipOpen : Nat → Place → Except Fault (List UInt8)
  | _, (.behind _, [], bs) => .ok bs
  | 0, _ => .error .malformed
  | fuel + 1, place =>
    match place.step with
    | .ok next => skipOpen fuel next
    | .error fault => .error fault

/-- Passes over one value; the fuel is more than the text's length. -/
def skip (fuel : Nat) : Reader Unit := fun bs => do
  return ((), ← skipOpen (3 * fuel) (.value, [], bs))

end ShardStore.Json
