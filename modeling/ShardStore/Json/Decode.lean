/-
# ShardStore.Json.Decode -- reading values of a wanted shape

A scalar of a wanted `Kind` is read, then judged.  A record is read either from an
object, whose fields come in any order, none twice, unknown ones passed over, or
from an array of its fields in their declared order.  A fault of shape is found where
it stands, before any later fault of the text.

A record type says how its fields are stored while they are read (`Slot`), and
`Record` reads any such type.
-/
import ShardStore.Json.Printer
import ShardStore.Json.Reader
import ShardStore.Text.Category

namespace ShardStore.Json

set_option autoImplicit false

/-! ## What was found -/

/-- What a value is called where another kind is wanted. -/
def Value.describe : Value → String
  | .null => "null"
  | .bool b => s!"boolean `{String.ofList (boolText b)}`"
  | .number (.integer n low high) =>
    s!"integer `{String.ofList (Number.integer n low high).text}`"
  | .number (.float x) => s!"floating point `{String.ofList (floatText x)}`"
  | .string s => s!"string {Text.Quoted.text s}"
  | .array _ => "sequence"
  | .object _ => "map"

def invalidType (found wanted : String) : Fault :=
  .shape s!"invalid type: {found}, expected {wanted}"

def invalidValue (found wanted : String) : Fault :=
  .shape s!"invalid value: {found}, expected {wanted}"

/-! ## Scalars -/

/-- A kind of scalar: its name in messages, and how a value is taken for one. -/
structure Kind (α : Type) where
  name : String
  judge : Value → Except Fault α

def Kind.text : Kind String where
  name := "a string"
  judge
    | .string s => .ok s
    | v => .error (invalidType v.describe "a string")

/-- A natural number of at most `max`. -/
def Kind.natural (name : String) (max : Nat) : Kind Nat where
  name
  judge
    | .number (.integer n low high) =>
      if 0 ≤ n ∧ n ≤ max then .ok n.toNat
      else .error (invalidValue (Value.number (.integer n low high)).describe name)
    | v => .error (invalidType v.describe name)

def Kind.word : Kind UInt64 where
  name := "u64"
  judge v := (Kind.natural "u64" 0xFFFFFFFFFFFFFFFF).judge v |>.map UInt64.ofNat

/-- A double; an integer is taken for the nearest one. -/
def Kind.double : Kind Binary64 where
  name := "f64"
  judge
    | .number (.float x) => .ok x
    | .number (.integer n _ _) =>
      match Binary64.Magnitude.ofRatio? n.natAbs 1 with
      | some x => .ok ⟨n < 0, x⟩
      | none => .error .malformed
    | v => .error (invalidType v.describe "f64")

/-- Reads a scalar; of an array or an object only the opening bracket is seen. -/
def scalar {α : Type} (kind : Kind α) : Reader α := fun bs => do
  match skipSpace bs with
  | [] => throw .truncated
  | b :: rest =>
    if b = 0x5B then throw (invalidType "sequence" kind.name)
    else if b = 0x7B then throw (invalidType "map" kind.name)
    else
      let (v, rest) ← value 0 0 (b :: rest)
      return (← kind.judge v, rest)

/-! ## Records -/

/-- The limits of a reading: more than the text's length, and the nesting still allowed. -/
structure Limits where
  fuel : Nat
  depth : Nat

def Limits.ofText (bs : List UInt8) : Limits := ⟨bs.length + 1, maxDepth⟩

/-- One level deeper. -/
def Limits.inner (limits : Limits) : Except Fault Limits :=
  match limits.depth with
  | 0 => .error .malformed
  | depth + 1 => .ok { limits with depth }

/-- A field of a record, read into a partial record `σ`, or taken from a value read before. -/
structure Slot (σ : Type) where
  name : String
  /-- Must an array hold it? -/
  required : Bool := true
  filled : σ → Bool
  read : Limits → σ → Reader σ
  take : σ → Value → Except Fault σ

/-- A slot for a scalar. -/
def Slot.ofKind {σ α : Type} (name : String) (get : σ → Option α) (set : σ → α → σ)
    (kind : Kind α) : Slot σ where
  name
  filled s := (get s).isSome
  read _ s bs := do
    let (a, rest) ← scalar kind bs
    return (set s a, rest)
  take s v := (kind.judge v).map (set s)

/-- A slot for any value. -/
def Slot.ofValue {σ : Type} (name : String) (get : σ → Option Value) (set : σ → Value → σ) :
    Slot σ where
  name
  filled s := (get s).isSome
  read limits s bs := do
    let (v, rest) ← value limits.fuel limits.depth bs
    return (set s v, rest)
  take s v := .ok (set s v)

/-- A slot that an array may leave out with all behind it. -/
def Slot.optional {σ : Type} (slot : Slot σ) : Slot σ := { slot with required := false }

/-- A type of records: its name in messages, its fields in order, an empty partial record,
and the record that a partial one makes. -/
structure Record (σ α : Type) where
  name : String
  slots : List (Slot σ)
  empty : σ
  complete : σ → Except Fault α

def missingField (name : String) : Fault := .shape s!"missing field `{name}`"

def duplicateField (name : String) : Fault := .shape s!"duplicate field `{name}`"

/-- The value of a field that has to be there. -/
def need {α : Type} (name : String) : Option α → Except Fault α
  | some a => .ok a
  | none => .error (missingField name)

namespace Record

variable {σ α : Type}

def expected (r : Record σ α) : String := s!"struct {r.name}"

/-- An array ended behind `count` items. -/
def invalidLength (r : Record σ α) (count : Nat) : Fault :=
  let total := r.slots.length
  let unit := if total = 1 then "element" else "elements"
  .shape s!"invalid length {count}, expected {r.expected} with {total} {unit}"

/-- Reads the fields of an array, of which `count` are read. -/
def readItems (r : Record σ α) (limits : Limits) : Nat → List (Slot σ) → σ → Reader σ
  | _, [], partly, bs =>
    match skipSpace bs with
    | [] => .error .truncated
    | b :: rest => if b = 0x5D then .ok (partly, rest) else .error .malformed
  | count, slot :: slots, partly, bs => do
    match ← nextItem (count = 0) bs with
    | .closed rest =>
      match (slot :: slots).findIdx? (·.required) with
      | some i => throw (r.invalidLength (count + i))
      | none => return (partly, rest)
    | .item rest =>
      let (partly, rest) ← slot.read limits partly rest
      readItems r limits (count + 1) slots partly rest

/-- Reads the fields of an object. -/
def readFields (r : Record σ α) (limits : Limits) : Nat → Bool → σ → Reader σ
  | 0, _, _ => fun _ => .error .malformed
  | fuel + 1, first, partly => fun bs => do
    match ← nextField first bs with
    | .closed rest => return (partly, rest)
    | .item rest =>
      let (name, rest) ← string rest
      match r.slots.find? (·.name = name) with
      | some slot =>
        if slot.filled partly then throw (duplicateField name)
        let (partly, rest) ← slot.read limits partly (← colon rest)
        readFields r limits fuel false partly rest
      | none =>
        let (_, rest) ← skip limits.fuel (← colon rest)
        readFields r limits fuel false partly rest

/-- Reads a record. -/
def read (r : Record σ α) (limits : Limits) : Reader α := fun bs => do
  match skipSpace bs with
  | [] => throw .truncated
  | b :: rest =>
    if b = 0x5B then
      let (partly, rest) ← readItems r (← limits.inner) 0 r.slots r.empty rest
      return (← r.complete partly, rest)
    else if b = 0x7B then
      let (partly, rest) ← readFields r (← limits.inner) limits.fuel true r.empty rest
      return (← r.complete partly, rest)
    else
      let (v, _) ← value 0 0 (b :: rest)
      throw (invalidType v.describe r.expected)

/-- Takes one field of an object that was read before. -/
def takeField (r : Record σ α) (partly : σ) (field : String × Value) : Except Fault σ :=
  match r.slots.find? (·.name = field.1) with
  | some slot =>
    if slot.filled partly then .error (duplicateField field.1) else slot.take partly field.2
  | none => .ok partly

/-- The record among the fields of an object that was read before. -/
def ofFields (r : Record σ α) (fields : List (String × Value)) : Except Fault α :=
  fields.foldlM r.takeField r.empty >>= r.complete

/-- The record that a whole text holds. -/
def decode (r : Record σ α) (bs : List UInt8) : Except Fault α :=
  r.read (.ofText bs) bs >>= finish

end Record

end ShardStore.Json
