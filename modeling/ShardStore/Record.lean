/-
# ShardStore.Record -- a key with its value at a version

Records are what a shard answers and what the router hands on.  On the wire a record is
an object of `Key`, `Value` and `Version`, in this order.
-/
import ShardStore.Json.Decode

namespace ShardStore

set_option autoImplicit false

structure Record where
  key : String
  value : Json.Value
  version : UInt64

namespace Record

def toJson (r : Record) : Json.Value :=
  .object [("Key", .string r.key), ("Value", r.value), ("Version", .ofUInt64 r.version)]

/-- The fields of a record that have been read. -/
structure Partial where
  key : Option String := none
  value : Option Json.Value := none
  version : Option UInt64 := none

/-- How a record is read. -/
def schema : Json.Record Partial Record where
  name := "KeyValueRecord"
  slots := [
    .ofKind "Key" (·.key) (fun p a => { p with key := some a }) .text,
    .ofValue "Value" (·.value) (fun p a => { p with value := some a }),
    .ofKind "Version" (·.version) (fun p a => { p with version := some a }) .word]
  empty := {}
  complete p := do
    return {
      key := ← Json.need "Key" p.key
      value := ← Json.need "Value" p.value
      version := ← Json.need "Version" p.version }

end Record

/-! ## Error bodies -/

/-- The body of every refusal: an object with the one field `error`. -/
structure ErrorBody where
  error : String
deriving DecidableEq, Repr

namespace ErrorBody

def toJson (e : ErrorBody) : Json.Value := .object [("error", .string e.error)]

def schema : Json.Record (Option String) ErrorBody where
  name := "ErrorBody"
  slots := [.ofKind "error" id (fun _ a => some a) .text]
  empty := none
  complete p := do return ⟨← Json.need "error" p⟩

end ErrorBody

end ShardStore
