/-
# ShardStore.Json.Value -- JSON values

A number is an integer of the signed or unsigned 64-bit range, or a finite double;
the two kinds stay apart, so `1` and `1.0` differ.  An object is a sorted
association list (`Assoc`), and every operation here makes sorted ones.

`Value.merge` is the shallow merge: the fields of two objects come together, the
later value of a shared name counts, and in every other case the later value wins
as a whole.
-/
import ShardStore.Assoc
import ShardStore.Binary64.Basic

namespace ShardStore.Json

set_option autoImplicit false

inductive Number where
  | integer (n : Int) (low : -0x8000000000000000 ≤ n) (high : n < 0x10000000000000000)
  | float (x : Binary64)
deriving DecidableEq

inductive Value where
  | null
  | bool (b : Bool)
  | number (n : Number)
  | string (s : String)
  | array (items : List Value)
  | object (fields : List (String × Value))

namespace Value

/-! ## Building values -/

instance : Inhabited Value := ⟨.null⟩

/-- An unsigned 64-bit number. -/
def ofUInt64 (n : UInt64) : Value :=
  .number (.integer n.toNat (by omega) (by have := n.toNat_lt; omega))

/-- A natural number; past the 64-bit range it is the largest of it. -/
def natural (n : Nat) : Value := ofUInt64 (UInt64.ofNat (min n 0xFFFFFFFFFFFFFFFF))

/-- The shallow merge of a value with a later one. -/
def merge : Value → Value → Value
  | .object fields, .object changes => .object (Assoc.ofList (fields ++ changes))
  | _, change => change

end Value

end ShardStore.Json
