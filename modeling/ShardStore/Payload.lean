/-
# ShardStore.Payload -- what a write request carries

A write request carries parameters in its query string and a JSON value in its body.
`ifVersion` is the version the key must have, zero standing for a key that is absent;
`debug` asks the router for its own report.  A parameter given twice is refused before
its second value is looked at, and a shard passes over `debug` like over any other name.

A body of ASCII white space holds no value.
-/
import ShardStore.Json.Reader
import ShardStore.Text.Category
import ShardStore.Text.Numeral
import ShardStore.Text.Percent

namespace ShardStore

set_option autoImplicit false

/-! ## Parameters -/

structure Params where
  expected : Option UInt64 := none
  debug : Bool := false
deriving DecidableEq, Repr

namespace Params

inductive Fault where
  | repeated (name : String)
  | number (fault : Text.Numeral.Fault)
  | notBoolean
deriving DecidableEq, Repr

def Fault.message : Fault → String
  | .repeated name => s!"duplicate field `{name}`"
  | .number fault => fault.message
  | .notBoolean => "provided string was not `true` or `false`"

/-- Who reads the parameters. -/
inductive Reader where
  | shard
  | router
deriving DecidableEq, Repr

/-- The parameters found so far. -/
structure Found where
  expected : Option UInt64 := none
  debug : Option Bool := none

def Found.add (reader : Reader) (found : Found) (pair : String × String) :
    Except Fault Found :=
  if pair.1 = "ifVersion" then
    if found.expected.isSome then .error (.repeated "ifVersion")
    else
      match Text.Numeral.natural 0xFFFFFFFFFFFFFFFF pair.2.toList with
      | .ok n => .ok { found with expected := some (UInt64.ofNat n) }
      | .error fault => .error (.number fault)
  else if pair.1 = "debug" ∧ reader = .router then
    if found.debug.isSome then .error (.repeated "debug")
    else if pair.2 = "true" then .ok { found with debug := some true }
    else if pair.2 = "false" then .ok { found with debug := some false }
    else .error .notBoolean
  else .ok found

/-- The parameters in a query string. -/
def read (reader : Reader) (query : List UInt8) : Except Fault Params := do
  let found ← (Text.Form.pairs query).foldlM (Found.add reader) {}
  return { expected := found.expected, debug := found.debug.getD false }

end Params

/-! ## Bodies -/

namespace Payload

inductive Fault where
  | malformed
  | nullDelta
  | params (fault : Params.Fault)
deriving DecidableEq, Repr

def Fault.message : Fault → String
  | .malformed => "The request body was not valid JSON."
  | .nullDelta => "PATCH delta must not be null."
  | .params fault => "Failed to deserialize query string: " ++ fault.message

/-- The value of a body; a body without one has the fault `blank`. -/
def read (blank : Fault) (body : List UInt8) : Except Fault Json.Value :=
  if body.all Text.isSpaceByte then .error blank
  else
    match Json.Value.read body with
    | .ok v => .ok v
    | .error _ => .error .malformed

end Payload

end ShardStore
