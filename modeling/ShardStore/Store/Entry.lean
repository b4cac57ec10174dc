/-
# ShardStore.Store.Entry -- keys, and the state of one key

A key is a nonempty string of letters, digits and a few symbols, all ASCII, and not of
dots alone: `.` and `..` are path segments of their own in a URL, so such a key could
not be addressed.

A key that holds a value has a version, which counts the writes that made it.  A write
either replaces the value or merges into it, and may expect a version; zero expects the
key to be absent.  The first write of a key stores its payload as it is, at version 1.

* `Entry.next` is one write against the present state of a key, if it has one.
-/
import ShardStore.Payload
import ShardStore.Record

namespace ShardStore

set_option autoImplicit false

/-! ## Keys -/

namespace Key

def isAllowed (c : Char) : Bool :=
  c.isAlphanum || c = ':' || c = '-' || c = '_' || c = '=' || c = '.' || c = '*' || c = ','
    || c = '@' || c = '#'

/-- Can a value be stored under this string? -/
def isValid (key : String) : Bool :=
  key.toList ≠ [] && key.toList.all isAllowed && !key.toList.all (· = '.')

end Key

/-! ## Refusals -/

namespace Store

/-- Why a store refuses a call. -/
inductive Fault where
  | invalidKey (key : String)
  | invalidPayload (fault : Payload.Fault)
  | versionMismatch (key : String) (expected actual : UInt64)
  | notFound (key : String)
  | cancelled
deriving DecidableEq, Repr

def Fault.message : Fault → String
  | .invalidKey key =>
    s!"Key '{key}' is invalid. " ++
      "Keys must contain only alphanumeric characters or one of : - _ = . * , @ # " ++
      "and must not consist of dots alone."
  | .invalidPayload fault => fault.message
  | .versionMismatch key expected actual =>
    s!"Version mismatch for key '{key}'. Expected {expected}, actual {actual}."
  | .notFound key => s!"Key '{key}' was not found."
  | .cancelled => "The operation was cancelled before it could acquire the key lock."

end Store

/-! ## Writes -/

inductive Write where
  | replace (value : Json.Value)
  | merge (delta : Json.Value)

/-- The verb that asks for the write. -/
def Write.name : Write → String
  | .replace _ => "put"
  | .merge _ => "patch"

def Write.payload : Write → Json.Value
  | .replace value => value
  | .merge delta => delta

/-- The value after the write. -/
def Write.apply : Write → Json.Value → Json.Value
  | .replace value, _ => value
  | .merge delta, current => current.merge delta

/-! ## Entries -/

structure Entry where
  value : Json.Value
  version : UInt64

namespace Entry

/-- The entry of a key as others see it. -/
def record (key : String) (e : Entry) : Record := ⟨key, e.value, e.version⟩

/-- The first write of a key. -/
def create (w : Write) : Entry := ⟨w.payload, 1⟩

/-- Only an expectation of zero, or none, is met by an absent key. -/
def ensureAbsent (key : String) (expected : Option UInt64) : Except Store.Fault Unit :=
  match expected with
  | some e => if e ≠ 0 then .error (.versionMismatch key e 0) else .ok ()
  | none => .ok ()

/-- A write against a key that holds a value. -/
def apply (key : String) (e : Entry) (w : Write) (expected : Option UInt64) :
    Except Store.Fault Entry :=
  if expected.all (· = e.version) then .ok ⟨w.apply e.value, e.version + 1⟩
  else .error (.versionMismatch key (expected.getD 0) e.version)

/-- A write against what a key holds now. -/
def next (key : String) (current : Option Entry) (w : Write) (expected : Option UInt64) :
    Except Store.Fault Entry :=
  match current with
  | none => (ensureAbsent key expected).map fun _ => create w
  | some e => e.apply key w expected

end Entry

end ShardStore
