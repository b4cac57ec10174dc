/-
# ShardStore.Store.Basic -- versioned values under keys

A store maps keys to entries and keeps a lock for every key that a write has asked for.
A call is checked in a fixed order: the key, the payload, the caller's token, the
expected version.  A call that fails leaves the entries alone.

Here every call runs on its own, so a write finds the lock of its key free.
-/
import ShardStore.Lock
import ShardStore.Store.Entry

namespace ShardStore

set_option autoImplicit false

structure Store where
  /-- The entries by key, ascending. -/
  entries : List (String × Entry) := []
  locks : Lock.Coordinator := {}

namespace Store

def empty : Store := {}

instance : Inhabited Store := ⟨empty⟩

/-! ## Reading -/

/-- What a key holds. -/
def find? (s : Store) (key : String) : Option Entry := s.entries.lookup key

def get (s : Store) (key : String) : Except Fault Record :=
  if ¬ Key.isValid key then .error (.invalidKey key)
  else
    match s.find? key with
    | some e => .ok (e.record key)
    | none => .error (.notFound key)

/-- All keys, ascending. -/
def keys (s : Store) : List String := Assoc.keys s.entries

def isEmpty (s : Store) : Bool := s.entries.isEmpty

/-! ## Writing -/

/-- The check of a write before it asks for the lock. -/
def clearance (key : String) (w : Write) : Except Fault Unit :=
  if ¬ Key.isValid key then .error (.invalidKey key)
  else
    match w with
    | .merge .null => .error (.invalidPayload .nullDelta)
    | _ => .ok ()

/-- A write by a task that has the lock of the key. -/
def applyLocked (s : Store) (key : String) (w : Write) (expected : Option UInt64) :
    Except Fault Record × Store :=
  match Entry.next key (s.find? key) w expected with
  | .ok e => (.ok (e.record key), { s with entries := Assoc.insert key e s.entries })
  | .error fault => (.error fault, s)

def write (s : Store) (key : String) (w : Write) (expected : Option UInt64)
    (cancelled : Bool) : Except Fault Record × Store :=
  match clearance key w with
  | .error fault => (.error fault, s)
  | .ok () =>
    let s := { s with locks := s.locks.touch key }
    if cancelled then (.error .cancelled, s) else s.applyLocked key w expected

def put (s : Store) (key : String) (value : Json.Value) (expected : Option UInt64)
    (cancelled : Bool) : Except Fault Record × Store :=
  s.write key (.replace value) expected cancelled

def patch (s : Store) (key : String) (delta : Json.Value) (expected : Option UInt64)
    (cancelled : Bool) : Except Fault Record × Store :=
  s.write key (.merge delta) expected cancelled

/-! ## Calls as data -/

inductive Call where
  | get (key : String)
  | write (key : String) (w : Write) (expected : Option UInt64) (cancelled : Bool)
  | keys
  | isEmpty

inductive Answer where
  | record (result : Except Fault Record)
  | keys (all : List String)
  | isEmpty (answer : Bool)

def call (s : Store) : Call → Answer × Store
  | .get key => (.record (s.get key), s)
  | .write key w expected cancelled =>
    let (result, s) := s.write key w expected cancelled
    (.record result, s)
  | .keys => (.keys s.keys, s)
  | .isEmpty => (.isEmpty s.isEmpty, s)

/-- The answers to a sequence of calls, and the store after them. -/
def run (s : Store) : List Call → List Answer × Store
  | [] => ([], s)
  | c :: rest =>
    let (answer, s) := s.call c
    let (answers, s) := s.run rest
    (answer :: answers, s)

end Store

end ShardStore
