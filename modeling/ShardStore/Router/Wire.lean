/-
# ShardStore.Router.Wire -- what a router adds to a shard's answers

A forwarded record may carry a report on the forwarding: the shard that served it, and
the time that took in milliseconds.  The report stands beside the fields of the record,
so a reader of records finds the record.  A reader of forwarded records takes an object
only, reads the report where it stands, and judges the record when the object is read.

A listing asks every shard for its keys and names the shard beside each key, a line for
every key.  One failure fails the listing; of several, the one that arrives first counts.
The records are in order of the shard's name, then of the key.
-/
import ShardStore.Record
import ShardStore.Router.Failure

namespace ShardStore.Router

set_option autoImplicit false

/-! ## Reports -/

structure Report where
  node : String
  milliseconds : Binary64
deriving DecidableEq

namespace Report

def toJson (r : Report) : Json.Value :=
  .object [("node", .string r.node), ("executionTimeMs", .number (.float r.milliseconds))]

/-- The fields of a report that have been read. -/
structure Partial where
  node : Option String := none
  milliseconds : Option Binary64 := none

def schema : Json.Record Partial Report where
  name := "DebugInfo"
  slots := [
    .ofKind "node" (·.node) (fun p a => { p with node := some a }) .text,
    .ofKind "executionTimeMs" (·.milliseconds) (fun p a => { p with milliseconds := some a })
      .double]
  empty := {}
  complete p := do
    return {
      node := ← Json.need "node" p.node
      milliseconds := ← Json.need "executionTimeMs" p.milliseconds }

/-- Reads a report, or `null` for none. -/
def readOptional (limits : Json.Limits) : Json.Reader (Option Report) := fun bs => do
  match Json.skipSpace bs with
  | [] => throw .truncated
  | b :: rest =>
    if b = 0x6E then return (none, ← Json.literal Json.nullTail rest)
    else
      let (r, rest) ← schema.read limits (b :: rest)
      return (some r, rest)

end Report

/-! ## Forwarded records -/

structure Forwarded where
  record : Record
  report : Option Report

namespace Forwarded

def toJson (f : Forwarded) : Json.Value :=
  match f.record.toJson, f.report with
  | .object fields, some r => .object (fields ++ [("debug", r.toJson)])
  | v, _ => v

/-- What has been read of the object: the report, if it was there, and the other fields,
the last first. -/
structure Partial where
  report : Option (Option Report) := none
  others : List (String × Json.Value) := []

def readFields (limits : Json.Limits) : Nat → Bool → Partial → Json.Reader Partial
  | 0, _, _ => fun _ => .error .malformed
  | fuel + 1, first, partly => fun bs => do
    match ← Json.nextField first bs with
    | .closed rest => return (partly, rest)
    | .item rest =>
      let (name, rest) ← Json.string rest
      if name = "debug" then
        if partly.report.isSome then throw (Json.duplicateField name)
        let (r, rest) ← Report.readOptional limits (← Json.colon rest)
        readFields limits fuel false { partly with report := some r } rest
      else
        let (v, rest) ← Json.value limits.fuel limits.depth (← Json.colon rest)
        readFields limits fuel false { partly with others := (name, v) :: partly.others } rest

def read (limits : Json.Limits) : Json.Reader Forwarded := fun bs => do
  match Json.skipSpace bs with
  | [] => throw .truncated
  | b :: rest =>
    if b = 0x7B then
      let (partly, rest) ← readFields (← limits.inner) limits.fuel true {} rest
      let record ← Record.schema.ofFields partly.others.reverse
      return (⟨record, partly.report.join⟩, rest)
    else if b = 0x5B then throw (Json.invalidType "sequence" "struct ForwardedResponse")
    else
      let (v, _) ← Json.value 0 0 (b :: rest)
      throw (Json.invalidType v.describe "struct ForwardedResponse")

/-- The forwarded record that a whole text holds. -/
def decode (bs : List UInt8) : Except Json.Fault Forwarded :=
  read (.ofText bs) bs >>= Json.finish

end Forwarded

/-! ## Listings -/

structure ListingRecord where
  key : String
  node : String
deriving DecidableEq, Repr

namespace ListingRecord

def toJson (r : ListingRecord) : Json.Value :=
  .object [("Key", .string r.key), ("Node", .string r.node)]

/-- The fields of a listing record that have been read. -/
structure Partial where
  key : Option String := none
  node : Option String := none

def schema : Json.Record Partial ListingRecord where
  name := "KeyListingRecord"
  slots := [
    .ofKind "Key" (·.key) (fun p a => { p with key := some a }) .text,
    .ofKind "Node" (·.node) (fun p a => { p with node := some a }) .text]
  empty := {}
  complete p := do
    return { key := ← Json.need "Key" p.key, node := ← Json.need "Node" p.node }

end ListingRecord

namespace Listing

/-- What one shard answered. -/
abbrev Outcome : Type := Node × Except Failure (List String)

/-- The records of the shards, or the first failure. -/
def gather : List Outcome → Except Failure (List ListingRecord)
  | [] => .ok []
  | (n, .ok keys) :: rest => (gather rest).map (keys.map (⟨·, n.id⟩) ++ ·)
  | (_, .error failure) :: _ => .error failure

/-- Does a record come before another, or in the same place? -/
def precedes (a b : ListingRecord) : Bool :=
  a.node < b.node || (a.node = b.node && a.key ≤ b.key)

/-- The listing that the shards' answers make, in the order in which they arrive. -/
def ofOutcomes (arrivals : List Outcome) : Except Failure (List ListingRecord) :=
  (gather arrivals).map (·.mergeSort precedes)

end Listing

/-- The text of a listing: a line for every record. -/
def listingText (records : List ListingRecord) : List Char :=
  records.flatMap fun r => r.toJson.text ++ ['\n']

end ShardStore.Router
