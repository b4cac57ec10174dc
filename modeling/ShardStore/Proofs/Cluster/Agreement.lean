/-
# ShardStore.Proofs.Cluster.Agreement -- answering as one store does

A router is asked for calls and listings, one after the other (`Router.Ask`), and a store
for the same calls.  This module says what it means that they answer alike.

* `Router.Agrees` -- a call through the router ends as the call on the store does: with
  the record, named beside its owner; with the key refused; or with the owner's refusal;
* `Router.Lists` -- a listing names every key once, beside its owner;
* `Router.agrees_forwarded` -- what the owner of a key makes of a store's result agrees
  with it.
-/
import ShardStore.Cluster
import ShardStore.Proofs.Router.Hop

namespace ShardStore

set_option autoImplicit false

/-! ## Runs -/

namespace Router

/-- What a router is asked for. -/
inductive Ask where
  | call (key : String) (call : Call)
  | list

def Ask.Portable : Ask → Prop
  | .call _ asked => asked.Portable
  | .list => True

end Router

open Router (Ask Failure ListingRecord)

/-- A cluster after its router was asked for one thing. -/
def Cluster.step (c : Cluster) : Ask → Cluster
  | .call key call => (c.call key call false).2
  | .list => (c.list false).2

/-- A cluster after its router was asked for one thing after the other. -/
def Cluster.after (c : Cluster) (asks : List Ask) : Cluster := asks.foldl Cluster.step c

/-- A store after the call that a router was asked for. -/
def Store.step (s : Store) : Ask → Store
  | .call key call => (s.perform key false call).2
  | .list => s

/-- A store after the same calls. -/
def Store.after (s : Store) (asks : List Ask) : Store := asks.foldl Store.step s

/-! ## The same answers -/

namespace Router

/-- The key is refused before the call leaves the router. -/
def Failure.IsInvalidKey : Failure → Prop
  | .noOwner _ | .invalidKey _ => True
  | _ => False

/-- A router answers a call on a key as a store does: the owner's record, or the owner's
refusal with its status and its text. -/
structure Agrees (ring : Ring) (key : String) (routed : Except Failure Cluster.Served)
    (direct : Except Store.Fault Record) : Prop where
  record : ∀ r, direct = .ok r ↔ ∃ n, ring.owner key = .ok n ∧ routed = .ok ⟨r, n.id⟩
  invalidKey : (∃ refused, direct = .error (.invalidKey refused)) ↔
    ∃ failure, routed = .error failure ∧ failure.IsInvalidKey
  refusal : ∀ fault, (∀ refused, fault ≠ .invalidKey refused) →
    (direct = .error fault ↔
      ∃ n, ring.owner key = .ok n ∧
        routed = .error (.rejected n.id fault.status
          (String.ofList (ErrorBody.mk fault.message).toJson.text)))

/-- A listing names every key once, beside the node that owns it. -/
def Lists (ring : Ring) (listing : Except Failure (List ListingRecord)) (keys : List String) :
    Prop :=
  ∃ records, listing = .ok records ∧ (records.map (·.key)).Nodup ∧
    (∀ key, key ∈ records.map (·.key) ↔ key ∈ keys) ∧
    ∀ r ∈ records, ∃ n, ring.owner r.key = .ok n ∧ r.node = n.id

/-! ## Calls -/

/-- What the owner of a key makes of a store's result agrees with it. -/
theorem agrees_forwarded {ring : Ring} {key : String} {n : Node} (owner : ring.owner key = .ok n)
    {direct : Except Store.Fault Record} (kept : ∀ refused, direct ≠ .error (.invalidKey refused)) :
    Agrees ring key ((forwarded n direct).map (⟨·, n.id⟩)) direct := by
  cases direct with
  | ok r =>
    refine ⟨?_, by simp [forwarded, Except.map], by simp [forwarded, Except.map]⟩
    intro r'
    constructor
    · rintro ⟨⟩
      exact ⟨n, owner, rfl⟩
    · rintro ⟨o, -, same⟩
      exact congrArg Except.ok (congrArg Cluster.Served.record (Except.ok.inj same))
  | error fault =>
    refine ⟨by simp [forwarded, Except.map], ?_, ?_⟩
    · constructor
      · rintro ⟨refused, same⟩
        exact absurd same (kept refused)
      · rintro ⟨failure, same, invalid⟩
        cases same
        exact invalid.elim
    · intro fault' other
      constructor
      · rintro ⟨⟩
        exact ⟨n, owner, rfl⟩
      · -- the refusal tells what the fault was
        rintro ⟨o, owned, same⟩
        rw [owner] at owned
        cases owned
        exact congrArg Except.error (rejection_injective (Except.error.inj same))

/-- A key that cannot be stored is refused by both. -/
theorem agrees_invalidKey {ring : Ring} {key refused : String} {failure : Failure}
    (h : failure.IsInvalidKey) :
    Agrees ring key (.error failure) (.error (.invalidKey refused)) := by
  refine ⟨by simp, ⟨fun _ => ⟨failure, rfl, h⟩, fun _ => ⟨refused, rfl⟩⟩, ?_⟩
  intro fault other
  constructor
  · rintro ⟨⟩
    exact absurd rfl (other refused)
  · rintro ⟨o, -, same⟩
    cases same
    exact h.elim

/-! ## Listings -/

/-- Without a failure the shards' keys are gathered in the order of the shards. -/
theorem Listing.gather_ok (keys : Node → List String) (ns : List Node) :
    gather (ns.map fun n => (n, .ok (keys n))) =
      .ok (ns.flatMap fun n => (keys n).map (ListingRecord.mk · n.id)) := by
  induction ns with
  | nil => rfl
  | cons n ns ih => simp only [List.map_cons, gather, ih, Except.map, List.flatMap_cons]

end Router

/-- A call on a key that cannot be stored does not leave the router. -/
theorem Cluster.call_invalid (c : Cluster) {key : String} (invalid : Key.isValid key = false)
    (call : Router.Call) :
    ∃ failure : Failure, failure.IsInvalidKey ∧ c.call key call false = (.error failure, c) := by
  cases owner : c.ring.owner key with
  | error fault =>
    refine ⟨.noOwner fault, trivial, ?_⟩
    simp only [Cluster.call, Cluster.owner, owner]
  | ok n =>
    refine ⟨.invalidKey key, trivial, ?_⟩
    simp only [Cluster.call, Cluster.owner, owner, invalid, Bool.false_eq_true, if_false]

end ShardStore
