/-
# ShardStore.Proofs.Router.Answer -- what a router answers for a shard

A client cannot tell two responses apart by their status, their type and their body
(`Response.Alike`).  The headers that a router adds change none of these, so its answer
for what a shard answered is like the shard's (`answer_alike`).  What the router reads of
a request it reads as the shard does, except for `debug`, which only the router knows
(`Params.read_router`).
-/
import ShardStore.Proofs.Json.Found
import ShardStore.Proofs.Router.Hop
import ShardStore.Router.Surface

namespace ShardStore

set_option autoImplicit false

/-! ## Responses -/

namespace Http.Response

/-- The same status, type and body. -/
structure Alike (a b : Response) : Prop where
  status : a.status = b.status
  type : a.header? contentType = b.header? contentType
  body : a.body = b.body

theorem Alike.refl (a : Response) : a.Alike a := ⟨rfl, rfl, rfl⟩

theorem Alike.toMethod {a b : Response} (h : a.Alike b) (method : String) :
    (a.toMethod method).Alike (b.toMethod method) := by
  unfold Response.toMethod
  split
  · exact ⟨h.status, h.type, rfl⟩
  · exact h

end Http.Response

namespace Router

open Http (Response)

/-- Headers that a router adds leave the type as it is. -/
theorem attachHeaders_alike (stamp : Stamp) (node : Option String) {r : Response}
    (typed : (r.header? Response.contentType).isSome) : (attachHeaders stamp node r).Alike r := by
  refine ⟨rfl, ?_, rfl⟩
  obtain ⟨type, found⟩ := Option.isSome_iff_exists.1 typed
  rw [Response.header?] at found
  simp only [attachHeaders, Response.header?, List.append_assoc, List.lookup_append, found,
    Option.some_or]

/-- The text of an error body is not blank, and stands for its bytes. -/
theorem response_rejection (n : Node) (fault : Store.Fault) :
    (rejection n fault).response = Shard.answer (.error fault) := by
  have bracket : ∃ cs, (ErrorBody.mk fault.message).toJson.text = '\x7b' :: cs :=
    ⟨_, Json.Value.text_object_cons _ _⟩
  obtain ⟨cs, text⟩ := bracket
  have visible : Text.isBlank (String.ofList (ErrorBody.mk fault.message).toJson.text) = false := by
    rw [Text.isBlank, String.toList_ofList, text, List.all_cons]
    rfl
  simp only [rejection, Failure.response, visible, Bool.false_eq_true, if_false, Shard.answer,
    Response.json, Text.Utf8.bytes, String.toList_ofList, Json.Value.bytes]

/-- A refusal by a shard is answered as the shard answers it. -/
theorem answer_rejection (stamp : Stamp) (debug : Bool) (n : Node) (fault : Store.Fault) :
    (answer stamp debug (.error (rejection n fault))).Alike (Shard.answer (.error fault)) := by
  have typed : ((Shard.answer (.error fault)).header? Response.contentType).isSome := rfl
  rw [← response_rejection n] at typed ⊢
  exact attachHeaders_alike stamp _ typed

/-- What a shard's store made of a call is answered as the shard answers it, if no report is
asked for. -/
theorem answer_alike (stamp : Stamp) (n : Node) (result : Except Store.Fault Record) :
    (answer stamp false ((forwarded n result).map (⟨·, n.id⟩))).Alike (Shard.answer result) := by
  cases result with
  | ok r => exact attachHeaders_alike stamp (some n.id) rfl
  | error fault => exact answer_rejection stamp false n fault

/-! ## Requests -/

section Payload

variable {r : Http.Request} {blank : Payload.Fault}

theorem payload_error {fault : Payload.Fault} (body : Payload.read blank r.body = .error fault) :
    payload r blank = .error fault := by
  simp only [payload, body]

/-- A router refuses to merge `null` before a shard could. -/
theorem payload_null (body : Payload.read .nullDelta r.body = .ok .null) :
    payload r .nullDelta = .error .nullDelta := by
  simp only [payload, body, if_true]

theorem payload_ok {v : Json.Value} (body : Payload.read blank r.body = .ok v)
    (fits : v = .null → blank ≠ .nullDelta) : payload r blank = .ok v := by
  unfold payload
  rw [body]
  split
  · rename_i same
    cases same
    rw [if_neg (fits rfl)]
  · rfl

end Payload

end Router

namespace Params

theorem add_router {found : Found} {pair : String × String} (other : pair.1 ≠ "debug") :
    Found.add .router found pair = Found.add .shard found pair := by
  simp only [Found.add, other, false_and]

/-- Without `debug` a router finds what a shard finds. -/
theorem read_router {query : List UInt8}
    (plain : ∀ pair ∈ Text.Form.pairs query, pair.1 ≠ "debug") :
    Params.read .router query = Params.read .shard query := by
  have same (found : Found) : (Text.Form.pairs query).foldlM (Found.add .router) found =
      (Text.Form.pairs query).foldlM (Found.add .shard) found := by
    generalize Text.Form.pairs query = pairs at plain
    induction pairs generalizing found with
    | nil => rfl
    | cons pair pairs ih =>
      rw [List.foldlM_cons, List.foldlM_cons, add_router (plain pair List.mem_cons_self)]
      exact congrArg _ (funext fun next =>
        ih next fun other among => plain other (List.mem_cons_of_mem _ among))
  rw [Params.read, Params.read, same]

/-- What a router can read a shard can read, which takes no notice of `debug`. -/
theorem read_shard {query : List UInt8} {params : Params}
    (h : Params.read .router query = .ok params) :
    Params.read .shard query = .ok { expected := params.expected } := by
  have step {found next : Found} {pair : String × String}
      (h : Found.add .router found pair = .ok next) :
      Found.add .shard { expected := found.expected } pair =
        .ok { expected := next.expected } := by
    unfold Found.add at h ⊢
    split at h
    · rename_i version
      rw [if_pos version]
      split at h
      · cases h
      · rename_i first
        rw [if_neg first]
        split at h
        · cases h
          rfl
        · cases h
    · rename_i other
      rw [if_neg other, if_neg (by simp)]
      split at h
      · split at h
        · cases h
        split at h
        · cases h
          rfl
        split at h
        · cases h
          rfl
        · cases h
      · cases h
        rfl
  have all (pairs : List (String × String)) {found last : Found}
      (h : pairs.foldlM (Found.add .router) found = .ok last) :
      pairs.foldlM (Found.add .shard) { expected := found.expected } =
        .ok { expected := last.expected } := by
    induction pairs generalizing found with
    | nil =>
      cases h
      rfl
    | cons pair pairs ih =>
      rw [List.foldlM_cons] at h
      obtain ⟨next, added, others⟩ := bind_eq_ok.1 h
      rw [List.foldlM_cons]
      exact bind_eq_ok.2 ⟨_, step added, ih others⟩
  obtain ⟨last, found, made⟩ := bind_eq_ok.1 h
  cases made
  exact bind_eq_ok.2 ⟨_, all _ found, rfl⟩

/-- A shard finds no `debug`. -/
theorem debug_shard {query : List UInt8} {params : Params}
    (h : Params.read .shard query = .ok params) : params.debug = false := by
  have none {found next : Found} {pair : String × String} (h : Found.add .shard found pair = .ok next)
      (before : found.debug = .none) : next.debug = .none := by
    unfold Found.add at h
    split at h
    · split at h
      · cases h
      · split at h
        · cases h
          exact before
        · cases h
    · rw [if_neg (by simp)] at h
      cases h
      exact before
  have all (pairs : List (String × String)) {found last : Found}
      (h : pairs.foldlM (Found.add .shard) found = .ok last) (before : found.debug = .none) :
      last.debug = .none := by
    induction pairs generalizing found with
    | nil =>
      cases h
      exact before
    | cons pair pairs ih =>
      rw [List.foldlM_cons] at h
      obtain ⟨next, added, others⟩ := bind_eq_ok.1 h
      exact ih others (none added before)
  obtain ⟨last, found, made⟩ := bind_eq_ok.1 h
  cases made
  simp [all _ found rfl]

end Params

end ShardStore
