/-
# ShardStore.Proofs.Router.Verdict -- what a reply to a call amounts to

Whatever comes back for a call on a key is one of four things (`Verdict`): nothing; a
success that holds a record; a success that holds none, or broke off; or a refusal, whatever
came of its body.  Every reply is one of them and no other (`Reply.existsUnique_means`), and
how the call ends tells which (`Reply.means_iff`).

A client sees the verdict in the status and the body of the answer (`Verdict.Ends.answered`).
The node is named in a header, unless its name cannot stand in one (`Verdict.Ends.header`).
The text of a refusal is handed on, unless it is blank (`body_rejected`).

* `Verdict.Ends.report` -- an answer of success carries the report that was asked for.
-/
import Mathlib.Logic.ExistsUnique
import ShardStore.Proofs.Text.Utf8
import ShardStore.Router.Surface

namespace ShardStore.Router

set_option autoImplicit false

/-! ## Verdicts -/

inductive Verdict where
  /-- No answer came. -/
  | silent
  | served (record : Record)
  /-- A success without a record, or one that broke off. -/
  | unreadable
  | refused (status : Nat)

/-- What a reply amounts to. -/
inductive Reply.Means : Reply → Verdict → Prop where
  | silent : Means .nothing .silent
  | served {status : Nat} {body : List UInt8} {record : Record}
      (success : Http.isSuccess status = true)
      (decoded : Record.schema.decode body = .ok record) :
      Means (.complete status body) (.served record)
  | garbled {status : Nat} {body : List UInt8} {fault : Json.Fault}
      (success : Http.isSuccess status = true)
      (undecoded : Record.schema.decode body = .error fault) :
      Means (.complete status body) .unreadable
  | broken {status : Nat} {body : List UInt8} (success : Http.isSuccess status = true) :
      Means (.cut status body) .unreadable
  | refused {status : Nat} {body : List UInt8} (failed : Http.isSuccess status = false) :
      Means (.complete status body) (.refused status)
  | refusedBroken {status : Nat} {body : List UInt8} (failed : Http.isSuccess status = false) :
      Means (.cut status body) (.refused status)

/-- How a call on a node ends. -/
inductive Verdict.Ends (n : Node) : Verdict → Except Failure Cluster.Served → Prop where
  | silent : Ends n .silent (.error (.unreachable n))
  | served (record : Record) : Ends n (.served record) (.ok ⟨record, n.id⟩)
  | unreadable : Ends n .unreadable (.error (.unreadable n.id))
  | refused {status : Nat} (failed : Http.isSuccess status = false) (text : String) :
      Ends n (.refused status) (.error (.rejected n.id status text))

section Verdicts

variable {n : Node} {reply : Reply} {v w : Verdict} {outcome : Except Failure Cluster.Served}

theorem Reply.exists_means (reply : Reply) : ∃ v, reply.Means v := by
  cases reply with
  | nothing => exact ⟨_, .silent⟩
  | complete status body =>
    cases success : Http.isSuccess status with
    | false => exact ⟨_, .refused success⟩
    | true =>
      cases decoded : Record.schema.decode body with
      | ok record => exact ⟨_, .served success decoded⟩
      | error fault => exact ⟨_, .garbled success decoded⟩
  | cut status body =>
    cases success : Http.isSuccess status with
    | false => exact ⟨_, .refusedBroken success⟩
    | true => exact ⟨_, .broken success⟩

theorem Verdict.Ends.unique (h : v.Ends n outcome) (other : w.Ends n outcome) : v = w := by
  cases h <;> cases other <;> rfl

/-- A reply decides how the call ends. -/
theorem Reply.Means.ends (h : reply.Means v) (n : Node) :
    v.Ends n ((reply.record n).map (⟨·, n.id⟩)) := by
  cases h with
  | silent => exact .silent
  | served success decoded =>
    simp only [Reply.record, Reply.read, Reply.body, success, if_true, decoded]
    exact .served _
  | garbled success undecoded =>
    simp only [Reply.record, Reply.read, Reply.body, success, if_true, undecoded]
    exact .unreadable
  | broken success =>
    simp only [Reply.record, Reply.read, Reply.body, success, if_true]
    exact .unreadable
  | refused failed =>
    simp only [Reply.record, Reply.read, Reply.body, failed, Bool.false_eq_true, if_false]
    exact .refused failed _
  | refusedBroken failed =>
    simp only [Reply.record, Reply.read, Reply.body, failed, Bool.false_eq_true, if_false]
    exact .refused failed _

/-- And is told by it. -/
theorem Reply.means_iff (n : Node) :
    reply.Means v ↔ v.Ends n ((reply.record n).map (⟨·, n.id⟩)) := by
  refine ⟨fun h => h.ends n, fun ends => ?_⟩
  obtain ⟨w, means⟩ := reply.exists_means
  obtain rfl := (means.ends n).unique ends
  exact means

/-- Every reply amounts to one thing. -/
theorem Reply.existsUnique_means (reply : Reply) : ∃! v, reply.Means v := by
  obtain ⟨v, means⟩ := reply.exists_means
  refine ⟨v, means, fun w other => ?_⟩
  -- any node will do: the end of the call on it tells the verdict
  exact (other.ends ⟨"", ""⟩).unique (means.ends ⟨"", ""⟩)

end Verdicts

/-! ## Answers -/

/-- The report that an answer carries. -/
def reportFor (stamp : Stamp) (debug : Bool) (n : Node) : Option Report :=
  if debug then some ⟨n.id, stamp.milliseconds⟩ else none

/-- What a client is told. -/
inductive Verdict.Answered (stamp : Stamp) (debug : Bool) (n : Node) :
    Verdict → Http.Response → Prop where
  | silent {response : Http.Response} (status : response.status = 503)
      (body : response.body = (ErrorBody.mk s!"Node '{n.id}' is unavailable.").toJson.bytes) :
      Answered stamp debug n .silent response
  | served {record : Record} {response : Http.Response} (status : response.status = 200)
      (body : response.body = (Forwarded.mk record (reportFor stamp debug n)).toJson.bytes) :
      Answered stamp debug n (.served record) response
  | unreadable {response : Http.Response} (status : response.status = 500)
      (body : response.body = (ErrorBody.mk "An unexpected error occurred.").toJson.bytes) :
      Answered stamp debug n .unreadable response
  | refused {code : Nat} {response : Http.Response} (status : response.status = code) :
      Answered stamp debug n (.refused code) response

section Rejected

variable (node : String) (status : Nat) (text : String)

@[simp] theorem status_rejected : (Failure.rejected node status text).response.status = status := by
  unfold Failure.response
  dsimp only
  split <;> rfl

/-- The text of a refusal is handed on, unless it is blank. -/
theorem body_rejected :
    (Failure.rejected node status text).response.body =
      if Text.isBlank text then [] else Text.Utf8.bytes text := by
  unfold Failure.response
  dsimp only
  split <;> rfl

end Rejected

theorem body_refusal (status : Nat) (text : String) :
    (Failure.refusal status text).body = (ErrorBody.mk text).toJson.bytes := rfl

/-- The response to a refusal that was received whole. -/
theorem answer_refused {status : Nat} (failed : Http.isSuccess status = false)
    (body : List UInt8) (n : Node) (stamp : Stamp) (debug : Bool) :
    let text := String.ofList (Text.Utf8.decodeLossy body)
    let response := answer stamp debug (((Reply.complete status body).record n).map (⟨·, n.id⟩))
    response.status = status ∧
      response.body = if Text.isBlank text then [] else Text.Utf8.bytes text := by
  have rejected : (Reply.complete status body).record n =
      .error (.rejected n.id status (String.ofList (Text.Utf8.decodeLossy body))) := by
    simp only [Reply.record, Reply.read, Reply.body, failed, Bool.false_eq_true, if_false]
  rw [rejected]
  exact ⟨status_rejected n.id status _, body_rejected n.id status _⟩

/-- No response names a node before the router does. -/
theorem header_failure (failure : Failure) : failure.response.header? "x-debug-node" = none := by
  cases failure with
  | rejected node status text =>
    unfold Failure.response
    dsimp only
    split <;> rfl
  | _ => rfl

/-- The header that names the node. -/
theorem header_attachHeaders (stamp : Stamp) (node : Option String) {r : Http.Response}
    (unnamed : r.header? "x-debug-node" = none) :
    (attachHeaders stamp node r).header? "x-debug-node" = node.filter isHeaderText := by
  rw [Http.Response.header?] at unnamed
  simp only [attachHeaders, Http.Response.header?, List.append_assoc, List.lookup_append, unnamed]
  cases node.filter isHeaderText <;> rfl

namespace Verdict.Ends

variable {n : Node} {v : Verdict} {outcome : Except Failure Cluster.Served}

/-- The end of a call decides the status and the body of the answer. -/
theorem answered (h : v.Ends n outcome) (stamp : Stamp) (debug : Bool) :
    v.Answered stamp debug n (answer stamp debug outcome) := by
  cases h with
  | silent =>
    refine .silent rfl ?_
    simp only [answer, attachHeaders, Failure.response, body_refusal]
  | served record => exact .served rfl rfl
  | unreadable =>
    refine .unreadable rfl ?_
    simp only [answer, attachHeaders, Failure.response, body_refusal]
  | refused failed text => exact .refused (status_rejected n.id _ text)

/-- The answer names the node if its name can stand in a header. -/
theorem header (h : v.Ends n outcome) (stamp : Stamp) (debug : Bool) :
    (answer stamp debug outcome).header? "x-debug-node" =
      if isHeaderText n.id then some n.id else none := by
  rw [← Option.filter_some]
  cases h with
  | served record => exact header_attachHeaders stamp (some n.id) rfl
  | silent => exact header_attachHeaders stamp (some n.id) (header_failure _)
  | unreadable => exact header_attachHeaders stamp (some n.id) (header_failure _)
  | refused failed text => exact header_attachHeaders stamp (some n.id) (header_failure _)

/-- An answer with 200 is a record. -/
theorem report (h : v.Ends n outcome) (stamp : Stamp) (debug : Bool)
    (status : (answer stamp debug outcome).status = 200) :
    ∃ record, (answer stamp debug outcome).body =
      (Forwarded.mk record (reportFor stamp debug n)).toJson.bytes := by
  cases h with
  | silent => cases status
  | served record => exact ⟨record, rfl⟩
  | unreadable => cases status
  | @refused code failed text =>
    have same : code = 200 := (status_rejected n.id code text).symm.trans status
    rw [same] at failed
    cases failed

end Verdict.Ends

end ShardStore.Router
