/-
# ShardStore.Proofs.Shard.Refusals -- what the errors of a shard look like

Whatever a shard refuses once it has a key and a body in hand -- parameters, a body, a key,
a version, or a write after it was stopped -- it answers with an error body, announced as
JSON (`answer_holdsError`).

Two requests do not come that far (`Http.Unfit`): one whose segment spells no key, since its
bytes are not UTF-8, and a write whose body is too long to be kept.  These are refused with
a line of plain text, although an error body is what every error should carry
(`respond_unspelt`).  There are no others: `error_bodies` says so for every shard, running or
stopped, and every request that a resource has the method for.
-/
import ShardStore.Proofs.Http.Route
import ShardStore.Proofs.Json.Records
import ShardStore.Shard

namespace ShardStore

set_option autoImplicit false

/-! ## Requests without a handler -/

namespace Http

/-- The path names a resource, and the resource has the method. -/
def Request.Handled (r : Request) : Prop :=
  ∃ resource, Resource.ofPath? r.target.path = some resource ∧ r.method ∈ resource.methods

/-- A request that is refused before a handler sees it, with the response to it. -/
inductive Unfit (r : Request) : Response → Prop where
  | segment {segment : String} (place : Resource.ofPath? r.target.path = some (.item segment))
      (unspelt : keyOf? segment = none) :
      Unfit r (.text 400 "Invalid URL: Invalid UTF-8 in `key`")
  | body {key : String} (names : r.Names key) (writes : r.Writes)
      (long : maxBody < r.body.length) :
      Unfit r (.text 413 "Failed to buffer the request body: length limit exceeded")

/-- The body of the response is an error body, and the response says that it is JSON. -/
structure Response.HoldsError (response : Response) : Prop where
  type : response.header? contentType = some "application/json"
  body : ∃ e, ErrorBody.schema.decode response.body = .ok e

theorem not_holdsError_text (status : Nat) (s : String) :
    ¬ (Response.text status s).HoldsError := by
  intro holds
  have type : some "text/plain; charset=utf-8" = some "application/json" := holds.type
  exact absurd type (by decide)

variable {r : Request} {response : Response}

theorem Unfit.refused (unfit : Unfit r response) (handled : r.Handled) :
    Route.ofRequest r = .refused response := by
  obtain ⟨resource, named, method⟩ := handled
  cases unfit with
  | segment place unspelt =>
    rw [place] at named
    cases named
    simp only [Route.ofRequest, place, method, not_true_eq_false, if_false, unspelt]
  | body names writes long =>
    have known : r.method ∈ ["GET", "HEAD", "PUT", "PATCH"] := by
      rcases writes with put | patch <;> simp [*]
    have verb : r.method = "PUT" ∨ r.method = "PATCH" := writes
    rw [ofRequest_names names known, Route.ofItem, if_pos verb, if_pos long]

theorem unfit_of_refused (handled : r.Handled) (refused : Route.ofRequest r = .refused response) :
    Unfit r response := by
  obtain ⟨resource, place, method⟩ := handled
  simp only [Route.ofRequest, place, method, not_true_eq_false, if_false] at refused
  cases resource with
  | listing => cases refused
  | health => cases refused
  | item segment =>
    cases spelt : keyOf? segment with
    | none =>
      simp only [spelt] at refused
      cases refused
      exact .segment place spelt
    | some key =>
      simp only [spelt, Route.ofItem] at refused
      split at refused
      · rename_i writes
        split at refused
        · rename_i long
          cases refused
          exact .body ⟨segment, place, spelt⟩ writes long
        · split at refused <;> cases refused
      · cases refused

end Http

/-! ## Answers -/

namespace Shard

/-- What is not answered with success is answered with an error body. -/
theorem answer_holdsError {result : Except Store.Fault Record}
    (failed : 400 ≤ (answer result).status) : (answer result).HoldsError := by
  cases result with
  | ok r =>
    have success : (answer (.ok r)).status = 200 := rfl
    omega
  | error fault => exact ⟨rfl, _, Json.decode_error _⟩

theorem write_answer (s : Shard) (r : Http.Request) (key : String) (blank : Payload.Fault)
    (w : Json.Value → Write) : ∃ result, (s.write r key blank w).1 = answer result := by
  unfold Shard.write
  split
  · rename_i fault refused
    exact ⟨.error fault, rfl⟩
  · rename_i value expected carried
    exact ⟨_, rfl⟩

/-- What a handler gets is answered with an error body, if it is not answered with success. -/
theorem serve_holdsError {s : Shard} {r : Http.Request}
    (routed : ∀ response, Http.Route.ofRequest r ≠ .refused response)
    (failed : 400 ≤ (s.serve r).1.status) : (s.serve r).1.HoldsError := by
  have write (key : String) (blank : Payload.Fault) (w : Json.Value → Write)
      (failed : 400 ≤ (s.write r key blank w).1.status) :
      (s.write r key blank w).1.HoldsError := by
    obtain ⟨result, answered⟩ := s.write_answer r key blank w
    rw [answered] at failed ⊢
    exact answer_holdsError failed
  unfold Shard.serve at failed ⊢
  cases route : Http.Route.ofRequest r with
  | refused response => exact absurd route (routed response)
  | health =>
    rw [route] at failed
    exact absurd (show 400 ≤ 200 from failed) (by decide)
  | listing =>
    rw [route] at failed
    exact absurd (show 400 ≤ 200 from failed) (by decide)
  | get key =>
    rw [route] at failed
    exact answer_holdsError failed
  | put key =>
    rw [route] at failed
    exact write key _ _ failed
  | patch key =>
    rw [route] at failed
    exact write key _ _ failed

/-- A request that a handler cannot get is refused with a line of text, and leaves the shard
as it is; every other error of a shard carries an error body. -/
theorem error_bodies (s : Shard) {r : Http.Request} (handled : r.Handled)
    (method : r.method ∈ ["GET", "PUT", "PATCH"]) :
    (∀ response, Http.Unfit r response →
      s.respond r = (response, s) ∧ 400 ≤ response.status ∧ ¬ response.HoldsError) ∧
    ((∀ response, ¬ Http.Unfit r response) →
      400 ≤ (s.respond r).1.status → (s.respond r).1.HoldsError) := by
  have whole : s.respond r = s.serve r := by
    have other : r.method ≠ "HEAD" := by
      intro head
      rw [head] at method
      exact absurd method (by decide)
    exact Prod.ext (Http.Response.toMethod_ne other _) rfl
  rw [whole]
  constructor
  · intro response unfit
    refine ⟨?_, ?_, ?_⟩
    · simp only [Shard.serve, unfit.refused handled]
    · cases unfit with
      | segment => exact Nat.le_refl 400
      | body => exact (show 400 ≤ 413 by decide)
    · cases unfit with
      | segment => exact Http.not_holdsError_text _ _
      | body => exact Http.not_holdsError_text _ _
  · intro fit failed
    apply serve_holdsError _ failed
    intro response refused
    exact fit response (Http.unfit_of_refused handled refused)

/-- A key that cannot be stored, spelled with an escape, is refused with an error body. -/
theorem error_bodies_escape :
    let r : Http.Request := { method := "GET", target := ⟨"/kv/a%20b", none⟩ }
    r.Handled ∧ (respond {} r).1.status = 400 ∧ (respond {} r).1.HoldsError := by
  intro r
  have place : Http.Resource.ofPath? "/kv/a%20b" = some (.item "a%20b") := by decide
  have spelt : Http.keyOf? "a%20b" = some "a b" := by decide
  have handled : r.Handled := ⟨_, place, by decide⟩
  have route := Http.ofRequest_get (r := r) rfl ⟨_, place, spelt⟩
  have fit : ∀ response, ¬ Http.Unfit r response := by
    intro response unfit
    have refused := unfit.refused handled
    rw [route] at refused
    cases refused
  have status : (respond {} r).1.status = 400 := by
    simp only [respond, serve, route, Http.Response.status_toMethod]
    rfl
  refine ⟨handled, status, (error_bodies {} handled (by decide)).2 fit ?_⟩
  exact Nat.le_of_eq status.symm

/-- A segment of one byte that is no UTF-8 is refused without an error body. -/
theorem respond_unspelt :
    let r : Http.Request := { method := "GET", target := ⟨"/kv/%FF", none⟩ }
    r.Handled ∧ (respond {} r).1.status = 400 ∧
      (respond {} r).1.header? Http.Response.contentType ≠ some "application/json" := by
  intro r
  have place : Http.Resource.ofPath? "/kv/%FF" = some (.item "%FF") := by decide
  have handled : r.Handled := ⟨_, place, by decide⟩
  have unfit : Http.Unfit r (.text 400 "Invalid URL: Invalid UTF-8 in `key`") :=
    .segment place (by decide)
  have response : (respond {} r).1 = .text 400 "Invalid URL: Invalid UTF-8 in `key`" := by
    simp only [respond, serve, unfit.refused handled]
    rfl
  rw [response]
  exact ⟨handled, rfl, by decide⟩

end Shard

end ShardStore
