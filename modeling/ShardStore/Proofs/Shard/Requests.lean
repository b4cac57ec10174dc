/-
# ShardStore.Proofs.Shard.Requests -- what requests can do to a shard

A request leaves a shard as it is, or is a write of a value that its body holds
(`Shard.snd_respond`).  Of a request for a key only the method, the body and the parameters
count (`Shard.respond_congr`).  Requests come one after the other (`Shard.after`).
-/
import ShardStore.Proofs.Http.Route
import ShardStore.Proofs.Json.Found
import ShardStore.Shard

namespace ShardStore

set_option autoImplicit false

namespace Payload

theorem read_eq_ok {blank : Fault} {body : List UInt8} {v : Json.Value}
    (h : read blank body = .ok v) : Json.Value.read body = .ok v := by
  unfold read at h
  split at h
  · cases h
  · split at h
    · cases h
      assumption
    · cases h

theorem read_ok {body : List UInt8} {v : Json.Value} (h : Json.Value.read body = .ok v)
    (blank : Fault) : read blank body = .ok v := by
  rw [read, if_neg (ne_true_of_eq_false (Json.Value.read_visible h)), h]

end Payload

/-- A shard cannot tell two requests for a key apart that have the same method, the same body
and the same parameters. -/
theorem Shard.respond_congr {r u : Http.Request} {key : String} (names : r.Names key)
    (named : u.Names key) (method : r.method = u.method) (body : r.body = u.body)
    (query : Params.read .shard r.queryBytes = Params.read .shard u.queryBytes) (s : Shard) :
    s.respond r = s.respond u := by
  have route := Http.ofRequest_congr names named method body
  have same (blank : Payload.Fault) : payload r blank = payload u blank := by
    simp only [payload, query, body]
  simp only [respond, serve, write, route, same, method]

/-- A request leaves a shard as it is, or is a write of a value. -/
theorem Shard.snd_respond (s : Shard) (r : Http.Request) :
    (s.respond r).2 = s ∨ ∃ key blank, ∃ w : Json.Value → Write,
      (∀ v, (w v).payload = v) ∧ (s.respond r).2 = (s.write r key blank w).2 := by
  show (s.serve r).2 = s ∨ ∃ key blank, ∃ w : Json.Value → Write,
    (∀ v, (w v).payload = v) ∧ (s.serve r).2 = (s.write r key blank w).2
  unfold Shard.serve
  cases Http.Route.ofRequest r with
  | put key => exact Or.inr ⟨key, .malformed, .replace, fun _ => rfl, rfl⟩
  | patch key => exact Or.inr ⟨key, .nullDelta, .merge, fun _ => rfl, rfl⟩
  | _ => exact Or.inl rfl

/-- A shard after requests, one after the other. -/
def Shard.after (s : Shard) (rs : List Http.Request) : Shard := rs.foldl (fun s r => (s.respond r).2) s

end ShardStore
