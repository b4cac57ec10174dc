/-
# ShardStore.Proofs.Http.Route -- which requests are writes, and which key they name

Shards and routers route a request alike.  The method tells writes from reads: a write is
routed to a write, all else to a read, or to a refusal, and what is routed to a key names
it (`ofRequest_routing`).  A request for a key that its segment spells is routed to that
key, unless its body is too long to be kept (`ofRequest_routed`).
-/
import ShardStore.Http.Route
import ShardStore.Http.Status

namespace ShardStore.Http

set_option autoImplicit false

/-! ## Writes -/

def Request.Writes (r : Request) : Prop := r.method = "PUT" ∨ r.method = "PATCH"

theorem Request.not_writes {r : Request} (reads : r.method = "GET" ∨ r.method = "HEAD") :
    ¬ r.Writes := by
  rintro (put | patch)
  · rcases reads with get | head <;> simp_all
  · rcases reads with get | head <;> simp_all

instance (r : Request) : Decidable r.Writes :=
  inferInstanceAs (Decidable (r.method = "PUT" ∨ r.method = "PATCH"))

/-- The path of the request spells the key. -/
def Request.Names (r : Request) (key : String) : Prop :=
  ∃ segment, Resource.ofPath? r.target.path = some (.item segment) ∧ keyOf? segment = some key

/-- What a request can be routed to: writes to writes, all else to reads, or to a refusal. -/
inductive Routing (r : Request) : Route → Prop where
  | refused {response : Response} (status : isSuccess response.status = false) :
      Routing r (.refused response)
  | listing (reads : ¬ r.Writes) : Routing r .listing
  | health (reads : ¬ r.Writes) : Routing r .health
  | get {key : String} (reads : ¬ r.Writes) (names : r.Names key) : Routing r (.get key)
  | put {key : String} (writes : r.Writes) (names : r.Names key) : Routing r (.put key)
  | patch {key : String} (writes : r.Writes) (names : r.Names key) : Routing r (.patch key)

theorem ofRequest_routing (r : Request) : Routing r (Route.ofRequest r) := by
  unfold Route.ofRequest
  split
  · exact .refused rfl
  · rename_i resource place
    split
    · exact .refused rfl
    · rename_i method
      have allowed : r.method ∈ resource.methods := Classical.not_not.1 method
      split
      · exact .listing (Request.not_writes (by simpa [Resource.methods] using allowed))
      · exact .health (Request.not_writes (by simpa [Resource.methods] using allowed))
      · rename_i segment
        split
        · rename_i key spells
          have names : r.Names key := ⟨segment, place, spells⟩
          unfold Route.ofItem
          split
          · rename_i writes
            split
            · exact .refused rfl
            · split
              · exact .put writes names
              · exact .patch writes names
          · rename_i reads
            exact .get reads names
        · exact .refused rfl

theorem Response.toMethod_ne {method : String} (other : method ≠ "HEAD") (response : Response) :
    response.toMethod method = response :=
  if_neg other

/-- No write is asked with `HEAD`. -/
theorem Response.toMethod_writes {r : Request} (writes : r.Writes) (response : Response) :
    response.toMethod r.method = response :=
  toMethod_ne (fun head => Request.not_writes (Or.inr head) writes) response

@[simp] theorem Response.status_toMethod (r : Response) (method : String) :
    (r.toMethod method).status = r.status := by
  unfold Response.toMethod
  split <;> rfl

/-! ## Keys -/

/-- The key that the path of a request spells, if it spells one. -/
def Request.key? (r : Request) : Option String :=
  match Resource.ofPath? r.target.path with
  | some (.item segment) => keyOf? segment
  | _ => none

theorem Request.key?_eq_some {r : Request} {key : String} :
    r.key? = some key ↔ r.Names key := by
  unfold Request.key? Request.Names
  constructor
  · intro found
    split at found
    · rename_i segment place
      exact ⟨segment, place, found⟩
    · cases found
  · rintro ⟨segment, place, spells⟩
    rw [place]
    exact spells

instance (r : Request) (key : String) : Decidable (r.Names key) :=
  decidable_of_iff (r.key? = some key) Request.key?_eq_some

/-- A path spells one key at most. -/
theorem Request.Names.unique {r : Request} {key x : String} (names : r.Names key)
    (other : r.Names x) : key = x := by
  have same := (Request.key?_eq_some.2 names).symm.trans (Request.key?_eq_some.2 other)
  exact Option.some.inj same

theorem ofItem_put {r : Request} (method : r.method = "PUT") (short : r.body.length ≤ maxBody)
    (key : String) : Route.ofItem r key = .put key := by
  simp only [Route.ofItem, method, true_or, if_true, gt_iff_lt, Nat.not_lt.2 short, if_false]

theorem ofItem_patch {r : Request} (method : r.method = "PATCH") (short : r.body.length ≤ maxBody)
    (key : String) : Route.ofItem r key = .patch key := by
  simp [Route.ofItem, method, Nat.not_lt.2 short]

theorem ofRequest_names {r : Request} {key : String} (names : r.Names key)
    (method : r.method ∈ ["GET", "HEAD", "PUT", "PATCH"]) :
    Route.ofRequest r = Route.ofItem r key := by
  obtain ⟨segment, place, spells⟩ := names
  simp only [Route.ofRequest, place, Resource.methods, method, not_true_eq_false, if_false, spells]

theorem ofRequest_get {r : Request} {key : String} (method : r.method = "GET")
    (names : r.Names key) : Route.ofRequest r = .get key := by
  rw [ofRequest_names names (by simp [method])]
  simp [Route.ofItem, method]

theorem ofRequest_put {r : Request} {key : String} (method : r.method = "PUT")
    (names : r.Names key) (short : r.body.length ≤ maxBody) : Route.ofRequest r = .put key := by
  rw [ofRequest_names names (by simp [method])]
  exact ofItem_put method short key

/-- Where two requests for a key are routed depends on their methods and bodies. -/
theorem ofRequest_congr {r u : Request} {key : String} (names : r.Names key) (named : u.Names key)
    (method : r.method = u.method) (body : r.body = u.body) :
    Route.ofRequest r = Route.ofRequest u := by
  have item : Route.ofItem r key = Route.ofItem u key := by
    simp only [Route.ofItem, method, body]
  obtain ⟨segment, place, spells⟩ := names
  obtain ⟨other, place', spells'⟩ := named
  simp only [Route.ofRequest, place, place', Resource.methods, method, spells, spells', item]

/-- What a request for a key can be routed to. -/
inductive Routed (r : Request) (key : String) : Route → Prop where
  | get (method : r.method = "GET") : Routed r key (.get key)
  | long (writes : r.method = "PUT" ∨ r.method = "PATCH") (long : maxBody < r.body.length) :
      Routed r key (.refused (.text 413 "Failed to buffer the request body: length limit exceeded"))
  | put (method : r.method = "PUT") (short : r.body.length ≤ maxBody) : Routed r key (.put key)
  | patch (method : r.method = "PATCH") (short : r.body.length ≤ maxBody) :
      Routed r key (.patch key)

theorem ofRequest_routed {r : Request} {key : String} (names : r.Names key)
    (method : r.method ∈ ["GET", "PUT", "PATCH"]) : Routed r key (Route.ofRequest r) := by
  simp only [List.mem_cons, List.not_mem_nil, or_false] at method
  rw [ofRequest_names names (by rcases method with get | put | patch <;> simp [*])]
  rcases method with get | writes
  · have item : Route.ofItem r key = .get key := by simp [Route.ofItem, get]
    rw [item]
    exact .get get
  · by_cases long : maxBody < r.body.length
    · rw [Route.ofItem, if_pos writes, if_pos long]
      exact .long writes long
    · have short := Nat.le_of_not_lt long
      rcases writes with put | patch
      · rw [ofItem_put put short]
        exact .put put short
      · rw [ofItem_patch patch short]
        exact .patch patch short

end ShardStore.Http
