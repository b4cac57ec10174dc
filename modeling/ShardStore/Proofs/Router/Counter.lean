/-
# ShardStore.Proofs.Router.Counter -- counting by compare and swap loses nothing

A key holds an integer, and clients count it up: a client asks for the record, puts the
next integer with the version of its copy expected, and starts over if that is refused.
Requests and replies are messages.  The shard takes requests in any order; replies
may be late, out of order or lost, a client may give up waiting at any time, and the
shard may be stopped.  Others may ask the shard for anything but a write to this key.

A copy may be stale by the time the put that is made of it arrives.  What carries the
proof is that integer and version go up together, so every copy and every put under way
is at the same distance from the start in both (`Stale`), and a put whose version is
the present one is made of the present integer.

* `Net` -- the shard, the clients and the messages; `Step` -- one step of anyone;
* `reachable_counts` -- the integer and the version are ahead by the puts accepted, and a
  client's share are the puts that it saw succeed and those of which it heard nothing.
-/
import ShardStore.Proofs.Router.Hop

namespace ShardStore.Counter

set_option autoImplicit false

open Router (Call Reply)

/-! ## Clients and messages -/

/-- What a client asks the shard for. -/
inductive Ask where
  | get
  /-- To put the integer if the key has still the version. -/
  | put (next : Json.Value) (version : UInt64)

def Ask.call : Ask → Call
  | .get => .get
  | .put next version => .write (.replace next) (some version)

/-- What a client is doing. -/
inductive Phase where
  | idle
  | reading
  | writing

/-- A reply on its way to the client that asked. -/
structure Letter where
  client : String
  ask : Ask
  reply : Reply

/-- Has the shard answered with success? -/
def succeeded : Reply → Bool
  | .complete status _ => Http.isSuccess status
  | _ => false

/-- Does the letter tell a client that its put was accepted? -/
def Letter.confirms (client : String) (l : Letter) : Bool :=
  match l.ask with
  | .get => false
  | .put .. => decide (l.client = client) && succeeded l.reply

/-- Whom a letter tells that its put was accepted. -/
def Letter.confirmed (l : Letter) : List String := if l.confirms l.client then [l.client] else []

/-- The value is this integer. -/
def Holds (v : Json.Value) (i : Int) : Prop := ∃ low high, v = .number (.integer i low high)

structure Net where
  shard : Shard
  phase : String → Phase := fun _ => .idle
  requests : List (String × Ask) := []
  replies : List Letter := []
  /-- The clients whose puts were accepted, in order. -/
  accepted : List String := []
  /-- The clients that saw a put succeed. -/
  seen : List String := []
  /-- The clients to whom word of an accepted put was lost. -/
  lost : List String := []

def Net.turn (net : Net) (client : String) (phase : Phase) : Net :=
  { net with phase := fun x => if x = client then phase else net.phase x }

/-- The reply of the shard to a request. -/
def Net.reply (net : Net) (r : Http.Request) : Reply :=
  .complete (net.shard.respond r).1.status (net.shard.respond r).1.body

inductive Step (n : Node) (key : String) : Net → Net → Prop where
  /-- A client asks for the record. -/
  | ask {net : Net} (client : String) (idle : net.phase client = .idle) :
      Step n key net
        { net.turn client .reading with requests := net.requests ++ [(client, .get)] }
  /-- The shard takes a request. -/
  | serve {net : Net} {client : String} {a : Ask} (before behind : List (String × Ask))
      (waits : net.requests = before ++ (client, a) :: behind) :
      Step n key net
        { net with
          shard := (net.shard.respond (a.call.request n key)).2
          requests := before ++ behind
          replies := net.replies ++ [⟨client, a, net.reply (a.call.request n key)⟩]
          accepted := net.accepted ++
            (Letter.mk client a (net.reply (a.call.request n key))).confirmed }
  /-- A client has a copy of an integer and puts the next. -/
  | put {net : Net} {client : String} {reply : Reply} {r : Record} {i : Int} {next : Json.Value}
      (before behind : List Letter) (waits : net.phase client = .reading)
      (arrives : net.replies = before ++ ⟨client, .get, reply⟩ :: behind)
      (reads : reply.record n = .ok r) (holds : Holds r.value i) (made : Holds next (i + 1)) :
      Step n key net
        { net.turn client .writing with
          replies := before ++ behind
          requests := net.requests ++ [(client, .put next r.version)] }
  /-- A client sees its put succeed. -/
  | succeed {net : Net} {client : String} {next : Json.Value} {version : UInt64} {reply : Reply}
      {r : Record} (before behind : List Letter) (waits : net.phase client = .writing)
      (arrives : net.replies = before ++ ⟨client, .put next version, reply⟩ :: behind)
      (reads : reply.record n = .ok r) :
      Step n key net
        { net.turn client .idle with
          replies := before ++ behind
          seen := net.seen ++ [client] }
  /-- A client sees that it was refused, and starts over. -/
  | refused {net : Net} {client : String} {a : Ask} {reply : Reply} {failure : Router.Failure}
      (before behind : List Letter) (arrives : net.replies = before ++ ⟨client, a, reply⟩ :: behind)
      (reads : reply.record n = .error failure) :
      Step n key net { net.turn client .idle with replies := before ++ behind }
  /-- A client waits no longer. -/
  | giveUp {net : Net} (client : String) : Step n key net (net.turn client .idle)
  /-- A request is lost. -/
  | dropRequest {net : Net} {m : String × Ask} (before behind : List (String × Ask))
      (waits : net.requests = before ++ m :: behind) :
      Step n key net { net with requests := before ++ behind }
  /-- A reply is lost. -/
  | dropReply {net : Net} {l : Letter} (before behind : List Letter)
      (arrives : net.replies = before ++ l :: behind) :
      Step n key net { net with replies := before ++ behind, lost := net.lost ++ l.confirmed }
  /-- Somebody else asks for anything but a write to the key. -/
  | other {net : Net} (r : Http.Request) (notPut : Http.Route.ofRequest r ≠ .put key)
      (notPatch : Http.Route.ofRequest r ≠ .patch key) :
      Step n key net { net with shard := (net.shard.respond r).2 }
  | stop {net : Net} : Step n key net { net with shard := net.shard.stop }

/-- What any number of steps make of a shard. -/
inductive Reachable (n : Node) (key : String) (shard : Shard) : Net → Prop where
  | start : Reachable n key shard { shard := shard }
  | step {net next : Net} (before : Reachable n key shard net) (step : Step n key net next) :
      Reachable n key shard next

/-! ## Integers as values -/

namespace Holds

variable {v : Json.Value} {i j : Int}

theorem plain (h : Holds v i) {d : Nat} : v.Plain d := by
  obtain ⟨low, high, rfl⟩ := h
  exact .integer i low high

theorem inj (h : Holds v i) (h' : Holds v j) : i = j := by
  obtain ⟨low, high, rfl⟩ := h
  obtain ⟨low', high', same⟩ := h'
  cases same
  rfl

/-- An integer has at most a sign and twenty digits. -/
theorem short (h : Holds v i) : v.bytes.length ≤ Http.maxBody := by
  obtain ⟨low, high, rfl⟩ := h
  have digits (m : Nat) : ∀ c ∈ Nat.toDigits 10 m, c.toNat ≤ 0x7F := by
    intro c member
    have digit := Text.Numeral.isDigit_of_mem_toDigits member
    simp only [Char.isDigit, Bool.and_eq_true, decide_eq_true_eq] at digit
    have high : c.toNat ≤ 57 := digit.2
    omega
  have few : (Nat.toDigits 10 i.natAbs).length ≤ 20 :=
    (Nat.length_toDigits_le_iff (by decide) (by decide)).2 (by omega)
  rw [Json.Value.bytes, Json.Value.text_number, Json.Number.text, Json.integerText, Http.maxBody]
  split
  · rw [Text.Utf8.length_encode_ascii (by
      intro c member
      rcases List.mem_cons.1 member with rfl | member
      · decide
      · exact digits _ c member), List.length_cons]
    omega
  · rw [Text.Utf8.length_encode_ascii (digits _)]
    omega

end Holds

/-- A value and a version as they were after some of `k` increments. -/
def Stale (v₀ : Int) (n₀ : UInt64) (k : Nat) (value : Json.Value) (version : UInt64) : Prop :=
  ∃ j ≤ k, Holds value (v₀ + j) ∧ version = n₀ + UInt64.ofNat j

theorem Stale.mono {v₀ : Int} {n₀ : UInt64} {k l : Nat} {value : Json.Value} {version : UInt64}
    (h : Stale v₀ n₀ k value version) (le : k ≤ l) : Stale v₀ n₀ l value version := by
  obtain ⟨j, early, rest⟩ := h
  exact ⟨j, Nat.le_trans early le, rest⟩

/-- While versions do not wrap around, a version tells how many increments there were. -/
theorem eq_of_version_eq {n₀ : UInt64} {j k : Nat} (le : j ≤ k) (bound : n₀.toNat + k < 2 ^ 64)
    (same : n₀ + UInt64.ofNat j = n₀ + UInt64.ofNat k) : j = k := by
  have cancelled := (UInt64.add_right_inj n₀).1 same
  have small : j < 2 ^ 64 ∧ k < 2 ^ 64 := by omega
  have := congrArg UInt64.toNat cancelled
  rwa [UInt64.toNat_ofNat_of_lt' small.1, UInt64.toNat_ofNat_of_lt' small.2] at this

/-! ## What a shard answers -/

theorem succeeded_answer (result : Except Store.Fault Record) :
    succeeded (.complete (Shard.answer result).status (Shard.answer result).body) =
      result.isOk := by
  cases result with
  | ok r => rfl
  | error fault => exact Router.isSuccess_status fault

/-- A client reads what the store makes of its call, and the shard keeps what it makes. -/
theorem reply_eq {n : Node} (base : n.IsBase) {key : String} (named : key ≠ "") (net : Net)
    {a : Ask} (portable : a.call.Portable) {result : Except Store.Fault Record} {store : Store}
    (performs : net.shard.store.perform key net.shard.stopped a.call = (result, store))
    (plain : ∀ r, result = .ok r → r.value.Plain (Json.maxDepth - 1)) :
    (net.reply (a.call.request n key)).record n = Router.forwarded n result ∧
      succeeded (net.reply (a.call.request n key)) = result.isOk ∧
      (net.shard.respond (a.call.request n key)).2 = { net.shard with store := store } := by
  have answer := Router.respond_request base named portable.readable net.shard
  rw [performs] at answer
  rw [Net.reply, answer]
  exact ⟨Router.record_answer n plain, succeeded_answer result, rfl⟩

/-- A put of a replacement is accepted over the present version, and otherwise refused. -/
theorem perform_put {s : Store} {key : String} {e : Entry} (held : s.find? key = some e)
    (next : Json.Value) (version : UInt64) (stopped : Bool) :
    (∃ fault store, s.perform key stopped (Ask.put next version).call = (.error fault, store) ∧
        store.find? key = some e) ∨
      ∃ store, s.perform key stopped (Ask.put next version).call =
          (.ok ⟨key, next, e.version + 1⟩, store) ∧
        version = e.version ∧ store.find? key = some ⟨next, e.version + 1⟩ := by
  have written := Store.write_written s key (.replace next) (some version) stopped
  simp only [Ask.call, Store.perform]
  generalize s.write key (.replace next) (some version) stopped = result at written ⊢
  cases written with
  | refused early => exact Or.inl ⟨_, _, rfl, held⟩
  | cancelled cleared token => exact Or.inl ⟨_, _, rfl, held⟩
  | rejected cleared token late => exact Or.inl ⟨_, _, rfl, held⟩
  | stored cleared token made =>
    rw [held] at made
    obtain ⟨rfl, expects⟩ := Entry.next_ok made
    refine Or.inr ⟨_, rfl, expects version rfl, ?_⟩
    rw [Store.find?_store, if_pos rfl]
    rfl

/-- What others ask for leaves the key alone. -/
theorem find?_other {r : Http.Request} {key : String} (notPut : Http.Route.ofRequest r ≠ .put key)
    (notPatch : Http.Route.ofRequest r ≠ .patch key) (s : Shard) :
    (s.respond r).2.store.find? key = s.store.find? key := by
  have write {k : String} (other : key ≠ k) (blank : Payload.Fault) (w : Json.Value → Write) :
      (s.write r k blank w).2.store.find? key = s.store.find? key := by
    unfold Shard.write
    split
    · rfl
    · rename_i value expected payload
      have written := Store.write_written s.store k (w value) expected s.stopped
      simp only
      generalize s.store.write k (w value) expected s.stopped = result at written ⊢
      cases written with
      | stored cleared token next => exact (Store.find?_store _ k key _).trans (if_neg other)
      | _ => rfl
  simp only [Shard.respond, Shard.serve]
  cases route : Http.Route.ofRequest r with
  | put k => exact write (fun same => notPut (same ▸ route)) .malformed .replace
  | patch k => exact write (fun same => notPatch (same ▸ route)) .nullDelta .merge
  | _ => rfl

/-! ## One step -/

/-- A letter can be read, and what it says of a record was so. -/
def Faithful (n : Node) (v₀ : Int) (n₀ : UInt64) (k : Nat) (l : Letter) : Prop :=
  (∃ failure, l.reply.record n = .error failure ∧ succeeded l.reply = false) ∨
    ∃ r, l.reply.record n = .ok r ∧ succeeded l.reply = true ∧
      (l.ask = .get → Stale v₀ n₀ k r.value r.version)

/-- Integer and version are ahead by the puts accepted; so far as they were ahead when a
copy was made, so far is what a client makes of it; and every accepted put has been
seen, or is heard of by nobody, or is on its way. -/
structure Counted (n : Node) (key : String) (v₀ : Int) (n₀ : UInt64) (net : Net) : Prop where
  stored : ∃ e, net.shard.store.find? key = some e ∧ Holds e.value (v₀ + net.accepted.length) ∧
    e.version = n₀ + UInt64.ofNat net.accepted.length
  puts : ∀ client next version, (client, .put next version) ∈ net.requests →
    ∃ j ≤ net.accepted.length, Holds next (v₀ + j + 1) ∧ version = n₀ + UInt64.ofNat j
  letters : ∀ l ∈ net.replies, Faithful n v₀ n₀ net.accepted.length l
  shares : ∀ client, net.accepted.count client =
    net.seen.count client + net.lost.count client + net.replies.countP (Letter.confirms client)

theorem mem_dropped {α : Type} {x m : α} {before behind : List α} (h : x ∈ before ++ behind) :
    x ∈ before ++ m :: behind := by
  rcases List.mem_append.1 h with old | old
  · exact List.mem_append_left _ old
  · exact List.mem_append_right _ (List.mem_cons_of_mem _ old)

theorem count_confirmed (l : Letter) (client : String) :
    l.confirmed.count client = if l.confirms client then 1 else 0 := by
  cases ask : l.ask with
  | get => simp [Letter.confirmed, Letter.confirms, ask]
  | put next version =>
    by_cases good : succeeded l.reply
    · by_cases mine : l.client = client
      · simp [Letter.confirmed, Letter.confirms, ask, good, mine]
      · simp [Letter.confirmed, Letter.confirms, ask, good, mine]
    · simp [Letter.confirmed, Letter.confirms, ask, good]

theorem Faithful.mono {n : Node} {v₀ : Int} {n₀ : UInt64} {k m : Nat} {l : Letter}
    (h : Faithful n v₀ n₀ k l) (le : k ≤ m) : Faithful n v₀ n₀ m l := by
  rcases h with failed | ⟨r, reads, good, copy⟩
  · exact Or.inl failed
  · exact Or.inr ⟨r, reads, good, fun ask => (copy ask).mono le⟩

namespace Counted

variable {n : Node} {key : String} {v₀ : Int} {n₀ : UInt64} {net : Net}

/-- A letter sets out, with the put that it confirms. -/
theorem shares_send (h : Counted n key v₀ n₀ net) (l : Letter) (client : String) :
    (net.accepted ++ l.confirmed).count client =
      net.seen.count client + net.lost.count client +
        (net.replies ++ [l]).countP (Letter.confirms client) := by
  rw [List.count_append, count_confirmed, h.shares client, List.countP_append, List.countP_singleton,
    Nat.add_assoc]

/-- The shard takes a request that changes nothing. -/
theorem unchanged (h : Counted n key v₀ n₀ net) {shard : Shard} {l : Letter}
    {before behind : List (String × Ask)} {m : String × Ask}
    (waits : net.requests = before ++ m :: behind)
    (kept : shard.store.find? key = net.shard.store.find? key) (quiet : ∀ c, l.confirms c = false)
    (faithful : Faithful n v₀ n₀ net.accepted.length l) :
    Counted n key v₀ n₀
      { net with shard, requests := before ++ behind, replies := net.replies ++ [l],
                 accepted := net.accepted ++ l.confirmed } := by
  have nobody : net.accepted ++ l.confirmed = net.accepted := by
    rw [Letter.confirmed, quiet]
    exact List.append_nil _
  have shares := h.shares_send l
  rw [nobody] at shares ⊢
  refine ⟨by rw [kept]; exact h.stored, ?_, ?_, shares⟩
  · intro client next version member
    exact h.puts client next version (waits ▸ mem_dropped member)
  · intro l' member
    rcases List.mem_append.1 member with old | new
    · exact h.letters l' old
    · rw [List.mem_singleton] at new
      exact new ▸ faithful

/-- The shard accepts the next integer. -/
theorem accept (h : Counted n key v₀ n₀ net) {shard : Shard} {next : Json.Value}
    {client : String} {version : UInt64} {reply : Reply} {before behind : List (String × Ask)}
    {m : String × Ask} (waits : net.requests = before ++ m :: behind)
    (made : Holds next (v₀ + net.accepted.length + 1))
    (stored : shard.store.find? key =
      some ⟨next, n₀ + UInt64.ofNat net.accepted.length + 1⟩) {r : Record}
    (reads : reply.record n = .ok r) (good : succeeded reply = true) :
    Counted n key v₀ n₀
      { net with shard, requests := before ++ behind,
                 replies := net.replies ++ [⟨client, .put next version, reply⟩],
                 accepted := net.accepted ++ (Letter.mk client (.put next version) reply).confirmed
                 } := by
  have shares := h.shares_send ⟨client, .put next version, reply⟩
  have one : (Letter.mk client (.put next version) reply).confirmed = [client] := by
    simp [Letter.confirmed, Letter.confirms, good]
  have more : net.accepted.length ≤ (net.accepted ++ [client]).length := by simp
  rw [one] at shares ⊢
  refine ⟨⟨_, stored, ?_, ?_⟩, ?_, ?_, shares⟩
  · have sum : v₀ + ((net.accepted ++ [client]).length : Nat) = v₀ + net.accepted.length + 1 := by
      rw [List.length_append, List.length_singleton]
      omega
    change Holds next (v₀ + ((net.accepted ++ [client]).length : Nat))
    rw [sum]
    exact made
  · change _ = n₀ + UInt64.ofNat (net.accepted ++ [client]).length
    rw [List.length_append, List.length_singleton, UInt64.ofNat_add, UInt64.add_assoc]
    rfl
  · intro client next version member
    obtain ⟨j, early, rest⟩ := h.puts client next version (waits ▸ mem_dropped member)
    exact ⟨j, Nat.le_trans early more, rest⟩
  · intro l member
    rcases List.mem_append.1 member with old | new
    · exact (h.letters l old).mono more
    · rw [List.mem_singleton] at new
      subst new
      exact Or.inr ⟨r, reads, good, fun ask => by cases ask⟩

theorem serve (h : Counted n key v₀ n₀ net) (base : n.IsBase) (valid : Key.isValid key = true)
    (bound : n₀.toNat + net.accepted.length < 2 ^ 64) {client : String} {a : Ask}
    {before behind : List (String × Ask)} (waits : net.requests = before ++ (client, a) :: behind) :
    Counted n key v₀ n₀
      { net with
        shard := (net.shard.respond (a.call.request n key)).2
        requests := before ++ behind
        replies := net.replies ++ [⟨client, a, net.reply (a.call.request n key)⟩]
        accepted := net.accepted ++
          (Letter.mk client a (net.reply (a.call.request n key))).confirmed } := by
  have named : key ≠ "" := by
    rintro rfl
    exact absurd valid (by decide)
  obtain ⟨e, held, integer, versioned⟩ := h.stored
  cases a with
  | get =>
    have performs : net.shard.store.perform key net.shard.stopped Ask.get.call =
        (.ok (e.record key), net.shard.store) := by
      simp only [Ask.call, Store.perform, Store.get, valid, held]
      rfl
    obtain ⟨reads, good, kept⟩ := reply_eq (a := .get) base named net trivial performs
      (by rintro r ⟨⟩; exact integer.plain)
    refine h.unchanged waits (by rw [kept]) (fun _ => rfl) (Or.inr ⟨e.record key, reads, good, ?_⟩)
    exact fun _ => ⟨net.accepted.length, Nat.le_refl _, integer, versioned⟩
  | put next version =>
    obtain ⟨j, early, made, expects⟩ := h.puts client next version
      (waits ▸ List.mem_append_right _ List.mem_cons_self)
    have portable : (Ask.put next version).call.Portable := ⟨made.plain, made.short⟩
    rcases perform_put held next version net.shard.stopped with
      ⟨fault, store, performs, kept⟩ | ⟨store, performs, present, stored⟩
    · obtain ⟨reads, failed, same⟩ := reply_eq base named net portable performs (by simp)
      refine h.unchanged waits (by rw [same, kept, held]) (fun c => ?_)
        (Or.inl ⟨Router.rejection n fault, reads, failed⟩)
      have : succeeded (net.reply ((Ask.put next version).call.request n key)) = false := failed
      simp [Letter.confirms, this]
    · -- the put was made of the present integer, since it expects the present version
      have latest : j = net.accepted.length :=
        eq_of_version_eq early bound (by rw [← expects, present, versioned])
      subst latest
      obtain ⟨reads, good, same⟩ := reply_eq base named net portable performs
        (by rintro r ⟨⟩; exact made.plain)
      exact h.accept waits made (by rw [same, stored, versioned]) reads good

/-- A letter arrives, or is lost, and its put is seen or not. -/
theorem shares_take (h : Counted n key v₀ n₀ net) {l : Letter} {before behind : List Letter}
    (arrives : net.replies = before ++ l :: behind) (client : String) :
    net.accepted.count client =
      net.seen.count client + net.lost.count client + l.confirmed.count client +
        (before ++ behind).countP (Letter.confirms client) := by
  have shares := h.shares client
  rw [arrives, List.countP_append, List.countP_cons] at shares
  rw [shares, count_confirmed, List.countP_append]
  omega

end Counted

variable {n : Node} {key : String} {v₀ : Int} {n₀ : UInt64} {net next : Net}

theorem Step.accepted_le (step : Step n key net next) :
    net.accepted.length ≤ next.accepted.length := by
  cases step with
  | serve before behind waits => simp
  | _ => exact Nat.le_refl _

theorem Step.counted (step : Step n key net next) (base : n.IsBase)
    (valid : Key.isValid key = true) (bound : n₀.toNat + net.accepted.length < 2 ^ 64)
    (h : Counted n key v₀ n₀ net) : Counted n key v₀ n₀ next := by
  cases step with
  | ask client idle =>
    refine ⟨h.stored, ?_, h.letters, h.shares⟩
    intro client next version member
    rcases List.mem_append.1 member with old | new
    · exact h.puts client next version old
    · simp at new
  | serve before behind waits => exact h.serve base valid bound waits
  | @put client reply r i written before behind waits arrives reads holds made =>
    have letter : Letter.mk client .get reply ∈ net.replies :=
      arrives ▸ List.mem_append_right _ List.mem_cons_self
    refine ⟨h.stored, ?_, fun l member => h.letters l (arrives ▸ mem_dropped member),
      h.shares_take arrives⟩
    intro x next version member
    rcases List.mem_append.1 member with old | new
    · exact h.puts x next version old
    · simp only [List.mem_singleton, Prod.mk.injEq, Ask.put.injEq] at new
      obtain ⟨rfl, rfl, rfl⟩ := new
      rcases h.letters _ letter with ⟨failure, fails, -⟩ | ⟨r', reads', -, copy⟩
      · rw [reads] at fails
        cases fails
      · rw [reads] at reads'
        cases reads'
        obtain ⟨j, early, integer, versioned⟩ := copy rfl
        obtain rfl : i = v₀ + j := holds.inj integer
        exact ⟨j, early, made, versioned⟩
  | @succeed client written version reply r before behind waits arrives reads =>
    have letter : Letter.mk client (.put written version) reply ∈ net.replies :=
      arrives ▸ List.mem_append_right _ List.mem_cons_self
    refine ⟨h.stored, h.puts, fun l member => h.letters l (arrives ▸ mem_dropped member), ?_⟩
    intro x
    rcases h.letters _ letter with ⟨failure, fails, -⟩ | ⟨r', -, good, -⟩
    · rw [reads] at fails
      cases fails
    · have one : (Letter.mk client (.put written version) reply).confirmed = [client] := by
        simp [Letter.confirmed, Letter.confirms, good]
      have shares := h.shares_take arrives x
      rw [one] at shares
      change net.accepted.count x = (net.seen ++ [client]).count x + net.lost.count x +
        (before ++ behind).countP (Letter.confirms x)
      rw [List.count_append]
      omega
  | @refused client a reply failure before behind arrives reads =>
    have letter : Letter.mk client a reply ∈ net.replies :=
      arrives ▸ List.mem_append_right _ List.mem_cons_self
    refine ⟨h.stored, h.puts, fun l member => h.letters l (arrives ▸ mem_dropped member), ?_⟩
    intro x
    rcases h.letters _ letter with ⟨-, -, failed⟩ | ⟨r', reads', -⟩
    · have nobody : (Letter.mk client a reply).confirmed = [] := by
        cases a <;> simp [Letter.confirmed, Letter.confirms, failed]
      have shares := h.shares_take arrives x
      rwa [nobody] at shares
    · rw [reads] at reads'
      cases reads'
  | giveUp client => exact ⟨h.stored, h.puts, h.letters, h.shares⟩
  | dropRequest before behind waits =>
    exact ⟨h.stored, fun client next version member =>
      h.puts client next version (waits ▸ mem_dropped member), h.letters, h.shares⟩
  | @dropReply l before behind arrives =>
    refine ⟨h.stored, h.puts, fun l' member => h.letters l' (arrives ▸ mem_dropped member),
      fun x => ?_⟩
    have shares := h.shares_take arrives x
    change net.accepted.count x = net.seen.count x + (net.lost ++ l.confirmed).count x +
      (before ++ behind).countP (Letter.confirms x)
    rw [List.count_append]
    omega
  | other r notPut notPatch =>
    refine ⟨?_, h.puts, h.letters, h.shares⟩
    have same := find?_other notPut notPatch net.shard
    exact same ▸ h.stored
  | stop => exact ⟨h.stored, h.puts, h.letters, h.shares⟩

/-! ## Any number of steps -/

theorem Reachable.counted {shard : Shard} (reached : Reachable n key shard net) (base : n.IsBase)
    (valid : Key.isValid key = true)
    (holds : ∃ e, shard.store.find? key = some e ∧ Holds e.value v₀ ∧ e.version = n₀)
    (bound : n₀.toNat + net.accepted.length < 2 ^ 64) : Counted n key v₀ n₀ net := by
  induction reached with
  | start =>
    obtain ⟨e, held, integer, version⟩ := holds
    refine ⟨⟨e, held, ?_, ?_⟩, by simp, by simp, by simp⟩
    · simpa using integer
    · simpa using version
  | step before step ih =>
    have earlier := step.accepted_le
    exact step.counted base valid (by omega) (ih (by omega))

/-- The integer and the version of a key that clients count up by compare and swap are ahead
of their start by the puts that the shard has accepted.  The share of a client are
the puts that it saw succeed, and those of which word was lost or is still on its way. -/
theorem reachable_counts (base : n.IsBase) (valid : Key.isValid key = true) {shard : Shard}
    {low : -0x8000000000000000 ≤ v₀} {high : v₀ < 0x10000000000000000}
    (holds : shard.store.find? key = some ⟨.number (.integer v₀ low high), n₀⟩)
    (reached : Reachable n key shard net) (bound : n₀.toNat + net.accepted.length < 2 ^ 64) :
    (∃ low high version,
      net.shard.store.find? key =
        some ⟨.number (.integer (v₀ + net.accepted.length) low high), version⟩ ∧
      version.toNat = n₀.toNat + net.accepted.length) ∧
    ∀ client, net.accepted.count client =
      net.seen.count client + net.lost.count client +
        net.replies.countP (Letter.confirms client) := by
  have counted := reached.counted base valid ⟨_, holds, ⟨low, high, rfl⟩, rfl⟩ bound
  obtain ⟨⟨value, version⟩, held, ⟨low', high', rfl⟩, rfl⟩ := counted.stored
  refine ⟨⟨low', high', _, held, ?_⟩, counted.shares⟩
  have small : net.accepted.length < 2 ^ 64 := by omega
  rw [UInt64.toNat_add, UInt64.toNat_ofNat_of_lt' small, Nat.mod_eq_of_lt bound]

/-- A client that nobody disturbs counts up by one. -/
theorem Reachable.round {shard : Shard} (reached : Reachable n key shard net) (base : n.IsBase)
    (valid : Key.isValid key = true) {e : Entry} (held : net.shard.store.find? key = some e)
    {i : Int} (holds : Holds e.value i) {value : Json.Value} (made : Holds value (i + 1))
    (running : net.shard.stopped = false) (client : String) (idle : net.phase client = .idle)
    (noRequests : net.requests = []) (noReplies : net.replies = []) :
    ∃ net', Reachable n key shard net' ∧ net'.accepted = net.accepted ++ [client] ∧
      net'.seen = net.seen ++ [client] := by
  obtain ⟨⟨store, stopped⟩, phase, requests, replies, accepted, seen, lost⟩ := net
  simp only at held running idle noRequests noReplies
  subst running noRequests noReplies
  have named : key ≠ "" := by
    rintro rfl
    exact absurd valid (by decide)
  -- the client gets its copy
  let asking : Net := {
    shard := ⟨store, false⟩, phase := fun x => if x = client then .reading else phase x
    requests := [(client, .get)], accepted, seen, lost }
  have asked : Reachable n key shard asking := reached.step (Step.ask client idle)
  have gets : store.perform key false Ask.get.call = (.ok (e.record key), store) := by
    simp only [Ask.call, Store.perform, Store.get, valid, held]
    rfl
  have plain (v : Json.Value) (j : Int) (h : Holds v j) (version : UInt64) :
      ∀ r, (.ok ⟨key, v, version⟩ : Except Store.Fault Record) = .ok r →
        r.value.Plain (Json.maxDepth - 1) := by
    rintro r ⟨⟩
    exact h.plain
  obtain ⟨reads, -, kept⟩ :=
    reply_eq (a := .get) base named asking trivial gets (plain e.value i holds e.version)
  have copied := asked.step (Step.serve [] [] rfl)
  rw [kept] at copied
  -- and its put is accepted
  let writing : Net := {
    shard := ⟨store, false⟩, phase := fun x => if x = client then .writing else asking.phase x
    requests := [(client, .put value e.version)], accepted := accepted ++ [], seen, lost }
  have wrote : Reachable n key shard writing :=
    copied.step (Step.put [] [] (if_pos rfl) rfl reads holds made)
  have cleared : Store.clearance key (.replace value) = .ok () :=
    Store.clearance_of_ne valid (by simp)
  have next : Entry.next key (store.find? key) (.replace value) (some e.version) =
      .ok ⟨value, e.version + 1⟩ := by
    rw [held, Entry.next_eq]
    exact if_pos rfl
  obtain ⟨reads, good, -⟩ := reply_eq (a := .put value e.version) base named writing
    ⟨made.plain, made.short⟩ (Store.write_stored cleared next) (plain value (i + 1) made _)
  have stored := wrote.step (Step.serve [] [] rfl)
  have done := stored.step (Step.succeed [] [] (if_pos rfl) rfl reads)
  refine ⟨_, done, ?_, rfl⟩
  have confirmed : (Letter.mk client (.put value e.version) (writing.reply
      ((Ask.put value e.version).call.request n key))).confirmed = [client] := by
    have : succeeded (writing.reply ((Ask.put value e.version).call.request n key)) = true := good
    simp [Letter.confirmed, Letter.confirms, this]
  change (accepted ++ []) ++ (Letter.mk client (.put value e.version) (writing.reply
      ((Ask.put value e.version).call.request n key))).confirmed = _
  rw [confirmed, List.append_nil]

/-- One client counts a seven up. -/
theorem reachable_counts_one_round :
    ∃ (shard : Shard) (net : Net), Node.IsBase ⟨"n", "http://h/"⟩ ∧ Key.isValid "k" = true ∧
      shard.store.find? "k" = some ⟨.number (.integer 7 (by decide) (by decide)), 3⟩ ∧
      Reachable ⟨"n", "http://h/"⟩ "k" shard net ∧ net.seen = ["a"] ∧
      ∃ low high version,
        net.shard.store.find? "k" = some ⟨.number (.integer 8 low high), version⟩ ∧
          version.toNat = 4 := by
  have base : Node.IsBase ⟨"n", "http://h/"⟩ := by
    refine ⟨['h', 't', 't', 'p'], ['h'], by rfl, ?_, ?_⟩ <;> simp
  let start : Entry := ⟨.number (.integer 7 (by decide) (by decide)), 3⟩
  let shard : Shard := { store := { entries := [("k", start)] } }
  have held : shard.store.find? "k" = some start := by rfl
  have fresh : Reachable ⟨"n", "http://h/"⟩ "k" shard { shard } := .start
  obtain ⟨net, reached, accepted, seen⟩ := fresh.round base rfl held
    ⟨by decide, by decide, rfl⟩ ⟨by decide, by decide, rfl⟩ rfl "a" rfl rfl rfl
  have count : net.accepted.length = 1 := by rw [accepted]; rfl
  obtain ⟨⟨low, high, version, held', counted⟩, -⟩ :=
    reachable_counts base rfl held reached (by rw [count]; decide)
  simp only [count] at held' counted
  exact ⟨shard, net, base, rfl, held, reached, seen, _, _, version, held', counted⟩

end ShardStore.Counter
