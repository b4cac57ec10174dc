/-
# ShardStore.Proofs.Cluster.Forwarding -- what is forwarded, and what becomes of the reply

Whatever stands at the nodes, and whatever a router was asked for before, a call on a key
that can be stored is one request to the member that owns the key, and ends as that
member's reply decides (`exists_addressee`).  The requests that a router forwards are those
that carry a call (`carries_of_sent`).

* `reply_decides` -- a reply amounts to one of four things, which the call and the client are
  told;
* `refusal_passes` -- a refusal keeps its status, and its body if that is text that is not
  blank; `refusal_blank` is one that is;
* `forwarding_named` -- the response names the owner of the key if its name can stand in a
  header; `forwarding_unnamed` is a cluster where it cannot.
-/
import ShardStore.Proofs.Cluster.Relay
import ShardStore.Proofs.Cluster.Shutdown
import ShardStore.Proofs.Router.Verdict

namespace ShardStore.Cluster

set_option autoImplicit false

open Router (Call Failure Forwarded Reply Stamp)

/-! ## Who is asked -/

/-- At every point a call on a key that can be stored is one request to the member that owns
the key. -/
theorem exists_addressee {members : List Member} {c : Cluster} (made : ofMembers members = .ok c)
    (moves : List Move) {key : String} (valid : Key.isValid key = true) :
    ∃ m ∈ (c.afterMoves moves).members, (c.afterMoves moves).ring.owner key = .ok m.node ∧
      ∀ call : Call,
        ((c.afterMoves moves).call key call false).1 =
          ((m.receive (call.request m.node key)).1.record m.node).map (⟨·, m.node.id⟩) ∧
        ((c.afterMoves moves).call key call false).2.sent =
          (c.afterMoves moves).sent ++ [(m.node.id, call.request m.node key)] := by
  obtain ⟨start, ring, distinct⟩ := ofMembers_ok made
  obtain ⟨sameRing, sameNodes⟩ := (nodes_invariant (members.map (·.node)) c.ring).afterMoves
    (fun h => h) ⟨rfl, by rw [start]; rfl⟩ moves
  generalize c.afterMoves moves = now at sameRing sameNodes
  obtain ⟨n, among, owner⟩ := Ring.exists_owner ring (Key.notBlank valid)
  obtain ⟨m, member, rfl⟩ : ∃ m ∈ now.members, m.node = n := by
    rw [← sameNodes] at among
    exact List.mem_map.1 among
  have names : (now.members.map (·.node.id)).Nodup := by
    rw [← sameNodes, Cluster.nodes, List.map_map] at distinct
    exact distinct
  rw [← sameRing] at owner
  refine ⟨m, member, owner, fun call => ?_⟩
  rw [call_member names valid member owner]
  exact ⟨rfl, rfl⟩

/-- What a router forwards is a call on a key that can be stored. -/
theorem carries_of_sent {c : Cluster} {stamp : Stamp} {r : Http.Request} {key : String}
    (names : r.Names key) (method : r.method ∈ ["GET", "PUT", "PATCH"])
    (sent : (c.respond stamp r).2.sent ≠ c.sent) :
    c.stopped = false ∧ Key.isValid key = true ∧ ∃ params call, Carries r key params call := by
  have running : c.stopped = false := by
    cases stopped : c.stopped with
    | false => rfl
    | true => exact absurd (congrArg Cluster.sent (respond_stopped stopped stamp r)) sent
  rcases respond_cases running stamp names method with
    ⟨response, -, refused⟩ | ⟨params, call, carries⟩
  · exact absurd (congrArg (·.2.sent) refused) sent
  · refine ⟨running, ?_, params, call, carries⟩
    rw [respond_carried running carries] at sent
    cases owned : c.owner key with
    | error failure => exact absurd (by simp only [Cluster.call, owned]) sent
    | ok n => exact (owner_eq_ok.1 owned).2

/-! ## One node -/

theorem eq_of_single {c : Cluster} {m x : Member} (made : ofMembers [x] = .ok c)
    (member : m ∈ c.members) : m = x := by
  rw [(ofMembers_ok made).1] at member
  exact List.mem_singleton.1 member

/-- Behind a router with one node, the node is asked for every key. -/
theorem exists_single (n : Node) (peer : Peer) :
    ∃ c, ofMembers [⟨n, peer, true⟩] = .ok c ∧ c.stopped = false ∧ c.sent = [] ∧
      ∀ key, Key.isValid key = true → c.ring.owner key = .ok n ∧
        ∀ call : Call,
          (c.call key call false).1 =
            ((peer.receive (call.request n key)).1.record n).map (⟨·, n.id⟩) ∧
          (c.call key call false).2.sent = [(n.id, call.request n key)] := by
  obtain ⟨c, made⟩ : ∃ c, ofMembers [⟨n, peer, true⟩] = .ok c :=
    exists_ofMembers (by simp) (by simp)
  have start := (ofMembers_ok made).1
  have silent : c.sent = [] := congrArg Cluster.sent start
  refine ⟨c, made, congrArg Cluster.stopped start, silent, fun key valid => ?_⟩
  obtain ⟨m, member, owner, called⟩ := exists_addressee made [] valid
  obtain rfl := eq_of_single made member
  refine ⟨owner, fun call => ?_⟩
  obtain ⟨ended, sent⟩ := called call
  rw [show (c.afterMoves []).sent = [] from silent] at sent
  exact ⟨ended, sent⟩

/-- Reads the key `k`. -/
def getRequest (query : Option String) : Http.Request :=
  { method := "GET", target := ⟨"/kv/k", query⟩ }

theorem getRequest_names (query : Option String) : (getRequest query).Names "k" :=
  ⟨"k", (by decide : Http.Resource.ofPath? "/kv/k" = some (.item "k")), by decide⟩

theorem getRequest_carries (query : Option String) {params : Params}
    (read : Params.read .router (getRequest query).queryBytes = .ok params) :
    Carries (getRequest query) "k" params .get :=
  ⟨getRequest_names query, read, .get rfl⟩

/-! ## Replies -/

/-- Every reply of the owner of a key amounts to one thing, by which the call ends, and which
the client is told. -/
theorem reply_decides {members : List Member} {c : Cluster} (made : ofMembers members = .ok c)
    (moves : List Move) {key : String} (valid : Key.isValid key = true) :
    let now := c.afterMoves moves
    ∃ m ∈ now.members, now.ring.owner key = .ok m.node ∧
      ∀ call : Call,
        let reply := (m.receive (call.request m.node key)).1
        (∃! v, reply.Means v) ∧
        ∀ v, (reply.Means v ↔ v.Ends m.node (now.call key call false).1) ∧
          ∀ (stamp : Stamp) (r : Http.Request) (params : Params),
            now.stopped = false → Carries r key params call → reply.Means v →
            v.Answered stamp params.debug m.node (now.respond stamp r).1 := by
  intro now
  obtain ⟨m, member, owner, called⟩ := exists_addressee made moves valid
  refine ⟨m, member, owner, fun call => ?_⟩
  have ended := (called call).1
  intro reply
  refine ⟨reply.existsUnique_means, fun v => ⟨?_, ?_⟩⟩
  · rw [ended]
    exact Reply.means_iff m.node
  · intro stamp r params running carries means
    rw [respond_carried running carries, ended]
    exact (means.ends m.node).answered stamp params.debug

/-- A node that breaks off in the body of a success. -/
theorem reply_decides_broken :
    let n : Node := ⟨"a", "http://a/"⟩
    let stamp : Stamp := ⟨"one", 0, ⟨false, Binary64.Magnitude.zero⟩⟩
    ∃ c, ofMembers [⟨n, .scripted [.cut 200 [0x7B]], true⟩] = .ok c ∧
      (c.call "k" .get false).1 = .error (.unreadable "a") ∧
      (c.respond stamp (getRequest none)).1.status = 500 := by
  intro n stamp
  obtain ⟨c, made, running, -, -⟩ := exists_single n (.scripted [.cut 200 [0x7B]])
  obtain ⟨m, member, -, decides⟩ := reply_decides made [] (by decide : Key.isValid "k" = true)
  obtain rfl := eq_of_single made member
  obtain ⟨ends, answered⟩ := (decides .get).2 .unreadable
  refine ⟨c, made, ?_, ?_⟩
  · generalize outcome : (c.call "k" .get false).1 = o
    have ended : Router.Verdict.Ends n .unreadable o := outcome ▸ ends.1 (.broken rfl)
    cases ended
    rfl
  · cases answered stamp (getRequest none) {} running (getRequest_carries none rfl) (.broken rfl) with
    | unreadable status body => exact status

/-! ## Refusals -/

/-- A refusal of a request that a router forwards is handed on with its status, and with its
body if that is text; of a blank text nothing is handed on. -/
theorem refusal_passes {members : List Member} {c : Cluster} (made : ofMembers members = .ok c)
    (moves : List Move) (stamp : Stamp) {r : Http.Request} {key : String} (names : r.Names key)
    (method : r.method ∈ ["GET", "PUT", "PATCH"])
    (forwarded : ((c.afterMoves moves).respond stamp r).2.sent ≠ (c.afterMoves moves).sent) :
    let now := c.afterMoves moves
    ∃ m ∈ now.members, ∃ sent, now.ring.owner key = .ok m.node ∧
      (now.respond stamp r).2.sent = now.sent ++ [(m.node.id, sent)] ∧
      ∀ status body, (m.receive sent).1 = .complete status body →
        Http.isSuccess status = false →
        (now.respond stamp r).1.status = status ∧
        ∀ text, Text.Utf8.decode? body = some text →
          (now.respond stamp r).1.body = if text.all Text.isSpace then [] else body := by
  intro now
  obtain ⟨running, valid, params, call, carries⟩ := carries_of_sent names method forwarded
  obtain ⟨m, member, owner, called⟩ := exists_addressee made moves valid
  obtain ⟨ended, sent⟩ := called call
  have responded := respond_carried running carries stamp
  refine ⟨m, member, call.request m.node key, owner, ?_, ?_⟩
  · rw [responded]
    exact sent
  · intro status body reply failed
    rw [responded, ended, reply]
    obtain ⟨same, whole⟩ := Router.answer_refused failed body m.node stamp params.debug
    refine ⟨same, fun text decoded => whole.trans ?_⟩
    obtain rfl := Text.Utf8.decode?_eq_some.1 decoded
    rw [Text.Utf8.decodeLossy_encode, Text.isBlank, Text.Utf8.bytes, String.toList_ofList]

/-- A refusal with a text. -/
theorem refusal_passes_text :
    let n : Node := ⟨"a", "http://a/"⟩
    let stamp : Stamp := ⟨"one", 0, ⟨false, Binary64.Magnitude.zero⟩⟩
    ∃ c, ofMembers [⟨n, .scripted [.complete 404 [0x20, 0x6E]], true⟩] = .ok c ∧
      (c.respond stamp (getRequest none)).1.status = 404 ∧
      (c.respond stamp (getRequest none)).1.body = [0x20, 0x6E] := by
  intro n stamp
  obtain ⟨c, made, running, silent, asked⟩ :=
    exists_single n (.scripted [.complete 404 [0x20, 0x6E]])
  have forwarded : (c.respond stamp (getRequest none)).2.sent ≠ c.sent := by
    rw [respond_carried running (getRequest_carries none rfl), silent,
      ((asked "k" (by decide)).2 .get).2]
    simp
  obtain ⟨m, member, sent, -, -, passes⟩ := refusal_passes made [] stamp (getRequest_names none)
    (by decide) forwarded
  obtain rfl := eq_of_single made member
  obtain ⟨status, body⟩ := passes 404 [0x20, 0x6E] rfl rfl
  exact ⟨c, made, status, body [' ', 'n'] (by decide)⟩

/-- The space that a node sends with its refusal does not arrive. -/
theorem refusal_blank :
    let n : Node := ⟨"a", "http://a/"⟩
    let stamp : Stamp := ⟨"one", 0, ⟨false, Binary64.Magnitude.zero⟩⟩
    ∃ c, ofMembers [⟨n, .scripted [.complete 404 [0x20]], true⟩] = .ok c ∧
      c.ring.owner "k" = .ok n ∧
      (c.respond stamp (getRequest none)).2.sent = [("a", Call.get.request n "k")] ∧
      (c.respond stamp (getRequest none)).1.status = 404 ∧
      (c.respond stamp (getRequest none)).1.body = [] := by
  intro n stamp
  obtain ⟨c, made, running, -, asked⟩ := exists_single n (.scripted [.complete 404 [0x20]])
  obtain ⟨owner, called⟩ := asked "k" (by decide)
  obtain ⟨ended, sent⟩ := called .get
  obtain ⟨status, body⟩ := Router.answer_refused (rfl : Http.isSuccess 404 = false) [0x20] n stamp
    false
  have responded : (c.respond stamp (getRequest none)).1 = _ :=
    congrArg Prod.fst (respond_carried running (getRequest_carries none rfl) stamp)
  rw [ended] at responded
  refine ⟨c, made, owner, ?_, ?_, ?_⟩
  · rw [respond_carried running (getRequest_carries none rfl)]
    exact sent
  · exact responded ▸ status
  · exact responded ▸ body

/-! ## Names -/

/-- The response to a request that a router forwards names the owner of the key, whatever the
reply, if the name can stand in a header; and the report that a success carries names it. -/
theorem forwarding_named {members : List Member} {c : Cluster} (made : ofMembers members = .ok c)
    (moves : List Move) {key : String} (valid : Key.isValid key = true) :
    let now := c.afterMoves moves
    ∃ m ∈ now.members, now.ring.owner key = .ok m.node ∧
      ∀ (stamp : Stamp) (r : Http.Request) (params : Params) (call : Call),
        now.stopped = false → Carries r key params call →
        (now.respond stamp r).1.header? "x-debug-node" =
          (if Router.isHeaderText m.node.id then some m.node.id else none) ∧
        (params.debug = true → (now.respond stamp r).1.status = 200 →
          ∃ record, (now.respond stamp r).1.body =
            (Forwarded.mk record (some ⟨m.node.id, stamp.milliseconds⟩)).toJson.bytes) := by
  intro now
  obtain ⟨m, member, owner, called⟩ := exists_addressee made moves valid
  refine ⟨m, member, owner, ?_⟩
  intro stamp r params call running carries
  obtain ⟨v, means⟩ := ((m.receive (call.request m.node key)).1).exists_means
  have ends := means.ends m.node
  rw [respond_carried running carries, (called call).1]
  refine ⟨ends.header stamp params.debug, fun asked success => ?_⟩
  obtain ⟨record, body⟩ := ends.report stamp params.debug success
  refine ⟨record, body.trans ?_⟩
  rw [Router.reportFor, if_pos asked]

/-- The name of a node and its report. -/
theorem forwarding_named_report :
    let n : Node := ⟨"a", "http://a/"⟩
    let seven : Json.Value := .number (.integer 7 (by decide) (by decide))
    let stamp : Stamp := ⟨"one", 0, ⟨false, Binary64.Magnitude.zero⟩⟩
    let r := getRequest (some "debug=true")
    ∃ c, ofMembers [⟨n, .scripted [.complete 200 (Record.mk "k" seven 1).toJson.bytes], true⟩] =
        .ok c ∧
      (c.respond stamp r).1.header? "x-debug-node" = some "a" ∧
      ∃ record, (c.respond stamp r).1.body =
        (Forwarded.mk record (some ⟨"a", stamp.milliseconds⟩)).toJson.bytes := by
  intro n seven stamp r
  let peer : Peer := .scripted [.complete 200 (Record.mk "k" seven 1).toJson.bytes]
  have query : Params.read .router r.queryBytes = .ok { debug := true } := by decide
  have carries : Carries r "k" { debug := true } .get := getRequest_carries _ query
  have decoded : Record.schema.decode (Record.mk "k" seven 1).toJson.bytes = .ok ⟨"k", seven, 1⟩ :=
    Json.decode_record (Json.Value.Plain.integer 7 _ _).legible
  obtain ⟨c, made, running, -, asked⟩ := exists_single n peer
  have success : (c.respond stamp r).1.status = 200 := by
    have served : (peer.receive (Call.get.request n "k")).1.Means (.served ⟨"k", seven, 1⟩) :=
      .served rfl decoded
    rw [respond_carried running carries, ((asked "k" (by decide)).2 .get).1]
    cases (served.ends n).answered stamp true with
    | served status body => exact status
  obtain ⟨m, member, -, named⟩ := forwarding_named made [] (by decide : Key.isValid "k" = true)
  obtain rfl := eq_of_single made member
  obtain ⟨header, report⟩ := named stamp r _ _ running carries
  exact ⟨c, made, header.trans (if_pos (by decide)), report rfl success⟩

/-- A node with a line feed in its name is not named. -/
theorem forwarding_unnamed :
    let n : Node := ⟨"a\nb", "http://a/"⟩
    let stamp : Stamp := ⟨"one", 0, ⟨false, Binary64.Magnitude.zero⟩⟩
    ∃ c, ofMembers [⟨n, .dead, true⟩] = .ok c ∧ c.stopped = false ∧
      c.ring.owner "k" = .ok n ∧ Carries (getRequest none) "k" {} .get ∧
      (c.respond stamp (getRequest none)).1.header? "x-debug-node" = none := by
  intro n stamp
  obtain ⟨c, made, running, -, asked⟩ := exists_single n .dead
  obtain ⟨owner, called⟩ := asked "k" (by decide)
  have carries : Carries (getRequest none) "k" {} .get := getRequest_carries none rfl
  refine ⟨c, made, running, owner, carries, ?_⟩
  rw [respond_carried running carries, (called .get).1]
  have ends := Reply.Means.silent.ends n
  exact (ends.header stamp false).trans (if_neg (by decide))

end ShardStore.Cluster
