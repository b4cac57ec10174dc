/-
# ShardStore.Proofs.Router.Request -- what a router asks is what a shard reads

The request for a call on a key reaches a shard as that call, if the node's address is
the base URL of the shard (`Node.IsBase`):

* below the address the URL is `place`, which has no mark of a URL but the slashes of its
  path and the mark of its query (`keyUrl_eq`, `unmarked_path`);
* the path names the key, whatever the key is, as long as it is not empty
  (`keyOf?_segment`, `request_names`);
* the query carries the expected version (`read_versionQuery`, `read_query`);
* the body is read as the value, if the value is legible (`read_body`).
-/
import Mathlib.Data.List.TakeWhile
import ShardStore.Proofs.Http.Route
import ShardStore.Proofs.Json.Records
import ShardStore.Proofs.Text.Numeral
import ShardStore.Proofs.Text.Percent
import ShardStore.Router.Client
import ShardStore.Shard

namespace ShardStore

set_option autoImplicit false

open Text (Utf8.encode)

/-! ## Base URLs -/

/-- The address is a scheme and an authority, and the slash behind them. -/
def Node.IsBase (n : Node) : Prop :=
  ∃ scheme authority : List Char,
    n.address.toList = scheme ++ ':' :: '/' :: '/' :: (authority ++ ['/']) ∧
      (∀ c ∈ scheme, c ∉ [':', '/', '#']) ∧ ∀ c ∈ authority, c ∉ ['/', '?', '#']

theorem Node.IsBase.http {n : Node} (authority : List Char)
    (address : n.address.toList =
      'h' :: 't' :: 't' :: 'p' :: ':' :: '/' :: '/' :: (authority ++ ['/']))
    (plain : ∀ c ∈ authority, c ∉ ['/', '?', '#']) : n.IsBase :=
  ⟨['h', 't', 't', 'p'], authority, address, by simp, plain⟩

namespace Http

/-- The path begins behind the scheme and the authority. -/
theorem pathOnward_base {scheme authority behind : List Char} (hs : ':' ∉ scheme)
    (ha : ∀ c ∈ authority, c ∉ ['/', '?', '#']) :
    pathOnward (scheme ++ ':' :: '/' :: '/' :: (authority ++ '/' :: behind)) = '/' :: behind := by
  induction scheme with
  | nil =>
    have inside : ∀ c ∈ authority, (c ≠ '/' && c ≠ '?') = true := by
      intro c member
      have := ha c member
      simp only [List.mem_cons, List.not_mem_nil, or_false, not_or] at this
      simp [this]
    rw [List.nil_append, pathOnward, List.dropWhile_append_of_pos inside]
    rfl
  | cons c scheme ih =>
    simp only [List.mem_cons, not_or] at hs
    rw [List.cons_append, pathOnward.eq_def]
    split
    · rename_i mark
      exact absurd (List.cons.inj mark).1.symm hs.1
    · rename_i mark
      rw [← (List.cons.inj mark).2]
      exact ih hs.2
    · rename_i mark
      cases mark

/-- What is behind the base URL of a node is the path and the query. -/
theorem ofReference_base {n : Node} (base : n.IsBase) {behind : List Char} (h : '#' ∉ behind) :
    Target.ofReference (String.ofList (n.address.toList ++ behind)) = {
      path := String.ofList ('/' :: behind.takeWhile (· ≠ '?'))
      query :=
        if behind.dropWhile (· ≠ '?') = [] then none
        else some (String.ofList (behind.dropWhile (· ≠ '?')).tail) } := by
  obtain ⟨scheme, authority, address, hs, ha⟩ := base
  have whole : n.address.toList ++ behind =
      scheme ++ ':' :: '/' :: '/' :: (authority ++ '/' :: behind) := by
    rw [address]
    simp
  have sent : (n.address.toList ++ behind).takeWhile (· ≠ '#') = n.address.toList ++ behind := by
    rw [List.takeWhile_eq_self_iff]
    intro c member
    have other : c ≠ '#' := by
      rintro rfl
      rw [whole] at member
      simp only [List.mem_append, List.mem_cons] at member
      rcases member with inScheme | mark | mark | mark | inAuthority | mark | inBehind
      · exact hs _ inScheme (by simp)
      · exact absurd mark (by decide)
      · exact absurd mark (by decide)
      · exact absurd mark (by decide)
      · exact ha _ inAuthority (by simp)
      · exact absurd mark (by decide)
      · exact h inBehind
    simpa using other
  have absolute : (n.address.toList ++ behind).head? ≠ some '/' := by
    rw [whole]
    cases scheme with
    | nil => simp
    | cons c scheme =>
      have other := hs c List.mem_cons_self
      simp only [List.mem_cons, List.not_mem_nil, or_false, not_or] at other
      simpa using other.2.1
  have onward : pathOnward (n.address.toList ++ behind) = '/' :: behind := by
    rw [whole]
    exact pathOnward_base (fun member => hs _ member (by simp)) ha
  simp only [Target.ofReference, String.toList_ofList, sent, if_neg absolute, onward]
  have slash : decide ('/' ≠ '?') = true := by decide
  simp only [List.takeWhile_cons, List.dropWhile_cons, slash, if_true, List.isEmpty_cons,
    Bool.false_eq_true, if_false, List.isEmpty_iff]

end Http

/-! ## Keys in paths -/

namespace Router

/-- A key as it stands in a path. -/
def segment (key : String) : List Char :=
  Text.Utf8.decodeLossy (Text.Percent.encode (Text.Utf8.bytes key))

/-- An escaped key holds no mark of a URL. -/
theorem notMem_segment {key : String} {c : Char} (h : c ∈ segment key) : c ∉ ['/', '?', '#'] := by
  rw [segment, Text.Utf8.decodeLossy_ascii fun _ => Text.Percent.ascii_of_mem_encode] at h
  obtain ⟨b, member, rfl⟩ := List.mem_map.1 h
  have low := Text.Percent.ascii_of_mem_encode member
  have mark (m : UInt8) (ascii : m.toNat ≤ 0x7F) (same : Text.Utf8.ascii b = Text.Utf8.ascii m) :
      b = m := by
    have := congrArg Char.toNat same
    rw [Text.Utf8.toNat_ascii low, Text.Utf8.toNat_ascii ascii] at this
    exact UInt8.toNat_inj.1 this
  have written := Text.Percent.unreserved_of_mem_encode member
  simp only [List.mem_cons, List.not_mem_nil, or_false, not_or]
  refine ⟨fun same => ?_, fun same => ?_, fun same => ?_⟩
  · rw [mark 0x2F (by decide) same] at written
    exact absurd written (by decide)
  · rw [mark 0x3F (by decide) same] at written
    exact absurd written (by decide)
  · rw [mark 0x23 (by decide) same] at written
    exact absurd written (by decide)

theorem segment_ne_nil {key : String} (h : key ≠ "") : segment key ≠ [] := by
  intro empty
  have bytes : Text.Utf8.bytes key ≠ [] := by
    intro none
    have := Text.Utf8.decodeLossy_encode key.toList
    rw [← Text.Utf8.bytes, none] at this
    exact h (String.toList_eq_nil_iff.1 this.symm)
  rw [segment, Text.Utf8.decodeLossy_ascii fun _ => Text.Percent.ascii_of_mem_encode] at empty
  exact Text.Percent.encode_ne_nil bytes (List.map_eq_nil_iff.1 empty)

/-- The key is read back from the path. -/
theorem keyOf?_segment (key : String) : Http.keyOf? (String.ofList (segment key)) = some key := by
  have written : Text.Utf8.bytes (String.ofList (segment key)) =
      Text.Percent.encode (Text.Utf8.bytes key) := by
    rw [Text.Utf8.bytes, String.toList_ofList, segment,
      Text.Utf8.encode_decodeLossy fun _ => Text.Percent.ascii_of_mem_encode]
  rw [Http.keyOf?, written, Text.Percent.decode_encode, Text.Utf8.bytes, Text.Utf8.decode?_encode,
    Option.map_some, String.ofList_toList]

/-- The query that carries an expected version. -/
def versionQuery (version : UInt64) : List Char :=
  ['i', 'f', 'V', 'e', 'r', 's', 'i', 'o', 'n'] ++ '=' :: Text.Numeral.render version.toNat

/-- A path below a base URL. -/
theorem url_segment (n : Node) (key : String) :
    n.url ("/kv/" ++ String.ofList (segment key)) =
      String.ofList (n.address.toList ++ 'k' :: 'v' :: '/' :: segment key) := by
  apply String.toList_injective
  rw [Node.url, String.toList_append, String.toList_ofList, String.toList_ofList,
    String.toList_append, String.toList_ofList]
  simp

/-- The path of a key below the address of a node. -/
def path (key : String) : List Char := 'k' :: 'v' :: '/' :: segment key

/-- Where a key is, below the address of a node. -/
def place (key : String) (expected : Option UInt64) : List Char :=
  path key ++ (expected.map fun version => '?' :: versionQuery version).getD []

theorem keyUrl_eq (n : Node) (key : String) (expected : Option UInt64) :
    keyUrl n key expected = String.ofList (n.address.toList ++ place key expected) := by
  cases expected with
  | none =>
    rw [place, Option.map_none, Option.getD_none, List.append_nil, path, ← url_segment]
    rfl
  | some version =>
    have parts : keyUrl n key (some version) =
        n.url ("/kv/" ++ String.ofList (segment key)) ++ "?ifVersion=" ++
          String.ofList (Text.Numeral.render version.toNat) := rfl
    have mark : "?ifVersion=".toList = ['?', 'i', 'f', 'V', 'e', 'r', 's', 'i', 'o', 'n', '='] :=
      rfl
    apply String.toList_injective
    rw [parts, url_segment, place, path, Option.map_some, Option.getD_some, versionQuery]
    simp only [String.toList_append, String.toList_ofList, mark, List.append_assoc,
      List.cons_append, List.nil_append]

/-- Is the character no mark of a query or a fragment? -/
def isUnmarked (c : Char) : Bool := c ∉ ['?', '#']

theorem unmarked_path {key : String} : ∀ c ∈ path key, isUnmarked c = true := by
  intro c member
  simp only [path, List.mem_cons] at member
  rcases member with rfl | rfl | rfl | member
  · rfl
  · rfl
  · rfl
  · have plain := notMem_segment member
    simp only [List.mem_cons, not_or] at plain
    simp [isUnmarked, plain]

theorem notMem_versionQuery {version : UInt64} : '#' ∉ versionQuery version := by
  intro member
  rcases List.mem_append.1 member with name | value
  · exact absurd name (by decide)
  · rcases List.mem_cons.1 value with mark | digit
    · exact absurd mark (by decide)
    · exact absurd (Text.Numeral.isDigit_of_mem_toDigits digit) (by decide)

theorem notMem_place {key : String} {expected : Option UInt64} : '#' ∉ place key expected := by
  intro member
  rcases List.mem_append.1 member with inPath | inQuery
  · exact absurd (unmarked_path _ inPath) (by decide)
  · cases expected with
    | none => cases inQuery
    | some version =>
      rcases List.mem_cons.1 inQuery with mark | inQuery
      · exact absurd mark (by decide)
      · exact notMem_versionQuery inQuery

/-- The request for a key names the key in its path and the version in its query. -/
theorem target_keyUrl {n : Node} (base : n.IsBase) (key : String) (expected : Option UInt64) :
    Http.Target.ofReference (keyUrl n key expected) = {
      path := String.ofList ('/' :: 'k' :: 'v' :: '/' :: segment key)
      query := expected.map fun version => String.ofList (versionQuery version) } := by
  have inside : ∀ c ∈ path key, decide (c ≠ '?') = true := by
    intro c member
    have unmarked := unmarked_path c member
    simp only [isUnmarked, List.mem_cons, not_or, decide_eq_true_eq] at unmarked
    exact decide_eq_true unmarked.1
  rw [keyUrl_eq, Http.ofReference_base base notMem_place, place,
    List.takeWhile_append_of_pos inside, List.dropWhile_append_of_pos inside]
  cases expected with
  | none => simp [path]
  | some version => simp [path]

/-! ## Calls -/

/-- A call that a request can carry: its value is plain below the record that will hold it,
and no longer than a body may be. -/
def Call.Portable : Call → Prop
  | .get => True
  | .write w _ => w.payload.Plain (Json.maxDepth - 1) ∧ w.payload.bytes.length ≤ Http.maxBody

/-- A call whose request a shard can read. -/
def Call.Readable : Call → Prop
  | .get => True
  | .write w _ => w.payload.Plain Json.maxDepth ∧ w.payload.bytes.length ≤ Http.maxBody

theorem Call.Portable.readable {call : Call} (h : call.Portable) : call.Readable := by
  cases call with
  | get => trivial
  | write w expected => exact ⟨h.1.mono (Nat.sub_le _ 1), h.2⟩

/-- What a shard is asked for by a call. -/
def Call.route (key : String) : Call → Http.Route
  | .get => .get key
  | .write (.replace _) _ => .put key
  | .write (.merge _) _ => .patch key

theorem ofItem_request {call : Call} (readable : call.Readable) (n : Node) (key : String) :
    Http.Route.ofItem (call.request n key) key = call.route key := by
  cases call with
  | get => rfl
  | write w expected =>
    cases w with
    | replace value => exact Http.ofItem_put rfl readable.2 key
    | merge delta => exact Http.ofItem_patch rfl readable.2 key

/-- A path with the escaped key names the key. -/
theorem names_segment {r : Http.Request} {key : String} (named : key ≠ "")
    (path : r.target.path = String.ofList ('/' :: 'k' :: 'v' :: '/' :: segment key)) :
    r.Names key := by
  have noSlash : '/' ∉ segment key := fun member => notMem_segment member (by simp)
  refine ⟨String.ofList (segment key), ?_, keyOf?_segment key⟩
  rw [path]
  simp only [Http.Resource.ofPath?, String.toList_ofList]
  rw [if_pos ⟨segment_ne_nil named, noSlash⟩]

/-- The path of the request for a call names the key. -/
theorem request_names {n : Node} (base : n.IsBase) {key : String} (named : key ≠ "")
    (call : Call) : (call.request n key).Names key := by
  apply names_segment named
  cases call with
  | get => exact congrArg Http.Target.path (target_keyUrl base key none)
  | write w expected => exact congrArg Http.Target.path (target_keyUrl base key expected)

/-- The request for a call is the call on the same key. -/
theorem ofRequest_request {n : Node} (base : n.IsBase) {key : String} (named : key ≠ "")
    {call : Call} (readable : call.Readable) :
    Http.Route.ofRequest (call.request n key) = call.route key := by
  have allowed : (call.request n key).method ∈ ["GET", "HEAD", "PUT", "PATCH"] := by
    cases call with
    | get => simp [Call.request]
    | write w expected => cases w <;> simp [Call.request, verb]
  rw [Http.ofRequest_names (request_names base named call) allowed, ofItem_request readable]

/-- An expectation is read back from the query that carries it. -/
theorem read_versionQuery (expected : Option UInt64) :
    Params.read .shard (Text.Utf8.bytes
        ((expected.map fun version => String.ofList (versionQuery version)).getD "")) =
      .ok { expected := expected } := by
  cases expected with
  | none => rfl
  | some version =>
    have number : Text.Form.Plain (Text.Numeral.render version.toNat) := by
      intro c member
      have digit := Text.Numeral.isDigit_of_mem_toDigits member
      simp only [List.mem_cons, List.not_mem_nil, or_false, not_or]
      refine ⟨?_, ?_, ?_, ?_⟩ <;> rintro rfl <;> exact absurd digit (by decide)
    have name : Text.Form.Plain ['i', 'f', 'V', 'e', 'r', 's', 'i', 'o', 'n'] := by
      simp [Text.Form.Plain]
    have pairs : Text.Form.pairs (Text.Utf8.bytes (String.ofList (versionQuery version))) =
        [("ifVersion", String.ofList (Text.Numeral.render version.toNat))] := by
      rw [Text.Utf8.bytes, String.toList_ofList, versionQuery]
      exact Text.Form.pairs_single name number
    have bound : version.toNat ≤ 0xFFFFFFFFFFFFFFFF := Nat.le_of_lt_succ version.toNat_lt
    simp only [Params.read, Option.map_some, Option.getD_some, pairs, List.foldlM_cons,
      List.foldlM_nil, Params.Found.add, if_true, Option.isSome_none, Bool.false_eq_true, if_false,
      String.toList_ofList, Text.Numeral.natural_render bound, UInt64.ofNat_toNat, bind,
      Except.bind, pure, Except.pure, Option.getD_none]

/-- The expected version is read back from the query of the request. -/
theorem read_query {n : Node} (base : n.IsBase) (key : String) (w : Write)
    (expected : Option UInt64) :
    Params.read .shard (Call.request (.write w expected) n key).queryBytes =
      .ok { expected := expected } := by
  have target : (Call.request (.write w expected) n key).target =
      { path := String.ofList ('/' :: 'k' :: 'v' :: '/' :: segment key)
        query := expected.map fun version => String.ofList (versionQuery version) } :=
    target_keyUrl base key expected
  rw [Http.Request.queryBytes, target, read_versionQuery]

/-- The value is read back from the body. -/
theorem read_body {v : Json.Value} (h : v.Legible Json.maxDepth) (blank : Payload.Fault) :
    Payload.read blank v.bytes = .ok v := by
  obtain ⟨b, rest, bytes, visible, -⟩ := v.begins_text
  have notBlank : v.bytes.all Text.isSpaceByte = false := by
    rw [Json.Value.bytes, bytes, List.all_cons, visible, Bool.false_and]
  simp only [Payload.read, notBlank, Bool.false_eq_true, if_false, h.read_bytes]

end Router

end ShardStore
