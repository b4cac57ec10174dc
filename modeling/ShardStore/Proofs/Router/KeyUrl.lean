/-
# ShardStore.Proofs.Router.KeyUrl -- the URL of a key leads back to the key

A router writes keys and expectations into URLs, a shard reads them out of paths and
queries.  Below the address of a node the URL of a key is its `place`: the collection, the
key as one segment, and the query.  It holds whatever the key is made of:

* the segment has nothing but unreserved characters and escapes, so no mark of the key
  ends it early (`escaped_segment`), and is no step in the tree (`not_isDots_segment`);
* path and query are cut where they were joined (`beforeMark_keyUrl`), if the address has
  no query and no fragment of its own;
* both are read back, so that keys and expectations do not share places
  (`place_injective`).
-/
import ShardStore.Proofs.Router.Request

namespace ShardStore.Router

set_option autoImplicit false

/-! ## Segments -/

/-- A segment that is a step in the tree and no name: one dot or two, escaped or not. -/
def IsDots (segment : String) : Prop := Http.keyOf? segment ∈ [some ".", some ".."]

instance (segment : String) : Decidable (IsDots segment) :=
  inferInstanceAs (Decidable (Http.keyOf? segment ∈ [some ".", some ".."]))

theorem not_isDots_segment {key : String} (valid : Key.isValid key = true) :
    ¬ IsDots (String.ofList (segment key)) := by
  rw [IsDots, keyOf?_segment]
  intro dots
  simp only [List.mem_cons, Option.some.injEq, List.not_mem_nil, or_false] at dots
  rcases dots with rfl | rfl
  · exact absurd valid (by decide)
  · exact absurd valid (by decide)

example : IsDots "." ∧ IsDots ".." ∧ IsDots "%2e%2E" ∧ ¬ IsDots ".a" := by decide

theorem escaped_segment (key : String) :
    Text.Percent.Escaped (Text.Utf8.bytes (String.ofList (segment key))) := by
  rw [Text.Utf8.bytes, String.toList_ofList, segment,
    Text.Utf8.encode_decodeLossy fun _ => Text.Percent.ascii_of_mem_encode]
  exact Text.Percent.escaped_encode _

theorem segment_injective {key other : String} (same : segment key = segment other) :
    key = other := by
  have read := keyOf?_segment key
  rw [same, keyOf?_segment] at read
  exact (Option.some.inj read).symm

/-! ## Places -/

/-- What the query of a URL says of the version. -/
def versionText (version : UInt64) : String := "ifVersion=" ++ toString version.toNat

theorem versionText_eq (version : UInt64) :
    versionText version = String.ofList (versionQuery version) := by
  have number : toString version.toNat = String.ofList (Text.Numeral.render version.toNat) := rfl
  rw [versionText, number, ← String.ofList_append]
  rfl

theorem keyUrl_text (n : Node) (key : String) (expected : Option UInt64) :
    keyUrl n key expected = n.address ++ "kv/" ++ String.ofList (segment key) ++
      ((expected.map fun version => "?" ++ versionText version).getD "") := by
  apply String.toList_injective
  rw [keyUrl_eq, place, path]
  cases expected with
  | none => simp
  | some version => simp [versionText_eq]

example : keyUrl ⟨"n", "http://h/"⟩ ".#=" (some 7) = "http://h/kv/.%23%3D?ifVersion=7" := by
  decide

/-- The collection and the key are the last two segments of a path. -/
theorem splitOn_path (front : List Char) (key : String) :
    (front ++ '/' :: path key).splitOn '/' = front.splitOn '/' ++ ["kv".toList, segment key] := by
  have parts : path key = ['k', 'v'] ++ '/' :: segment key := rfl
  have noSlash : '/' ∉ segment key := fun member => notMem_segment member (by simp)
  have name : List.splitOn '/' ['k', 'v'] = ["kv".toList] :=
    List.splitOn_eq_singleton (by decide)
  rw [parts, List.splitOn_append_cons_self, List.splitOn_append_cons_self,
    List.splitOn_eq_singleton noSlash, name, List.singleton_append]

/-- The path of a key ends where its query begins. -/
theorem takeWhile_place (key : String) (expected : Option UInt64) :
    (place key expected).takeWhile isUnmarked = path key := by
  rw [place, List.takeWhile_append_of_pos unmarked_path]
  cases expected with
  | none => exact List.append_nil _
  | some version => exact List.append_nil _

theorem versionQuery_injective {version other : UInt64}
    (same : versionQuery version = versionQuery other) : version = other := by
  have read := read_versionQuery (some version)
  rw [Option.map_some, same] at read
  have both := Except.ok.inj (read.symm.trans (read_versionQuery (some other)))
  exact Option.some.inj (congrArg Params.expected both)

theorem place_injective {key other : String} {expected expected' : Option UInt64}
    (same : place key expected = place other expected') : key = other ∧ expected = expected' := by
  have paths := congrArg (List.takeWhile isUnmarked) same
  rw [takeWhile_place, takeWhile_place] at paths
  obtain rfl : key = other := segment_injective (by simpa [path] using paths)
  have queries := List.append_cancel_left same
  cases expected with
  | none =>
    cases expected' with
    | none => exact ⟨rfl, rfl⟩
    | some version => cases queries
  | some version =>
    cases expected' with
    | none => cases queries
    | some version' =>
      obtain rfl := versionQuery_injective (List.cons.inj queries).2
      exact ⟨rfl, rfl⟩

/-! ## URLs -/

/-- The characters of a URL before its query and its fragment. -/
def beforeMark (url : String) : String := String.ofList (url.toList.takeWhile isUnmarked)

/-- Where the address ends, the path of the key begins, and it goes on to the query. -/
theorem beforeMark_keyUrl {n : Node} (bare : ∀ c ∈ n.address.toList, isUnmarked c = true)
    (key : String) (expected : Option UInt64) :
    beforeMark (keyUrl n key expected) = String.ofList (n.address.toList ++ path key) := by
  rw [beforeMark, keyUrl_eq, String.toList_ofList, List.takeWhile_append_of_pos bare,
    takeWhile_place]

/-- The URL of a key at a node leads back to the key and the expectation: below the address
it names the collection and the key, as the last two segments of its path, and carries the
expectation as its query; a request that arrives with this path and query is for this key
with this expectation; and no other key or expectation has this URL. -/
theorem keyUrl_leads_back {n : Node} {key : String}
    (slash : n.address.toList.getLast? = some '/')
    (bare : ∀ c ∈ n.address.toList, c ∉ ['?', '#']) (valid : Key.isValid key = true)
    (expected : Option UInt64) :
    ∃ base segment : String,
      n.address = base ++ "/" ∧
      keyUrl n key expected = n.address ++ "kv/" ++ segment ++
        ((expected.map fun version => "?" ++ versionText version).getD "") ∧
      (beforeMark (keyUrl n key expected)).toList.splitOn '/' =
        base.toList.splitOn '/' ++ ["kv".toList, segment.toList] ∧
      segment ≠ "" ∧ ¬ IsDots segment ∧ Text.Percent.Escaped (Text.Utf8.bytes segment) ∧
      Http.keyOf? segment = some key ∧
      (∀ r : Http.Request,
        r.target = { path := "/kv/" ++ segment, query := expected.map versionText } →
          r.Names key ∧ Params.read .shard r.queryBytes = .ok { expected := expected }) ∧
      (n.IsBase → Http.Target.ofReference (keyUrl n key expected) =
        { path := "/kv/" ++ segment, query := expected.map versionText }) ∧
      ∀ other expected', keyUrl n other expected' = keyUrl n key expected →
        other = key ∧ expected' = expected := by
  have unmarked : ∀ c ∈ n.address.toList, isUnmarked c = true := fun c member =>
    decide_eq_true (bare c member)
  have versions : expected.map versionText =
      expected.map fun version => String.ofList (versionQuery version) :=
    congrArg (expected.map ·) (funext versionText_eq)
  have below : "/kv/" ++ String.ofList (segment key) =
      String.ofList ('/' :: 'k' :: 'v' :: '/' :: segment key) := by
    rw [← String.ofList_append]
    rfl
  have named : key ≠ "" := by
    rintro rfl
    exact absurd valid (by decide)
  obtain ⟨front, address⟩ := List.getLast?_eq_some_iff.1 slash
  refine ⟨String.ofList front, String.ofList (segment key), ?_, ?_, ?_, ?_,
    not_isDots_segment valid, escaped_segment key, keyOf?_segment key, ?_, ?_, ?_⟩
  · apply String.toList_injective
    rw [String.toList_append, String.toList_ofList]
    exact address
  · exact keyUrl_text n key expected
  · rw [beforeMark_keyUrl unmarked, address, List.append_assoc, List.singleton_append]
    simp only [String.toList_ofList, splitOn_path]
  · exact fun empty => segment_ne_nil named (String.ofList_eq_empty_iff.1 empty)
  · intro r target
    constructor
    · exact names_segment named (by rw [target, below])
    · rw [Http.Request.queryBytes, target, versions, read_versionQuery]
  · intro base
    rw [target_keyUrl base, below, versions]
  · intro other expected' same
    rw [keyUrl_eq, keyUrl_eq] at same
    exact place_injective (List.append_cancel_left (String.ofList_injective same))

/-- A key of marks, and the version that it must have. -/
theorem keyUrl_leads_back_marks :
    "http://h/".toList.getLast? = some '/' ∧ (∀ c ∈ "http://h/".toList, c ∉ ['?', '#']) ∧
      Key.isValid ".#=" = true ∧
      ∃ segment : String,
        keyUrl ⟨"n", "http://h/"⟩ ".#=" (some 7) = "http://h/kv/" ++ segment ++ "?ifVersion=7" ∧
        ¬ IsDots segment ∧ Http.keyOf? segment = some ".#=" := by
  have slash : "http://h/".toList.getLast? = some '/' := by decide
  have bare : ∀ c ∈ "http://h/".toList, c ∉ ['?', '#'] := by simp
  have valid : Key.isValid ".#=" = true := by decide
  obtain ⟨base, segment, -, url, -, -, name, -, read, -⟩ :=
    keyUrl_leads_back (n := ⟨"n", "http://h/"⟩) slash bare valid (some 7)
  exact ⟨slash, bare, valid, segment, url, name, read⟩

end ShardStore.Router
