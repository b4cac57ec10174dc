/-
# ShardStore.Proofs.CommandLine.Nodes -- which node addresses take keys

`parseNode` checks an address as a URL and keeps it as text, and the URLs of keys are this
text with more text behind it.  A query or a fragment of the address does not fail the
check, and then everything behind it is a part of it:

* without `?` and `#` in the address every key stands in the path of its URLs
  (`inPath_keyUrl`);
* with one of them what comes before it is the same for all keys
  (`beforeMark_keyUrl_marked`), and the path cannot tell one from another.

So a spec that is accepted gives a node that takes keys if and only if neither of the two
marks follows its first `=` (`parseNode_inPath_iff`).
-/
import Mathlib.Data.List.Basic
import ShardStore.CommandLine.Option
import ShardStore.Proofs.Router.KeyUrl
import ShardStore.Proofs.Text.Trim

namespace ShardStore

set_option autoImplicit false

/-! ## Cut text -/

namespace Text

/-- Text without a mark is all in front of it; other text goes on with its first one. -/
theorem dropWhile_mark (mark : Char) (cs : List Char) :
    (cs.takeWhile (· ≠ mark)).length = cs.length ∨
      cs.dropWhile (· ≠ mark) = mark :: cs.drop ((cs.takeWhile (· ≠ mark)).length + 1) := by
  induction cs with
  | nil => exact .inl rfl
  | cons c cs ih =>
    by_cases here : c = mark
    · subst here
      exact .inr (by simp)
    · simpa [here] using ih

end Text

/-! ## Addresses -/

namespace Node

theorem getLast?_located (id address : String) :
    (located id address).address.toList.getLast? = some '/' := by
  unfold located
  split
  · assumption
  · simp

theorem mem_located {id address : String} {c : Char} (other : c ≠ '/') :
    c ∈ (located id address).address.toList ↔ c ∈ address.toList := by
  unfold located
  split
  · rfl
  · simp [other]

end Node

namespace CommandLine

open Router

variable {spec : String} {n : Node}

/-- What is known of a spec that is accepted. -/
theorem parseNode_eq_ok (accepted : parseNode spec = .ok n) :
    ∃ name text url, spec.toList.dropWhile (· ≠ '=') = '=' :: text ∧ name ≠ "" ∧
      n = .located name (Text.trim (String.ofList text)) ∧
      Url.ofString (Text.trim (String.ofList text)) = .ok url ∧
      (url.scheme = "http" ∨ url.scheme = "https") ∧ url.hasHost := by
  simp only [parseNode] at accepted
  split at accepted
  · cases accepted
  · rename_i marked
    have behind := (Text.dropWhile_mark '=' spec.toList).resolve_left marked
    split at accepted
    · cases accepted
    · rename_i named
      split at accepted
      · cases accepted
      · rename_i url parsed
        split at accepted
        · rename_i web
          exact ⟨_, _, url, behind, named, (Except.ok.inj accepted).symm, parsed, web⟩
        · cases accepted

/-- The address has the marks that follow the first `=` of the spec. -/
theorem mem_address (accepted : parseNode spec = .ok n) {c : Char} (mark : c ∈ ['?', '#']) :
    c ∈ n.address.toList ↔ c ∈ spec.toList.dropWhile (· ≠ '=') := by
  obtain ⟨name, text, url, behind, -, rfl, -⟩ := parseNode_eq_ok accepted
  have visible : c ≠ '/' ∧ c ≠ '=' ∧ Text.isSpace c = false := by
    simp only [List.mem_cons, List.not_mem_nil, or_false] at mark
    rcases mark with rfl | rfl <;> decide
  rw [Node.mem_located visible.1, Text.trim, String.toList_ofList, Text.mem_strip visible.2.2,
    String.toList_ofList, behind, List.mem_cons, or_iff_right visible.2.1]

/-! ## Keys in paths -/

/-- The key stands in the path of the URL, as its last segment, below the collection. -/
def InPath (key url : String) : Prop :=
  ∃ front, beforeMark url = front ++ "/kv/" ++ String.ofList (segment key)

theorem inPath_keyUrl (slash : n.address.toList.getLast? = some '/')
    (bare : ∀ c ∈ n.address.toList, isUnmarked c = true) (key : String)
    (expected : Option UInt64) : InPath key (keyUrl n key expected) := by
  obtain ⟨front, address⟩ := List.getLast?_eq_some_iff.1 slash
  refine ⟨String.ofList front, ?_⟩
  apply String.toList_injective
  rw [beforeMark_keyUrl bare, address]
  simp [path]

/-- Behind a mark of the address nothing is before a mark. -/
theorem beforeMark_keyUrl_marked {c : Char} (member : c ∈ n.address.toList)
    (marked : isUnmarked c = false) (key : String) (expected : Option UInt64) :
    beforeMark (keyUrl n key expected) = beforeMark n.address := by
  have short : (n.address.toList.takeWhile isUnmarked).length ≠ n.address.toList.length := by
    intro all
    have whole := (List.takeWhile_prefix isUnmarked).eq_of_length all
    have unmarked := List.takeWhile_eq_self_iff.1 whole c member
    rw [marked] at unmarked
    cases unmarked
  rw [beforeMark, keyUrl_eq, String.toList_ofList, List.takeWhile_append, if_neg short, beforeMark]

/-- A text ends as the key does that stands at its end. -/
theorem InPath.getLast? {key url : String} (inPath : InPath key url) (named : key ≠ "") :
    (beforeMark url).toList.getLast? = (segment key).getLast? := by
  obtain ⟨front, text⟩ := inPath
  rw [text, String.toList_append, String.toList_ofList,
    List.getLast?_append_of_ne_nil _ (segment_ne_nil named)]

/-- A node that is accepted takes all keys if and only if no `?` and no `#` follows the first
`=` of its spec; with one of them what comes before the query and the fragment is the same in
the URLs of all keys. -/
theorem parseNode_inPath_iff (accepted : parseNode spec = .ok n) :
    ((∀ key expected, Key.isValid key = true → InPath key (keyUrl n key expected)) ↔
      ∀ c ∈ spec.toList.dropWhile (· ≠ '='), c ∉ ['?', '#']) ∧
    ((∃ c ∈ spec.toList.dropWhile (· ≠ '='), c ∈ ['?', '#']) →
      ∀ key expected, beforeMark (keyUrl n key expected) = beforeMark n.address) := by
  have fixed (c : Char) (member : c ∈ spec.toList.dropWhile (· ≠ '=')) (mark : c ∈ ['?', '#'])
      (key : String) (expected : Option UInt64) :
      beforeMark (keyUrl n key expected) = beforeMark n.address :=
    beforeMark_keyUrl_marked ((mem_address accepted mark).2 member)
      (decide_eq_false (not_not_intro mark)) key expected
  refine ⟨⟨?_, ?_⟩, ?_⟩
  · intro all c member mark
    -- the same text cannot end in two keys
    have one := (all "a" none (by decide)).getLast? (by decide)
    have two := (all "b" none (by decide)).getLast? (by decide)
    rw [fixed c member mark] at one two
    exact absurd (one.symm.trans two) (by decide)
  · intro bare key expected _
    refine inPath_keyUrl ?_ (fun c member => decide_eq_true fun mark => ?_) key expected
    · obtain ⟨name, text, url, -, -, rfl, -⟩ := parseNode_eq_ok accepted
      exact Node.getLast?_located name _
    · exact bare c ((mem_address accepted mark).1 member) mark
  · rintro ⟨c, member, mark⟩
    exact fixed c member mark

/-- An address with a port. -/
theorem parseNode_inPath_iff_port :
    parseNode "a=http://[::1]:7000" = .ok ⟨"a", "http://[::1]:7000/"⟩ ∧
      ∀ key expected, Key.isValid key = true →
        InPath key (keyUrl ⟨"a", "http://[::1]:7000/"⟩ key expected) := by
  have accepted : parseNode "a=http://[::1]:7000" = .ok ⟨"a", "http://[::1]:7000/"⟩ := rfl
  exact ⟨accepted, (parseNode_inPath_iff accepted).1.2 (by simp)⟩

/-- The query of an address is accepted, and swallows the key. -/
theorem parseNode_query :
    parseNode "a=http://[::1]:7000?x" = .ok ⟨"a", "http://[::1]:7000?x/"⟩ ∧
      Key.isValid "k" = true ∧
      keyUrl ⟨"a", "http://[::1]:7000?x/"⟩ "k" none = "http://[::1]:7000?x/kv/k" ∧
      ¬ InPath "k" (keyUrl ⟨"a", "http://[::1]:7000?x/"⟩ "k" none) := by
  refine ⟨rfl, by decide, by decide, fun inPath => ?_⟩
  exact absurd (inPath.getLast? (by decide)) (by decide)

end CommandLine

end ShardStore
