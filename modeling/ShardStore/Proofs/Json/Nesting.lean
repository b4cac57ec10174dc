/-
# ShardStore.Proofs.Json.Nesting -- a value nested too deep is not read

A value that is nested deeper than is allowed is not read (`Value.Plain.refused`): what
would be read of its text would nest no deeper than is allowed, and would be read where
all of the value is allowed too, where the text is read as the value.

A record takes a level of nesting of its own, so a record whose value takes all levels
that a text may have is written, and is not read (`decode_record_refused`).
-/
import ShardStore.Proofs.Json.Found
import ShardStore.Proofs.Json.Records

namespace ShardStore.Json

set_option autoImplicit false

open Text (Utf8.encode)

theorem Value.Plain.refused {v : Value} {d e : Nat} (h : v.Plain e) (deep : d < v.depth)
    {fuel : Nat} (enough : v.text.length ≤ fuel) {rest : List UInt8} (stops : Stops rest) :
    ∃ fault, value fuel d (Utf8.encode v.text ++ rest) = .error fault := by
  cases read : value fuel d (Utf8.encode v.text ++ rest) with
  | error fault => exact ⟨fault, rfl⟩
  | ok found =>
    obtain ⟨w, behind⟩ := found
    have shallow := (value_canonical read).2
    have whole := value_mono read (Nat.le_trans (Nat.le_of_lt deep) h.shallow)
    rw [(h.legible.readsBack enough).read rest stops] at whole
    cases whole
    omega

/-- Arrays in arrays, as many as are asked for. -/
def Value.nested : Nat → Value
  | 0 => .null
  | n + 1 => .array [nested n]

theorem Value.depth_nested (n : Nat) : (nested n).depth = n := by
  induction n with
  | zero => rfl
  | succ n ih => rw [nested, depth, depthItems, depthItems, ih, Nat.max_zero]

theorem Value.plain_nested (n : Nat) : (nested n).Plain n := by
  refine ⟨?_, ?_, Nat.le_of_eq (depth_nested n)⟩
  · induction n with
    | zero => exact .null
    | succ n ih => exact .array (by simpa using ih)
  · induction n with
    | zero => exact .null
    | succ n ih => exact .array (by simpa using ih)

theorem Value.length_bytes_nested (n : Nat) : (nested n).bytes.length = 2 * n + 4 := by
  induction n with
  | zero => rfl
  | succ n ih =>
    have bracket (cs : List Char) : Utf8.encode ('[' :: cs) = 0x5B :: Utf8.encode cs := rfl
    have close : (Utf8.encode (behindCommas text [] ++ [']'])).length = 1 := rfl
    rw [nested, bytes, text_array_cons, bracket, List.length_cons, Text.Utf8.encode_append,
      List.length_append, close, ← bytes, ih]
    omega

namespace Record

variable {σ α : Type} {r : Record σ α} {limits : Limits}

/-- A field that is not read is the end of its record. -/
theorem readFields_error {first : Bool} {bs inner behind : List UInt8} {name : String}
    {slot : Slot σ} {s : σ} {fault : Fault} (next : nextField first bs = .ok (.item inner))
    (named : string inner = .ok (name, 0x3A :: behind))
    (found : r.slots.find? (·.name = name) = some slot) (empty : slot.filled s = false)
    (refused : slot.read limits s behind = .error fault) (fuel : Nat) :
    r.readFields limits (fuel + 1) first s bs = .error fault := by
  simp only [readFields, next, named, found, empty, colon_mark, refused, bind, Except.bind,
    Bool.false_eq_true, if_false]

end Record

/-- A record is not read if its value leaves no room for the record around it. -/
theorem decode_record_refused {r : ShardStore.Record} {d : Nat} (h : r.value.Plain d)
    (deep : maxDepth - 1 < r.value.depth) :
    ∃ fault, ShardStore.Record.schema.decode r.toJson.bytes = .error fault := by
  have short : r.value.text.length ≤ r.toJson.bytes.length + 1 := by
    have long := length_le_encode r.toJson.text
    have part := length_text_record r
    rw [Value.bytes]
    omega
  have filled : 0 < r.toJson.bytes.length := by
    rw [ShardStore.Record.toJson, Record.bytes_object_cons]
    exact Nat.succ_pos _
  rw [ShardStore.Record.toJson, Record.decode_object_eq, ← ShardStore.Record.toJson]
  generalize r.toJson.bytes.length = size at short filled ⊢
  obtain ⟨less, rfl⟩ : ∃ less, size = less + 1 := ⟨size - 1, by omega⟩
  have first (inner : List UInt8) : nextField true (0x22 :: inner) = .ok (.item inner) := rfl
  have later (inner : List UInt8) : nextField false (0x2C :: 0x22 :: inner) = .ok (.item inner) :=
    rfl
  have stops (fs : List (String × Value)) :
      Stops (Utf8.encode (behindCommas (namedText Value.text) fs) ++ [0x7D]) :=
    stops_fields Value.text fs []
  -- the key is read, and the value behind it is not
  obtain ⟨fault, refused⟩ := h.refused deep short (stops [("Version", .ofUInt64 r.version)])
  have whole : ShardStore.Record.schema.readFields ⟨less + 1 + 1, maxDepth - 1⟩ (less + 1 + 1) true
      ShardStore.Record.schema.empty (Utf8.encode (namedText Value.text ("Key", .string r.key)) ++
        (Utf8.encode (behindCommas (namedText Value.text)
          [("Value", r.value), ("Version", .ofUInt64 r.version)]) ++ [0x7D])) = .error fault := by
    rw [encode_namedText, Value.text_string]
    refine (Record.readFields_item (first _) (string_quote "Key" _) rfl rfl
      (ofKind_reads (text_readsBack r.key) _ _ (stops _)) _).trans ?_
    rw [behindCommas_cons, encode_comma, Text.Utf8.encode_append, List.cons_append,
      List.append_assoc, encode_namedText]
    refine Record.readFields_error (later _) (string_quote "Value" _) rfl rfl ?_ _
    simp only [Slot.ofValue, refused, bind, Except.bind]
  exact ⟨fault, by rw [whole]; rfl⟩

end ShardStore.Json
