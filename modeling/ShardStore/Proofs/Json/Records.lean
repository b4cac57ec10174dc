/-
# ShardStore.Proofs.Json.Records -- printed records are read back

A record reader fills a partial record field by field.  Fields fill it in their order if
each finds its slot empty and is read back by it, or is none of the record's fields
(`Fills`); then the object of the fields is read as the record that the filled partial
record makes (`Record.decode_object`).

* `decode_record`, `decode_error` -- the records and error bodies that shards answer;
* `readKeys_array` -- the arrays of keys.
-/
import ShardStore.Proofs.Json.Skip
import ShardStore.Record
import ShardStore.Router.Client

namespace ShardStore.Json

set_option autoImplicit false

open Text (Utf8.encode)
open Text.Numeral (isDigit_of_mem_toDigits toDigits_eq_cons)

/-! ## Scalars of a wanted kind -/

variable {α σ : Type}

/-- A scalar is read back if its value is judged to be what is wanted. -/
theorem scalar_readsBack {kind : Kind α} {v : Value} {a : α} {text : List Char}
    (h : ReadsBack (value 0 0) v text) (judged : kind.judge v = .ok a)
    (notBracket : ∀ b ∈ (Utf8.encode text).head?, b ≠ 0x5B ∧ b ≠ 0x7B) :
    ReadsBack (scalar kind) a text := by
  refine ⟨h.begins, ?_⟩
  intro rest stops
  obtain ⟨b, bs, bytes, noSpace, -⟩ := h.begins
  have visible := isSpace_of_isSpaceByte noSpace
  have reads := h.read rest stops
  have marks := notBracket b (by rw [bytes]; rfl)
  rw [bytes, List.cons_append] at reads ⊢
  simp only [scalar, skipSpace_cons visible, marks.1, marks.2, if_false, reads, judged, bind,
    Except.bind, pure, Except.pure]

theorem text_readsBack (s : String) : ReadsBack (scalar .text) s (quote s) :=
  scalar_readsBack ⟨begins_quote s, fun rest _ => value_quote 0 0 rest s⟩ rfl (by
    have bytes := encode_quote s []
    rw [List.append_nil] at bytes
    rw [bytes]
    rintro b ⟨⟩
    decide)

theorem text_ofUInt64 (n : UInt64) : (Value.ofUInt64 n).text = Nat.toDigits 10 n.toNat := by
  rw [Value.ofUInt64, Value.text_number, Number.text, integerText, if_neg (by omega)]
  rfl

theorem judge_word (n : UInt64) : Kind.word.judge (Value.ofUInt64 n) = .ok n := by
  have bound := n.toNat_lt
  have fits : (0 : Int) ≤ n.toNat ∧ (n.toNat : Int) ≤ (0xFFFFFFFFFFFFFFFF : Nat) := by omega
  simp only [Kind.word, Kind.natural, Value.ofUInt64, if_pos fits, Except.map, Int.toNat_natCast,
    UInt64.ofNat_toNat]

theorem word_readsBack (n : UInt64) : ReadsBack (scalar .word) n (Value.ofUInt64 n).text := by
  refine scalar_readsBack ⟨?_, fun rest stops => ?_⟩ (judge_word n) ?_
  · rw [Value.ofUInt64, Value.text_number]
    exact Number.begins_text _
  · rw [Value.ofUInt64, Value.text_number]
    exact value_number 0 0 rest (Number.steady_integer ..) stops
  · obtain ⟨d, ds, digits, -⟩ := toDigits_eq_cons n.toNat
    obtain ⟨b, bytes, digit, -⟩ := digit_byte (isDigit_of_mem_toDigits (n := n.toNat)
      (digits ▸ List.mem_cons_self))
    rw [text_ofUInt64, digits, Text.Utf8.encode_cons, bytes]
    rintro c ⟨⟩
    constructor <;> rintro rfl <;> exact absurd digit (by decide)

/-! ## Fields that fill a record -/

namespace Record

variable {r : Record σ α} {limits : Limits}

theorem readFields_closed {first : Bool} {bs rest : List UInt8}
    (next : nextField first bs = .ok (.closed rest)) (fuel : Nat) (s : σ) :
    r.readFields limits (fuel + 1) first s bs = .ok (s, rest) := by
  simp only [readFields, next, bind, Except.bind, pure, Except.pure]

theorem readFields_item {first : Bool} {bs inner behind rest : List UInt8} {name : String}
    {slot : Slot σ} {s s' : σ} (next : nextField first bs = .ok (.item inner))
    (named : string inner = .ok (name, 0x3A :: behind))
    (found : r.slots.find? (·.name = name) = some slot) (empty : slot.filled s = false)
    (reads : slot.read limits s behind = .ok (s', rest)) (fuel : Nat) :
    r.readFields limits (fuel + 1) first s bs = r.readFields limits fuel false s' rest := by
  simp only [readFields, next, named, found, empty, colon_mark, reads, bind, Except.bind,
    Bool.false_eq_true, if_false]

theorem readFields_unknown {first : Bool} {bs inner behind rest : List UInt8} {name : String}
    (next : nextField first bs = .ok (.item inner))
    (named : string inner = .ok (name, 0x3A :: behind))
    (unknown : r.slots.find? (·.name = name) = none)
    (skipped : skip limits.fuel behind = .ok ((), rest)) (fuel : Nat) (s : σ) :
    r.readFields limits (fuel + 1) first s bs = r.readFields limits fuel false s rest := by
  simp only [readFields, next, named, unknown, colon_mark, skipped, bind, Except.bind]

/-- Each field finds its slot empty and is read back by it, or is unknown and short enough to be
passed over. -/
inductive Fills (r : Record σ α) (limits : Limits) : σ → List (String × Value) → σ → Prop where
  | done (s : σ) : Fills r limits s [] s
  | field {s s' s'' : σ} {name : String} {v : Value} {more : List (String × Value)}
      (slot : Slot σ) (found : r.slots.find? (·.name = name) = some slot)
      (empty : slot.filled s = false)
      (reads : ∀ rest, Stops rest →
        slot.read limits s (Utf8.encode v.text ++ rest) = .ok (s', rest))
      (others : Fills r limits s' more s'') : Fills r limits s ((name, v) :: more) s''
  | passed {s s' : σ} {name : String} {v : Value} {more : List (String × Value)}
      (unknown : r.slots.find? (·.name = name) = none) (short : v.text.length ≤ limits.fuel)
      (others : Fills r limits s more s') : Fills r limits s ((name, v) :: more) s'

theorem Fills.readFields {s s' : σ} {fs : List (String × Value)} (h : Fills r limits s fs s')
    {fuel : Nat} (enough : fs.length < fuel) (rest : List UInt8) :
    r.readFields limits fuel false s
        (Utf8.encode (behindCommas (namedText Value.text) fs) ++ 0x7D :: rest) =
      .ok (s', rest) := by
  have next (inner : List UInt8) : nextField false (0x2C :: 0x22 :: inner) = .ok (.item inner) :=
    rfl
  induction h generalizing fuel with
  | done s =>
    obtain ⟨fuel, rfl⟩ : ∃ f, fuel = f + 1 := ⟨fuel - 1, by omega⟩
    exact readFields_closed rfl fuel s
  | @field s s' s'' name v more slot found empty reads others ih =>
    obtain ⟨fuel, rfl⟩ : ∃ f, fuel = f + 1 := ⟨fuel - 1, by omega⟩
    rw [behindCommas_cons, encode_comma, Text.Utf8.encode_append, List.cons_append,
      List.append_assoc, encode_namedText,
      readFields_item (next _) (string_quote name _) found empty
        (reads _ (stops_fields Value.text more rest)),
      ih (Nat.lt_of_succ_lt_succ enough)]
  | @passed s s' name v more unknown short others ih =>
    obtain ⟨fuel, rfl⟩ : ∃ f, fuel = f + 1 := ⟨fuel - 1, by omega⟩
    rw [behindCommas_cons, encode_comma, Text.Utf8.encode_append, List.cons_append,
      List.append_assoc, encode_namedText,
      readFields_unknown (next _) (string_quote name _) unknown
        (v.skip_text short (stops_fields Value.text more rest)),
      ih (Nat.lt_of_succ_lt_succ enough)]

theorem bytes_object_cons (f : String × Value) (fs : List (String × Value)) :
    (Value.object (f :: fs)).bytes =
      0x7B :: (Utf8.encode (namedText Value.text f) ++
        (Utf8.encode (behindCommas (namedText Value.text) fs) ++ [0x7D])) := by
  rw [Value.bytes, Value.text_object_cons, Text.Utf8.encode_cons, Text.Utf8.encode_append,
    Text.Utf8.encode_append]
  rfl

theorem length_fields_lt (f : String × Value) (fs : List (String × Value)) :
    fs.length < (Value.object (f :: fs)).bytes.length := by
  have long := length_le_encode (Value.object (f :: fs)).text
  have count := length_le_behindCommas (namedText Value.text) fs
  rw [Value.text_object_cons] at long
  rw [Value.bytes, Value.text_object_cons]
  simp only [List.length_cons, List.length_append] at long ⊢
  omega

/-- An object is read field by field, with one level of nesting less. -/
theorem decode_object_eq (r : Record σ α) (f : String × Value) (fs : List (String × Value)) :
    r.decode (Value.object (f :: fs)).bytes =
      r.readFields ⟨(Value.object (f :: fs)).bytes.length + 1, maxDepth - 1⟩
        ((Value.object (f :: fs)).bytes.length + 1) true r.empty
        (Utf8.encode (namedText Value.text f) ++
          (Utf8.encode (behindCommas (namedText Value.text) fs) ++ [0x7D])) >>=
        fun read => r.complete read.1 >>= fun a => finish (a, read.2) := by
  rw [decode, Record.read, Limits.ofText]
  generalize (Value.object (f :: fs)).bytes.length = size
  rw [bytes_object_cons, skipSpace_cons (by decide)]
  have inner : (Limits.mk (size + 1) maxDepth).inner = .ok ⟨size + 1, maxDepth - 1⟩ := rfl
  simp only [inner, bind, Except.bind, pure, Except.pure]
  rw [if_neg (by decide), if_pos trivial]
  generalize r.readFields _ _ _ _ _ = found
  cases found with
  | error fault => rfl
  | ok read => cases complete : r.complete read.1 <;> simp only [complete]

/-- The object of the fields is read as the record that they make. -/
theorem decode_object {f : String × Value} {fs : List (String × Value)} {s : σ} {a : α}
    (h : ∀ fuel, (Value.object (f :: fs)).text.length ≤ fuel →
      Fills r ⟨fuel, maxDepth - 1⟩ r.empty (f :: fs) s)
    (made : r.complete s = .ok a) : r.decode (Value.object (f :: fs)).bytes = .ok a := by
  obtain ⟨name, v⟩ := f
  have long := length_le_encode (Value.object ((name, v) :: fs)).text
  have fills := h ((Value.object ((name, v) :: fs)).bytes.length + 1) (by rw [Value.bytes]; omega)
  have enough := length_fields_lt (name, v) fs
  have next (inner : List UInt8) : nextField true (0x22 :: inner) = .ok (.item inner) := rfl
  have stops := stops_fields Value.text fs []
  rw [decode_object_eq]
  cases fills with
  | field slot found empty reads others =>
    rw [encode_namedText, readFields_item (next _) (string_quote name _) found empty
      (reads _ stops), others.readFields enough]
    simp only [bind, Except.bind, made]
    exact finish_nil a
  | passed unknown short others =>
    rw [encode_namedText, readFields_unknown (next _) (string_quote name _) unknown
      (v.skip_text short stops), others.readFields enough]
    simp only [bind, Except.bind, made]
    exact finish_nil a

end Record

/-! ## The answers of a shard -/

/-- A field that holds a scalar of the wanted kind is read into its slot. -/
theorem ofKind_reads {name : String} {get : σ → Option α} {set : σ → α → σ} {kind : Kind α}
    {a : α} {text : List Char} (h : ReadsBack (scalar kind) a text) (limits : Limits) (s : σ)
    {rest : List UInt8} (stops : Stops rest) :
    (Slot.ofKind name get set kind).read limits s (Utf8.encode text ++ rest) =
      .ok (set s a, rest) := by
  simp only [Slot.ofKind, h.read rest stops, bind, Except.bind, pure, Except.pure]

/-- A field that holds a legible value is read into its slot. -/
theorem ofValue_reads {name : String} {get : σ → Option Value} {set : σ → Value → σ}
    {v : Value} {limits : Limits} (h : v.Legible limits.depth)
    (enough : v.text.length ≤ limits.fuel) (s : σ) {rest : List UInt8} (stops : Stops rest) :
    (Slot.ofValue name get set).read limits s (Utf8.encode v.text ++ rest) =
      .ok (set s v, rest) := by
  simp only [Slot.ofValue, (h.readsBack enough).read rest stops, bind, Except.bind, pure,
    Except.pure]

/-- A field's value is no longer than the object it is in. -/
theorem Value.length_text_field {fs : List (String × Value)} {f : String × Value}
    (member : f ∈ fs) : f.2.text.length ≤ (Value.object fs).text.length := by
  obtain ⟨g, more, rfl⟩ := List.exists_cons_of_ne_nil (List.ne_nil_of_mem member)
  have named : f.2.text.length ≤ (namedText text f).length := by
    rw [namedText, List.length_append, List.length_cons]
    omega
  rw [Value.text_object_cons]
  simp only [List.length_cons, List.length_append]
  rcases List.mem_cons.1 member with rfl | later
  · omega
  · have among := length_text_le_behindCommas (namedText text) later
    omega

theorem length_text_record (r : ShardStore.Record) :
    r.value.text.length ≤ r.toJson.text.length :=
  Value.length_text_field (f := ("Value", r.value)) (by simp)

/-- The fields of a record fill it, and those behind them find it filled. -/
theorem fills_record {r : ShardStore.Record} {limits : Limits} (h : r.value.Legible limits.depth)
    (short : r.value.text.length ≤ limits.fuel) {more : List (String × Value)}
    {s : ShardStore.Record.Partial}
    (others : ShardStore.Record.schema.Fills limits ⟨some r.key, some r.value, some r.version⟩ more
      s) :
    ShardStore.Record.schema.Fills limits {}
      (("Key", .string r.key) :: ("Value", r.value) :: ("Version", .ofUInt64 r.version) :: more)
      s := by
  have version : ShardStore.Record.schema.Fills limits ⟨some r.key, some r.value, none⟩
      (("Version", .ofUInt64 r.version) :: more) s :=
    .field _ rfl rfl (fun rest stops => ofKind_reads (word_readsBack r.version) _ _ stops) others
  have value : ShardStore.Record.schema.Fills limits ⟨some r.key, none, none⟩
      (("Value", r.value) :: ("Version", .ofUInt64 r.version) :: more) s :=
    .field _ rfl rfl (fun rest stops => ofValue_reads h short _ stops) version
  refine .field _ rfl rfl (fun rest stops => ?_) value
  rw [Value.text_string]
  exact ofKind_reads (text_readsBack r.key) _ _ stops

/-- A record is read back if its value leaves room for the record around it. -/
theorem decode_record {r : ShardStore.Record} (h : r.value.Legible (maxDepth - 1)) :
    ShardStore.Record.schema.decode r.toJson.bytes = .ok r := by
  refine Record.decode_object (fun fuel enough => ?_)
    (show ShardStore.Record.schema.complete ⟨some r.key, some r.value, some r.version⟩ = .ok r
      from rfl)
  have short : r.value.text.length ≤ fuel := Nat.le_trans (length_text_record r) enough
  exact fills_record h short (.done _)

/-- An error body is read back, whatever its message is. -/
theorem decode_error (e : ErrorBody) : ErrorBody.schema.decode e.toJson.bytes = .ok e := by
  refine Record.decode_object (fun fuel enough => ?_)
    (show ErrorBody.schema.complete (some e.error) = .ok e from rfl)
  refine .field _ rfl rfl (fun rest stops => ?_) (.done _)
  rw [Value.text_string]
  exact ofKind_reads (text_readsBack e.error) _ _ stops

/-- The text of an error body decides its message. -/
theorem error_bytes_injective {a b : ErrorBody} (h : a.toJson.bytes = b.toJson.bytes) : a = b := by
  have read := decode_error a
  rw [h, decode_error b] at read
  exact (Except.ok.inj read).symm

/-- An array of keys is read back. -/
theorem readKeys_array (keys : List String) :
    Router.readKeys (Value.array (keys.map .string)).bytes = .ok keys := by
  cases keys with
  | nil => rfl
  | cons key keys =>
    have texts : behindCommas Value.text (keys.map .string) = behindCommas quote keys := by
      simp [behindCommas, List.flatMap_map]
    have bytes : (Value.array ((key :: keys).map .string)).bytes =
        0x5B :: (Utf8.encode (quote key ++ (behindCommas quote keys ++ [']'])) ++ []) := by
      rw [List.map_cons, Value.bytes, Value.text_array_cons, texts, Value.text_string,
        List.append_nil]
      rfl
    have long := length_le_encode (quote key ++ (behindCommas quote keys ++ [']']))
    have count := length_le_behindCommas quote keys
    have first := (begins_quote key).length_pos
    simp only [List.length_append, List.length_cons, List.length_nil] at long
    rw [Router.readKeys, bytes, skipSpace_cons (by decide)]
    simp only [if_true]
    rw [items_readsBack (fun k _ => text_readsBack k)]
    · rfl
    · simp only [List.length_append, List.length_cons, List.length_nil]
      omega

end ShardStore.Json
