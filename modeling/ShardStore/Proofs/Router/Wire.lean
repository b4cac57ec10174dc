/-
# ShardStore.Proofs.Router.Wire -- records and forwarded records are read for each other

A router hands on a record as a forwarded record, with a report on the forwarding or without one,
and the two kinds of readers take different ways.  A reader of records reads each field into its
slot and passes over a report.  A reader of forwarded records collects every field but the report
and judges the collected ones when the object is read.

* `decode_reported` -- a report beside the fields of a record is passed over, whatever it says;
* `decode_others` -- what is collected of an object without a report is its fields, so it is read
  as the record that they make;
* `wire_interchange` -- each reader finds the record in what the other kind prints.
-/
import ShardStore.Proofs.Json.Records
import ShardStore.Router.Wire

namespace ShardStore.Router

set_option autoImplicit false

open Json
open Text (Utf8.encode)

/-! ## Reading a forwarded record as a record -/

/-- A report beside the fields of a record is passed over. -/
theorem decode_reported {r : ShardStore.Record} (h : r.value.Legible (maxDepth - 1))
    (report : Report) :
    ShardStore.Record.schema.decode (Forwarded.mk r (some report)).toJson.bytes = .ok r := by
  refine Record.decode_object (fun fuel enough => ?_)
    (show ShardStore.Record.schema.complete ⟨some r.key, some r.value, some r.version⟩ = .ok r
      from rfl)
  have value : r.value.text.length ≤ fuel :=
    Nat.le_trans (Value.length_text_field (f := ("Value", r.value)) (by simp)) enough
  have debug : report.toJson.text.length ≤ fuel :=
    Nat.le_trans (Value.length_text_field (f := ("debug", report.toJson)) (by simp)) enough
  exact fills_record h value (.passed rfl debug (.done _))

/-! ## Reading a record as a forwarded record -/

namespace Forwarded

variable {limits : Limits}

theorem readFields_closed {first : Bool} {bs rest : List UInt8}
    (next : nextField first bs = .ok (.closed rest)) (fuel : Nat) (partly : Partial) :
    readFields limits (fuel + 1) first partly bs = .ok (partly, rest) := by
  simp only [readFields, next, bind, Except.bind, pure, Except.pure]

theorem readFields_other {first : Bool} {bs inner behind rest : List UInt8} {name : String}
    {v : Value} (next : nextField first bs = .ok (.item inner))
    (named : string inner = .ok (name, 0x3A :: behind)) (other : name ≠ "debug")
    (reads : value limits.fuel limits.depth behind = .ok (v, rest)) (fuel : Nat)
    (partly : Partial) :
    readFields limits (fuel + 1) first partly bs =
      readFields limits fuel false { partly with others := (name, v) :: partly.others } rest := by
  simp only [readFields, next, named, if_neg other, colon_mark, reads, bind, Except.bind]

/-- A field that a reader of forwarded records collects. -/
structure Other (limits : Limits) (f : String × Value) : Prop where
  notDebug : f.1 ≠ "debug"
  legible : f.2.Legible limits.depth
  short : f.2.text.length ≤ limits.fuel

theorem Other.read {f : String × Value} (h : Other limits f) {rest : List UInt8}
    (stops : Stops rest) :
    value limits.fuel limits.depth (Utf8.encode f.2.text ++ rest) = .ok (f.2, rest) :=
  (h.legible.readsBack h.short).read rest stops

/-- The fields behind the first are collected up to the closing bracket, the last first. -/
theorem readFields_others {fs : List (String × Value)} (h : ∀ f ∈ fs, Other limits f) {fuel : Nat}
    (enough : fs.length < fuel) (partly : Partial) (rest : List UInt8) :
    readFields limits fuel false partly
        (Utf8.encode (behindCommas (namedText Value.text) fs) ++ 0x7D :: rest) =
      .ok ({ partly with others := fs.reverse ++ partly.others }, rest) := by
  induction fs generalizing fuel partly with
  | nil =>
    obtain ⟨fuel, rfl⟩ : ∃ f, fuel = f + 1 := ⟨fuel - 1, by omega⟩
    exact readFields_closed rfl fuel partly
  | cons f fs ih =>
    obtain ⟨fuel, rfl⟩ : ∃ f, fuel = f + 1 := ⟨fuel - 1, by omega⟩
    have head := h f List.mem_cons_self
    have stops := stops_fields Value.text fs rest
    have next (inner : List UInt8) : nextField false (0x2C :: 0x22 :: inner) = .ok (.item inner) :=
      rfl
    rw [behindCommas_cons, encode_comma, Text.Utf8.encode_append, List.cons_append,
      List.append_assoc, encode_namedText,
      readFields_other (next _) (string_quote f.1 _) head.notDebug (head.read stops),
      ih (fun g member => h g (List.mem_cons_of_mem f member)) (Nat.lt_of_succ_lt_succ enough)]
    simp

/-- An object is read field by field, with one level of nesting less; then the collected fields
are judged. -/
theorem decode_object_eq (f : String × Value) (fs : List (String × Value)) :
    decode (Value.object (f :: fs)).bytes =
      readFields ⟨(Value.object (f :: fs)).bytes.length + 1, maxDepth - 1⟩
        ((Value.object (f :: fs)).bytes.length + 1) true {}
        (Utf8.encode (namedText Value.text f) ++
          (Utf8.encode (behindCommas (namedText Value.text) fs) ++ [0x7D])) >>=
        fun read => ShardStore.Record.schema.ofFields read.1.others.reverse >>=
          fun r => finish (⟨r, read.1.report.join⟩, read.2) := by
  rw [decode, read, Limits.ofText]
  generalize (Value.object (f :: fs)).bytes.length = size
  rw [Record.bytes_object_cons, skipSpace_cons (by decide)]
  have inner : (Limits.mk (size + 1) maxDepth).inner = .ok ⟨size + 1, maxDepth - 1⟩ := rfl
  simp only [inner, bind, Except.bind, pure, Except.pure, if_true]
  generalize readFields _ _ _ _ _ = found
  cases found with
  | error fault => rfl
  | ok read =>
    cases judged : ShardStore.Record.schema.ofFields read.1.others.reverse <;> simp only [judged]

/-- An object without a report is read as the record that its fields make. -/
theorem decode_others {f : String × Value} {fs : List (String × Value)}
    (notDebug : ∀ g ∈ f :: fs, g.1 ≠ "debug")
    (legible : ∀ g ∈ f :: fs, g.2.Legible (maxDepth - 1)) :
    decode (Value.object (f :: fs)).bytes =
      (ShardStore.Record.schema.ofFields (f :: fs)).map (⟨·, none⟩) := by
  have long := length_le_encode (Value.object (f :: fs)).text
  have others : ∀ g ∈ f :: fs,
      Other ⟨(Value.object (f :: fs)).bytes.length + 1, maxDepth - 1⟩ g := by
    intro g member
    have part := Value.length_text_field member
    exact ⟨notDebug g member, legible g member, Nat.le_succ_of_le (Nat.le_trans part long)⟩
  have enough := Record.length_fields_lt f fs
  have head := others f List.mem_cons_self
  have stops := stops_fields Value.text fs []
  have next (inner : List UInt8) : nextField true (0x22 :: inner) = .ok (.item inner) := rfl
  rw [decode_object_eq, encode_namedText,
    readFields_other (next _) (string_quote f.1 _) head.notDebug (head.read stops),
    readFields_others (fun g member => others g (List.mem_cons_of_mem f member)) enough]
  simp only [bind, Except.bind, List.reverse_append, List.reverse_reverse, List.reverse_cons,
    List.reverse_nil, List.nil_append, List.singleton_append]
  cases ShardStore.Record.schema.ofFields (f :: fs) with
  | error fault => rfl
  | ok r => rfl

end Forwarded

/-! ## Both ways -/

/-- Collected, the fields of a record make it again. -/
theorem ofFields_record (r : ShardStore.Record) :
    ShardStore.Record.schema.ofFields
      [("Key", .string r.key), ("Value", r.value), ("Version", .ofUInt64 r.version)] = .ok r := by
  have key : ShardStore.Record.schema.takeField ShardStore.Record.schema.empty
      ("Key", .string r.key) = .ok ⟨some r.key, none, none⟩ := rfl
  have value : ShardStore.Record.schema.takeField ⟨some r.key, none, none⟩ ("Value", r.value) =
      .ok ⟨some r.key, some r.value, none⟩ := rfl
  have version : ShardStore.Record.schema.takeField ⟨some r.key, some r.value, none⟩
      ("Version", .ofUInt64 r.version) = .ok ⟨some r.key, some r.value, some r.version⟩ := by
    show (Kind.word.judge (Value.ofUInt64 r.version)).map _ = _
    rw [judge_word]
    rfl
  simp only [Record.ofFields, List.foldlM_cons, List.foldlM_nil, key, value, version, bind,
    Except.bind]
  rfl

theorem legible_ofUInt64 {d : Nat} (n : UInt64) : (Value.ofUInt64 n).Legible d :=
  (Value.Plain.integer ..).legible

/-- A record is read as a forwarded record without a report. -/
theorem decode_unreported {r : ShardStore.Record} (h : r.value.Legible (maxDepth - 1)) :
    Forwarded.decode r.toJson.bytes = .ok ⟨r, none⟩ := by
  have key : (Value.string r.key).Legible (maxDepth - 1) :=
    ⟨.string r.key, .string r.key, Nat.zero_le _⟩
  have collected : Forwarded.decode r.toJson.bytes = (ShardStore.Record.schema.ofFields
      [("Key", .string r.key), ("Value", r.value), ("Version", .ofUInt64 r.version)]).map
        (⟨·, none⟩) :=
    Forwarded.decode_others (by simp) (by simpa using ⟨key, h, legible_ofUInt64 r.version⟩)
  rw [collected, ofFields_record]
  rfl

/-- A record whose value is plain and nests at most 126 deep is read back from its text.  Forwarded
without a report it has the same text, which a reader of forwarded records reads as the record
without a report.  Forwarded with a report it is read back as well; the time of a report is finite,
so it is printed as a number. -/
theorem wire_interchange {r : ShardStore.Record} (plain : r.value.Plain 126) :
    ShardStore.Record.schema.decode r.toJson.bytes = .ok r ∧
      (Forwarded.mk r none).toJson.bytes = r.toJson.bytes ∧
      Forwarded.decode r.toJson.bytes = .ok ⟨r, none⟩ ∧
      ∀ report : Report,
        ShardStore.Record.schema.decode (Forwarded.mk r (some report)).toJson.bytes = .ok r := by
  have legible : r.value.Legible (maxDepth - 1) := plain.legible
  exact ⟨decode_record legible, rfl, decode_unreported legible, decode_reported legible⟩

/-- A record whose value looks like a forwarded record. -/
def disguised : ShardStore.Record where
  key := "Key"
  value := .object [
    ("Key", .number (.integer (-0x8000000000000000) (by decide) (by decide))),
    ("Value", .number (.integer 0xFFFFFFFFFFFFFFFF (by decide) (by decide))),
    ("Version", .string "\"\\\n\u2028"),
    ("debug", .array [.null])]
  version := 0xFFFFFFFFFFFFFFFF

theorem wire_interchange_disguised :
    let report : Report := ⟨"a", ⟨true, Binary64.Magnitude.zero⟩⟩
    disguised.value.Plain 126 ∧
      ShardStore.Record.schema.decode disguised.toJson.bytes = .ok disguised ∧
      (Forwarded.mk disguised none).toJson.bytes = disguised.toJson.bytes ∧
      Forwarded.decode disguised.toJson.bytes = .ok ⟨disguised, none⟩ ∧
      ShardStore.Record.schema.decode (Forwarded.mk disguised (some report)).toJson.bytes =
        .ok disguised := by
  intro report
  have plain : disguised.value.Plain 126 := by
    have ascending : ["Key", "Value", "Version", "debug"].Pairwise (· < ·) := by decide
    refine ⟨.object ?_, .object ascending ?_, by decide⟩
    · simpa using ⟨.integer .., .integer .., .string _, .array (by simpa using .null)⟩
    · simpa using ⟨.number _, .number _, .string _, .array (by simpa using .null)⟩
  obtain ⟨read, same, forwarded, reported⟩ := wire_interchange plain
  exact ⟨plain, read, same, forwarded, reported report⟩

end ShardStore.Router
