/-
# ShardStore.Proofs.Router.Lines -- a listing is cut into its lines

A listing has a line for every record, and a line feed behind each.  Keys and names of nodes may
hold any characters, so the lines are safe only since the printer writes no control character as
it is (`Value.visible_text`).  A text is cut at the line feeds behind its lines and nowhere else
(`splitOn_lines`), and its bytes are cut at the same places (`splitOn_encode`).

* `decode_listing` -- every line is read back;
* `listing_lines` -- so a listing is its records.
-/
import Mathlib.Data.List.Forall2
import ShardStore.Proofs.Json.Records
import ShardStore.Router.Wire

namespace ShardStore

set_option autoImplicit false

open Text (Utf8.encode)

/-! ## Printed text has no control characters -/

namespace Json

theorem visible_of_all {cs : List Char} (all : cs.all (0x20 ≤ ·.toNat) = true) :
    ∀ x ∈ cs, 0x20 ≤ x.toNat := by
  simpa using all

theorem visible_digitChar {n : Nat} (h : n < 16) : 0x20 ≤ (Nat.digitChar n).toNat := by
  interval_cases n <;> decide

theorem visible_escape (c : Char) : ∀ x ∈ escape c, 0x20 ≤ x.toNat := by
  intro x member
  unfold escape at member
  iterate 7
    split at member
    · simp only [List.mem_cons, List.not_mem_nil, or_false] at member
      rcases member with rfl | rfl <;> decide
  split at member
  · rename_i control
    simp only [List.mem_cons, List.not_mem_nil, or_false] at member
    rcases member with rfl | rfl | rfl | rfl | rfl | rfl
    · decide
    · decide
    · decide
    · decide
    · exact visible_digitChar (by omega)
    · exact visible_digitChar (by omega)
  · rename_i visible
    rw [List.mem_singleton] at member
    subst member
    omega

theorem visible_quote (s : String) : ∀ x ∈ quote s, 0x20 ≤ x.toNat := by
  intro x member
  simp only [quote, List.mem_cons, List.mem_append, List.mem_flatMap, List.not_mem_nil,
    or_false] at member
  rcases member with rfl | ⟨c, -, escaped⟩ | rfl
  · decide
  · exact visible_escape c x escaped
  · decide

theorem IsNumeric.visible {c : Char} (numeric : IsNumeric c) : 0x20 ≤ c.toNat := by
  rcases numeric with digit | mark
  · have between : 48 ≤ c.toNat ∧ c.toNat ≤ 57 := Char.isDigit_iff_toNat.1 digit
    omega
  · simp only [List.mem_cons, List.not_mem_nil, or_false] at mark
    rcases mark with rfl | rfl | rfl | rfl <;> decide

theorem visible_behindCommas {α : Type} {text : α → List Char} {as : List α}
    (each : ∀ a ∈ as, ∀ x ∈ text a, 0x20 ≤ x.toNat) :
    ∀ x ∈ behindCommas text as, 0x20 ≤ x.toNat := by
  intro x member
  obtain ⟨a, among, part⟩ := List.mem_flatMap.1 member
  rcases List.mem_cons.1 part with rfl | part
  · decide
  · exact each a among x part

theorem visible_namedText {text : Value → List Char} {f : String × Value}
    (value : ∀ x ∈ text f.2, 0x20 ≤ x.toNat) : ∀ x ∈ namedText text f, 0x20 ≤ x.toNat := by
  intro x member
  rw [namedText, List.mem_append, List.mem_cons] at member
  rcases member with name | rfl | part
  · exact visible_quote f.1 x name
  · decide
  · exact value x part

/-- No control character is in the text of a value, so none ends a line. -/
theorem Value.visible_text (v : Value) : ∀ x ∈ v.text, 0x20 ≤ x.toNat := by
  induction v with
  | null => exact visible_of_all rfl
  | bool b => cases b <;> exact visible_of_all rfl
  | number n =>
    rw [text_number]
    exact fun x member => (isNumeric_text n x member).visible
  | string s =>
    rw [text_string]
    exact visible_quote s
  | array vs ih =>
    cases vs with
    | nil => exact visible_of_all rfl
    | cons v vs =>
      have others := visible_behindCommas fun w member => ih w (List.mem_cons_of_mem v member)
      intro x member
      simp only [text_array_cons, List.mem_cons, List.mem_append, List.not_mem_nil,
        or_false] at member
      rcases member with rfl | first | later | rfl
      · decide
      · exact ih v List.mem_cons_self x first
      · exact others x later
      · decide
  | object fs ih =>
    cases fs with
    | nil => exact visible_of_all rfl
    | cons f fs =>
      have others := visible_behindCommas fun g member =>
        visible_namedText (ih g (List.mem_cons_of_mem f member))
      intro x member
      simp only [text_object_cons, List.mem_cons, List.mem_append, List.not_mem_nil,
        or_false] at member
      rcases member with rfl | first | later | rfl
      · decide
      · exact visible_namedText (ih f List.mem_cons_self) x first
      · exact others x later
      · decide

theorem Value.notMem_text {mark : Char} (control : mark.toNat < 0x20) (v : Value) :
    mark ∉ v.text := fun member =>
  absurd (v.visible_text mark member) (Nat.not_le.2 control)

end Json

/-! ## Lines -/

namespace Text

/-- A text with a mark behind every line is cut into the lines, and nothing is behind the last
mark. -/
theorem splitOn_lines {mark : Char} {lines : List (List Char)}
    (clear : ∀ line ∈ lines, mark ∉ line) :
    (lines.flatMap (· ++ [mark])).splitOn mark = lines ++ [[]] := by
  induction lines with
  | nil => simp
  | cons line lines ih =>
    rw [List.flatMap_cons, List.append_assoc, List.singleton_append,
      List.splitOn_append_cons_self_of_not_mem (clear line List.mem_cons_self),
      ih fun other member => clear other (List.mem_cons_of_mem line member), List.cons_append]

/-- What is in front of the first mark is a part of the first piece. -/
theorem splitOn_append {mark : UInt8} {front : List UInt8} (clear : mark ∉ front)
    (bs : List UInt8) :
    (front ++ bs).splitOn mark = (bs.splitOn mark).modifyHead (front ++ ·) := by
  induction front with
  | nil =>
    obtain ⟨piece, pieces, cut⟩ := List.exists_cons_of_ne_nil (List.splitOn_ne_nil mark bs)
    simp [cut]
  | cons b front ih =>
    have other : b ≠ mark := fun same => clear (same ▸ List.mem_cons_self)
    rw [List.cons_append, List.splitOn_cons_eq_if_modifyHead, if_neg (by simpa using other),
      ih fun member => clear (List.mem_cons_of_mem b member), List.modifyHead_modifyHead]
    rfl

/-- The byte of a line feed is in the bytes of no other character. -/
theorem notMem_lineFeed {c : Char} (other : c ≠ '\n') : 0x0A ∉ String.utf8EncodeChar c := by
  intro member
  by_cases ascii : c.toNat ≤ 0x7F
  · rw [Utf8.utf8EncodeChar_ascii ascii, List.mem_singleton] at member
    have value := congrArg UInt8.toNat member
    rw [UInt8.toNat_ofNat', Nat.mod_eq_of_lt (by omega)] at value
    exact other (Char.toNat_inj.1 value.symm)
  · have beyond := Utf8.le_of_mem_utf8EncodeChar (by omega) member
    exact absurd beyond (by decide)

/-- The bytes of a text are cut where the text is. -/
theorem splitOn_encode (cs : List Char) :
    (Utf8.encode cs).splitOn 0x0A = (cs.splitOn '\n').map Utf8.encode := by
  induction cs with
  | nil => simp
  | cons c cs ih =>
    rw [Utf8.encode_cons, List.splitOn_cons_eq_if_modifyHead]
    by_cases here : c = '\n'
    · subst here
      have byte : String.utf8EncodeChar '\n' = [0x0A] := rfl
      rw [byte, List.singleton_append, List.splitOn_cons_eq_if_modifyHead, ih]
      simp
    · rw [splitOn_append (notMem_lineFeed here), ih, if_neg (by simpa using here)]
      obtain ⟨piece, pieces, cut⟩ := List.exists_cons_of_ne_nil (List.splitOn_ne_nil '\n' cs)
      simp [cut]

end Text

/-! ## Listings -/

namespace Router

open Json

/-- A listing record is read back from its text, whatever its key and its node are. -/
theorem decode_listing (r : ListingRecord) :
    ListingRecord.schema.decode r.toJson.bytes = .ok r := by
  refine Json.Record.decode_object (fun fuel enough => ?_)
    (show ListingRecord.schema.complete ⟨some r.key, some r.node⟩ = .ok r from rfl)
  have node : ListingRecord.schema.Fills ⟨fuel, maxDepth - 1⟩ ⟨some r.key, none⟩
      [("Node", .string r.node)] ⟨some r.key, some r.node⟩ := by
    refine .field _ rfl rfl (fun rest stops => ?_) (.done _)
    rw [Value.text_string]
    exact ofKind_reads (text_readsBack r.node) _ _ stops
  refine .field _ rfl rfl (fun rest stops => ?_) node
  rw [Value.text_string]
  exact ofKind_reads (text_readsBack r.key) _ _ stops

theorem listingText_eq (records : List ListingRecord) :
    listingText records = (records.map (·.toJson.text)).flatMap (· ++ ['\n']) := by
  rw [listingText, List.flatMap_map]

/-- A listing without records is empty, and any other ends in a line feed.  Cut at its line feeds,
by characters or by bytes, it has one line for every record, in order, and nothing behind the last
line; no line is empty, and each is read back as its record. -/
theorem listing_lines (records : List ListingRecord) :
    (listingText records = [] ↔ records = []) ∧
      (records ≠ [] → (listingText records).getLast? = some '\n') ∧
      ∃ lines, (listingText records).splitOn '\n' = lines ++ [[]] ∧
        (Utf8.encode (listingText records)).splitOn 0x0A = lines.map Utf8.encode ++ [[]] ∧
        List.Forall₂ (fun line r => line ≠ [] ∧
          ListingRecord.schema.decode (Utf8.encode line) = .ok r) lines records := by
  have clear : ∀ line ∈ records.map (·.toJson.text), '\n' ∉ line := by
    rintro line member
    obtain ⟨r, -, rfl⟩ := List.mem_map.1 member
    exact Value.notMem_text (by decide) r.toJson
  have cut : (listingText records).splitOn '\n' = records.map (·.toJson.text) ++ [[]] := by
    rw [listingText_eq, Text.splitOn_lines clear]
  refine ⟨?_, ?_, records.map (·.toJson.text), cut, ?_, ?_⟩
  · cases records with
    | nil => exact ⟨fun _ => rfl, fun _ => rfl⟩
    | cons r records => simp [listingText]
  · intro some
    obtain ⟨front, last, rfl⟩ := (List.eq_nil_or_concat records).resolve_left some
    simp [listingText]
  · rw [Text.splitOn_encode, cut, List.map_append]
    rfl
  · rw [List.forall₂_map_left_iff, List.forall₂_same]
    refine fun r _ => ⟨?_, decode_listing r⟩
    rw [ListingRecord.toJson, Value.text_object_cons]
    exact List.cons_ne_nil _ _

end Router

end ShardStore
