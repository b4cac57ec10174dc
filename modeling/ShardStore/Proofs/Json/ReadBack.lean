/-
# ShardStore.Proofs.Json.ReadBack -- a printed value is read back

A text is read back as `a` by a reader if it begins a value and the reader finds `a` in
it, whatever follows that a number could not go on with (`ReadsBack`).  Arrays and
objects of such texts are read member by member (`items_readsBack`, `fields_readsBack`),
so by induction every value whose numbers are steady is read back where its nesting is
allowed (`Value.Legible`).  Plain values are among these, since integers are steady.

* `Value.Legible.read_bytes` -- a whole text;
* `Value.bytes_injective` -- so no two plain values have one text.
-/
import ShardStore.Proofs.Json.Numeral

namespace ShardStore.Json

set_option autoImplicit false

open Text (Utf8.encode)

/-! ## Texts that begin a value -/

/-- A text whose first byte is no white space and closes no array. -/
def Begins (text : List Char) : Prop :=
  ∃ b bs, Utf8.encode text = b :: bs ∧ Text.isSpaceByte b = false ∧ b ≠ 0x5D

theorem Begins.length_pos {text : List Char} (h : Begins text) : 0 < text.length := by
  obtain ⟨b, bs, bytes, -⟩ := h
  cases text with
  | nil => cases bytes
  | cons c cs => simp

theorem begins_quote (s : String) : Begins (quote s) :=
  ⟨0x22, _, by simpa using encode_quote s [], by decide, by decide⟩

theorem begins_ascii {c : Char} (cs : List Char) (low : c.toNat ≤ 0x7F)
    (visible : Text.isSpaceByte (UInt8.ofNat c.toNat) = false) (notClose : UInt8.ofNat c.toNat ≠ 0x5D) :
    Begins (c :: cs) :=
  ⟨_, _, by rw [Text.Utf8.encode_cons, Text.Utf8.utf8EncodeChar_ascii low]; rfl, visible, notClose⟩

theorem Number.begins_text (n : Number) : Begins n.text := by
  obtain ⟨cs, numeral, text⟩ := n.text_numeral
  rcases text with text | text <;> rw [text]
  · obtain ⟨b, bs, bytes, digit⟩ := numeral.bytes
    refine ⟨b, bs, bytes, visible_of_isDigit digit, ?_⟩
    rintro rfl
    cases digit
  · exact begins_ascii _ (by decide) (by decide) (by decide)

theorem Value.begins_text (v : Value) : Begins v.text := by
  cases v with
  | null => exact begins_ascii _ (by decide) (by decide) (by decide)
  | bool b => cases b <;> exact begins_ascii _ (by decide) (by decide) (by decide)
  | number n => rw [Value.text_number]; exact n.begins_text
  | string s => rw [Value.text_string]; exact begins_quote s
  | array vs =>
    cases vs with
    | nil => exact begins_ascii _ (by decide) (by decide) (by decide)
    | cons v vs =>
      rw [Value.text_array_cons]
      exact begins_ascii _ (by decide) (by decide) (by decide)
  | object fs =>
    cases fs with
    | nil => exact begins_ascii _ (by decide) (by decide) (by decide)
    | cons f fs =>
      rw [Value.text_object_cons]
      exact begins_ascii _ (by decide) (by decide) (by decide)

/-! ## Legible values -/

/-- Every number of the value is steady. -/
inductive Value.Steady : Value → Prop where
  | null : Steady .null
  | bool (b : Bool) : Steady (.bool b)
  | number {n : Number} : n.Steady → Steady (.number n)
  | string (s : String) : Steady (.string s)
  | array {vs : List Value} : (∀ v ∈ vs, Steady v) → Steady (.array vs)
  | object {fs : List (String × Value)} : (∀ f ∈ fs, Steady f.2) → Steady (.object fs)

theorem Value.FloatFree.steady {v : Value} (h : v.FloatFree) : v.Steady := by
  induction h with
  | null => exact .null
  | bool b => exact .bool b
  | integer n low high => exact .number (Number.steady_integer n low high)
  | string s => exact .string s
  | array _ ih => exact .array ih
  | object _ ih => exact .object ih

/-- A value whose text is read back where `d` levels of nesting are allowed.  Plain values are,
and so are those with doubles that are steady. -/
structure Value.Legible (d : Nat) (v : Value) : Prop where
  steady : v.Steady
  canonical : v.Canonical
  shallow : v.depth ≤ d

theorem Value.Plain.legible {d : Nat} {v : Value} (h : v.Plain d) : v.Legible d :=
  ⟨h.floatFree.steady, h.canonical, h.shallow⟩

namespace Value.Legible

variable {d : Nat}

theorem items {vs : List Value} (h : (Value.array vs).Legible (d + 1)) :
    ∀ v ∈ vs, v.Legible d := by
  intro v member
  cases h.steady with
  | array steady =>
    cases h.canonical with
    | array canonical =>
      exact ⟨steady v member, canonical v member, depth_array_le.1 h.shallow v member⟩

theorem fields {fs : List (String × Value)} (h : (Value.object fs).Legible (d + 1)) :
    Assoc.Sorted fs ∧ ∀ f ∈ fs, f.2.Legible d := by
  cases h.steady with
  | object steady =>
    cases h.canonical with
    | object sorted canonical =>
      exact ⟨sorted, fun f member =>
        ⟨steady f member, canonical f member, depth_object_le.1 h.shallow f member⟩⟩

theorem depth_pos_of_array {vs : List Value} (h : (Value.array vs).Legible d) : 0 < d := by
  have := h.shallow
  rw [depth] at this
  omega

theorem depth_pos_of_object {fs : List (String × Value)} (h : (Value.object fs).Legible d) :
    0 < d := by
  have := h.shallow
  rw [depth] at this
  omega

end Value.Legible

/-! ## Texts that are read back -/

variable {α : Type}

/-- A reader finds `a` in the text, whatever stops it. -/
structure ReadsBack (item : Reader α) (a : α) (text : List Char) : Prop where
  begins : Begins text
  read : ∀ rest, Stops rest → item (Utf8.encode text ++ rest) = .ok (a, rest)

theorem encode_comma (cs : List Char) : Utf8.encode (',' :: cs) = 0x2C :: Utf8.encode cs := rfl

/-- A number stops before a comma, and before the bracket behind the last item. -/
theorem stops_behindCommas (text : α → List Char) (as : List α) {close : UInt8}
    (hclose : isDigit close = false ∧ close ≠ 0x2E ∧ close ≠ 0x65 ∧ close ≠ 0x45)
    (rest : List UInt8) : Stops (Utf8.encode (behindCommas text as) ++ close :: rest) := by
  cases as with
  | nil => exact Stops.cons hclose
  | cons a as =>
    rw [behindCommas_cons, encode_comma]
    exact Stops.cons (by decide)

theorem stops_fields (text : α → List Char) (fs : List (String × α)) (rest : List UInt8) :
    Stops (Utf8.encode (behindCommas (namedText text) fs) ++ 0x7D :: rest) :=
  stops_behindCommas (namedText text) fs (by decide) rest

/-! ## Arrays -/

theorem items_closed {item : Reader α} {first : Bool} {bs rest : List UInt8}
    (next : nextItem first bs = .ok (.closed rest)) (fuel : Nat) (read : List α) :
    items item (fuel + 1) first read bs = .ok (read.reverse, rest) := by
  simp only [items, next, bind, Except.bind, pure, Except.pure]

theorem items_item {item : Reader α} {first : Bool} {bs inner rest : List UInt8} {a : α}
    (next : nextItem first bs = .ok (.item inner)) (reads : item inner = .ok (a, rest))
    (fuel : Nat) (read : List α) :
    items item (fuel + 1) first read bs = items item fuel false (a :: read) rest := by
  simp only [items, next, reads, bind, Except.bind]

theorem nextItem_begins {text : List Char} (h : Begins text) (rest : List UInt8) :
    nextItem true (Utf8.encode text ++ rest) = .ok (.item (Utf8.encode text ++ rest)) ∧
      nextItem false (0x2C :: (Utf8.encode text ++ rest)) =
        .ok (.item (Utf8.encode text ++ rest)) := by
  obtain ⟨b, bs, bytes, noSpace, notClose⟩ := h
  have visible := isSpace_of_isSpaceByte noSpace
  rw [bytes, List.cons_append]
  constructor
  · rw [nextItem, skipSpace_cons visible]
    simp [notClose]
  · rw [nextItem, skipSpace_cons (by decide)]
    simp [skipSpace_cons visible, notClose]

/-- The items behind the first are read back up to the closing bracket. -/
theorem items_behindCommas {item : Reader α} {text : α → List Char} {as : List α}
    (h : ∀ a ∈ as, ReadsBack item a (text a)) {fuel : Nat} (enough : as.length < fuel)
    (read : List α) (rest : List UInt8) :
    items item fuel false read (Utf8.encode (behindCommas text as) ++ 0x5D :: rest) =
      .ok (read.reverse ++ as, rest) := by
  induction as generalizing fuel read with
  | nil =>
    obtain ⟨fuel, rfl⟩ : ∃ f, fuel = f + 1 := ⟨fuel - 1, by omega⟩
    rw [items_closed rfl]
    simp
  | cons a as ih =>
    obtain ⟨fuel, rfl⟩ : ∃ f, fuel = f + 1 := ⟨fuel - 1, by omega⟩
    have head := h a List.mem_cons_self
    have more := ih (fun x hx => h x (List.mem_cons_of_mem _ hx))
      (Nat.lt_of_succ_lt_succ enough) (a :: read)
    rw [behindCommas_cons, encode_comma, Text.Utf8.encode_append, List.cons_append,
      List.append_assoc, items_item (nextItem_begins head.begins _).2
        (head.read _ (stops_behindCommas text as (by decide) rest)), more]
    simp

/-- An array that is not empty is read back behind its opening bracket. -/
theorem items_readsBack {item : Reader α} {text : α → List Char} {a : α} {as : List α}
    (h : ∀ x ∈ a :: as, ReadsBack item x (text x)) {fuel : Nat} (enough : as.length + 1 < fuel)
    (rest : List UInt8) :
    items item fuel true []
        (Utf8.encode (text a ++ (behindCommas text as ++ [']'])) ++ rest) =
      .ok (a :: as, rest) := by
  obtain ⟨fuel, rfl⟩ : ∃ f, fuel = f + 1 := ⟨fuel - 1, by omega⟩
  have head := h a List.mem_cons_self
  have parts : Utf8.encode (text a ++ (behindCommas text as ++ [']'])) ++ rest =
      Utf8.encode (text a) ++ (Utf8.encode (behindCommas text as) ++ 0x5D :: rest) := by
    simp only [Text.Utf8.encode_append, List.append_assoc]
    rfl
  rw [parts, items_item (nextItem_begins head.begins _).1
    (head.read _ (stops_behindCommas text as (by decide) rest)),
    items_behindCommas (fun x hx => h x (List.mem_cons_of_mem _ hx))
      (Nat.lt_of_succ_lt_succ enough)]
  simp

/-! ## Objects -/

theorem fields_closed {item : Reader α} {first : Bool} {bs rest : List UInt8}
    (next : nextField first bs = .ok (.closed rest)) (fuel : Nat) (read : List (String × α)) :
    fields item (fuel + 1) first read bs = .ok (read.reverse, rest) := by
  simp only [fields, next, bind, Except.bind, pure, Except.pure]

theorem colon_mark (rest : List UInt8) : colon (0x3A :: rest) = .ok rest := by
  rw [colon, skipSpace_cons (by decide)]
  rfl

theorem fields_item {item : Reader α} {first : Bool} {bs inner behind rest : List UInt8}
    {name : String} {a : α} (next : nextField first bs = .ok (.item inner))
    (named : string inner = .ok (name, 0x3A :: behind)) (reads : item behind = .ok (a, rest))
    (fuel : Nat) (read : List (String × α)) :
    fields item (fuel + 1) first read bs = fields item fuel false ((name, a) :: read) rest := by
  simp only [fields, next, named, colon_mark, reads, bind, Except.bind]

theorem encode_namedText (text : α → List Char) (f : String × α) (rest : List UInt8) :
    Utf8.encode (namedText text f) ++ rest =
      0x22 :: (Utf8.encode (f.1.toList.flatMap escape) ++
        0x22 :: 0x3A :: (Utf8.encode (text f.2) ++ rest)) := by
  rw [namedText, Text.Utf8.encode_append, List.append_assoc, encode_quote]
  rfl

/-- The fields behind the first are read back up to the closing bracket. -/
theorem fields_behindCommas {item : Reader α} {text : α → List Char} {fs : List (String × α)}
    (h : ∀ f ∈ fs, ReadsBack item f.2 (text f.2)) {fuel : Nat} (enough : fs.length < fuel)
    (read : List (String × α)) (rest : List UInt8) :
    fields item fuel false read
        (Utf8.encode (behindCommas (namedText text) fs) ++ 0x7D :: rest) =
      .ok (read.reverse ++ fs, rest) := by
  induction fs generalizing fuel read with
  | nil =>
    obtain ⟨fuel, rfl⟩ : ∃ f, fuel = f + 1 := ⟨fuel - 1, by omega⟩
    rw [fields_closed rfl]
    simp
  | cons f fs ih =>
    obtain ⟨fuel, rfl⟩ : ∃ f, fuel = f + 1 := ⟨fuel - 1, by omega⟩
    have head := h f List.mem_cons_self
    have more := ih (fun x hx => h x (List.mem_cons_of_mem _ hx))
      (Nat.lt_of_succ_lt_succ enough) (f :: read)
    have next (inner : List UInt8) : nextField false (0x2C :: 0x22 :: inner) = .ok (.item inner) :=
      rfl
    rw [behindCommas_cons, encode_comma, Text.Utf8.encode_append, List.cons_append,
      List.append_assoc, encode_namedText,
      fields_item (next _) (string_quote f.1 _)
        (head.read _ (stops_fields text fs rest)), more]
    simp

/-- An object that is not empty is read back behind its opening bracket. -/
theorem fields_readsBack {item : Reader α} {text : α → List Char} {f : String × α}
    {fs : List (String × α)} (h : ∀ g ∈ f :: fs, ReadsBack item g.2 (text g.2)) {fuel : Nat}
    (enough : fs.length + 1 < fuel) (rest : List UInt8) :
    fields item fuel true []
        (Utf8.encode (namedText text f ++ (behindCommas (namedText text) fs ++ ['\x7d'])) ++ rest) =
      .ok (f :: fs, rest) := by
  obtain ⟨fuel, rfl⟩ : ∃ f, fuel = f + 1 := ⟨fuel - 1, by omega⟩
  have head := h f List.mem_cons_self
  have parts : Utf8.encode (namedText text f ++ (behindCommas (namedText text) fs ++ ['\x7d'])) ++
        rest =
      Utf8.encode (namedText text f) ++
        (Utf8.encode (behindCommas (namedText text) fs) ++ 0x7D :: rest) := by
    simp only [Text.Utf8.encode_append, List.append_assoc]
    rfl
  have next (inner : List UInt8) : nextField true (0x22 :: inner) = .ok (.item inner) := rfl
  rw [parts, encode_namedText,
    fields_item (next _) (string_quote f.1 _)
      (head.read _ (stops_fields text fs rest)),
    fields_behindCommas (fun g hg => h g (List.mem_cons_of_mem _ hg))
      (Nat.lt_of_succ_lt_succ enough)]
  simp

/-! ## Values -/

section Values

variable (fuel depth : Nat) (rest : List UInt8)

theorem value_null : value fuel depth (Utf8.encode Value.null.text ++ rest) = .ok (.null, rest) := by
  rw [value.eq_def]
  rfl

theorem value_bool (b : Bool) :
    value fuel depth (Utf8.encode (Value.bool b).text ++ rest) = .ok (.bool b, rest) := by
  rw [value.eq_def]
  cases b <;> rfl

theorem value_quote (s : String) :
    value fuel depth (Utf8.encode (quote s) ++ rest) = .ok (.string s, rest) := by
  rw [encode_quote, value.eq_def]
  simp [skipSpace_cons, isSpace, string_quote, bind, Except.bind, pure, Except.pure]

theorem value_square {bs : List UInt8} {vs : List Value}
    (h : items (value fuel depth) fuel true [] bs = .ok (vs, rest)) :
    value fuel (depth + 1) (0x5B :: bs) = .ok (.array vs, rest) := by
  rw [value.eq_def]
  simp [skipSpace_cons, isSpace, isDigit, h, bind, Except.bind, pure, Except.pure]

theorem value_curly {bs : List UInt8} {fs : List (String × Value)}
    (h : fields (value fuel depth) fuel true [] bs = .ok (fs, rest)) :
    value fuel (depth + 1) (0x7B :: bs) = .ok (.object (Assoc.ofList fs), rest) := by
  rw [value.eq_def]
  simp [skipSpace_cons, isSpace, isDigit, h, bind, Except.bind, pure, Except.pure]

theorem value_number {n : Number} (steady : n.Steady) (stops : Stops rest) :
    value fuel depth (Utf8.encode n.text ++ rest) = .ok (.number n, rest) := by
  obtain ⟨b, behind, start, found⟩ := steady.found
  have first := found fuel depth rest stops
  rw [start, List.cons_append]
  exact first.value (skipSpace_cons (isSpace_of_isSpaceByte first.visible) _)

end Values

/-- A legible value is read back where its nesting is allowed.  The fuel bounds the number
of members at every depth. -/
theorem Value.Legible.readsBack {v : Value} {d : Nat} (h : v.Legible d) {fuel : Nat}
    (enough : v.text.length ≤ fuel) : ReadsBack (value fuel d) v v.text := by
  refine ⟨v.begins_text, ?_⟩
  induction v generalizing d with
  | null =>
    intro rest _
    exact value_null fuel d rest
  | bool b =>
    intro rest _
    exact value_bool fuel d rest b
  | number n =>
    intro rest stops
    cases h.steady with
    | number steady =>
      rw [Value.text_number]
      exact value_number fuel d rest steady stops
  | string s =>
    intro rest _
    rw [Value.text_string]
    exact value_quote fuel d rest s
  | array vs ih =>
    intro rest _
    obtain ⟨e, rfl⟩ : ∃ e, d = e + 1 := ⟨d - 1, by have := h.depth_pos_of_array; omega⟩
    cases vs with
    | nil =>
      obtain ⟨fuel, rfl⟩ : ∃ f, fuel = f + 1 := ⟨fuel - 1, by simp at enough; omega⟩
      exact value_square (fuel + 1) e rest (items_closed rfl fuel [])
    | cons v vs =>
      rw [Value.text_array_cons] at enough ⊢
      simp only [List.length_cons, List.length_append] at enough
      have count := length_le_behindCommas Value.text vs
      have parts : ∀ x ∈ v :: vs, ReadsBack (value fuel e) x x.text := by
        intro x member
        have legible := h.items x member
        have short : x.text.length ≤ fuel := by
          rcases List.mem_cons.1 member with rfl | member
          · omega
          · have := length_text_le_behindCommas Value.text member
            omega
        exact ⟨x.begins_text, ih x member legible short⟩
      exact value_square fuel e rest
        (items_readsBack parts (by have := (parts v List.mem_cons_self).begins.length_pos; omega) rest)
  | object fs ih =>
    intro rest _
    obtain ⟨e, rfl⟩ : ∃ e, d = e + 1 := ⟨d - 1, by have := h.depth_pos_of_object; omega⟩
    have sorted := Assoc.ofList_sorted h.fields.1
    cases fs with
    | nil =>
      obtain ⟨fuel, rfl⟩ : ∃ f, fuel = f + 1 := ⟨fuel - 1, by simp at enough; omega⟩
      exact value_curly (fuel + 1) e rest (fields_closed rfl fuel [])
    | cons f fs =>
      rw [Value.text_object_cons] at enough ⊢
      simp only [List.length_cons, List.length_append, namedText] at enough
      have count := length_le_behindCommas (namedText Value.text) fs
      have parts : ∀ g ∈ f :: fs, ReadsBack (value fuel e) g.2 g.2.text := by
        intro g member
        have legible := h.fields.2 g member
        have short : g.2.text.length ≤ fuel := by
          rcases List.mem_cons.1 member with rfl | member
          · omega
          · have := length_text_le_behindCommas (namedText Value.text) member
            simp only [namedText, List.length_cons, List.length_append] at this
            omega
        exact ⟨g.2.begins_text, ih g member legible short⟩
      have reads := value_curly fuel e rest (fields_readsBack parts (by omega) rest)
      rwa [sorted] at reads

/-! ## Whole texts -/

theorem finish_nil {α : Type} (a : α) : finish (a, []) = .ok a := rfl

/-- The bytes of a text are at least as many as its characters. -/
theorem length_le_encode (cs : List Char) : cs.length ≤ (Utf8.encode cs).length := by
  induction cs with
  | nil => simp
  | cons c cs ih =>
    rw [Text.Utf8.encode_cons]
    have : 0 < (String.utf8EncodeChar c).length := List.length_pos_iff.2 String.utf8EncodeChar_ne_nil
    simp only [List.length_cons, List.length_append]
    omega

namespace Value

/-- A legible value is read back from its text. -/
theorem Legible.read_bytes {v : Value} (h : v.Legible maxDepth) : Value.read v.bytes = .ok v := by
  have enough : v.text.length ≤ v.bytes.length + 1 := by
    have := length_le_encode v.text
    rw [Value.bytes]
    omega
  have reads := (h.readsBack enough).read [] Stops.nil
  rw [List.append_nil] at reads
  rw [Value.read]
  exact (congrArg (· >>= finish) reads).trans (finish_nil v)

theorem read_bytes {v : Value} (h : v.Plain maxDepth) : Value.read v.bytes = .ok v :=
  h.legible.read_bytes

theorem bytes_injective {v w : Value} (hv : v.Plain maxDepth) (hw : w.Plain maxDepth)
    (h : v.bytes = w.bytes) : v = w := by
  have := read_bytes hv
  rw [h, read_bytes hw] at this
  exact (Except.ok.inj this).symm

end Value

end ShardStore.Json
