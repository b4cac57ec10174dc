/-
# ShardStore.Proofs.Json.Found -- what a reader has found

A text from which a value was read began with one of few bytes, and each says which
reader went on (`Found`, `value_found`); and a text that begins so is read
(`Found.value`).  A string was read a byte, an escape or a code point at a time
(`stringBytes_spelt`).  The members of an array or an object were read one after the other
(`items_ok`, `fields_ok`), so what holds of everything the reader of members gives holds of
all of them (`of_mem_items`, `of_mem_fields`).

* `value_mono` -- what is read where less nesting is allowed is read where more is;
* `Value.read_tidy` -- a value that was read is sorted at every depth, and nests no deeper
  than is allowed.
-/
import ShardStore.Json.Reader
import ShardStore.Proofs.Except
import ShardStore.Proofs.Json.Shape
import ShardStore.Text.Category

namespace ShardStore.Json

set_option autoImplicit false

/-! ## White space -/

theorem skipSpace_cons {b : UInt8} (h : isSpace b = false) (rest : List UInt8) :
    skipSpace (b :: rest) = b :: rest := by
  simp [skipSpace, h]

/-- JSON has one character less for white space. -/
theorem isSpace_of_isSpaceByte {b : UInt8} (h : Text.isSpaceByte b = false) :
    isSpace b = false := by
  simp only [Text.isSpaceByte, Bool.or_eq_false_iff] at h
  simp only [isSpace, h, Bool.or_self]

theorem visible_of_isDigit {b : UInt8} (digit : isDigit b = true) :
    Text.isSpaceByte b = false := by
  simp only [Text.isSpaceByte, Bool.or_eq_false_iff, decide_eq_false_iff_not]
  refine ⟨⟨⟨⟨?_, ?_⟩, ?_⟩, ?_⟩, ?_⟩ <;> rintro rfl <;> exact absurd digit (by decide)

/-! ## Values -/

/-- What is found at a byte that begins a value, and the rest of the text. -/
inductive Found (fuel : Nat) : UInt8 → List UInt8 → Nat → Value → List UInt8 → Prop
  | null {behind depth rest} : literal nullTail behind = .ok rest →
      Found fuel 0x6E behind depth .null rest
  | yes {behind depth rest} : literal trueTail behind = .ok rest →
      Found fuel 0x74 behind depth (.bool true) rest
  | no {behind depth rest} : literal falseTail behind = .ok rest →
      Found fuel 0x66 behind depth (.bool false) rest
  | string {behind depth s rest} : string behind = .ok (s, rest) →
      Found fuel 0x22 behind depth (.string s) rest
  | negative {behind depth n rest} : unsignedNumber true behind = .ok (n, rest) →
      Found fuel 0x2D behind depth (.number n) rest
  | natural {b behind depth n rest} : isDigit b = true →
      unsignedNumber false (b :: behind) = .ok (n, rest) →
      Found fuel b behind depth (.number n) rest
  | array {behind depth vs rest} : items (value fuel depth) fuel true [] behind = .ok (vs, rest) →
      Found fuel 0x5B behind (depth + 1) (.array vs) rest
  | object {behind depth fs rest} : fields (value fuel depth) fuel true [] behind = .ok (fs, rest) →
      Found fuel 0x7B behind (depth + 1) (.object (Assoc.ofList fs)) rest

variable {fuel depth : Nat} {bs rest : List UInt8} {v : Value}

theorem value_found (h : value fuel depth bs = .ok (v, rest)) :
    ∃ b behind, skipSpace bs = b :: behind ∧ Found fuel b behind depth v rest := by
  rw [value.eq_def] at h
  dsimp only at h
  split at h
  · cases h
  · rename_i b behind start
    refine ⟨b, behind, start, ?_⟩
    split at h
    · subst_vars
      obtain ⟨_, read, same⟩ := bind_eq_ok.1 h
      cases same
      exact .null read
    split at h
    · subst_vars
      obtain ⟨_, read, same⟩ := bind_eq_ok.1 h
      cases same
      exact .yes read
    split at h
    · subst_vars
      obtain ⟨_, read, same⟩ := bind_eq_ok.1 h
      cases same
      exact .no read
    split at h
    · subst_vars
      obtain ⟨⟨s, _⟩, read, same⟩ := bind_eq_ok.1 h
      cases same
      exact .string read
    split at h
    · subst_vars
      obtain ⟨⟨n, _⟩, read, same⟩ := bind_eq_ok.1 h
      cases same
      exact .negative read
    split at h
    · rename_i digit
      obtain ⟨⟨n, _⟩, read, same⟩ := bind_eq_ok.1 h
      cases same
      exact .natural digit read
    split at h
    · rename_i bracket
      split at h
      · cases h
      · split at h
        · subst_vars
          obtain ⟨⟨vs, _⟩, read, same⟩ := bind_eq_ok.1 h
          cases same
          exact .array read
        · rename_i notSquare
          obtain rfl := bracket.resolve_left notSquare
          obtain ⟨⟨fs, _⟩, read, same⟩ := bind_eq_ok.1 h
          cases same
          exact .object read
    · cases h

/-- White space begins no value. -/
theorem Found.visible {b : UInt8} {behind : List UInt8} (h : Found fuel b behind depth v rest) :
    Text.isSpaceByte b = false := by
  cases h with
  | natural digit read => exact visible_of_isDigit digit
  | _ => rfl

/-- And what is found is read. -/
theorem Found.value {b : UInt8} {behind : List UInt8} (h : Found fuel b behind depth v rest)
    (start : skipSpace bs = b :: behind) : Json.value fuel depth bs = .ok (v, rest) := by
  rw [Json.value.eq_def]
  dsimp only
  rw [start]
  cases h with
  | null read => simp [read, bind, Except.bind, pure, Except.pure]
  | yes read => simp [read, bind, Except.bind, pure, Except.pure]
  | no read => simp [read, bind, Except.bind, pure, Except.pure]
  | string read => simp [read, bind, Except.bind, pure, Except.pure]
  | negative read => simp [read, bind, Except.bind, pure, Except.pure]
  | natural digit read =>
    have noMark : b ≠ 0x6E ∧ b ≠ 0x74 ∧ b ≠ 0x66 ∧ b ≠ 0x22 ∧ b ≠ 0x2D := by
      refine ⟨?_, ?_, ?_, ?_, ?_⟩ <;> rintro rfl <;> exact absurd digit (by decide)
    simp [noMark, digit, read, bind, Except.bind, pure, Except.pure]
  | array read => simp [isDigit, read, bind, Except.bind, pure, Except.pure]
  | object read => simp [isDigit, read, bind, Except.bind, pure, Except.pure]

/-! ## Strings -/

/-- A string is closed, or goes on behind a byte, an escape, or the escapes of a code point. -/
inductive Spelt (read : List UInt8) (found : List UInt8 × List UInt8) : List UInt8 → Prop
  | closed {behind} : found = (read.reverse, behind) → Spelt read found (0x22 :: behind)
  | byte {b behind} : ¬ b < 0x20 → b ≠ 0x22 → b ≠ 0x5C → stringBytes (b :: read) behind = .ok found →
      Spelt read found (b :: behind)
  | escape {b e c behind} : unescape? e = some c → stringBytes (c :: read) behind = .ok found →
      Spelt read found (b :: e :: behind)
  | code {front behind n} : 6 ≤ front.length → stringBytes (pushCode n read) behind = .ok found →
      Spelt read found (front ++ behind)

theorem stringBytes_spelt {read bs : List UInt8} {found : List UInt8 × List UInt8}
    (h : stringBytes read bs = .ok found) : Spelt read found bs := by
  rw [stringBytes.eq_def] at h
  split at h
  · cases h
  rename_i b rest
  split at h
  · subst_vars
    cases h
    exact .closed rfl
  rename_i notQuote
  split at h
  · cases h
  rename_i visible
  split at h
  · rename_i notSlash
    exact .byte visible notQuote notSlash h
  split at h
  · cases h
  split at h
  · split at h
    · rename_i known
      exact .escape known h
    · cases h
  split at h
  · rename_i e _ _ u v w x rest
    split at h
    · cases h
    split at h
    · cases h
    split at h
    · exact .code (Nat.le_refl [b, e, u, v, w, x].length) h
    split at h
    · cases h
    split at h
    · cases h
    split at h
    · cases h
    split at h
    · cases h
    split at h
    · split at h
      · cases h
      split at h
      · -- two code units, each an escape of six bytes, that stand for one code point
        rename_i p _ _ q _ _ u' v' w' x' rest' _ m _ _
        have long : 6 ≤ [b, e, u, v, w, x, p, q, u', v', w', x'].length := by simp
        exact .code long h
      · cases h
    · cases h
  · cases h

/-! ## Members -/

section Members

variable {α : Type} {item : Reader α} {first : Bool}

/-- An array is closed, or goes on with an item. -/
theorem items_ok {read as : List α} (h : items item fuel first read bs = .ok (as, rest)) :
    (nextItem first bs = .ok (.closed rest) ∧ as = read.reverse) ∨
      ∃ less inner a behind, nextItem first bs = .ok (.item inner) ∧
        item inner = .ok (a, behind) ∧
        items item less false (a :: read) behind = .ok (as, rest) ∧ fuel = less + 1 := by
  cases fuel with
  | zero => cases h
  | succ less =>
    obtain ⟨next, found, go⟩ := bind_eq_ok.1 h
    cases next with
    | closed end_ =>
      cases go
      exact Or.inl ⟨found, rfl⟩
    | item inner =>
      obtain ⟨⟨a, behind⟩, reads, more⟩ := bind_eq_ok.1 go
      exact Or.inr ⟨less, inner, a, behind, found, reads, more, rfl⟩

/-- An object is closed, or goes on with a name, a colon and a member. -/
theorem fields_ok {read fs : List (String × α)}
    (h : fields item fuel first read bs = .ok (fs, rest)) :
    (nextField first bs = .ok (.closed rest) ∧ fs = read.reverse) ∨
      ∃ less inner name mark inside a behind, nextField first bs = .ok (.item inner) ∧
        string inner = .ok (name, mark) ∧ colon mark = .ok inside ∧
        item inside = .ok (a, behind) ∧
        fields item less false ((name, a) :: read) behind = .ok (fs, rest) ∧ fuel = less + 1 := by
  cases fuel with
  | zero => cases h
  | succ less =>
    obtain ⟨next, found, go⟩ := bind_eq_ok.1 h
    cases next with
    | closed end_ =>
      cases go
      exact Or.inl ⟨found, rfl⟩
    | item inner =>
      obtain ⟨⟨name, mark⟩, named, go⟩ := bind_eq_ok.1 go
      obtain ⟨inside, marked, go⟩ := bind_eq_ok.1 go
      obtain ⟨⟨a, behind⟩, reads, more⟩ := bind_eq_ok.1 go
      exact Or.inr ⟨less, inner, name, mark, inside, a, behind, found, named, marked, reads, more,
        rfl⟩

/-- What holds of all that the reader of items gives holds of the items. -/
theorem of_mem_items {P : α → Prop} (each : ∀ bs a rest, item bs = .ok (a, rest) → P a)
    {read as : List α} (h : items item fuel first read bs = .ok (as, rest))
    (before : ∀ a ∈ read, P a) : ∀ a ∈ as, P a := by
  induction fuel generalizing first bs read with
  | zero => cases h
  | succ fuel ih =>
    rcases items_ok h with ⟨-, rfl⟩ | ⟨less, inner, a, behind, -, reads, more, same⟩
    · simpa using before
    · cases same
      exact ih more (List.forall_mem_cons.2 ⟨each _ _ _ reads, before⟩)

theorem of_mem_fields {P : α → Prop} (each : ∀ bs a rest, item bs = .ok (a, rest) → P a)
    {read fs : List (String × α)} (h : fields item fuel first read bs = .ok (fs, rest))
    (before : ∀ f ∈ read, P f.2) : ∀ f ∈ fs, P f.2 := by
  induction fuel generalizing first bs read with
  | zero => cases h
  | succ fuel ih =>
    rcases fields_ok h with ⟨-, rfl⟩ | ⟨less, inner, name, mark, inside, a, behind, -, -, -, reads,
      more, same⟩
    · simpa using before
    · cases same
      exact ih more (List.forall_mem_cons.2 ⟨each _ _ _ reads, before⟩)

/-- Where more is read of items, more is read of arrays. -/
theorem items_mono {more : Reader α}
    (each : ∀ bs a rest, item bs = .ok (a, rest) → more bs = .ok (a, rest)) {read as : List α}
    (h : items item fuel first read bs = .ok (as, rest)) :
    items more fuel first read bs = .ok (as, rest) := by
  induction fuel generalizing first bs read with
  | zero => cases h
  | succ fuel ih =>
    rcases items_ok h with ⟨next, rfl⟩ | ⟨less, inner, a, behind, next, reads, others, same⟩
    · simp only [items, next, bind, Except.bind, pure, Except.pure]
    · cases same
      simp only [items, next, each _ _ _ reads, ih others, bind, Except.bind]

theorem fields_mono {more : Reader α}
    (each : ∀ bs a rest, item bs = .ok (a, rest) → more bs = .ok (a, rest))
    {read fs : List (String × α)} (h : fields item fuel first read bs = .ok (fs, rest)) :
    fields more fuel first read bs = .ok (fs, rest) := by
  induction fuel generalizing first bs read with
  | zero => cases h
  | succ fuel ih =>
    rcases fields_ok h with ⟨next, rfl⟩ | ⟨less, inner, name, mark, inside, a, behind, next, named,
      marked, reads, others, same⟩
    · simp only [fields, next, bind, Except.bind, pure, Except.pure]
    · cases same
      simp only [fields, next, named, marked, each _ _ _ reads, ih others, bind, Except.bind]

end Members

/-! ## Nesting -/

/-- What is read where less nesting is allowed is read where more is. -/
theorem value_mono (h : value fuel depth bs = .ok (v, rest)) {deeper : Nat}
    (le : depth ≤ deeper) : value fuel deeper bs = .ok (v, rest) := by
  induction depth using Nat.strongRecOn generalizing deeper bs v rest with
  | ind depth ih =>
    obtain ⟨b, behind, start, found⟩ := value_found h
    refine Found.value ?_ start
    cases found with
    | null read => exact .null read
    | yes read => exact .yes read
    | no read => exact .no read
    | string read => exact .string read
    | negative read => exact .negative read
    | natural digit read => exact .natural digit read
    | @array _ less _ _ read =>
      obtain ⟨e, rfl⟩ : ∃ e, deeper = e + 1 := ⟨deeper - 1, by omega⟩
      exact .array (items_mono (fun _ _ _ reads => ih less (Nat.lt_succ_self less) reads
        (Nat.le_of_succ_le_succ le)) read)
    | @object _ less _ _ read =>
      obtain ⟨e, rfl⟩ : ∃ e, deeper = e + 1 := ⟨deeper - 1, by omega⟩
      exact .object (fields_mono (fun _ _ _ reads => ih less (Nat.lt_succ_self less) reads
        (Nat.le_of_succ_le_succ le)) read)

/-- What is read is sorted at every depth, and nests no deeper than is allowed. -/
theorem value_canonical (h : value fuel depth bs = .ok (v, rest)) :
    v.Canonical ∧ v.depth ≤ depth := by
  induction depth using Nat.strongRecOn generalizing bs v rest with
  | ind depth ih =>
    obtain ⟨b, behind, -, found⟩ := value_found h
    cases found with
    | null => exact ⟨.null, Nat.zero_le _⟩
    | yes => exact ⟨.bool true, Nat.zero_le _⟩
    | no => exact ⟨.bool false, Nat.zero_le _⟩
    | string => exact ⟨.string _, Nat.zero_le _⟩
    | negative => exact ⟨.number _, Nat.zero_le _⟩
    | natural => exact ⟨.number _, Nat.zero_le _⟩
    | @array _ less _ _ read =>
      have each := of_mem_items (fun _ _ _ => ih less (Nat.lt_succ_self less)) read (by simp)
      exact ⟨.array fun v member => (each v member).1,
        Value.depth_array_le.2 fun v member => (each v member).2⟩
    | @object _ less _ _ read =>
      have each := of_mem_fields (fun _ _ _ => ih less (Nat.lt_succ_self less)) read (by simp)
      exact ⟨.object (Assoc.sorted_ofList _) fun f member => (each f (Assoc.mem_ofList member)).1,
        Value.depth_object_le.2 fun f member => (each f (Assoc.mem_ofList member)).2⟩

theorem Value.read_ok {bs : List UInt8} {v : Value} (h : Value.read bs = .ok v) :
    ∃ rest, value (bs.length + 1) maxDepth bs = .ok (v, rest) := by
  obtain ⟨⟨w, rest⟩, read, finished⟩ := bind_eq_ok.1 h
  rw [finish] at finished
  split at finished
  · cases finished
    exact ⟨rest, read⟩
  · cases finished

/-- A text from which a value was read is not blank. -/
theorem Value.read_visible {bs : List UInt8} {v : Value} (h : Value.read bs = .ok v) :
    bs.all Text.isSpaceByte = false := by
  obtain ⟨rest, read⟩ := Value.read_ok h
  obtain ⟨b, behind, start, found⟩ := value_found read
  have member : b ∈ bs := by
    apply (List.dropWhile_sublist isSpace).subset
    show b ∈ skipSpace bs
    rw [start]
    exact List.mem_cons_self
  rw [List.all_eq_false]
  exact ⟨b, member, ne_true_of_eq_false found.visible⟩

/-- A value as it is read from a text: sorted at every depth, and nested no deeper than is
allowed. -/
structure Value.Tidy (v : Value) : Prop where
  canonical : v.Canonical
  shallow : v.depth ≤ maxDepth

theorem Value.read_tidy {bs : List UInt8} {v : Value} (h : Value.read bs = .ok v) : v.Tidy := by
  obtain ⟨rest, read⟩ := Value.read_ok h
  obtain ⟨canonical, shallow⟩ := value_canonical read
  exact ⟨canonical, shallow⟩

namespace Value.Tidy

variable {v w : Value}

theorem merge (hv : v.Tidy) (hw : w.Tidy) : (v.merge w).Tidy :=
  ⟨hv.canonical.merge hw.canonical,
    Nat.le_trans (depth_merge_le v w) (Nat.max_le.2 ⟨hv.shallow, hw.shallow⟩)⟩

theorem plain (h : v.Tidy) (floatFree : v.FloatFree) : v.Plain maxDepth :=
  ⟨floatFree, h.canonical, h.shallow⟩

end Value.Tidy

end ShardStore.Json
