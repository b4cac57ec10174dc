/-
# ShardStore.Proofs.Json.Skip -- a printed value is passed over

A reader of records passes over the fields that it does not know.  It stands before a value,
behind one or before a name, and each step takes it over one mark, literal, number, string or
name (`Place.step`).  Steps in a row are a `Place.Run`, whose length is the fuel that the passage
needs (`skipOpen_run`).

* `skipString_quote` -- a printed string is passed over escape by escape;
* `run_behindCommas`, `run_members` -- members that are passed over one by one are passed over
  between their brackets, whatever brackets are open around;
* `Value.passed_text` -- so by induction every value is passed over: its numbers may be of any
  size, its names of any order and its nesting of any depth;
* `Value.skip_text` -- the same of a reader whose fuel is the length of the text.
-/
import ShardStore.Proofs.Json.ReadBack

namespace ShardStore.Json

set_option autoImplicit false

open Text (Utf8.encode)

/-! ## Strings -/

theorem skipString_short {e c : UInt8} (known : unescape? e = some c) (rest : List UInt8) :
    skipString (0x5C :: e :: rest) = skipString rest := by
  have notCode : e ≠ 0x75 := by
    rintro rfl
    simp [unescape?] at known
  rw [skipString.eq_def]
  simp [notCode, known]

theorem skipString_code {u v w x : UInt8} {n : Nat} (known : codeUnit? u v w x = some n)
    (rest : List UInt8) :
    skipString (0x5C :: 0x75 :: u :: v :: w :: x :: rest) = skipString rest := by
  rw [skipString.eq_def]
  simp [known]

theorem skipString_plain {bs : List UInt8}
    (free : ∀ b ∈ bs, 0x20 ≤ b.toNat ∧ b ≠ 0x22 ∧ b ≠ 0x5C) (rest : List UInt8) :
    skipString (bs ++ rest) = skipString rest := by
  induction bs with
  | nil => rfl
  | cons b bs ih =>
    obtain ⟨visible, notQuote, notSlash⟩ := free b List.mem_cons_self
    have notControl : ¬ b < 0x20 := by
      rw [UInt8.lt_iff_toNat_lt]
      exact Nat.not_lt.2 visible
    rw [List.cons_append, skipString.eq_def]
    dsimp only
    rw [if_neg notQuote, if_neg notControl, if_pos notSlash,
      ih fun x member => free x (List.mem_cons_of_mem b member)]

theorem skipString_escape (c : Char) (rest : List UInt8) :
    skipString (Utf8.encode (escape c) ++ rest) = skipString rest := by
  have spelling := spelling_escape c
  generalize Utf8.encode (escape c) = bytes at spelling
  cases spelling with
  | short known alone => exact skipString_short known rest
  | code known control => exact skipString_code known rest
  | plain free => exact skipString_plain free rest

/-- Behind its opening quote a printed string is passed over. -/
theorem skipString_quote (s : String) (rest : List UInt8) :
    skipString (Utf8.encode (s.toList.flatMap escape) ++ 0x22 :: rest) = .ok rest := by
  induction s.toList with
  | nil =>
    rw [List.flatMap_nil, Text.Utf8.encode_nil, List.nil_append, skipString.eq_def]
    rfl
  | cons c cs ih =>
    rw [List.flatMap_cons, Text.Utf8.encode_append, List.append_assoc, skipString_escape, ih]

/-! ## Runs of steps -/

/-- So many steps lead from one place to another. -/
inductive Place.Run : Nat → Place → Place → Prop where
  | done (p : Place) : Run 0 p p
  | step {n : Nat} {p q r : Place} (first : p.step = .ok q) (more : Run n q r) : Run (n + 1) p r

namespace Place.Run

variable {n m : Nat} {p q r : Place}

theorem one (step : p.step = .ok q) : Run 1 p q := .step step (.done q)

theorem trans (front : Run n p q) (back : Run m q r) : Run (n + m) p r := by
  induction front with
  | done p => rwa [Nat.zero_add]
  | step first more ih =>
    rw [Nat.add_right_comm]
    exact .step first (ih back)

end Place.Run

theorem skipOpen_step {p q : Place} (step : p.step = .ok q) (fuel : Nat) :
    skipOpen (fuel + 1) p = skipOpen fuel q := by
  obtain ⟨stand, opened, bs⟩ := p
  rw [skipOpen.eq_def]
  split
  · -- behind a value with no bracket open the steps go on the spot
    rename_i same
    cases same
    rw [Place.step] at step
    split at step
    · cases step
    · cases step
      rw [skipOpen.eq_def]
  · rename_i zero _
    cases zero
  · rename_i more _
    cases more
    rw [step]

/-- A run that ends behind a value with no bracket open is how the passage ends. -/
theorem skipOpen_run {n : Nat} {p q : Place} (run : p.Run n q) {fresh : Bool} {bs : List UInt8}
    (ends : q = (.behind fresh, [], bs)) {fuel : Nat} (enough : n ≤ fuel) :
    skipOpen fuel p = .ok bs := by
  induction run generalizing fuel with
  | done p => rw [ends, skipOpen.eq_def]
  | step first more ih =>
    obtain ⟨fuel, rfl⟩ : ∃ f, fuel = f + 1 := ⟨fuel - 1, by omega⟩
    rw [skipOpen_step first, ih ends (Nat.le_of_succ_le_succ enough)]

/-! ## Members between brackets -/

/-- From where the passage stands it comes behind the text as behind a value, whatever brackets
are open and whatever stops it. -/
def Passed (stand : Stand) (text : List Char) : Prop :=
  ∀ opened rest, Stops rest → ∃ n ≤ 3 * text.length,
    Place.Run n (stand, opened, Utf8.encode text ++ rest) (.behind false, opened, rest)

/-- Where the passage stands before a member. -/
def Bracket.inside : Bracket → Stand
  | .square => .value
  | .curly => .name

section Members

variable (bracket : Bracket) (opened : List Bracket) (rest : List UInt8)

theorem step_close (fresh : Bool) :
    Place.step (.behind fresh, bracket :: opened, bracket.closing :: rest) =
      .ok (.behind false, opened, rest) := by
  cases bracket <;> rfl

theorem step_comma :
    Place.step (.behind false, bracket :: opened, 0x2C :: rest) =
      .ok (bracket.inside, bracket :: opened, rest) := by
  cases bracket <;> rfl

theorem step_fresh {b : UInt8} (visible : isSpace b = false) (notClose : b ≠ bracket.closing) :
    Place.step (.behind true, bracket :: opened, b :: rest) =
      .ok (bracket.inside, bracket :: opened, b :: rest) := by
  cases bracket <;> simp [Place.step, skipSpace_cons visible, notClose, Bracket.inside]

variable {α : Type} {text : α → List Char}

/-- The members behind the first are passed over up to the closing bracket. -/
theorem run_behindCommas {as : List α} (passed : ∀ a ∈ as, Passed bracket.inside (text a)) :
    ∃ n ≤ 3 * (behindCommas text as).length + 1,
      Place.Run n
        (.behind false, bracket :: opened,
          Utf8.encode (behindCommas text as) ++ bracket.closing :: rest)
        (.behind false, opened, rest) := by
  induction as with
  | nil => exact ⟨1, by simp, .one (step_close bracket opened rest false)⟩
  | cons a as ih =>
    have stops : Stops (Utf8.encode (behindCommas text as) ++ bracket.closing :: rest) :=
      stops_behindCommas text as (by cases bracket <;> decide) rest
    obtain ⟨n, short, member⟩ := passed a List.mem_cons_self (bracket :: opened) _ stops
    obtain ⟨m, few, more⟩ := ih fun x hx => passed x (List.mem_cons_of_mem a hx)
    refine ⟨1 + (n + m), ?_, ?_⟩
    · rw [behindCommas_cons]
      simp only [List.length_cons, List.length_append]
      omega
    · rw [behindCommas_cons, encode_comma, Text.Utf8.encode_append, List.cons_append,
        List.append_assoc]
      exact (Place.Run.one (step_comma bracket opened _)).trans (member.trans more)

/-- Behind its opening bracket a list of members is passed over, its first byte closing nothing. -/
theorem run_members {a : α} {as : List α}
    (passed : ∀ x ∈ a :: as, Passed bracket.inside (text x)) {b : UInt8} {bs : List UInt8}
    (bytes : Utf8.encode (text a) = b :: bs) (visible : isSpace b = false)
    (notClose : b ≠ bracket.closing) :
    ∃ n ≤ 3 * (text a ++ behindCommas text as).length + 2,
      Place.Run n
        (.behind true, bracket :: opened,
          Utf8.encode (text a) ++ (Utf8.encode (behindCommas text as) ++ bracket.closing :: rest))
        (.behind false, opened, rest) := by
  have stops : Stops (Utf8.encode (behindCommas text as) ++ bracket.closing :: rest) :=
    stops_behindCommas text as (by cases bracket <;> decide) rest
  obtain ⟨n, short, member⟩ := passed a List.mem_cons_self (bracket :: opened) _ stops
  obtain ⟨m, few, more⟩ := run_behindCommas bracket opened rest fun x hx =>
    passed x (List.mem_cons_of_mem a hx)
  refine ⟨1 + (n + m), ?_, ?_⟩
  · rw [List.length_append]
    omega
  · refine (Place.Run.one ?_).trans (member.trans more)
    rw [bytes, List.cons_append]
    exact step_fresh bracket opened _ visible notClose

end Members

/-! ## Values -/

theorem passed_of_step {stand : Stand} {text : List Char} (some : 0 < text.length)
    (step : ∀ opened rest, Stops rest →
      Place.step (stand, opened, Utf8.encode text ++ rest) = .ok (.behind false, opened, rest)) :
    Passed stand text :=
  fun opened rest stops => ⟨1, by omega, .one (step opened rest stops)⟩

theorem passed_null : Passed .value Value.null.text :=
  passed_of_step (by decide) fun _ _ _ => rfl

theorem passed_bool (b : Bool) : Passed .value (Value.bool b).text := by
  cases b <;> exact passed_of_step (by decide) fun _ _ _ => rfl

theorem passed_quote (s : String) : Passed .value (quote s) := by
  refine passed_of_step (begins_quote s).length_pos fun opened rest _ => ?_
  rw [encode_quote, Place.step, skipSpace_cons (by decide)]
  simp [Place.value, skipString_quote, Except.map]

theorem passed_numeral {cs : List Char} (numeral : Numeral cs) : Passed .value cs := by
  obtain ⟨b, bs, bytes, digit⟩ := numeral.bytes
  have some : 0 < cs.length := List.length_pos_iff.2 (by rintro rfl; cases bytes)
  refine passed_of_step some fun opened rest stops => ?_
  have skipped := skipNumber_numeral numeral stops
  rw [bytes, List.cons_append] at skipped ⊢
  have visible := isSpace_of_isSpaceByte (visible_of_isDigit digit)
  -- a digit is none of the marks that are looked for before it
  have other (mark : UInt8) (noDigit : isDigit mark = false) : b ≠ mark := by
    rintro rfl
    rw [noDigit] at digit
    cases digit
  rw [Place.step, skipSpace_cons visible]
  simp only [Place.value, if_neg (other 0x6E rfl), if_neg (other 0x74 rfl),
    if_neg (other 0x66 rfl), if_neg (other 0x22 rfl), if_neg (other 0x2D rfl), if_pos digit,
    skipped, Except.map]

theorem passed_negative {cs : List Char} (numeral : Numeral cs) : Passed .value ('-' :: cs) := by
  refine passed_of_step (Nat.succ_pos _) fun opened rest stops => ?_
  have minus : Utf8.encode ('-' :: cs) = 0x2D :: Utf8.encode cs := rfl
  rw [minus, List.cons_append, Place.step, skipSpace_cons (by decide)]
  simp [Place.value, skipNumber_numeral numeral stops, Except.map]

theorem Number.passed_text (n : Number) : Passed .value n.text := by
  obtain ⟨cs, numeral, text⟩ := n.text_numeral
  rcases text with text | text <;> rw [text]
  · exact passed_numeral numeral
  · exact passed_negative numeral

/-- A name is passed over with its colon, and the passage stands before the value. -/
theorem step_name {α : Type} (text : α → List Char) (f : String × α) (opened : List Bracket)
    (rest : List UInt8) :
    Place.step (.name, opened, Utf8.encode (namedText text f) ++ rest) =
      .ok (.value, opened, Utf8.encode (text f.2) ++ rest) := by
  rw [encode_namedText, Place.step, skipSpace_cons (by decide)]
  simp [skipString_quote, colon_mark, bind, Except.bind, pure, Except.pure]

theorem passed_namedText {text : Value → List Char} {f : String × Value}
    (value : Passed .value (text f.2)) : Passed .name (namedText text f) := by
  intro opened rest stops
  obtain ⟨n, short, more⟩ := value opened rest stops
  refine ⟨n + 1, ?_, .step (step_name text f opened rest) more⟩
  rw [namedText, List.length_append, List.length_cons]
  omega

/-- Every value is passed over. -/
theorem Value.passed_text (v : Value) : Passed .value v.text := by
  induction v with
  | null => exact passed_null
  | bool b => exact passed_bool b
  | number n =>
    rw [text_number]
    exact n.passed_text
  | string s =>
    rw [text_string]
    exact passed_quote s
  | array vs ih =>
    intro opened rest stops
    cases vs with
    | nil => exact ⟨2, by decide, .step rfl (.one (step_close .square opened rest true))⟩
    | cons v vs =>
      obtain ⟨b, bs, bytes, noSpace, notClose⟩ := v.begins_text
      obtain ⟨n, few, members⟩ := run_members .square opened rest ih bytes
        (isSpace_of_isSpaceByte noSpace) notClose
      have parts : Utf8.encode (Value.array (v :: vs)).text ++ rest = 0x5B ::
          (Utf8.encode v.text ++ (Utf8.encode (behindCommas text vs) ++ 0x5D :: rest)) := by
        simp only [text_array_cons, Text.Utf8.encode_cons, Text.Utf8.encode_append,
          List.append_assoc]
        rfl
      have long : (Value.array (v :: vs)).text.length =
          (v.text ++ behindCommas text vs).length + 2 := by
        simp [text_array_cons, Nat.add_assoc]
      refine ⟨n + 1, by omega, ?_⟩
      rw [parts]
      exact .step rfl members
  | object fs ih =>
    intro opened rest stops
    cases fs with
    | nil => exact ⟨2, by decide, .step rfl (.one (step_close .curly opened rest true))⟩
    | cons f fs =>
      have bytes := encode_namedText text f []
      rw [List.append_nil] at bytes
      have named : ∀ g ∈ f :: fs, Passed .name (namedText text g) := fun g member =>
        passed_namedText (ih g member)
      obtain ⟨n, few, members⟩ := run_members .curly opened rest named bytes (by decide) (by decide)
      have parts : Utf8.encode (Value.object (f :: fs)).text ++ rest = 0x7B ::
          (Utf8.encode (namedText text f) ++
            (Utf8.encode (behindCommas (namedText text) fs) ++ 0x7D :: rest)) := by
        simp only [text_object_cons, Text.Utf8.encode_cons, Text.Utf8.encode_append,
          List.append_assoc]
        rfl
      have long : (Value.object (f :: fs)).text.length =
          (namedText text f ++ behindCommas (namedText text) fs).length + 2 := by
        simp [text_object_cons, Nat.add_assoc]
      refine ⟨n + 1, by omega, ?_⟩
      rw [parts]
      exact .step rfl members

/-- Every value is passed over by a reader whose fuel its text does not exceed. -/
theorem Value.skip_text (v : Value) {fuel : Nat} (enough : v.text.length ≤ fuel)
    {rest : List UInt8} (stops : Stops rest) :
    skip fuel (Utf8.encode v.text ++ rest) = .ok ((), rest) := by
  obtain ⟨n, few, run⟩ := v.passed_text [] rest stops
  have found : skipOpen (3 * fuel) (.value, [], Utf8.encode v.text ++ rest) = .ok rest :=
    skipOpen_run run rfl (by omega)
  simp only [skip, found, bind, Except.bind, pure, Except.pure]

end ShardStore.Json
