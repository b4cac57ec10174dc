/-
# ShardStore.Proofs.Json.Length -- a value is printed no longer than it was read

Printing is compact: of the text that a value was read from, white space is left out, an
escape is never longer than the one that was read, and an integer has no digits but those
that were read.  So a value without doubles, printed again, takes no more bytes than the
text it was read from (`Value.length_bytes_le`).

The bytes of a string are weighed by what the printer spends on each (`width`); a reader of
strings consumes at least the weight of what it gives (`stringBytes_length`).
-/
import Mathlib.Data.List.TakeWhile
import ShardStore.Proofs.Json.Found
import ShardStore.Proofs.Json.Scalar

namespace ShardStore.Json

set_option autoImplicit false

open Text (Utf8.encode)

/-! ## Strings -/

/-- The bytes that the printer spends on a byte of a string. -/
def width (b : UInt8) : Nat := (escape (Char.ofNat b.toNat)).length

def widths (bs : List UInt8) : Nat := (bs.map width).sum

@[simp] theorem widths_nil : widths [] = 0 := rfl

@[simp] theorem widths_cons (b : UInt8) (bs : List UInt8) :
    widths (b :: bs) = width b + widths bs := by
  simp [widths]

@[simp] theorem widths_append (as bs : List UInt8) : widths (as ++ bs) = widths as + widths bs := by
  simp [widths]

@[simp] theorem widths_reverse (bs : List UInt8) : widths bs.reverse = widths bs := by
  simp [widths]

/-- A byte taken for a character of its number. -/
theorem toNat_byte (b : UInt8) : (Char.ofNat b.toNat).toNat = b.toNat :=
  Text.Utf8.toNat_ofNat (Or.inl (by have := b.toNat_lt; omega))

theorem escape_plain {c : Char} (visible : 0x20 ≤ c.toNat) (notQuote : c ≠ '"')
    (notSlash : c ≠ '\\') : escape c = [c] := by
  have control (m : Char) (low : m.toNat < 0x20) : c ≠ m := by
    rintro rfl
    omega
  unfold escape
  rw [if_neg notQuote, if_neg notSlash, if_neg (control _ (by decide)),
    if_neg (control _ (by decide)), if_neg (control _ (by decide)), if_neg (control _ (by decide)),
    if_neg (control _ (by decide)), if_neg (by omega)]

theorem escape_beyond {c : Char} (h : 0x7F < c.toNat) : escape c = [c] := by
  apply escape_plain (by omega)
  · rintro rfl
    exact absurd h (by decide)
  · rintro rfl
    exact absurd h (by decide)

theorem length_escape_le (c : Char) : (escape c).length ≤ 6 := by
  unfold escape
  repeat' split
  all_goals simp

theorem ascii_of_mem_escape {c : Char} (h : c.toNat ≤ 0x7F) :
    ∀ x ∈ escape c, x.toNat ≤ 0x7F := by
  intro x member
  unfold escape at member
  iterate 7
    split at member
    · simp only [List.mem_cons, List.not_mem_nil, or_false] at member
      rcases member with rfl | rfl <;> decide
  split at member
  · simp only [List.mem_cons, List.not_mem_nil, or_false] at member
    rcases member with rfl | rfl | rfl | rfl | rfl | rfl
    · decide
    · decide
    · decide
    · decide
    · exact digitChar_ascii (by omega)
    · exact digitChar_ascii (by omega)
  · exact List.mem_singleton.1 member ▸ h

/-- The bytes of a character weigh what its escape is long. -/
theorem widths_encodeChar (c : Char) :
    widths (String.utf8EncodeChar c) = (Utf8.encode (escape c)).length := by
  by_cases ascii : c.toNat ≤ 0x7F
  · have value : (UInt8.ofNat c.toNat).toNat = c.toNat := by rw [UInt8.toNat_ofNat']; omega
    rw [Text.Utf8.utf8EncodeChar_ascii ascii,
      Text.Utf8.length_encode_ascii (ascii_of_mem_escape ascii), widths_cons, width, value,
      Char.ofNat_toNat]
    rfl
  · have one : ∀ b ∈ String.utf8EncodeChar c, width b = 1 := by
      intro b member
      have beyond := Text.Utf8.le_of_mem_utf8EncodeChar (by omega) member
      rw [width, escape_beyond (by rw [toNat_byte]; omega)]
      rfl
    rw [escape_beyond (by omega), widths, List.map_congr_left one]
    simp [List.map_const']

theorem widths_encode (cs : List Char) :
    widths (Utf8.encode cs) = (Utf8.encode (cs.flatMap escape)).length := by
  induction cs with
  | nil => rfl
  | cons c cs ih =>
    rw [Text.Utf8.encode_cons, widths_append, widths_encodeChar, ih, List.flatMap_cons,
      Text.Utf8.encode_append, List.length_append]

/-- No character weighs more than an escaped code unit. -/
theorem widths_encodeChar_le (c : Char) : widths (String.utf8EncodeChar c) ≤ 6 := by
  rw [widths_encodeChar]
  by_cases ascii : c.toNat ≤ 0x7F
  · rw [Text.Utf8.length_encode_ascii (ascii_of_mem_escape ascii)]
    exact length_escape_le c
  · rw [escape_beyond (by omega), Text.Utf8.encode_cons, Text.Utf8.encode_nil, List.append_nil,
      String.length_utf8EncodeChar]
    have := c.utf8Size_le_four
    omega

theorem widths_pushCode (n : Nat) (read : List UInt8) :
    widths (pushCode n read) ≤ widths read + 6 := by
  rw [pushCode, List.reverseAux_eq, widths_append, widths_reverse]
  have := widths_encodeChar_le (Char.ofNat n)
  omega

theorem width_unescape {e c : UInt8} (h : unescape? e = some c) : width c ≤ 2 := by
  unfold unescape? at h
  split at h
  · rename_i mark
    cases h
    rcases mark with rfl | rfl | rfl <;> decide
  repeat' split at h
  all_goals cases h
  all_goals decide

theorem width_plain {b : UInt8} (visible : ¬ b < 0x20) (notQuote : b ≠ 0x22) (notSlash : b ≠ 0x5C) :
    width b = 1 := by
  have other {m : UInt8} (differs : b ≠ m) : Char.ofNat b.toNat ≠ Char.ofNat m.toNat := by
    intro same
    have := congrArg Char.toNat same
    rw [toNat_byte, toNat_byte] at this
    exact differs (UInt8.toNat_inj.1 this)
  rw [UInt8.lt_iff_toNat_lt, Nat.not_lt] at visible
  rw [width, escape_plain (by rw [toNat_byte]; exact visible) (other notQuote) (other notSlash)]
  rfl

/-- A reader of strings consumes at least the weight of what it gives. -/
theorem stringBytes_length {read bs bytes rest : List UInt8}
    (h : stringBytes read bs = .ok (bytes, rest)) :
    widths bytes + 1 + rest.length ≤ widths read + bs.length := by
  induction size : bs.length using Nat.strongRecOn generalizing read bs with
  | ind size ih =>
    subst size
    cases stringBytes_spelt h with
    | closed found =>
      cases found
      rw [widths_reverse, List.length_cons]
      omega
    | byte visible notQuote notSlash more =>
      have := ih _ (Nat.lt_succ_self _) more rfl
      rw [widths_cons, width_plain visible notQuote notSlash] at this
      rw [List.length_cons]
      omega
    | escape known more =>
      have := ih _ (Nat.lt_succ_of_le (Nat.le_succ _)) more rfl
      have := width_unescape known
      rw [widths_cons] at *
      rw [List.length_cons, List.length_cons]
      omega
    | @code front behind n long more =>
      have := ih _ (by rw [List.length_append]; omega) more rfl
      have := widths_pushCode n read
      rw [List.length_append]
      omega

/-- Printed again, a string takes no more bytes than it was read from. -/
theorem string_length {bs rest : List UInt8} {s : String} (h : string bs = .ok (s, rest)) :
    (Utf8.encode (s.toList.flatMap escape)).length + 1 + rest.length ≤ bs.length := by
  obtain ⟨⟨bytes, behind⟩, read, go⟩ := bind_eq_ok.1 h
  have weight := stringBytes_length read
  dsimp only at go
  split at go
  · rename_i cs decoded
    cases go
    obtain rfl := Text.Utf8.decode?_eq_some.1 decoded
    rw [String.toList_ofList, ← widths_encode]
    simpa using weight
  · cases go

/-! ## Numbers -/

theorem digitValue_lt {b : UInt8} (h : isDigit b = true) : digitValue b < 10 := by
  simp only [isDigit, Bool.and_eq_true, decide_eq_true_eq, UInt8.le_iff_toNat_le] at h
  have high : b.toNat ≤ 0x39 := h.2
  rw [digitValue]
  omega

/-- As many digits are taken as the significand may have. -/
theorem collect_length {significand taken : Nat} {bs : List UInt8} {n t : Nat} {rest : List UInt8}
    (h : collect significand taken bs = (n, t, rest)) :
    ∃ k, rest.length + k = bs.length ∧ n + 1 ≤ (significand + 1) * 10 ^ k := by
  induction bs generalizing significand taken with
  | nil =>
    cases h
    exact ⟨0, rfl, by simp⟩
  | cons b bs ih =>
    rw [collect] at h
    split at h
    · rename_i more
      obtain ⟨k, consumed, bound⟩ := ih h
      refine ⟨k + 1, by simp only [List.length_cons]; omega, bound.trans ?_⟩
      have small := digitValue_lt more.1
      rw [Nat.pow_succ', ← Nat.mul_assoc]
      exact Nat.mul_le_mul_right _ (by omega)
    · cases h
      exact ⟨0, rfl, by simp⟩

section Floats

variable {negative : Bool} {significand : Nat} {exponent : Int} {bs rest : List UInt8} {n : Number}

theorem float_length (h : float negative significand exponent bs = .ok (n, rest)) :
    rest.length ≤ bs.length ∧ ∃ x, n = .float x := by
  unfold float refuseOr at h
  cases found : doubleOf? significand exponent with
  | none => simp [found] at h
  | some x =>
    rw [found] at h
    cases h
    exact ⟨Nat.le_refl _, _, rfl⟩

theorem exponentPart_length (h : exponentPart negative significand exponent bs = .ok (n, rest)) :
    rest.length ≤ bs.length ∧ ∃ x, n = .float x := by
  cases bs with
  | nil => cases h
  | cons b bs =>
    rw [exponentPart] at h
    dsimp only at h
    split at h
    · cases h
    · rename_i d ds digits
      split at h
      · obtain ⟨shorter, floats⟩ := float_length h
        refine ⟨shorter.trans ((List.length_dropWhile_le _ _).trans ?_), floats⟩
        split <;> simp
      · cases h

theorem scaled_length (h : scaled negative significand exponent bs = .ok (n, rest)) :
    rest.length ≤ bs.length ∧ ∃ x, n = .float x := by
  cases bs with
  | nil => exact float_length h
  | cons b bs =>
    rw [scaled] at h
    split at h
    · obtain ⟨shorter, floats⟩ := exponentPart_length h
      exact ⟨shorter.trans (Nat.le_succ _), floats⟩
    · exact float_length h

theorem fraction_length (h : fraction negative significand exponent bs = .ok (n, rest)) :
    rest.length ≤ bs.length ∧ ∃ x, n = .float x := by
  cases bs with
  | nil => cases h
  | cons b bs =>
    rw [fraction] at h
    split at h
    · generalize collected : collect significand 0 (b :: bs) = c at h
      obtain ⟨s, t, behind⟩ := c
      obtain ⟨k, consumed, -⟩ := collect_length collected
      obtain ⟨shorter, floats⟩ := scaled_length h
      refine ⟨shorter.trans ((List.length_dropWhile_le _ _).trans ?_), floats⟩
      omega
    · cases h

end Floats

/-- A whole number has the sign and the digits that were read. -/
theorem whole_integer {negative : Bool} {significand : Nat} {i : Int} {low high}
    (h : whole negative significand = some (.integer i low high)) :
    (i < 0 ↔ negative = true) ∧ i.natAbs = significand := by
  unfold whole at h
  split at h
  · rename_i minus
    split at h
    · rename_i fits
      cases h
      exact ⟨iff_of_true (by omega) minus, by omega⟩
    · rw [Option.map_eq_some_iff] at h
      obtain ⟨x, -, same⟩ := h
      cases same
  · rename_i plus
    split at h
    · cases h
      exact ⟨iff_of_false (by omega) plus, by omega⟩
    · cases h

/-- What is read behind a sign: printed again, an integer has no digits but those read. -/
structure Shorter (negative : Bool) (bs : List UInt8) (n : Number) (rest : List UInt8) : Prop where
  rest_le : rest.length ≤ bs.length
  integer : ∀ i low high, n = .integer i low high →
    (i < 0 ↔ negative = true) ∧ (Nat.toDigits 10 i.natAbs).length + rest.length ≤ bs.length

theorem Shorter.of_float {negative : Bool} {bs behind rest : List UInt8} {n : Number}
    (h : rest.length ≤ behind.length ∧ ∃ x, n = .float x) (le : behind.length ≤ bs.length) :
    Shorter negative bs n rest := by
  obtain ⟨shorter, x, rfl⟩ := h
  exact ⟨shorter.trans le, by rintro _ _ _ ⟨⟩⟩

theorem Shorter.of_whole {negative : Bool} {significand k : Nat} {bs behind rest : List UInt8}
    {n : Number} (h : refuseOr behind (whole negative significand) = .ok (n, rest))
    (few : significand < 10 ^ (k + 1)) (le : behind.length + (k + 1) ≤ bs.length) :
    Shorter negative bs n rest := by
  unfold refuseOr at h
  split at h
  · rename_i found
    cases h
    refine ⟨by omega, ?_⟩
    rintro i low high rfl
    obtain ⟨sign, rfl⟩ := whole_integer found
    have digits := (Nat.length_toDigits_le_iff (by decide) (Nat.succ_pos k)).2 few
    exact ⟨sign, by omega⟩
  · cases h

theorem unsignedNumber_length {negative : Bool} {bs rest : List UInt8} {n : Number}
    (h : unsignedNumber negative bs = .ok (n, rest)) : Shorter negative bs n rest := by
  cases bs with
  | nil => cases h
  | cons b bs =>
    rw [unsignedNumber] at h
    split at h
    · cases h
    · rename_i digit
      generalize collected :
        (if b = 0x30 then (0, 1, bs) else collect (digitValue b) 1 bs) = c at h
      obtain ⟨significand, t, behind⟩ := c
      obtain ⟨k, consumed, few⟩ : ∃ k, behind.length + k = bs.length ∧
          significand < 10 ^ (k + 1) := by
        split at collected
        · cases collected
          exact ⟨0, rfl, by decide⟩
        · obtain ⟨k, consumed, bound⟩ := collect_length collected
          refine ⟨k, consumed, Nat.lt_of_lt_of_le (Nat.lt_succ_self _) (bound.trans ?_)⟩
          rw [Nat.pow_succ']
          exact Nat.mul_le_mul_right _ (Nat.succ_le_of_lt (digitValue_lt (by simpa using digit)))
      have shorter := List.length_dropWhile_le isDigit behind
      dsimp only at h
      split at h
      · cases h
      · split at h
        · rename_i none
          rw [none] at shorter
          split at h
          · exact .of_whole h few (by simp only [List.length_cons, List.length_nil]; omega)
          · exact .of_float (float_length h) (Nat.zero_le _)
        · rename_i p more some
          rw [some, List.length_cons] at shorter
          split at h
          · exact .of_float (fraction_length h) (by simp only [List.length_cons]; omega)
          split at h
          · exact .of_float (exponentPart_length h) (by simp only [List.length_cons]; omega)
          split at h
          · exact .of_whole h few (by simp only [List.length_cons]; omega)
          · exact .of_float (float_length h) (by simp only [List.length_cons]; omega)

/-! ## Marks -/

theorem length_skipSpace {b : UInt8} {bs behind : List UInt8} (h : skipSpace bs = b :: behind) :
    behind.length + 1 ≤ bs.length := by
  have := List.length_dropWhile_le isSpace bs
  rwa [← skipSpace, h, List.length_cons] at this

theorem literal_length {word bs rest : List UInt8} (h : literal word bs = .ok rest) :
    word.length + rest.length = bs.length := by
  induction word generalizing bs with
  | nil =>
    cases h
    exact Nat.zero_add _
  | cons w word ih =>
    cases bs with
    | nil => cases h
    | cons b bs =>
      rw [literal] at h
      split at h
      · have := ih h
        simp only [List.length_cons]
        omega
      · cases h

theorem colon_length {bs rest : List UInt8} (h : colon bs = .ok rest) :
    rest.length + 1 ≤ bs.length := by
  unfold colon at h
  split at h
  · cases h
  · rename_i start
    split at h
    · cases h
      exact length_skipSpace start
    · cases h

/-- What stands before a member, and behind the last. -/
def Next.Shorter (bs : List UInt8) (mark comma : Nat) : Next → Prop
  | .closed rest => rest.length + 1 ≤ bs.length
  | .item inner => inner.length + mark + comma ≤ bs.length

theorem nextItem_length {first : Bool} {bs : List UInt8} {next : Next}
    (h : nextItem first bs = .ok next) : next.Shorter bs 0 (if first then 0 else 1) := by
  unfold nextItem at h
  split at h
  · cases h
  · rename_i start
    have shorter := length_skipSpace start
    split at h
    · cases h
      exact shorter
    split at h
    · rename_i isFirst
      cases h
      simpa [Next.Shorter, isFirst] using shorter
    · rename_i notFirst
      split at h
      · split at h
        · cases h
        · rename_i start'
          have shorter' := length_skipSpace start'
          split at h
          · cases h
          · cases h
            simp only [Next.Shorter, notFirst, List.length_cons, Bool.false_eq_true, if_false]
            omega
      · cases h

theorem nextField_length {first : Bool} {bs : List UInt8} {next : Next}
    (h : nextField first bs = .ok next) : next.Shorter bs 1 (if first then 0 else 1) := by
  unfold nextField at h
  split at h
  · cases h
  · rename_i start
    have shorter := length_skipSpace start
    split at h
    · cases h
      exact shorter
    split at h
    · rename_i isFirst
      split at h
      · cases h
        simpa [Next.Shorter, isFirst] using shorter
      · cases h
    · rename_i notFirst
      split at h
      · split at h
        · cases h
        · rename_i start'
          have shorter' := length_skipSpace start'
          split at h
          · cases h
            simp only [Next.Shorter, notFirst, Bool.false_eq_true, if_false]
            omega
          · cases h
      · cases h

/-! ## Members -/

section Members

variable {α : Type} {item : Reader α} {cost : α → Nat} {fuel : Nat} {bs rest : List UInt8}

/-- What members cost with a comma each. -/
def costs {β : Type} (cost : β → Nat) (as : List β) : Nat := (as.map fun a => cost a + 1).sum

@[simp] theorem costs_nil {β : Type} (cost : β → Nat) : costs cost [] = 0 := rfl

@[simp] theorem costs_cons {β : Type} (cost : β → Nat) (a : β) (as : List β) :
    costs cost (a :: as) = cost a + 1 + costs cost as := by
  simp [costs]

@[simp] theorem costs_reverse {β : Type} (cost : β → Nat) (as : List β) :
    costs cost as.reverse = costs cost as := by
  simp [costs]

theorem costs_congr {β : Type} {c d : β → Nat} {as : List β} (h : ∀ a ∈ as, c a = d a) :
    costs c as = costs d as := by
  have each : ∀ a ∈ as, c a + 1 = d a + 1 := fun a member => congrArg (· + 1) (h a member)
  rw [costs, costs, List.map_congr_left each]

/-- The items behind the first, with a comma before each, and the bracket behind the last. -/
theorem items_behind_length
    (each : ∀ bs a rest, item bs = .ok (a, rest) → cost a + rest.length ≤ bs.length)
    {read as : List α} (h : items item fuel false read bs = .ok (as, rest)) :
    costs cost as + 1 + rest.length ≤ costs cost read + bs.length ∧
      costs cost read ≤ costs cost as := by
  induction fuel generalizing bs read with
  | zero => cases h
  | succ fuel ih =>
    rcases items_ok h with ⟨next, rfl⟩ | ⟨less, inner, a, behind, next, reads, more, same⟩
    · have closed : rest.length + 1 ≤ bs.length := nextItem_length next
      rw [costs_reverse]
      omega
    · cases same
      have opened : inner.length + 0 + 1 ≤ bs.length := nextItem_length next
      have one := each _ _ _ reads
      have others := ih more
      rw [costs_cons] at others
      omega

theorem items_length
    (each : ∀ bs a rest, item bs = .ok (a, rest) → cost a + rest.length ≤ bs.length)
    {as : List α} (h : items item fuel true [] bs = .ok (as, rest)) :
    costs cost as + rest.length ≤ bs.length ∧ rest.length + 1 ≤ bs.length := by
  rcases items_ok h with ⟨next, rfl⟩ | ⟨less, inner, a, behind, next, reads, more, -⟩
  · have closed : rest.length + 1 ≤ bs.length := nextItem_length next
    exact ⟨by simp; omega, closed⟩
  · have opened : inner.length + 0 + 0 ≤ bs.length := nextItem_length next
    have one := each _ _ _ reads
    have others := items_behind_length each more
    rw [costs_cons, costs_nil] at others
    omega

/-- What a field costs: its name between quotes, the colon and the member. -/
def fieldCost (cost : α → Nat) (f : String × α) : Nat :=
  (Utf8.encode (quote f.1)).length + 1 + cost f.2

theorem length_quote (s : String) :
    (Utf8.encode (quote s)).length = (Utf8.encode (s.toList.flatMap escape)).length + 2 := by
  rw [← List.append_nil (Utf8.encode (quote s)), encode_quote]
  simp

/-- A field behind the quote that opens its name. -/
theorem field_length
    (each : ∀ bs a rest, item bs = .ok (a, rest) → cost a + rest.length ≤ bs.length)
    {inner mark inside behind : List UInt8} {name : String} {a : α}
    (named : string inner = .ok (name, mark)) (marked : colon mark = .ok inside)
    (reads : item inside = .ok (a, behind)) :
    fieldCost cost (name, a) + behind.length ≤ inner.length + 1 := by
  have ofName := string_length named
  have ofMark := colon_length marked
  have ofMember := each _ _ _ reads
  rw [fieldCost, length_quote]
  dsimp only
  omega

theorem fields_behind_length
    (each : ∀ bs a rest, item bs = .ok (a, rest) → cost a + rest.length ≤ bs.length)
    {read fs : List (String × α)} (h : fields item fuel false read bs = .ok (fs, rest)) :
    costs (fieldCost cost) fs + 1 + rest.length ≤ costs (fieldCost cost) read + bs.length ∧
      costs (fieldCost cost) read ≤ costs (fieldCost cost) fs := by
  induction fuel generalizing bs read with
  | zero => cases h
  | succ fuel ih =>
    rcases fields_ok h with ⟨next, rfl⟩ |
      ⟨less, inner, name, mark, inside, a, behind, next, named, marked, reads, more, same⟩
    · have closed : rest.length + 1 ≤ bs.length := nextField_length next
      rw [costs_reverse]
      omega
    · cases same
      have opened : inner.length + 1 + 1 ≤ bs.length := nextField_length next
      have one := field_length each named marked reads
      have others := ih more
      rw [costs_cons] at others
      omega

theorem fields_length
    (each : ∀ bs a rest, item bs = .ok (a, rest) → cost a + rest.length ≤ bs.length)
    {fs : List (String × α)} (h : fields item fuel true [] bs = .ok (fs, rest)) :
    costs (fieldCost cost) fs + rest.length ≤ bs.length ∧ rest.length + 1 ≤ bs.length := by
  rcases fields_ok h with ⟨next, rfl⟩ |
    ⟨less, inner, name, mark, inside, a, behind, next, named, marked, reads, more, -⟩
  · have closed : rest.length + 1 ≤ bs.length := nextField_length next
    exact ⟨by simp; omega, closed⟩
  · have opened : inner.length + 1 + 0 ≤ bs.length := nextField_length next
    have one := field_length each named marked reads
    have others := fields_behind_length each more
    rw [costs_cons, costs_nil] at others
    omega

/-- Of equal names one field stays. -/
theorem costs_insert (cost : String × α → Nat) (name : String) (a : α) (fs : List (String × α)) :
    costs cost (Assoc.insert name a fs) ≤ cost (name, a) + 1 + costs cost fs := by
  induction fs with
  | nil => simp [Assoc.insert]
  | cons f fs ih =>
    obtain ⟨name', a'⟩ := f
    unfold Assoc.insert
    split
    · simp
    · split
      · simp only [costs_cons]
        omega
      · simp only [costs_cons]
        omega

theorem costs_ofList (cost : String × α → Nat) (fs : List (String × α)) :
    costs cost (Assoc.ofList fs) ≤ costs cost fs := by
  have all (into : List (String × α)) :
      costs cost (Assoc.insertAll into fs) ≤ costs cost into + costs cost fs := by
    induction fs generalizing into with
    | nil => exact Nat.le_refl _
    | cons f fs ih =>
      obtain ⟨name, a⟩ := f
      have step : Assoc.insertAll into ((name, a) :: fs) =
          Assoc.insertAll (Assoc.insert name a into) fs := rfl
      have first := costs_insert cost name a into
      have others := ih (Assoc.insert name a into)
      rw [step, costs_cons]
      omega
  simpa [Assoc.ofList] using all []

end Members

/-! ## Values -/

theorem length_behindCommas {α : Type} (text : α → List Char) (as : List α) :
    (Utf8.encode (behindCommas text as)).length =
      costs (fun a => (Utf8.encode (text a)).length) as := by
  induction as with
  | nil => rfl
  | cons a as ih =>
    have comma : Utf8.encode (',' :: (text a ++ behindCommas text as)) =
        0x2C :: Utf8.encode (text a ++ behindCommas text as) := rfl
    rw [behindCommas_cons, comma, List.length_cons, Text.Utf8.encode_append, List.length_append, ih,
      costs_cons]
    omega

namespace Value

/-- The brackets, and the items with a comma each but the last. -/
theorem length_bytes_array (vs : List Value) :
    (Value.array vs).bytes.length ≤ max 2 (costs (fun v => v.bytes.length) vs + 1) := by
  cases vs with
  | nil => exact Nat.le_refl 2
  | cons v vs =>
    have bracket (cs : List Char) : Utf8.encode ('[' :: cs) = 0x5B :: Utf8.encode cs := rfl
    have close : (Utf8.encode [']']).length = 1 := rfl
    rw [bytes, text_array_cons, bracket, List.length_cons, Text.Utf8.encode_append,
      Text.Utf8.encode_append, List.length_append, List.length_append, close, length_behindCommas,
      costs_cons]
    simp only [bytes]
    omega

theorem length_bytes_object (fs : List (String × Value)) :
    (Value.object fs).bytes.length ≤
      max 2 (costs (fieldCost fun v => v.bytes.length) fs + 1) := by
  have named : (fun f => (Utf8.encode (namedText text f)).length) =
      fieldCost fun v => v.bytes.length := by
    funext f
    have colon : Utf8.encode (':' :: text f.2) = 0x3A :: Utf8.encode (text f.2) := rfl
    rw [namedText, Text.Utf8.encode_append, colon, List.length_append, List.length_cons, fieldCost,
      bytes]
    omega
  cases fs with
  | nil => exact Nat.le_refl 2
  | cons f fs =>
    have bracket (cs : List Char) : Utf8.encode ('\x7b' :: cs) = 0x7B :: Utf8.encode cs := rfl
    have close : (Utf8.encode ['\x7d']).length = 1 := rfl
    rw [bytes, text_object_cons, bracket, List.length_cons, Text.Utf8.encode_append,
      Text.Utf8.encode_append, List.length_append, List.length_append, close, length_behindCommas,
      named, costs_cons, ← congrFun named f]
    omega

open Classical in
/-- The bytes of a value without doubles; a value with doubles counts for nothing. -/
noncomputable def cost (v : Value) : Nat := if v.FloatFree then v.bytes.length else 0

theorem cost_of_floatFree {v : Value} (h : v.FloatFree) : v.cost = v.bytes.length := if_pos h

theorem cost_le (v : Value) : v.cost ≤ v.bytes.length := by
  unfold cost
  split
  · exact Nat.le_refl _
  · exact Nat.zero_le _

theorem cost_array_le (vs : List Value) : (Value.array vs).cost ≤ max 2 (costs cost vs + 1) := by
  unfold cost
  split
  · rename_i floatFree
    cases floatFree with
    | array parts =>
      have same : costs (fun v => v.bytes.length) vs = costs cost vs :=
        costs_congr fun v member => (cost_of_floatFree (parts v member)).symm
      exact same ▸ length_bytes_array vs
  · exact Nat.zero_le _

theorem cost_object_le (fs : List (String × Value)) :
    (Value.object fs).cost ≤ max 2 (costs (fieldCost cost) fs + 1) := by
  unfold cost
  split
  · rename_i floatFree
    cases floatFree with
    | object parts =>
      have same : costs (fieldCost fun v => v.bytes.length) fs = costs (fieldCost cost) fs :=
        costs_congr fun f member => by
          rw [fieldCost, fieldCost, cost_of_floatFree (parts f member)]
      exact same ▸ length_bytes_object fs
  · exact Nat.zero_le _

/-- A number behind its sign. -/
theorem cost_number_le {negative : Bool} {bs rest : List UInt8} {n : Number}
    (h : Shorter negative bs n rest) :
    (Value.number n).cost + rest.length ≤ bs.length + if negative then 1 else 0 := by
  cases n with
  | float x =>
    have nothing : (Value.number (.float x)).cost = 0 := if_neg (by rintro ⟨⟩)
    have := h.rest_le
    omega
  | integer i low high =>
    obtain ⟨sign, digits⟩ := h.integer i low high rfl
    have ascii : ∀ c ∈ Nat.toDigits 10 i.natAbs, c.toNat ≤ 0x7F := by
      intro c member
      have digit := Text.Numeral.isDigit_of_mem_toDigits member
      simp only [Char.isDigit, Bool.and_eq_true, decide_eq_true_eq] at digit
      have high : c.toNat ≤ 57 := digit.2
      omega
    have minus (cs : List Char) : Utf8.encode ('-' :: cs) = 0x2D :: Utf8.encode cs := rfl
    have bound := cost_le (Value.number (.integer i low high))
    rw [bytes, text_number, Number.text, integerText] at bound
    split at bound
    · rename_i below
      rw [minus, List.length_cons, Text.Utf8.length_encode_ascii ascii] at bound
      rw [if_pos (sign.1 below)]
      omega
    · rename_i natural
      rw [Text.Utf8.length_encode_ascii ascii] at bound
      rw [if_neg (mt sign.2 natural)]
      omega

end Value

/-- A value that was read costs no more than was consumed. -/
theorem value_length {fuel depth : Nat} {bs rest : List UInt8} {v : Value}
    (h : value fuel depth bs = .ok (v, rest)) : v.cost + rest.length ≤ bs.length := by
  induction depth using Nat.strongRecOn generalizing bs v rest with
  | ind depth ih =>
    obtain ⟨b, behind, start, found⟩ := value_found h
    have shorter := length_skipSpace start
    cases found with
    | null read =>
      have bound : Value.null.cost ≤ 4 := Value.cost_le .null
      have word : 3 + rest.length = behind.length := literal_length read
      omega
    | yes read =>
      have bound : (Value.bool true).cost ≤ 4 := Value.cost_le (.bool true)
      have word : 3 + rest.length = behind.length := literal_length read
      omega
    | no read =>
      have bound : (Value.bool false).cost ≤ 5 := Value.cost_le (.bool false)
      have word : 4 + rest.length = behind.length := literal_length read
      omega
    | @string _ _ s _ read =>
      have bound := Value.cost_le (.string s)
      rw [Value.bytes, Value.text_string, length_quote] at bound
      have := string_length read
      omega
    | negative read =>
      have : _ ≤ behind.length + 1 := Value.cost_number_le (unsignedNumber_length read)
      omega
    | @natural b _ _ _ _ digit read =>
      have : _ ≤ (b :: behind).length + 0 := Value.cost_number_le (unsignedNumber_length read)
      rw [List.length_cons] at this
      omega
    | @array _ less vs _ read =>
      have bound := Value.cost_array_le vs
      have parts := items_length (fun _ _ _ => ih less (Nat.lt_succ_self less)) read
      omega
    | @object _ less fs _ read =>
      have bound := Value.cost_object_le (Assoc.ofList fs)
      have parts := fields_length (fun _ _ _ => ih less (Nat.lt_succ_self less)) read
      have dropped := costs_ofList (fieldCost Value.cost) fs
      omega

/-- Printed again, a value without doubles takes no more bytes than it was read from. -/
theorem Value.length_bytes_le {bs : List UInt8} {v : Value} (h : Value.read bs = .ok v)
    (floatFree : v.FloatFree) : v.bytes.length ≤ bs.length := by
  obtain ⟨rest, read⟩ := Value.read_ok h
  have := value_length read
  rw [cost_of_floatFree floatFree] at this
  omega

end ShardStore.Json
