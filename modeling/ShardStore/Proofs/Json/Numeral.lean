/-
# ShardStore.Proofs.Json.Numeral -- the text of a number keeps to the grammar

A numeral is an integer part without needless zeros, then perhaps a fraction, then perhaps an
exponent (`Numeral`).  Every number is printed as one, behind its sign (`Number.text_numeral`).
For integers that is the way of their digits.  The digits of a double could only go wrong by a
zero in front, and the shortest digits of a double are zero for zero alone, which has the exponent
zero (`Magnitude.shortest_digits`).

A reader that passes over numbers follows the same grammar, so it passes over a numeral, and over
no more (`skipNumber_numeral`).
-/
import ShardStore.Proofs.Json.Number

namespace ShardStore

set_option autoImplicit false

/-! ## The shortest digits of a double -/

namespace Binary64

theorem Decimal.normalize_digits (n : Nat) {d : Decimal} (some : d.digits ≠ 0) :
    (normalize n d).digits ≠ 0 := by
  induction n generalizing d with
  | zero => exact some
  | succ n ih =>
    rw [normalize]
    split
    · rename_i zeros
      refine ih (show d.digits / 10 ≠ 0 from ?_)
      omega
    · exact some

namespace Magnitude

variable {x : Magnitude}

/-- The half-way points on both sides of a magnitude other than zero are above zero. -/
theorem not_owns_zero (some : x.isZero = false) (exponent : Int) : x.owns exponent 0 = false := by
  have positive : 0 < x.significand := by
    simp only [isZero, decide_eq_false_iff_not] at some
    omega
  have low : 0 < x.low := by
    unfold low
    split <;> omega
  have size : 0 < (x.quarter exponent).1 := by
    simp only [quarter, Nat.shiftLeft_eq]
    exact Nat.mul_pos (Nat.pow_pos (by decide)) (Nat.two_pow_pos _)
  have above : 0 < x.low * (x.quarter exponent).1 := Nat.mul_pos low size
  unfold owns
  dsimp only
  rw [Nat.zero_mul, decide_eq_false (Nat.not_le.2 above), decide_eq_false (Nat.not_lt_zero _)]
  split <;> rfl

theorem onGrid?_digits (some : x.isZero = false) {exponent : Int} {d : Decimal}
    (found : x.onGrid? exponent = .some d) : d.digits ≠ 0 := by
  have below {n : Nat} (owned : x.owns exponent n = true) : n ≠ 0 := by
    rintro rfl
    rw [not_owns_zero some] at owned
    cases owned
  unfold onGrid? at found
  dsimp only at found
  split at found
  · rename_i owned _
    rw [← Option.some.inj found]
    dsimp only
    split
    · exact below owned
    · exact Nat.succ_ne_zero _
  · rename_i owned _
    rw [← Option.some.inj found]
    exact below owned
  · rw [← Option.some.inj found]
    exact Nat.succ_ne_zero _
  · exact absurd found.symm (Option.some_ne_none d)

theorem shortest_digits (x : Magnitude) : x.shortest.digits ≠ 0 ∨ x.shortest = ⟨0, 0⟩ := by
  unfold shortest
  split
  · exact .inr rfl
  · rename_i some
    dsimp only
    generalize (List.range 17).map (fun n : Nat => x.leading - (n : Int)) = exponents
    cases found : exponents.findSome? x.onGrid? with
    | none =>
      rw [Option.getD_none]
      exact .inr rfl
    | some d =>
      obtain ⟨exponent, -, grid⟩ := List.exists_of_findSome?_eq_some found
      rw [Option.getD_some]
      exact .inl (Decimal.normalize_digits 17
        (onGrid?_digits (Bool.eq_false_iff.2 some) grid))

end Magnitude

end Binary64

namespace Json

open Text (Utf8.encode)
open Text.Numeral (isDigit_of_mem_toDigits toDigits_eq_cons)

/-! ## The grammar -/

/-- One digit or more. -/
structure Digits (cs : List Char) : Prop where
  some : cs ≠ []
  all : ∀ c ∈ cs, c.isDigit

inductive Fraction : List Char → Prop where
  | none : Fraction []
  | point {ds : List Char} (digits : Digits ds) : Fraction ('.' :: ds)

inductive Exponent : List Char → Prop where
  | none : Exponent []
  | mark {sign : Char} {ds : List Char} (signed : sign = '-' ∨ sign = '+') (digits : Digits ds) :
      Exponent ('e' :: sign :: ds)

/-- A number without a sign. -/
inductive Numeral : List Char → Prop where
  | parts {d : Char} {ds fraction exponent : List Char} (digits : Digits (d :: ds))
      (alone : d = '0' → ds = []) (fractional : Fraction fraction)
      (exponential : Exponent exponent) : Numeral (d :: ds ++ (fraction ++ exponent))

theorem digits_toDigits (n : Nat) : Digits (Nat.toDigits 10 n) :=
  ⟨Nat.toDigits_ne_nil, fun _ => isDigit_of_mem_toDigits⟩

theorem Digits.zeros {cs : List Char} (digits : Digits cs) (n : Nat) :
    Digits (List.replicate n '0' ++ cs) := by
  refine ⟨by simp [digits.some], fun c member => ?_⟩
  rcases List.mem_append.1 member with zero | digit
  · rw [List.eq_of_mem_replicate zero]
    rfl
  · exact digits.all c digit

/-- Digits are written as a numeral at every exponent, if a zero stands in front only of nothing,
and then at the exponent zero. -/
theorem numeral_decimalText {d : Char} {ds : List Char} {exponent : Int}
    (digits : Digits (d :: ds)) (alone : d = '0' → ds = [] ∧ exponent = 0) :
    Numeral (decimalText (d :: ds) exponent) := by
  have tail : ∀ c ∈ ds, c.isDigit := fun c member => digits.all c (List.mem_cons_of_mem d member)
  have first : d.isDigit := digits.all d List.mem_cons_self
  have zero : Digits ['0'] := ⟨List.cons_ne_nil _ _, List.forall_mem_singleton.2 rfl⟩
  unfold decimalText
  dsimp only
  split
  · split
    · -- the point is behind the digits or among them
      rename_i natural
      obtain ⟨e, rfl⟩ := Int.eq_ofNat_of_zero_le natural
      rw [Int.toNat_natCast, List.take_succ_cons, List.drop_succ_cons, List.cons_append]
      have behind : Fraction ('.' :: if (ds.drop e).isEmpty then ['0'] else ds.drop e) := by
        refine .point ?_
        split
        · exact zero
        · rename_i more
          exact ⟨by simpa using more, fun c member => tail c (List.mem_of_mem_drop member)⟩
      have whole : Numeral (d :: (ds.take e ++ List.replicate (e + 1 - (d :: ds).length) '0') ++
          (('.' :: if (ds.drop e).isEmpty then ['0'] else ds.drop e) ++ [])) := by
        refine .parts ⟨List.cons_ne_nil _ _, ?_⟩ (fun same => ?_) behind .none
        · rw [List.forall_mem_cons]
          refine ⟨first, fun c member => ?_⟩
          rcases List.mem_append.1 member with among | filled
          · exact tail c (List.mem_of_mem_take among)
          · rw [List.eq_of_mem_replicate filled]
            rfl
        · obtain ⟨rfl, at_⟩ := alone same
          obtain rfl : e = 0 := by omega
          rfl
      rwa [List.append_nil] at whole
    · -- the point is in front of the digits
      have whole : Numeral (['0'] ++
          (('.' :: (List.replicate ((-exponent).toNat - 1) '0' ++ d :: ds)) ++ [])) :=
        .parts zero (fun _ => rfl) (.point (digits.zeros _)) .none
      rwa [List.append_nil] at whole
  · have exponential : Exponent
        ('e' :: (if exponent < 0 then '-' else '+') :: Nat.toDigits 10 exponent.natAbs) := by
      refine .mark ?_ (digits_toDigits _)
      split <;> simp
    have single : Digits [d] := ⟨List.cons_ne_nil _ _, by simpa using first⟩
    cases ds with
    | nil => exact .parts single (fun _ => rfl) .none exponential
    | cons next ds =>
      exact .parts single (fun _ => rfl) (.point ⟨List.cons_ne_nil _ _, tail⟩) exponential

theorem numeral_toDigits (n : Nat) : Numeral (Nat.toDigits 10 n) := by
  obtain ⟨d, ds, digits, leading⟩ := toDigits_eq_cons n
  have whole : Numeral (d :: ds ++ ([] ++ [])) :=
    .parts (digits ▸ digits_toDigits n) (fun zero => (leading zero).2) .none .none
  rw [digits]
  simpa using whole

/-- Behind its sign every number is printed as a numeral. -/
theorem Number.text_numeral (n : Number) :
    ∃ cs, Numeral cs ∧ (n.text = cs ∨ n.text = '-' :: cs) := by
  cases n with
  | integer i low high =>
    refine ⟨_, numeral_toDigits i.natAbs, ?_⟩
    rw [Number.text, integerText]
    split
    · exact .inr rfl
    · exact .inl rfl
  | float x =>
    obtain ⟨d, ds, digits, leading⟩ := toDigits_eq_cons x.magnitude.shortest.digits
    have numeral : Numeral (decimalText (Nat.toDigits 10 x.magnitude.shortest.digits)
        (x.magnitude.shortest.exponent +
          ((Nat.toDigits 10 x.magnitude.shortest.digits).length - 1 : Nat))) := by
      rw [digits]
      refine numeral_decimalText (digits ▸ digits_toDigits _) fun zero => ?_
      obtain ⟨nothing, rfl⟩ := leading zero
      have whole := x.magnitude.shortest_digits.resolve_left (not_not_intro nothing)
      exact ⟨rfl, by rw [whole]; rfl⟩
    refine ⟨_, numeral, ?_⟩
    rw [Number.text, floatText]
    split
    · exact .inr rfl
    · exact .inl rfl

/-! ## Passing over numerals -/

variable {cs : List Char} {rest : List UInt8}

theorem Digits.bytes (digits : Digits cs) :
    ∃ b bs, Utf8.encode cs = b :: bs ∧ isDigit b = true ∧ ∀ x ∈ bs, isDigit x = true := by
  obtain ⟨c, more, rfl⟩ := List.exists_cons_of_ne_nil digits.some
  obtain ⟨b, bytes, digit, -⟩ := digit_byte (digits.all c List.mem_cons_self)
  refine ⟨b, Utf8.encode more, by rw [Text.Utf8.encode_cons, bytes]; rfl, digit, fun x member => ?_⟩
  obtain ⟨d, among, byte⟩ := List.mem_flatMap.1 member
  obtain ⟨y, bytes, digit, -⟩ := digit_byte (digits.all d (List.mem_cons_of_mem c among))
  rw [bytes, List.mem_singleton] at byte
  rwa [byte]

theorem Numeral.bytes (numeral : Numeral cs) :
    ∃ b bs, Utf8.encode cs = b :: bs ∧ isDigit b = true := by
  obtain ⟨digits, -, -, -⟩ := numeral
  obtain ⟨b, bs, bytes, digit, -⟩ := digits.bytes
  exact ⟨b, _, by rw [Text.Utf8.encode_append, bytes, List.cons_append], digit⟩

theorem dropWhile_digits {bs : List UInt8} (digits : ∀ b ∈ bs, isDigit b = true)
    (clear : ∀ b ∈ rest.head?, isDigit b = false) : (bs ++ rest).dropWhile isDigit = rest := by
  rw [List.dropWhile_append_of_pos digits]
  cases rest with
  | nil => rfl
  | cons b rest => exact List.dropWhile_cons_of_neg (by simp [clear b rfl])

theorem skipDigits_digits (digits : Digits cs) (clear : ∀ b ∈ rest.head?, isDigit b = false) :
    skipDigits (Utf8.encode cs ++ rest) = .ok rest := by
  obtain ⟨b, bs, bytes, digit, more⟩ := digits.bytes
  rw [bytes, List.cons_append, skipDigits, if_pos digit, dropWhile_digits more clear]

/-- Neither a digit nor a point is in front of an exponent, or of what follows if there is none. -/
theorem Exponent.clear (exponent : Exponent cs) (stops : Stops rest) :
    ∀ b ∈ (Utf8.encode cs ++ rest).head?, isDigit b = false ∧ b ≠ 0x2E := by
  cases exponent with
  | none => exact fun b member => ⟨(stops b member).1, (stops b member).2.1⟩
  | mark signed digits =>
    rintro b ⟨⟩
    decide

theorem skipExponent_exponent (exponent : Exponent cs) (stops : Stops rest) :
    skipExponent (Utf8.encode cs ++ rest) = .ok rest := by
  cases exponent with
  | none =>
    cases rest with
    | nil => rfl
    | cons b rest =>
      obtain ⟨-, -, notE, notCapital⟩ := stops b rfl
      exact if_neg (by simp [notE, notCapital])
  | @mark sign ds signed digits =>
    have clear : ∀ b ∈ rest.head?, isDigit b = false := fun b member => (stops b member).1
    have more := skipDigits_digits digits clear
    rcases signed with rfl | rfl
    · exact more
    · exact more

/-- A numeral is passed over up to its end. -/
theorem skipNumber_numeral (numeral : Numeral cs) (stops : Stops rest) :
    skipNumber (Utf8.encode cs ++ rest) = .ok rest := by
  obtain ⟨digits, alone, fractional, exponential⟩ := numeral
  rename_i d ds fraction exponent
  have skipped := skipExponent_exponent exponential stops
  have clear := exponential.clear stops
  obtain ⟨b, bytes, digit, -, zero⟩ := digit_byte (digits.all d List.mem_cons_self)
  have text : Utf8.encode (d :: ds ++ (fraction ++ exponent)) ++ rest = b :: (Utf8.encode ds ++
      (Utf8.encode fraction ++ (Utf8.encode exponent ++ rest))) := by
    simp [Text.Utf8.encode_cons, Text.Utf8.encode_append, bytes]
  -- what is behind the integer part is no digit
  have apart : ∀ b ∈ (Utf8.encode fraction ++ (Utf8.encode exponent ++ rest)).head?,
      isDigit b = false := by
    cases fractional with
    | none => exact fun b member => (clear b member).1
    | point digits =>
      rintro b ⟨⟩
      decide
  have behind : (if b = 0x30 then Utf8.encode ds ++
        (Utf8.encode fraction ++ (Utf8.encode exponent ++ rest))
      else (Utf8.encode ds ++
        (Utf8.encode fraction ++ (Utf8.encode exponent ++ rest))).dropWhile isDigit) =
      Utf8.encode fraction ++ (Utf8.encode exponent ++ rest) := by
    split
    · rename_i isZero
      rw [alone (zero.1 isZero)]
      rfl
    · refine dropWhile_digits (fun x member => ?_) apart
      obtain ⟨c, among, byte⟩ := List.mem_flatMap.1 member
      obtain ⟨y, bytes, digit, -⟩ := digit_byte (digits.all c (List.mem_cons_of_mem d among))
      rw [bytes, List.mem_singleton] at byte
      rwa [byte]
  rw [text, skipNumber, if_neg (not_not_intro digit), behind]
  cases fractional with
  | none =>
    simp only [Text.Utf8.encode_nil, List.nil_append] at apart ⊢
    generalize Utf8.encode exponent ++ rest = bs at skipped clear apart ⊢
    cases bs with
    | nil =>
      cases skipped
      rfl
    | cons p more => simp [clear p rfl, skipped]
  | @point ds digits =>
    have point : Utf8.encode ('.' :: ds) = 0x2E :: Utf8.encode ds := rfl
    have more := skipDigits_digits digits fun b member => (clear b member).1
    simp [point, isDigit, more, skipped, bind, Except.bind]

end Json

end ShardStore
