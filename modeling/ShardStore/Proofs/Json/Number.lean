/-
# ShardStore.Proofs.Json.Number -- a number is read from its own text, or another one is

A double is printed with the fewest digits that tell it from all others.  The reader rounds
more than once, so it may take these digits for a neighbour: `9.999999999999999e-31` is what
is printed for `1e-30`, and is not read as the same double.  A number is steady if this does
not happen to it (`Number.Steady`).

A reader of numbers looks at no more than whether what follows could go on with the number
(`Local`, `local_unsignedNumber`), so a steady number is found in its text wherever that
stands (`Number.Steady.found`).
-/
import ShardStore.Proofs.Json.Found
import ShardStore.Proofs.Json.Scalar

namespace ShardStore.Json

set_option autoImplicit false

open Text (Utf8.encode)
open Text.Numeral (isDigit_of_mem_toDigits toDigits_eq_cons)

/-! ## Digits before other bytes -/

section Digits

variable {rest : List UInt8}

theorem takeWhile_append (stops : Stops rest) (bs : List UInt8) :
    (bs ++ rest).takeWhile isDigit = bs.takeWhile isDigit := by
  induction bs with
  | nil => exact stops.takeWhile
  | cons b bs ih =>
    rw [List.cons_append, List.takeWhile_cons, List.takeWhile_cons, ih]

theorem dropWhile_append (stops : Stops rest) (bs : List UInt8) :
    (bs ++ rest).dropWhile isDigit = bs.dropWhile isDigit ++ rest := by
  induction bs with
  | nil => exact stops.dropWhile
  | cons b bs ih =>
    rw [List.cons_append, List.dropWhile_cons, List.dropWhile_cons, ih]
    split <;> rfl

theorem collect_append (stops : Stops rest) (significand taken : Nat) (bs : List UInt8) :
    collect significand taken (bs ++ rest) =
      ((collect significand taken bs).1, (collect significand taken bs).2.1,
        (collect significand taken bs).2.2 ++ rest) := by
  induction bs generalizing significand taken with
  | nil =>
    cases rest with
    | nil => rfl
    | cons b rest => simp [collect, (stops b rfl).1]
  | cons b bs ih =>
    rw [List.cons_append, collect, collect]
    split
    · exact ih _ _
    · rfl

theorem collect_suffix (significand taken : Nat) (bs : List UInt8) :
    (collect significand taken bs).2.2 <:+ bs := by
  induction bs generalizing significand taken with
  | nil => exact List.suffix_refl []
  | cons b bs ih =>
    rw [collect]
    split
    · exact (ih _ _).trans (List.suffix_cons b bs)
    · exact List.suffix_refl _

end Digits

/-! ## Readers of numbers -/

/-- The reader has left the end of what it was given, and leaves what is put behind it too, if
no number could go on with that. -/
structure Leaves {α : Type} (item : Reader α) (bs : List UInt8) (a : α) (tail : List UInt8) :
    Prop where
  suffix : tail <:+ bs
  append : ∀ {rest}, Stops rest → item (bs ++ rest) = .ok (a, tail ++ rest)

/-- What the reader finds does not depend on what stands behind it. -/
def Local {α : Type} (item : Reader α) : Prop :=
  ∀ {bs a tail}, item bs = .ok (a, tail) → Leaves item bs a tail

theorem local_refuseOr {α : Type} (found : Option α) : Local fun bs => refuseOr bs found := by
  intro bs a tail read
  cases found with
  | none => cases read
  | some a =>
    cases read
    exact ⟨List.suffix_refl bs, fun _ => rfl⟩

theorem local_float (negative : Bool) (significand : Nat) (exponent : Int) :
    Local (float negative significand exponent) :=
  local_refuseOr _

theorem local_exponentPart (negative : Bool) (significand : Nat) (exponent : Int) :
    Local (exponentPart negative significand exponent) := by
  intro bs n tail read
  cases bs with
  | nil => cases read
  | cons b bs =>
    -- a sign is passed over, and digits must follow
    obtain ⟨unsigned, behind, more⟩ : ∃ unsigned, unsigned <:+ b :: bs ∧
        ∀ rest, (if b = 0x2B ∨ b = 0x2D then bs ++ rest else b :: (bs ++ rest)) =
          unsigned ++ rest := by
      split
      · exact ⟨bs, List.suffix_cons b bs, fun _ => rfl⟩
      · exact ⟨b :: bs, List.suffix_refl _, fun _ => rfl⟩
    have alone := more []
    simp only [List.append_nil] at alone
    simp only [exponentPart, alone] at read
    cases unsigned with
    | nil => cases read
    | cons d ds =>
      dsimp only at read
      split at read
      · rename_i digit
        have leaves := local_float _ _ _ read
        refine ⟨leaves.suffix.trans ((List.dropWhile_suffix _).trans behind), ?_⟩
        intro rest stops
        simp only [List.cons_append, exponentPart, more, digit, if_true]
        rw [← List.cons_append, takeWhile_append stops, dropWhile_append stops]
        exact leaves.append stops
      · cases read

theorem local_scaled (negative : Bool) (significand : Nat) (exponent : Int) :
    Local (scaled negative significand exponent) := by
  intro bs n tail read
  cases bs with
  | nil =>
    have leaves := local_float _ _ _ read
    refine ⟨leaves.suffix, ?_⟩
    intro rest stops
    rw [← leaves.append stops]
    cases rest with
    | nil => rfl
    | cons p rest =>
      obtain ⟨-, -, notE, notCapital⟩ := stops p rfl
      simp only [List.nil_append, scaled, notE, notCapital, or_self, if_false]
  | cons b bs =>
    rw [scaled] at read
    split at read
    · rename_i mark
      have leaves := local_exponentPart _ _ _ read
      refine ⟨leaves.suffix.trans (List.suffix_cons b bs), ?_⟩
      intro rest stops
      rw [List.cons_append, scaled, if_pos mark]
      exact leaves.append stops
    · rename_i other
      have leaves := local_float _ _ _ read
      refine ⟨leaves.suffix, ?_⟩
      intro rest stops
      rw [List.cons_append, scaled, if_neg other]
      exact leaves.append stops

theorem local_fraction (negative : Bool) (significand : Nat) (exponent : Int) :
    Local (fraction negative significand exponent) := by
  intro bs n tail read
  cases bs with
  | nil => cases read
  | cons b bs =>
    rw [fraction] at read
    split at read
    · rename_i digit
      have leaves := local_scaled _ _ _ read
      have taken := collect_suffix significand 0 (b :: bs)
      refine ⟨leaves.suffix.trans ((List.dropWhile_suffix _).trans taken), ?_⟩
      intro rest stops
      rw [List.cons_append, fraction, if_pos digit, ← List.cons_append, collect_append stops]
      simp only [dropWhile_append stops]
      exact leaves.append stops
    · cases read

section Leading

variable {b : UInt8} {bs behind : List UInt8} {significand taken : Nat}

/-- The digits of the integer part: a zero stands alone, others are collected. -/
def Leading (b : UInt8) (bs : List UInt8) (significand taken : Nat) (behind : List UInt8) : Prop :=
  (if b = 0x30 then (0, 1, bs) else collect (digitValue b) 1 bs) = (significand, taken, behind)

theorem Leading.suffix (h : Leading b bs significand taken behind) : behind <:+ bs := by
  unfold Leading at h
  split at h
  · cases h
    exact List.suffix_refl bs
  · have left := collect_suffix (digitValue b) 1 bs
    rwa [h] at left

theorem Leading.append (h : Leading b bs significand taken behind) {rest : List UInt8}
    (stops : Stops rest) : Leading b (bs ++ rest) significand taken (behind ++ rest) := by
  unfold Leading at h ⊢
  split at h
  · rename_i zero
    cases h
    rw [if_pos zero]
  · rename_i digits
    rw [if_neg digits, collect_append stops, h]

end Leading

/-- A number without a fraction and an exponent, of which digits may have been dropped. -/
def integral (negative : Bool) (significand : Nat) (dropped : List UInt8) : Reader Number :=
  fun bs =>
    if dropped.isEmpty then refuseOr bs (whole negative significand)
    else float negative significand dropped.length bs

/-- Reads on behind the digits of the integer part. -/
def behindWhole (negative : Bool) (significand : Nat) (dropped : List UInt8) : Reader Number
  | [] => integral negative significand dropped []
  | p :: behind =>
    if p = 0x2E then fraction negative significand dropped.length behind
    else if p = 0x65 ∨ p = 0x45 then exponentPart negative significand dropped.length behind
    else integral negative significand dropped (p :: behind)

theorem unsignedNumber_eq {b : UInt8} {bs behind : List UInt8} {significand taken : Nat}
    (digit : isDigit b = true) (leading : Leading b bs significand taken behind)
    (negative : Bool) :
    unsignedNumber negative (b :: bs) =
      if b = 0x30 ∧ ¬ (behind.takeWhile isDigit).isEmpty then .error .malformed
      else behindWhole negative significand (behind.takeWhile isDigit)
        (behind.dropWhile isDigit) := by
  unfold Leading at leading
  rw [unsignedNumber, if_neg (not_not_intro digit), leading]
  dsimp only
  split
  · rfl
  · cases behind.dropWhile isDigit <;> rfl

theorem local_integral (negative : Bool) (significand : Nat) (dropped : List UInt8) :
    Local (integral negative significand dropped) := by
  intro bs n tail read
  unfold integral at read ⊢
  by_cases none : dropped.isEmpty = true
  · simp only [none, if_true] at read ⊢
    exact local_refuseOr _ read
  · simp only [none, Bool.false_eq_true, if_false] at read ⊢
    exact local_float _ _ _ read

theorem local_behindWhole (negative : Bool) (significand : Nat) (dropped : List UInt8) :
    Local (behindWhole negative significand dropped) := by
  intro bs n tail read
  cases bs with
  | nil =>
    have leaves := local_integral _ _ _ read
    refine ⟨leaves.suffix, ?_⟩
    intro rest stops
    rw [← leaves.append stops]
    cases rest with
    | nil => rfl
    | cons p rest =>
      obtain ⟨-, notPoint, notE, notCapital⟩ := stops p rfl
      simp only [List.nil_append, behindWhole, notPoint, notE, notCapital, or_self, if_false]
  | cons p bs =>
    rw [behindWhole] at read
    split at read
    · rename_i point
      have leaves := local_fraction _ _ _ read
      refine ⟨leaves.suffix.trans (List.suffix_cons p bs), ?_⟩
      intro rest stops
      rw [List.cons_append, behindWhole, if_pos point]
      exact leaves.append stops
    · rename_i notPoint
      split at read
      · rename_i mark
        have leaves := local_exponentPart _ _ _ read
        refine ⟨leaves.suffix.trans (List.suffix_cons p bs), ?_⟩
        intro rest stops
        rw [List.cons_append, behindWhole, if_neg notPoint, if_pos mark]
        exact leaves.append stops
      · rename_i other
        have leaves := local_integral _ _ _ read
        refine ⟨leaves.suffix, ?_⟩
        intro rest stops
        rw [List.cons_append, behindWhole, if_neg notPoint, if_neg other]
        exact leaves.append stops

theorem local_unsignedNumber (negative : Bool) : Local (unsignedNumber negative) := by
  intro bs n tail read
  cases bs with
  | nil => cases read
  | cons b bs =>
    by_cases digit : isDigit b = true
    · obtain ⟨significand, taken, behind, leading⟩ :
          ∃ significand taken behind, Leading b bs significand taken behind := ⟨_, _, _, rfl⟩
      rw [unsignedNumber_eq digit leading] at read
      split at read
      · cases read
      · rename_i alone
        have leaves := local_behindWhole _ _ _ read
        refine ⟨leaves.suffix.trans ((List.dropWhile_suffix _).trans
          (leading.suffix.trans (List.suffix_cons b bs))), ?_⟩
        intro rest stops
        rw [List.cons_append, unsignedNumber_eq digit (leading.append stops),
          takeWhile_append stops, dropWhile_append stops, if_neg alone]
        exact leaves.append stops
    · rw [unsignedNumber, if_pos digit] at read
      cases read

/-! ## Printed numbers -/

/-- Numbers are written with digits and four other characters. -/
def IsNumeric (c : Char) : Prop := c.isDigit = true ∨ c ∈ ['-', '.', 'e', '+']

theorem isNumeric_toDigits (n : Nat) : ∀ c ∈ Nat.toDigits 10 n, IsNumeric c :=
  fun _ member => Or.inl (isDigit_of_mem_toDigits member)

theorem isNumeric_zeros (n : Nat) : ∀ c ∈ List.replicate n '0', IsNumeric c := by
  intro c member
  rw [List.eq_of_mem_replicate member]
  exact Or.inl rfl

theorem isNumeric_append {as bs : List Char} (ha : ∀ c ∈ as, IsNumeric c)
    (hb : ∀ c ∈ bs, IsNumeric c) : ∀ c ∈ as ++ bs, IsNumeric c := by
  intro c member
  exact (List.mem_append.1 member).elim (ha c) (hb c)

theorem isNumeric_cons {a : Char} {bs : List Char} (ha : IsNumeric a)
    (hb : ∀ c ∈ bs, IsNumeric c) : ∀ c ∈ a :: bs, IsNumeric c :=
  List.forall_mem_cons.2 ⟨ha, hb⟩

theorem isNumeric_decimalText {digits : List Char} (h : ∀ c ∈ digits, IsNumeric c)
    (exponent : Int) : ∀ c ∈ decimalText digits exponent, IsNumeric c := by
  have point : IsNumeric '.' := Or.inr (by decide)
  have zero : IsNumeric '0' := Or.inl rfl
  unfold decimalText
  dsimp only
  split
  · split
    · refine isNumeric_append (isNumeric_append ?_ (isNumeric_zeros _)) (isNumeric_cons point ?_)
      · exact fun c member => h c (List.mem_of_mem_take member)
      · split
        · exact isNumeric_cons zero (by simp)
        · exact fun c member => h c (List.mem_of_mem_drop member)
    · exact isNumeric_cons zero (isNumeric_cons point (isNumeric_append (isNumeric_zeros _) h))
  · have mark : IsNumeric 'e' := Or.inr (by decide)
    have sign : IsNumeric (if exponent < 0 then '-' else '+') := by
      split <;> exact Or.inr (by decide)
    refine isNumeric_append ?_ (isNumeric_cons mark (isNumeric_cons sign (isNumeric_toDigits _)))
    split
    · simp
    · exact h
    · exact isNumeric_cons (h _ List.mem_cons_self) (isNumeric_cons point
        fun c member => h c (List.mem_cons_of_mem _ member))

theorem isNumeric_text (n : Number) : ∀ c ∈ n.text, IsNumeric c := by
  have minus : IsNumeric '-' := Or.inr (by decide)
  cases n with
  | integer i low high =>
    rw [Number.text, integerText]
    split
    · exact isNumeric_cons minus (isNumeric_toDigits _)
    · exact isNumeric_toDigits _
  | float x =>
    have digits := isNumeric_decimalText (isNumeric_toDigits x.magnitude.shortest.digits)
    rw [Number.text, floatText]
    split
    · exact isNumeric_cons minus (digits _)
    · exact digits _

/-- None of these is white space. -/
theorem skipSpace_numeric {bs : List UInt8} {cs : List Char} (numeric : ∀ c ∈ cs, IsNumeric c)
    (among : bs ⊆ Utf8.encode cs) : skipSpace bs = bs := by
  cases bs with
  | nil => rfl
  | cons b bs =>
    obtain ⟨c, member, byte⟩ := List.mem_flatMap.1 (among List.mem_cons_self)
    have visible : isSpace b = false := by
      rcases numeric c member with digit | mark
      · obtain ⟨d, bytes, isDigit, -⟩ := digit_byte digit
        rw [bytes, List.mem_singleton] at byte
        subst byte
        exact isSpace_of_isSpaceByte (visible_of_isDigit isDigit)
      · have low : c.toNat ≤ 0x7F ∧ isSpace (UInt8.ofNat c.toNat) = false := by
          simp only [List.mem_cons, List.not_mem_nil, or_false] at mark
          rcases mark with rfl | rfl | rfl | rfl <;> decide
        rw [Text.Utf8.utf8EncodeChar_ascii low.1, List.mem_singleton] at byte
        rw [byte]
        exact low.2
    exact skipSpace_cons visible bs

/-! ## Steady numbers -/

/-- The number is read from its own text. -/
def Number.Steady (n : Number) : Prop := Value.read (Value.number n).bytes = .ok (.number n)

/-- The number that a whole text holds. -/
def Value.readNumber? (bs : List UInt8) : Option Number :=
  match Value.read bs with
  | .ok (.number n) => some n
  | _ => none

theorem Value.readNumber?_eq_some {bs : List UInt8} {n : Number} :
    readNumber? bs = some n ↔ Value.read bs = .ok (.number n) := by
  unfold readNumber?
  split
  · rename_i m read
    simp [read]
  · rename_i other
    simp only [reduceCtorEq, false_iff]
    exact fun read => other n read

instance (n : Number) : Decidable n.Steady :=
  decidable_of_iff (Value.readNumber? (Value.number n).bytes = some n) Value.readNumber?_eq_some

theorem Value.bytes_number (n : Number) : (Value.number n).bytes = Utf8.encode n.text := by
  rw [bytes, text_number]

/-- All integers are. -/
theorem Number.steady_integer (n : Int) (low high) : (integer n low high).Steady := by
  have fits : n.natAbs < 0x10000000000000000 := by omega
  obtain ⟨b, behind, start, found⟩ : ∃ b behind, Utf8.encode (integerText n) = b :: behind ∧
      ∀ fuel depth, Found fuel b behind depth (.number (.integer n low high)) [] := by
    unfold integerText
    split
    · rename_i negative
      have reads := unsignedNumber_toDigits fits true Stops.nil
      rw [List.append_nil, whole_negative low high negative] at reads
      exact ⟨_, _, rfl, fun _ _ => .negative reads⟩
    · rename_i natural
      have reads := unsignedNumber_toDigits fits false Stops.nil
      rw [List.append_nil, whole_natural low high natural] at reads
      obtain ⟨d, ds, digits, -⟩ := toDigits_eq_cons n.natAbs
      obtain ⟨b, bytes, digit, -⟩ := digit_byte (isDigit_of_mem_toDigits (n := n.natAbs)
        (digits ▸ List.mem_cons_self))
      have head : Utf8.encode (Nat.toDigits 10 n.natAbs) = b :: Utf8.encode ds := by
        rw [digits, Text.Utf8.encode_cons, bytes]
        rfl
      rw [head] at reads ⊢
      exact ⟨_, _, rfl, fun _ _ => .natural digit reads⟩
  have numeral : (Value.number (.integer n low high)).bytes = b :: behind :=
    (Value.bytes_number _).trans start
  rw [Number.Steady, numeral, Value.read]
  have visible := skipSpace_cons (isSpace_of_isSpaceByte (found 0 0).visible) behind
  rw [(found _ _).value visible]
  rfl

/-- And found wherever that stands before something else. -/
theorem Number.Steady.found {n : Number} (h : n.Steady) :
    ∃ b behind, Utf8.encode n.text = b :: behind ∧ ∀ fuel depth rest, Stops rest →
      Found fuel b (behind ++ rest) depth (.number n) rest := by
  unfold Number.Steady at h
  rw [Value.bytes_number] at h
  obtain ⟨⟨v, tail⟩, read, finished⟩ := bind_eq_ok.1 h
  unfold finish at finished
  split at finished
  · rename_i clean
    cases finished
    obtain ⟨b, behind, start, found⟩ := value_found read
    rw [skipSpace_numeric (isNumeric_text n) (List.Subset.refl _)] at start
    have ends {more : List UInt8} (suffix : tail <:+ more) (among : more <:+ b :: behind) :
        tail = [] := by
      rw [← start] at among
      have whole := skipSpace_numeric (isNumeric_text n) (suffix.trans among).subset
      rw [whole] at clean
      exact List.isEmpty_iff.1 clean
    refine ⟨b, behind, start, ?_⟩
    intro fuel depth rest stops
    cases found with
    | negative number =>
      have leaves := local_unsignedNumber true number
      obtain rfl := ends leaves.suffix (List.suffix_cons _ _)
      exact .negative (leaves.append stops)
    | natural digit number =>
      have leaves := local_unsignedNumber false number
      obtain rfl := ends leaves.suffix (List.suffix_refl _)
      exact .natural digit (leaves.append stops)
  · cases finished

end ShardStore.Json
