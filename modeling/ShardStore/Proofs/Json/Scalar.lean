/-
# ShardStore.Proofs.Json.Scalar -- strings and integers are read back

A string is read back behind its opening quote, whatever follows its closing quote
(`string_quote`).  An integer is read back where no digit, point or exponent follows
(`Stops`); it takes the reader less than `2 ^ 64` of significand, so no digit is dropped
and no double is made (`unsignedNumber_toDigits`).
-/
import Mathlib.Tactic.IntervalCases
import ShardStore.Json.Reader
import ShardStore.Proofs.Json.Text
import ShardStore.Proofs.Text.Numeral
import ShardStore.Proofs.Text.Utf8

namespace ShardStore.Json

set_option autoImplicit false

open Text (Utf8.encode)
open Text.Numeral (isDigit_of_mem_toDigits le_ofDigitChars toDigits_eq_cons)

/-! ## Strings -/

/-- Bytes that need no escape are read as they are. -/
theorem stringBytes_plain {bs : List UInt8}
    (h : ∀ b ∈ bs, 0x20 ≤ b.toNat ∧ b ≠ 0x22 ∧ b ≠ 0x5C) (read rest : List UInt8) :
    stringBytes read (bs ++ rest) = stringBytes (bs.reverse ++ read) rest := by
  induction bs generalizing read with
  | nil => rfl
  | cons b bs ih =>
    obtain ⟨visible, notQuote, notSlash⟩ := h b List.mem_cons_self
    have notControl : ¬ b < 0x20 := by
      rw [UInt8.lt_iff_toNat_lt]
      exact Nat.not_lt.2 visible
    rw [List.cons_append, stringBytes.eq_def]
    dsimp only
    rw [if_neg notQuote, if_neg notControl, if_pos notSlash,
      ih fun x hx => h x (List.mem_cons_of_mem _ hx)]
    simp

theorem stringBytes_short {e c : UInt8} (h : unescape? e = some c) (read rest : List UInt8) :
    stringBytes read (0x5C :: e :: rest) = stringBytes (c :: read) rest := by
  have notCode : e ≠ 0x75 := by
    rintro rfl
    simp [unescape?] at h
  rw [stringBytes.eq_def]
  simp [notCode, h]

theorem stringBytes_code {u v w x : UInt8} {n : Nat} (h : codeUnit? u v w x = some n)
    (low : n < 0xD800) (read rest : List UInt8) :
    stringBytes read (0x5C :: 0x75 :: u :: v :: w :: x :: rest) =
      stringBytes (pushCode n read) rest := by
  have notHigh : isHighSurrogate n = false := by simp [isHighSurrogate]; omega
  have notLow : isLowSurrogate n = false := by simp [isLowSurrogate]; omega
  rw [stringBytes.eq_def]
  simp [h, notHigh, notLow]

/-- The hex digits that the printer writes for a control character. -/
theorem codeUnit?_control {n : Nat} (h : n < 0x20) :
    codeUnit? 0x30 0x30 (UInt8.ofNat (Nat.digitChar (n / 16)).toNat)
      (UInt8.ofNat (Nat.digitChar (n % 16)).toNat) = some n := by
  interval_cases n <;> rfl

theorem digitChar_ascii {n : Nat} (h : n < 16) : (Nat.digitChar n).toNat ≤ 0x7F := by
  interval_cases n <;> decide

/-- How a character is printed in a string: behind a backslash as one letter, or as four hex
digits, or else as it is. -/
inductive Spelling (c : Char) : List UInt8 → Prop where
  | short {e b : UInt8} (known : unescape? e = some b) (alone : String.utf8EncodeChar c = [b]) :
      Spelling c [0x5C, e]
  | code {u v w x : UInt8} (known : codeUnit? u v w x = some c.toNat) (control : c.toNat < 0x20) :
      Spelling c [0x5C, 0x75, u, v, w, x]
  | plain (free : ∀ b ∈ String.utf8EncodeChar c, 0x20 ≤ b.toNat ∧ b ≠ 0x22 ∧ b ≠ 0x5C) :
      Spelling c (String.utf8EncodeChar c)

theorem spelling_escape (c : Char) : Spelling c (Utf8.encode (escape c)) := by
  unfold escape
  iterate 7
    split
    · subst_vars
      exact .short (by decide) rfl
  split
  · rename_i control
    have bytes : Utf8.encode ['\\', 'u', '0', '0', Nat.digitChar (c.toNat / 16),
        Nat.digitChar (c.toNat % 16)] =
        [0x5C, 0x75, 0x30, 0x30, UInt8.ofNat (Nat.digitChar (c.toNat / 16)).toNat,
          UInt8.ofNat (Nat.digitChar (c.toNat % 16)).toNat] := by
      simp only [Text.Utf8.encode_cons, Text.Utf8.encode_nil,
        Text.Utf8.utf8EncodeChar_ascii (digitChar_ascii (show c.toNat / 16 < 16 by omega)),
        Text.Utf8.utf8EncodeChar_ascii (digitChar_ascii (show c.toNat % 16 < 16 by omega))]
      rfl
    rw [bytes]
    exact .code (codeUnit?_control control) control
  · rename_i notQuote notSlash _ _ _ _ _ visible
    have bytes : Utf8.encode [c] = String.utf8EncodeChar c := by simp
    rw [bytes]
    refine .plain fun b member => ?_
    by_cases ascii : c.toNat ≤ 0x7F
    · rw [Text.Utf8.utf8EncodeChar_ascii ascii, List.mem_singleton] at member
      have value : b.toNat = c.toNat := by rw [member, UInt8.toNat_ofNat']; omega
      refine ⟨by omega, ?_, ?_⟩
      · rintro rfl
        exact notQuote (Char.toNat_inj.1 value.symm)
      · rintro rfl
        exact notSlash (Char.toNat_inj.1 value.symm)
    · have beyond := Text.Utf8.le_of_mem_utf8EncodeChar (by omega) member
      refine ⟨by omega, ?_, ?_⟩ <;> rintro rfl <;> exact absurd beyond (by decide)

/-- An escaped character is read as its bytes. -/
theorem stringBytes_escape (c : Char) (read rest : List UInt8) :
    stringBytes read (Utf8.encode (escape c) ++ rest) =
      stringBytes ((String.utf8EncodeChar c).reverse ++ read) rest := by
  have spelling := spelling_escape c
  generalize Utf8.encode (escape c) = bytes at spelling
  cases spelling with
  | short known alone =>
    rw [alone]
    exact stringBytes_short known read rest
  | code known control =>
    have read := stringBytes_code known (by omega) read rest
    rwa [pushCode, Char.ofNat_toNat, List.reverseAux_eq] at read
  | plain free => exact stringBytes_plain free read rest

theorem stringBytes_escapes (cs : List Char) (read rest : List UInt8) :
    stringBytes read (Utf8.encode (cs.flatMap escape) ++ rest) =
      stringBytes ((Utf8.encode cs).reverse ++ read) rest := by
  induction cs generalizing read with
  | nil => rfl
  | cons c cs ih =>
    rw [List.flatMap_cons, Text.Utf8.encode_append, List.append_assoc, stringBytes_escape, ih,
      Text.Utf8.encode_cons]
    simp

/-- Behind its opening quote a printed string is read back. -/
theorem string_quote (s : String) (rest : List UInt8) :
    string (Utf8.encode (s.toList.flatMap escape) ++ 0x22 :: rest) = .ok (s, rest) := by
  rw [string, stringBytes_escapes, stringBytes.eq_def]
  simp [bind, Except.bind, pure, Except.pure]

theorem encode_quote (s : String) (rest : List UInt8) :
    Utf8.encode (quote s) ++ rest =
      0x22 :: (Utf8.encode (s.toList.flatMap escape) ++ 0x22 :: rest) := by
  rw [quote, Text.Utf8.encode_cons, Text.Utf8.encode_append]
  simp
  rfl

/-! ## Integers -/

/-- Nothing follows that a number could go on with. -/
def Stops (rest : List UInt8) : Prop :=
  ∀ b ∈ rest.head?, isDigit b = false ∧ b ≠ 0x2E ∧ b ≠ 0x65 ∧ b ≠ 0x45

theorem Stops.nil : Stops [] := by simp [Stops]

theorem Stops.cons {b : UInt8} {rest : List UInt8}
    (h : isDigit b = false ∧ b ≠ 0x2E ∧ b ≠ 0x65 ∧ b ≠ 0x45) : Stops (b :: rest) := by
  simpa [Stops] using h

theorem Stops.takeWhile {rest : List UInt8} (h : Stops rest) : rest.takeWhile isDigit = [] := by
  cases rest with
  | nil => rfl
  | cons b rest => simp [(h b rfl).1]

theorem Stops.dropWhile {rest : List UInt8} (h : Stops rest) : rest.dropWhile isDigit = rest := by
  cases rest with
  | nil => rfl
  | cons b rest => simp [(h b rfl).1]

/-- A decimal digit is one byte, which the reader takes for its value. -/
theorem digit_byte {c : Char} (h : c.isDigit) :
    ∃ b, String.utf8EncodeChar c = [b] ∧ isDigit b = true ∧ digitValue b = c.toNat - '0'.toNat ∧
      (b = 0x30 ↔ c = '0') := by
  simp only [Char.isDigit, Bool.and_eq_true, decide_eq_true_eq] at h
  have low : 48 ≤ c.toNat := h.1
  have high : c.toNat ≤ 57 := h.2
  have value : (UInt8.ofNat c.toNat).toNat = c.toNat := by rw [UInt8.toNat_ofNat']; omega
  refine ⟨UInt8.ofNat c.toNat, Text.Utf8.utf8EncodeChar_ascii (by omega), ?_, ?_, ?_⟩
  · simp only [isDigit, UInt8.le_iff_toNat_le, value, Bool.and_eq_true, decide_eq_true_eq]
    exact ⟨low, high⟩
  · rw [digitValue, value]
    rfl
  · rw [← UInt8.toNat_inj, value, ← Char.toNat_inj]
    rfl

/-- All digits are collected while their value stays below `2 ^ 64`. -/
theorem collect_digits {cs : List Char} (digits : ∀ c ∈ cs, c.isDigit) {rest : List UInt8}
    (stops : Stops rest) (significand taken : Nat)
    (fits : Nat.ofDigitChars 10 cs significand < 0x10000000000000000) :
    collect significand taken (Utf8.encode cs ++ rest) =
      (Nat.ofDigitChars 10 cs significand, taken + cs.length, rest) := by
  induction cs generalizing significand taken with
  | nil =>
    rw [Text.Utf8.encode_nil, List.nil_append, Nat.ofDigitChars_nil]
    cases rest with
    | nil => rfl
    | cons b rest => simp [collect, (stops b rfl).1]
  | cons c cs ih =>
    obtain ⟨b, bytes, digit, value, -⟩ := digit_byte (digits c List.mem_cons_self)
    rw [Nat.ofDigitChars_cons] at fits
    have next : 10 * significand + digitValue b < 0x10000000000000000 := by
      rw [value]
      exact Nat.lt_of_le_of_lt (le_ofDigitChars cs _) fits
    rw [Text.Utf8.encode_cons, bytes, List.singleton_append, List.cons_append, collect]
    rw [if_pos ⟨digit, next⟩, value,
      ih (fun x hx => digits x (List.mem_cons_of_mem _ hx)) _ _ fits, Nat.ofDigitChars_cons]
    simp only [List.length_cons, Prod.mk.injEq, true_and, and_true]
    omega

/-- Behind its sign a printed integer is read as a whole number. -/
theorem unsignedNumber_toDigits {n : Nat} (fits : n < 0x10000000000000000) (negative : Bool)
    {rest : List UInt8} (stops : Stops rest) :
    unsignedNumber negative (Utf8.encode (Nat.toDigits 10 n) ++ rest) =
      refuseOr rest (whole negative n) := by
  obtain ⟨d, ds, digits, leading⟩ := toDigits_eq_cons n
  have allDigits : ∀ c ∈ d :: ds, c.isDigit := fun c member =>
    isDigit_of_mem_toDigits (n := n) (digits ▸ member)
  have total : Nat.ofDigitChars 10 ds (d.toNat - '0'.toNat) = n := by
    have := Nat.ofDigitChars_ten_toDigits (n := n)
    rwa [digits, Nat.ofDigitChars_cons, Nat.mul_zero, Nat.zero_add] at this
  obtain ⟨b, bytes, digit, value, zero⟩ := digit_byte (allDigits d List.mem_cons_self)
  have collected :
      (if b = 0x30 then (0, 1, Utf8.encode ds ++ rest)
        else collect (digitValue b) 1 (Utf8.encode ds ++ rest)) =
        (n, 1 + ds.length, rest) := by
    split
    · rename_i isZero
      obtain ⟨rfl, rfl⟩ := leading (zero.1 isZero)
      rfl
    · rw [collect_digits (fun c hc => allDigits c (List.mem_cons_of_mem _ hc)) stops, value, total]
      rw [value, total]
      exact fits
  rw [digits, Text.Utf8.encode_cons, bytes, List.singleton_append, List.cons_append,
    unsignedNumber]
  simp only [digit, not_true_eq_false, if_false, collected, stops.takeWhile, stops.dropWhile,
    List.isEmpty_nil, and_false, if_true]
  cases rest with
  | nil => rfl
  | cons p behind =>
    obtain ⟨-, notPoint, notE, notCapital⟩ := stops p rfl
    simp [notPoint, notE, notCapital]

theorem whole_negative {n : Int} (low : -0x8000000000000000 ≤ n) (high : n < 0x10000000000000000)
    (negative : n < 0) : whole true n.natAbs = some (.integer n low high) := by
  have fits : 0 < n.natAbs ∧ n.natAbs ≤ 0x8000000000000000 := by omega
  have same : -(n.natAbs : Int) = n := by omega
  simp only [whole, if_true, dif_pos fits, same]

theorem whole_natural {n : Int} (low : -0x8000000000000000 ≤ n) (high : n < 0x10000000000000000)
    (natural : ¬ n < 0) : whole false n.natAbs = some (.integer n low high) := by
  have fits : n.natAbs < 0x10000000000000000 := by omega
  have same : (n.natAbs : Int) = n := by omega
  simp only [whole, Bool.false_eq_true, if_false, dif_pos fits, same]

end ShardStore.Json
