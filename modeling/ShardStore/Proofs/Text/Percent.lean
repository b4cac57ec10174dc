/-
# ShardStore.Proofs.Text.Percent -- escaped bytes and query pairs are read back

Escaping leaves nothing but unreserved bytes and the percent sign, so an escaped text
is ASCII and holds no mark of a URL (`unreserved_of_mem_encode`), and every percent sign
of it begins an escape (`escaped_encode`); and a reader of escapes gives back exactly the
bytes (`decode_encode`).

A query of one pair whose parts hold none of `&`, `=`, `+` and `%` is that pair
(`Form.pairs_single`).
-/
import ShardStore.Proofs.Text.Utf8
import ShardStore.Text.Percent

namespace ShardStore.Text

set_option autoImplicit false

namespace Percent

/-! ## Hex digits -/

theorem hexValue?_hexDigit {n : Nat} (h : n < 16) : hexValue? (hexDigit n) = some n := by
  interval_cases n <;> rfl

theorem isUnreserved_hexDigit {n : Nat} (h : n < 16) : isUnreserved (hexDigit n) := by
  interval_cases n <;> rfl

theorem pair?_hexDigit (b : UInt8) :
    pair? (hexDigit (b.toNat / 16)) (hexDigit (b.toNat % 16)) = some b := by
  have bound := b.toNat_lt
  have whole : 16 * (b.toNat / 16) + b.toNat % 16 = b.toNat := by omega
  rw [pair?, hexValue?_hexDigit (by omega), hexValue?_hexDigit (by omega)]
  simp only [whole, UInt8.ofNat_toNat]

/-! ## Reading what was escaped -/

/-- A byte that is no percent sign is read as itself. -/
theorem decodeFrom_of_ne {b : UInt8} (h : b ≠ 0x25) (read rest : List UInt8) :
    decodeFrom read (b :: rest) = decodeFrom (b :: read) rest := by
  match rest with
  | [] => simp [decodeFrom]
  | [x] => simp [decodeFrom]
  | x :: y :: rest =>
    have : (b == 0x25) = false := by simpa using h
    simp only [decodeFrom, this]

theorem decodeFrom_encodeByte (b : UInt8) (read rest : List UInt8) :
    decodeFrom read (encodeByte b ++ rest) = decodeFrom (b :: read) rest := by
  unfold encodeByte
  split
  · rename_i plain
    have ne : b ≠ 0x25 := by rintro rfl; simp [isUnreserved] at plain
    exact decodeFrom_of_ne ne read rest
  · simp only [List.cons_append, List.nil_append, decodeFrom, pair?_hexDigit, beq_self_eq_true]

theorem decodeFrom_encode (bs read : List UInt8) :
    decodeFrom read (encode bs) = read.reverse ++ bs := by
  induction bs generalizing read with
  | nil => simp [encode, decodeFrom]
  | cons b bs ih =>
    have : encode (b :: bs) = encodeByte b ++ encode bs := rfl
    rw [this, decodeFrom_encodeByte, ih]
    simp

/-- Reading escapes gives back what was escaped. -/
theorem decode_encode (bs : List UInt8) : decode (encode bs) = bs := decodeFrom_encode bs []

theorem decode_of_notMem {bs : List UInt8} (h : 0x25 ∉ bs) : decode bs = bs := by
  have reads : ∀ read, decodeFrom read bs = read.reverse ++ bs := by
    induction bs with
    | nil => intro read; simp [decodeFrom]
    | cons b rest ih =>
      intro read
      simp only [List.mem_cons, not_or] at h
      rw [decodeFrom_of_ne (Ne.symm h.1), ih h.2]
      simp
  exact reads []

/-! ## What an escaped text is made of -/

theorem unreserved_of_mem_encode {bs : List UInt8} {b : UInt8} (h : b ∈ encode bs) :
    isUnreserved b ∨ b = 0x25 := by
  obtain ⟨x, -, hx⟩ := List.mem_flatMap.1 h
  have bound := x.toNat_lt
  unfold encodeByte at hx
  split at hx
  · rw [List.mem_singleton] at hx
    subst hx
    exact Or.inl ‹_›
  · simp only [List.mem_cons, List.not_mem_nil, or_false] at hx
    rcases hx with rfl | rfl | rfl
    · exact Or.inr rfl
    · exact Or.inl (isUnreserved_hexDigit (by omega))
    · exact Or.inl (isUnreserved_hexDigit (by omega))

theorem isUnreserved_ascii {b : UInt8} (h : isUnreserved b) : b.toNat ≤ 0x7F := by
  simp only [isUnreserved, Bool.or_eq_true, Bool.and_eq_true, decide_eq_true_eq,
    UInt8.le_iff_toNat_le] at h
  rcases h with (((((h | h) | h) | rfl) | rfl) | rfl) | rfl
  · exact h.2.trans (by decide)
  · exact h.2.trans (by decide)
  · exact h.2.trans (by decide)
  all_goals decide

theorem ascii_of_mem_encode {bs : List UInt8} {b : UInt8} (h : b ∈ encode bs) :
    b.toNat ≤ 0x7F := by
  rcases unreserved_of_mem_encode h with plain | rfl
  · exact isUnreserved_ascii plain
  · decide

/-- Text made of unreserved characters and escapes. -/
inductive Escaped : List UInt8 → Prop where
  | nil : Escaped []
  | plain {b : UInt8} {rest : List UInt8} (unreserved : isUnreserved b) (behind : Escaped rest) :
      Escaped (b :: rest)
  | escape {h l : UInt8} {rest : List UInt8} (high : (hexValue? h).isSome)
      (low : (hexValue? l).isSome) (behind : Escaped rest) : Escaped (0x25 :: h :: l :: rest)

theorem escaped_encodeByte (b : UInt8) {rest : List UInt8} (behind : Escaped rest) :
    Escaped (encodeByte b ++ rest) := by
  have bound := b.toNat_lt
  unfold encodeByte
  split
  · exact .plain ‹_› behind
  · refine .escape ?_ ?_ behind
    · rw [hexValue?_hexDigit (by omega)]
      rfl
    · rw [hexValue?_hexDigit (by omega)]
      rfl

theorem escaped_encode (bs : List UInt8) : Escaped (encode bs) := by
  induction bs with
  | nil => exact .nil
  | cons b bs ih => exact escaped_encodeByte b ih

theorem encode_ne_nil {bs : List UInt8} (h : bs ≠ []) : encode bs ≠ [] := by
  intro empty
  have := decode_encode bs
  rw [empty] at this
  exact h this.symm

end Percent

namespace Form

/-- Text that a query holds as it is. -/
def Plain (cs : List Char) : Prop := ∀ c ∈ cs, c ∉ ['&', '=', '+', '%']

/-- A byte of a text that is ASCII is one of its characters. -/
theorem ascii_mem_of_mem_encode {cs : List Char} {b : UInt8} (h : b ∈ Utf8.encode cs)
    (low : b.toNat ≤ 0x7F) : Utf8.ascii b ∈ cs := by
  obtain ⟨c, hc, hb⟩ := List.mem_flatMap.1 h
  have small : c.toNat ≤ 0x7F := by
    by_contra large
    have := Utf8.le_of_mem_utf8EncodeChar (by omega) hb
    omega
  rw [Utf8.utf8EncodeChar_ascii small, List.mem_singleton] at hb
  have value : b.toNat = c.toNat := by
    rw [hb, UInt8.toNat_ofNat']
    omega
  have : Utf8.ascii b = c := by
    rw [Utf8.ascii, value, Char.ofNat_toNat]
  rwa [this]

theorem Plain.notMem {cs : List Char} (h : Plain cs) {b : UInt8} (low : b.toNat ≤ 0x7F)
    (mark : Utf8.ascii b ∈ ['&', '=', '+', '%']) : b ∉ Utf8.encode cs :=
  fun member => h _ (ascii_mem_of_mem_encode member low) mark

theorem text_encode {cs : List Char} (h : Plain cs) : text (Utf8.encode cs) = String.ofList cs := by
  have noPlus : (Utf8.encode cs).map (fun b => if b = 0x2B then 0x20 else b) = Utf8.encode cs := by
    rw [List.map_congr_left (g := id), List.map_id]
    intro b hb
    have : b ≠ 0x2B := by
      rintro rfl
      exact h.notMem (by decide) (by decide) hb
    simp [this]
  have noPercent : 0x25 ∉ Utf8.encode cs := h.notMem (by decide) (by decide)
  rw [text, noPlus, Percent.decode_of_notMem noPercent, Utf8.decodeLossy_encode]

/-- One pair is read as it was written. -/
theorem pairs_single {name value : List Char} (hn : Plain name) (hv : Plain value) :
    pairs (Utf8.encode (name ++ '=' :: value)) =
      [(String.ofList name, String.ofList value)] := by
  have bytes : Utf8.encode (name ++ '=' :: value) =
      Utf8.encode name ++ 0x3D :: Utf8.encode value := by
    rw [Utf8.encode_append, Utf8.encode_cons]
    rfl
  have whole : 0x26 ∉ Utf8.encode name ++ 0x3D :: Utf8.encode value := by
    have inName : 0x26 ∉ Utf8.encode name := hn.notMem (by decide) (by decide)
    have inValue : 0x26 ∉ Utf8.encode value := hv.notMem (by decide) (by decide)
    simp [inName, inValue]
  have cut : ∀ x ∈ Utf8.encode name, decide (x ≠ 0x3D) = true := by
    rintro x hx
    have : x ≠ 0x3D := by
      rintro rfl
      exact hn.notMem (by decide) (by decide) hx
    simpa using this
  have left : (Utf8.encode name ++ 0x3D :: Utf8.encode value).takeWhile (· ≠ 0x3D) =
      Utf8.encode name := by
    rw [List.takeWhile_append_of_pos cut]
    simp
  have right : ((Utf8.encode name ++ 0x3D :: Utf8.encode value).dropWhile (· ≠ 0x3D)).drop 1 =
      Utf8.encode value := by
    rw [List.dropWhile_append_of_pos cut]
    simp
  rw [bytes, pairs, List.splitOn_eq_singleton whole]
  simp only [List.filter_cons, List.filter_nil]
  rw [if_pos (by simp)]
  simp only [List.map_cons, List.map_nil, pair, left, right, text_encode hn, text_encode hv]

end Form

end ShardStore.Text
