/-
# ShardStore.Proofs.Text.Utf8 -- written text is read back

The bytes of a character carry it through the reader: a lead byte announces as many
continuation bytes as were written, and the bounds on the first of them leave out
nothing that a character needs (`scan_encodeChar`).  So neither reader finds a defect
in written text, and both give the characters back.

* `decode?_encode`, `decodeLossy_encode` -- reading what was written;
* `encode_decodeLossy` -- ASCII bytes are themselves the text's bytes;
* `decode?_eq_some` -- no other bytes are read without a defect than those of a text;
* `bytes_lt_bytes` -- texts and their bytes are in one order.
-/
import Mathlib.Tactic.IntervalCases
import ShardStore.Text.Utf8

namespace ShardStore.Text.Utf8

set_option autoImplicit false

/-! ## Lead bytes -/

theorem ofByte_one {n : Nat} (h : n ≤ 0x7F) :
    Lead.ofByte (UInt8.ofNat n) = .scalar (Char.ofNat n) := by
  interval_cases n <;> rfl

theorem ofByte_two {n : Nat} (low : 2 ≤ n) (high : n < 32) :
    Lead.ofByte (UInt8.ofNat (n + 0xC0)) = .opens { bits := n, later := 0 } := by
  interval_cases n <;> rfl

/-- The next byte is bounded below after `E0`, and above after `ED`. -/
theorem ofByte_three {n : Nat} (h : n < 16) :
    Lead.ofByte (UInt8.ofNat (n + 0xE0)) = .opens
      { bits := n, later := 1
        low := if n = 0 then 0xA0 else 0x80
        high := if n = 13 then 0x9F else 0xBF } := by
  interval_cases n <;> rfl

/-- The next byte is bounded below after `F0`, and above after `F4`. -/
theorem ofByte_four {n : Nat} (h : n ≤ 4) :
    Lead.ofByte (UInt8.ofNat (n + 0xF0)) = .opens
      { bits := n, later := 2
        low := if n = 0 then 0x90 else 0x80
        high := if n = 4 then 0x8F else 0xBF } := by
  interval_cases n <;> rfl

/-! ## Continuation bytes -/

theorem toNat_continuation (n : Nat) : (UInt8.ofNat (n % 64 + 0x80)).toNat = n % 64 + 0x80 := by
  rw [UInt8.toNat_ofNat']
  omega

/-- A continuation byte within the bounds carries six bits. -/
theorem scan_continuation {p : Pending} {n : Nat} (read : List (Option Char))
    (rest : List UInt8) (low : p.low.toNat ≤ n % 64 + 0x80)
    (high : n % 64 + 0x80 ≤ p.high.toNat) :
    scan (some p) read (UInt8.ofNat (n % 64 + 0x80) :: rest) =
      match p.later with
      | 0 => scan none (some (Char.ofNat (p.bits * 64 + n % 64)) :: read) rest
      | later + 1 => scan (some { bits := p.bits * 64 + n % 64, later }) read rest := by
  have within : p.low ≤ UInt8.ofNat (n % 64 + 0x80) ∧ UInt8.ofNat (n % 64 + 0x80) ≤ p.high := by
    rw [UInt8.le_iff_toNat_le, UInt8.le_iff_toNat_le, toNat_continuation]
    exact ⟨low, high⟩
  have six : (n % 64 + 0x80) % 64 = n % 64 := by omega
  rw [scan, if_pos within, Pending.push, toNat_continuation, six]
  cases p.later <;> rfl

/-! ## Characters -/

/-- The bytes of a character are read as that character, whatever follows. -/
theorem scan_encodeChar (c : Char) (read : List (Option Char)) (rest : List UInt8) :
    scan none read (String.utf8EncodeChar c ++ rest) = scan none (some c :: read) rest := by
  have same : Char.ofNat c.toNat = c := Char.ofNat_toNat c
  have valid : c.toNat < 0xD800 ∨ 0xDFFF < c.toNat ∧ c.toNat < 0x110000 := c.valid
  have value : c.val.toNat = c.toNat := rfl
  unfold String.utf8EncodeChar
  simp only [value]
  generalize c.toNat = v at same valid
  -- one case for each number of bytes
  split
  · rename_i one
    simp only [List.cons_append, List.nil_append, scan, ofByte_one one, same]
  split
  · rename_i one two
    have bits : v / 64 % 32 = v / 64 := by omega
    have whole : v / 64 * 64 + v % 64 = v := by omega
    simp only [List.cons_append, List.nil_append, bits]
    rw [scan, ofByte_two (by omega) (by omega)]
    simp only
    rw [scan_continuation read rest (by simp) (by simp; omega)]
    simp only [whole, same]
  split
  · rename_i one two three
    have bits : v / 4096 % 16 = v / 4096 := by omega
    have whole : (v / 4096 * 64 + v / 64 % 64) * 64 + v % 64 = v := by omega
    simp only [List.cons_append, List.nil_append, bits]
    rw [scan, ofByte_three (by omega)]
    simp only
    -- the bounds leave out overlong forms and surrogates, and `v` is neither
    rw [scan_continuation read _ (by dsimp only; split <;> simp; omega)
      (by dsimp only; split <;> simp <;> omega)]
    simp only
    rw [scan_continuation read rest (by simp) (by simp; omega)]
    simp only [whole, same]
  · rename_i one two three
    have bits : v / 262144 % 8 = v / 262144 := by omega
    have whole : ((v / 262144 * 64 + v / 4096 % 64) * 64 + v / 64 % 64) * 64 + v % 64 = v := by
      omega
    simp only [List.cons_append, List.nil_append, bits]
    rw [scan, ofByte_four (by omega)]
    simp only
    rw [scan_continuation read _ (by dsimp only; split <;> simp; omega)
      (by dsimp only; split <;> simp <;> omega)]
    simp only
    rw [scan_continuation read _ (by simp) (by simp; omega)]
    simp only
    rw [scan_continuation read rest (by simp) (by simp; omega)]
    simp only [whole, same]

theorem scan_encode (cs : List Char) (read : List (Option Char)) (rest : List UInt8) :
    scan none read (encode cs ++ rest) = scan none ((cs.map some).reverse ++ read) rest := by
  induction cs generalizing read with
  | nil => rfl
  | cons c cs ih =>
    rw [encode_cons, List.append_assoc, scan_encodeChar, ih]
    simp

/-! ## Reading what was written -/

@[simp] theorem symbols_encode (cs : List Char) : symbols (encode cs) = cs.map some := by
  have := scan_encode cs [] []
  simpa [symbols, scan] using this

@[simp] theorem decode?_encode (cs : List Char) : decode? (encode cs) = some cs := by
  simp [decode?]

@[simp] theorem decodeLossy_encode (cs : List Char) : decodeLossy (encode cs) = cs := by
  simp [decodeLossy, Function.comp_def]

/-! ## ASCII -/

theorem utf8EncodeChar_ascii {c : Char} (h : c.toNat ≤ 0x7F) :
    String.utf8EncodeChar c = [UInt8.ofNat c.toNat] :=
  if_pos h

/-- ASCII characters have one byte each. -/
theorem length_encode_ascii {cs : List Char} (h : ∀ c ∈ cs, c.toNat ≤ 0x7F) :
    (encode cs).length = cs.length := by
  induction cs with
  | nil => rfl
  | cons c cs ih =>
    rw [encode_cons, utf8EncodeChar_ascii (h c List.mem_cons_self), List.singleton_append,
      List.length_cons, ih fun x hx => h x (List.mem_cons_of_mem _ hx), List.length_cons]

/-- The bytes of a character beyond ASCII are all beyond ASCII. -/
theorem le_of_mem_utf8EncodeChar {c : Char} (h : 0x7F < c.toNat) {b : UInt8}
    (member : b ∈ String.utf8EncodeChar c) : 0x80 ≤ b.toNat := by
  have value : c.val.toNat = c.toNat := rfl
  unfold String.utf8EncodeChar at member
  simp only [value] at member
  rw [if_neg (by omega)] at member
  split at member
  · simp only [List.mem_cons, List.not_mem_nil, or_false] at member
    rcases member with rfl | rfl <;> rw [UInt8.toNat_ofNat'] <;> omega
  split at member
  · simp only [List.mem_cons, List.not_mem_nil, or_false] at member
    rcases member with rfl | rfl | rfl <;> rw [UInt8.toNat_ofNat'] <;> omega
  · simp only [List.mem_cons, List.not_mem_nil, or_false] at member
    rcases member with rfl | rfl | rfl | rfl <;> rw [UInt8.toNat_ofNat'] <;> omega

/-- An ASCII byte as a character. -/
def ascii (b : UInt8) : Char := Char.ofNat b.toNat

theorem toNat_ascii {b : UInt8} (h : b.toNat ≤ 0x7F) : (ascii b).toNat = b.toNat := by
  have valid : b.toNat.isValidChar := Or.inl (by omega)
  rw [ascii, Char.ofNat, dif_pos valid]
  rfl

theorem encode_map_ascii {bs : List UInt8} (h : ∀ b ∈ bs, b.toNat ≤ 0x7F) :
    encode (bs.map ascii) = bs := by
  induction bs with
  | nil => rfl
  | cons b rest ih =>
    have low := h b List.mem_cons_self
    rw [List.map_cons, encode_cons, ih fun x hx => h x (List.mem_cons_of_mem _ hx),
      utf8EncodeChar_ascii (by rw [toNat_ascii low]; exact low), toNat_ascii low]
    simp

theorem decodeLossy_ascii {bs : List UInt8} (h : ∀ b ∈ bs, b.toNat ≤ 0x7F) :
    decodeLossy bs = bs.map ascii := by
  have := decodeLossy_encode (bs.map ascii)
  rwa [encode_map_ascii h] at this

/-- ASCII bytes read as text are the bytes of that text. -/
theorem encode_decodeLossy {bs : List UInt8} (h : ∀ b ∈ bs, b.toNat ≤ 0x7F) :
    encode (decodeLossy bs) = bs := by
  rw [decodeLossy_ascii h, encode_map_ascii h]

/-! ## Bytes without a defect -/

/-- What was read stays. -/
theorem mem_scan {o : Option Char} {read : List (Option Char)} (h : o ∈ read)
    (p : Option Pending) (bs : List UInt8) : o ∈ scan p read bs := by
  induction bs generalizing p read with
  | nil => cases p <;> simp [scan, h]
  | cons b rest ih =>
    have later {r : List (Option Char)} (p : Option Pending) (kept : o ∈ r) := ih kept p
    rw [scan.eq_def]
    cases p with
    | none =>
      dsimp only
      split <;> exact later _ (by simp [h])
    | some p =>
      dsimp only
      split
      · split <;> exact later _ (by simp [h])
      · split <;> exact later _ (by simp [h])

theorem ofByte_stray {n : Nat} (low : 0x7F < n) (high : n < 0x100)
    (gap : n < 0xC2 ∨ 0xF4 < n) : Lead.ofByte (UInt8.ofNat n) = .stray := by
  rcases gap with gap | gap <;> interval_cases n <;> rfl

/-- A byte that does not break off a sequence carries six bits. -/
theorem scan_open {p : Pending} {read : List (Option Char)} {bs : List UInt8}
    (low : 0x80 ≤ p.low.toNat) (high : p.high.toNat ≤ 0xBF)
    (whole : none ∉ scan (some p) read bs) :
    ∃ n rest, bs = UInt8.ofNat (n % 64 + 0x80) :: rest ∧
      p.low.toNat ≤ n % 64 + 0x80 ∧ n % 64 + 0x80 ≤ p.high.toNat := by
  cases bs with
  | nil => exact absurd (by simp [scan]) whole
  | cons b rest =>
    by_cases within : p.low ≤ b ∧ b ≤ p.high
    · rw [UInt8.le_iff_toNat_le, UInt8.le_iff_toNat_le] at within
      have six : (b.toNat - 0x80) % 64 + 0x80 = b.toNat := by omega
      refine ⟨b.toNat - 0x80, rest, ?_, by omega, by omega⟩
      rw [six, UInt8.ofNat_toNat]
    · refine absurd ?_ whole
      rw [scan, if_neg within]
      split <;> exact mem_scan (by simp) _ _

theorem toNat_ofNat {v : Nat} (h : v < 0xD800 ∨ 0xDFFF < v ∧ v < 0x110000) :
    (Char.ofNat v).val.toNat = v := by
  have valid : v.isValidChar := h
  rw [Char.ofNat, dif_pos valid]
  rfl

/-- The characters that sequences of two, three and four bytes spell have those bytes. -/
theorem utf8EncodeChar_two {n x : Nat} (low : 2 ≤ n) (high : n < 32) :
    String.utf8EncodeChar (Char.ofNat (n * 64 + x % 64)) =
      [UInt8.ofNat (n + 0xC0), UInt8.ofNat (x % 64 + 0x80)] := by
  have value := toNat_ofNat (v := n * 64 + x % 64) (by omega)
  have first : (n * 64 + x % 64) / 64 % 32 = n := by omega
  have last : (n * 64 + x % 64) % 64 = x % 64 := by omega
  simp only [String.utf8EncodeChar, value]
  rw [if_neg (by omega), if_pos (by omega), first, last]

theorem utf8EncodeChar_three {n x y v : Nat} (parts : v = (n * 64 + x % 64) * 64 + y % 64)
    (long : 0x800 ≤ v) (valid : v < 0xD800 ∨ 0xDFFF < v) (high : n < 16) :
    String.utf8EncodeChar (Char.ofNat v) =
      [UInt8.ofNat (n + 0xE0), UInt8.ofNat (x % 64 + 0x80), UInt8.ofNat (y % 64 + 0x80)] := by
  have value := toNat_ofNat (v := v) (by omega)
  have first : v / 4096 % 16 = n := by omega
  have second : v / 64 % 64 = x % 64 := by omega
  have last : v % 64 = y % 64 := by omega
  simp only [String.utf8EncodeChar, value]
  rw [if_neg (by omega), if_neg (by omega), if_pos (by omega), first, second, last]

theorem utf8EncodeChar_four {n x y z v : Nat}
    (parts : v = ((n * 64 + x % 64) * 64 + y % 64) * 64 + z % 64)
    (long : 0x10000 ≤ v) (valid : v < 0x110000) :
    String.utf8EncodeChar (Char.ofNat v) =
      [UInt8.ofNat (n + 0xF0), UInt8.ofNat (x % 64 + 0x80), UInt8.ofNat (y % 64 + 0x80),
        UInt8.ofNat (z % 64 + 0x80)] := by
  have value := toNat_ofNat (v := v) (by omega)
  have first : v / 262144 % 8 = n := by omega
  have second : v / 4096 % 64 = x % 64 := by omega
  have third : v / 64 % 64 = y % 64 := by omega
  have last : v % 64 = z % 64 := by omega
  simp only [String.utf8EncodeChar, value]
  rw [if_neg (by omega), if_neg (by omega), if_neg (by omega), first, second, third, last]

/-- Bytes without a defect begin with those of a character. -/
theorem exists_char {b : UInt8} {bs : List UInt8} {read : List (Option Char)}
    (whole : none ∉ scan none read (b :: bs)) :
    ∃ c rest, b :: bs = String.utf8EncodeChar c ++ rest := by
  obtain ⟨v, bound, rfl⟩ : ∃ v, v < 0x100 ∧ b = UInt8.ofNat v :=
    ⟨b.toNat, b.toNat_lt, by rw [UInt8.ofNat_toNat]⟩
  -- the lead byte says how many bytes follow
  by_cases one : v ≤ 0x7F
  · have value : (Char.ofNat v).toNat = v := toNat_ofNat (by omega)
    refine ⟨Char.ofNat v, bs, ?_⟩
    rw [utf8EncodeChar_ascii (by omega), value]
    rfl
  by_cases stray : v < 0xC2 ∨ 0xF4 < v
  · rw [scan, ofByte_stray (by omega) bound stray] at whole
    exact absurd (mem_scan (by simp) _ _) whole
  by_cases two : v < 0xE0
  · obtain ⟨n, rfl⟩ : ∃ n, v = n + 0xC0 := ⟨v - 0xC0, by omega⟩
    rw [scan, ofByte_two (by omega) (by omega)] at whole
    obtain ⟨x, rest, rfl, -, -⟩ := scan_open (by simp) (by simp) whole
    exact ⟨Char.ofNat (n * 64 + x % 64), rest, by
      rw [utf8EncodeChar_two (by omega) (by omega)]
      rfl⟩
  by_cases three : v < 0xF0
  · obtain ⟨n, rfl⟩ : ∃ n, v = n + 0xE0 := ⟨v - 0xE0, by omega⟩
    rw [scan, ofByte_three (by omega)] at whole
    obtain ⟨x, rest, rfl, low, high⟩ := scan_open (by dsimp only; split <;> simp)
      (by dsimp only; split <;> simp) whole
    dsimp only at whole
    rw [scan_continuation read _ low high] at whole
    obtain ⟨y, rest, rfl, -, -⟩ := scan_open (by simp) (by simp) whole
    -- the bounds leave out overlong forms and surrogates
    have valid : 0x800 ≤ (n * 64 + x % 64) * 64 + y % 64 ∧
        ((n * 64 + x % 64) * 64 + y % 64 < 0xD800 ∨ 0xDFFF < (n * 64 + x % 64) * 64 + y % 64) := by
      dsimp only at low high
      split at low <;> split at high <;> simp at low high <;> omega
    exact ⟨Char.ofNat ((n * 64 + x % 64) * 64 + y % 64), rest, by
      rw [utf8EncodeChar_three rfl valid.1 valid.2 (by omega)]
      rfl⟩
  · obtain ⟨n, rfl⟩ : ∃ n, v = n + 0xF0 := ⟨v - 0xF0, by omega⟩
    rw [scan, ofByte_four (by omega)] at whole
    obtain ⟨x, rest, rfl, low, high⟩ := scan_open (by dsimp only; split <;> simp)
      (by dsimp only; split <;> simp) whole
    dsimp only at whole
    rw [scan_continuation read _ low high] at whole
    obtain ⟨y, rest, rfl, -, -⟩ := scan_open (by simp) (by simp) whole
    dsimp only at whole
    rw [scan_continuation read _ (by simp) (by simp; omega)] at whole
    obtain ⟨z, rest, rfl, -, -⟩ := scan_open (by simp) (by simp) whole
    have valid : 0x10000 ≤ ((n * 64 + x % 64) * 64 + y % 64) * 64 + z % 64 ∧
        ((n * 64 + x % 64) * 64 + y % 64) * 64 + z % 64 < 0x110000 := by
      dsimp only at low high
      split at low <;> split at high <;> simp at low high <;> omega
    exact ⟨Char.ofNat (((n * 64 + x % 64) * 64 + y % 64) * 64 + z % 64), rest, by
      rw [utf8EncodeChar_four rfl valid.1 valid.2]
      rfl⟩

/-- Bytes without a defect are those of the characters that are read. -/
theorem exists_encode {bs : List UInt8} {read : List (Option Char)}
    (whole : none ∉ scan none read bs) : ∃ cs, bs = encode cs := by
  induction h : bs.length using Nat.strong_induction_on generalizing bs read with
  | _ n ih =>
    cases bs with
    | nil => exact ⟨[], rfl⟩
    | cons b bs =>
      obtain ⟨c, rest, parts⟩ := exists_char whole
      rw [parts, scan_encodeChar] at whole
      have shorter : rest.length < n := by
        rw [← h, parts, List.length_append]
        have := String.length_utf8EncodeChar c
        have := c.utf8Size_pos
        omega
      obtain ⟨cs, rfl⟩ := ih _ shorter whole rfl
      exact ⟨c :: cs, parts⟩

theorem decode?_eq_some {bs : List UInt8} {cs : List Char} :
    decode? bs = some cs ↔ bs = encode cs := by
  constructor
  · intro read
    have whole : none ∉ scan none [] bs := by
      intro defect
      have : (symbols bs).all Option.isSome = false := by
        rw [List.all_eq_false]
        exact ⟨none, defect, by simp⟩
      simp [decode?, this] at read
    obtain ⟨cs', rfl⟩ := exists_encode whole
    rw [decode?_encode] at read
    cases read
    rfl
  · rintro rfl
    exact decode?_encode cs

/-! ## Order -/

theorem ofNat_cons_lt {m n : Nat} (hm : m < 0x100) (hn : n < 0x100) (r s : List UInt8) :
    UInt8.ofNat m :: r < UInt8.ofNat n :: s ↔ m < n ∨ m = n ∧ r < s := by
  rw [List.cons_lt_cons_iff, UInt8.lt_iff_toNat_lt, ← UInt8.toNat_inj, UInt8.toNat_ofNat',
    UInt8.toNat_ofNat', Nat.mod_eq_of_lt hm, Nat.mod_eq_of_lt hn]

/-- Of two characters the lesser has the lesser bytes, whatever follows. -/
theorem utf8EncodeChar_lt {c d : Char} (less : c < d) (r s : List UInt8) :
    String.utf8EncodeChar c ++ r < String.utf8EncodeChar d ++ s := by
  have less : c.val.toNat < d.val.toNat := less
  have valid : d.val.toNat < 0xD800 ∨ 0xDFFF < d.val.toNat ∧ d.val.toNat < 0x110000 := d.valid
  simp only [String.utf8EncodeChar]
  generalize c.val.toNat = v at less
  generalize d.val.toNat = w at less valid
  have lead (n : Nat) (h : n < 0x110000) : n / 262144 % 8 = n / 262144 := by omega
  have := lead v (by omega)
  have := lead w (by omega)
  -- one case for each number of bytes of the two
  split_ifs <;> simp (disch := omega) only [List.cons_append, List.nil_append, ofNat_cons_lt] <;>
    omega

theorem encode_lt_of_lt {cs ds : List Char} (less : cs < ds) : encode cs < encode ds := by
  induction cs generalizing ds with
  | nil =>
    cases ds with
    | nil => exact absurd less (List.lt_irrefl _)
    | cons d ds =>
      obtain ⟨b, bs, bytes⟩ := List.exists_cons_of_ne_nil (String.utf8EncodeChar_ne_nil (c := d))
      rw [encode_nil, encode_cons, bytes]
      exact List.nil_lt_cons _ _
  | cons c cs ih =>
    cases ds with
    | nil => exact absurd less (List.not_lt_nil _)
    | cons d ds =>
      rw [encode_cons, encode_cons]
      rcases List.cons_lt_cons_iff.1 less with first | ⟨rfl, rest⟩
      · exact utf8EncodeChar_lt first _ _
      · exact List.append_left_lt (ih rest)

/-- Texts are in the order of their bytes. -/
theorem bytes_lt_bytes {s t : String} : bytes s < bytes t ↔ s < t := by
  constructor
  · intro less
    by_contra other
    rcases List.le_iff_lt_or_eq.1 (List.not_lt.1 other) with behind | same
    · exact List.lt_asymm less (encode_lt_of_lt behind)
    · rw [bytes, bytes, same] at less
      exact List.lt_irrefl _ less
  · exact encode_lt_of_lt

theorem bytes_le_bytes {s t : String} : bytes s ≤ bytes t ↔ s ≤ t :=
  not_congr bytes_lt_bytes

end ShardStore.Text.Utf8
