/-
# ShardStore.Proofs.Store.Refusal -- a refusal can be told from its text

A shard answers a refusal with a status and a text, and nothing else reaches the caller.
That is enough: no two refusals have both in common (`Store.Fault.eq_of_message`).  The text
of a version mismatch holds a key, which may be any text, and two numbers.  They are
found from the end, where the digits begin behind the last blank.
-/
import Mathlib.Data.List.TakeWhile
import ShardStore.Proofs.Text.Numeral
import ShardStore.Shard

namespace ShardStore

set_option autoImplicit false

/-! ## Numerals at the end of a text -/

namespace Text.Numeral

/-- Cut behind its last blank, a text falls into the same parts. -/
theorem eq_of_append_blank {xs ys as bs : List Char} (ha : ' ' ∉ as) (hb : ' ' ∉ bs)
    (h : xs ++ ' ' :: as = ys ++ ' ' :: bs) : xs = ys ∧ as = bs := by
  have tail (zs cs : List Char) (hc : ' ' ∉ cs) :
      (zs ++ ' ' :: cs).reverse.takeWhile (· ≠ ' ') = cs.reverse := by
    have inside : ∀ c ∈ cs.reverse, decide (c ≠ ' ') = true := by
      intro c member
      rw [decide_eq_true_eq]
      rintro rfl
      exact hc (List.mem_reverse.1 member)
    rw [List.reverse_append, List.reverse_cons, List.append_assoc,
      List.takeWhile_append_of_pos inside]
    simp
  have same : as = bs := by
    rw [← List.reverse_inj, ← tail xs as ha, h, tail ys bs hb]
  subst same
  exact ⟨List.append_cancel_right h, rfl⟩

/-- The number at the end of a text can be told from the text before it. -/
theorem append_number_inj {s t : String} {a b : UInt64}
    (h : s ++ " " ++ toString a = t ++ " " ++ toString b) : s = t ∧ a = b := by
  have noBlank (n : UInt64) : ' ' ∉ render n.toNat := fun member =>
    absurd (isDigit_of_mem_toDigits member) (by decide)
  have chars (u : String) (n : UInt64) :
      (u ++ " " ++ toString n).toList = u.toList ++ ' ' :: render n.toNat := by
    have digits : (toString n).toList = render n.toNat := String.toList_ofList
    have blank : " ".toList = [' '] := rfl
    rw [String.toList_append, String.toList_append, digits, blank, List.append_assoc,
      List.singleton_append]
  have parts := congrArg String.toList h
  rw [chars, chars] at parts
  obtain ⟨before, number⟩ := eq_of_append_blank (noBlank a) (noBlank b) parts
  exact ⟨String.toList_injective before, UInt64.toNat_inj.1 (toDigits_injective number)⟩

theorem Fault.message_injective {f g : Fault} (h : f.message = g.message) : f = g := by
  cases f <;> cases g <;> first | rfl | exact absurd h (by decide)

end Text.Numeral

/-! ## Payloads -/

namespace Params.Fault

theorem head_repeated (name : String) : (repeated name).message.toList.head? = some 'd' := by
  change ("duplicate field `" ++ name ++ "`").toList.head? = _
  rw [String.toList_append, String.toList_append]
  simp

theorem head_number (f : Text.Numeral.Fault) :
    (number f).message.toList.head? ≠ some 'd' ∧ (number f).message.toList.head? ≠ some 'p' := by
  cases f <;> decide

theorem message_injective {f g : Params.Fault} (h : f.message = g.message) : f = g := by
  have heads : f.message.toList.head? = g.message.toList.head? := by rw [h]
  cases f with
  | repeated name =>
    rw [head_repeated] at heads
    cases g with
    | repeated name' =>
      have text : "duplicate field `" ++ name ++ "`" = "duplicate field `" ++ name' ++ "`" := h
      rw [String.append_left_inj, String.append_right_inj] at text
      rw [text]
    | number g => exact absurd heads.symm (head_number g).1
    | notBoolean => exact absurd heads (by decide)
  | number f =>
    cases g with
    | repeated name => exact absurd (heads.trans (head_repeated name)) (head_number f).1
    | number g => exact congrArg number (Text.Numeral.Fault.message_injective h)
    | notBoolean => exact absurd heads (head_number f).2
  | notBoolean =>
    cases g with
    | repeated name => exact absurd (heads.trans (head_repeated name)) (by decide)
    | number g => exact absurd heads.symm (head_number g).2
    | notBoolean => rfl

end Params.Fault

namespace Payload.Fault

theorem head_params (f : Params.Fault) : (params f).message.toList.head? = some 'F' := by
  change ("Failed to deserialize query string: " ++ f.message).toList.head? = _
  rw [String.toList_append]
  simp

theorem message_injective {f g : Payload.Fault} (h : f.message = g.message) : f = g := by
  have heads : f.message.toList.head? = g.message.toList.head? := by rw [h]
  cases f with
  | params f =>
    rw [head_params] at heads
    cases g with
    | params g =>
      have text : "Failed to deserialize query string: " ++ f.message =
          "Failed to deserialize query string: " ++ g.message := h
      rw [String.append_right_inj] at text
      exact congrArg params (Params.Fault.message_injective text)
    | malformed => exact absurd heads (by decide)
    | nullDelta => exact absurd heads (by decide)
  | malformed =>
    cases g with
    | params g => exact absurd (heads.trans (head_params g)) (by decide)
    | malformed => rfl
    | nullDelta => exact absurd heads (by decide)
  | nullDelta =>
    cases g with
    | params g => exact absurd (heads.trans (head_params g)) (by decide)
    | malformed => exact absurd heads (by decide)
    | nullDelta => rfl

end Payload.Fault

/-! ## Refusals -/

namespace Store.Fault

theorem message_invalidKey :
    ∃ behind : String, ∀ key, (invalidKey key).message = "Key '" ++ (key ++ behind) := by
  have shape (key behind more last : String) :
      "Key '" ++ key ++ behind ++ more ++ last = "Key '" ++ (key ++ (behind ++ more ++ last)) := by
    simp only [String.append_assoc]
  exact ⟨_, fun key => shape key _ _ _⟩

theorem message_notFound (key : String) :
    (notFound key).message = "Key '" ++ (key ++ "' was not found.") :=
  String.append_assoc ..

theorem message_versionMismatch (key : String) (expected actual : UInt64) :
    (versionMismatch key expected actual).message =
      "Version mismatch for key '" ++ key ++ "'. Expected" ++ " " ++ toString expected ++
        ", actual" ++ " " ++ toString actual ++ "." := by
  have first : "'. Expected " = "'. Expected" ++ " " := by rfl
  have second : ", actual " = ", actual" ++ " " := by rfl
  change "Version mismatch for key '" ++ key ++ "'. Expected " ++ toString expected ++
    ", actual " ++ toString actual ++ "." = _
  simp only [first, second, String.append_assoc]

theorem versionMismatch_inj {key key' : String} {expected actual expected' actual' : UInt64}
    (h : (versionMismatch key expected actual).message =
      (versionMismatch key' expected' actual').message) :
    versionMismatch key expected actual = versionMismatch key' expected' actual' := by
  rw [message_versionMismatch, message_versionMismatch, String.append_left_inj] at h
  obtain ⟨front, rfl⟩ := Text.Numeral.append_number_inj h
  rw [String.append_left_inj] at front
  obtain ⟨keyed, rfl⟩ := Text.Numeral.append_number_inj front
  rw [String.append_left_inj, String.append_right_inj] at keyed
  rw [keyed]

/-- The status and the text of a refusal decide what it was. -/
theorem eq_of_message {f g : Fault} (status : f.status = g.status)
    (message : f.message = g.message) : f = g := by
  have keyword (h : Payload.Fault) : h.message.toList.head? ≠ some 'K' := by
    cases h with
    | malformed => decide
    | nullDelta => decide
    | params f => rw [Payload.Fault.head_params]; decide
  have initial (key : String) : (invalidKey key).message.toList.head? = some 'K' := by
    obtain ⟨behind, text⟩ := message_invalidKey
    rw [text, String.toList_append]
    rfl
  cases f with
  | invalidKey key =>
    cases g with
    | invalidKey key' =>
      obtain ⟨behind, text⟩ := message_invalidKey
      rw [text, text, String.append_right_inj, String.append_left_inj] at message
      rw [message]
    | invalidPayload g => exact absurd (initial key) (message.symm ▸ keyword g)
    | _ => exact absurd status (by simp [Fault.status])
  | invalidPayload f =>
    cases g with
    | invalidKey key => exact absurd (initial key) (message ▸ keyword f)
    | invalidPayload g => exact congrArg invalidPayload (Payload.Fault.message_injective message)
    | _ => exact absurd status (by simp [Fault.status])
  | versionMismatch key expected actual =>
    cases g with
    | versionMismatch key' expected' actual' => exact versionMismatch_inj message
    | _ => exact absurd status (by simp [Fault.status])
  | notFound key =>
    cases g with
    | notFound key' =>
      rw [message_notFound, message_notFound, String.append_right_inj, String.append_left_inj]
        at message
      rw [message]
    | _ => exact absurd status (by simp [Fault.status])
  | cancelled =>
    cases g with
    | cancelled => rfl
    | _ => exact absurd status (by simp [Fault.status])

end Store.Fault

end ShardStore
