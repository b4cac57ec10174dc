/-
# ShardStore.Proofs.Json.Text -- the text of a value from the texts of its parts

The printer collects text in reverse.  Here the collected part is cut off
(`textOnto_eq`), and the text of an array or an object is the text of its first member
between brackets, followed by those of the others behind commas.
-/
import ShardStore.Json.Printer
import ShardStore.Proofs.Json.Shape

namespace ShardStore.Json

set_option autoImplicit false

/-! ## Lists of texts -/

section Lists

variable {α : Type}

/-- The texts of members, each behind a comma. -/
def behindCommas (text : α → List Char) (as : List α) : List Char :=
  as.flatMap fun a => ',' :: text a

@[simp] theorem behindCommas_nil (text : α → List Char) : behindCommas text [] = [] := rfl

theorem behindCommas_cons (text : α → List Char) (a : α) (as : List α) :
    behindCommas text (a :: as) = ',' :: (text a ++ behindCommas text as) := by
  simp [behindCommas]

theorem length_le_behindCommas (text : α → List Char) (as : List α) :
    as.length ≤ (behindCommas text as).length := by
  induction as with
  | nil => simp
  | cons a as ih =>
    rw [behindCommas_cons]
    simp only [List.length_cons, List.length_append]
    omega

theorem length_text_le_behindCommas (text : α → List Char) {a : α} {as : List α} (h : a ∈ as) :
    (text a).length ≤ (behindCommas text as).length := by
  induction as with
  | nil => cases h
  | cons b as ih =>
    rw [behindCommas_cons]
    simp only [List.length_cons, List.length_append]
    rcases List.mem_cons.1 h with rfl | h
    · omega
    · have := ih h
      omega

/-- A field's name between quotes, the colon and the value's text. -/
def namedText (text : α → List Char) (f : String × α) : List Char := quote f.1 ++ ':' :: text f.2

end Lists

/-! ## Printed values -/

theorem itemsOnto_eq {vs : List Value}
    (h : ∀ v ∈ vs, ∀ acc, v.textOnto acc = v.text.reverse ++ acc) (acc : List Char) :
    itemsOnto acc vs = (behindCommas Value.text vs).reverse ++ acc := by
  induction vs generalizing acc with
  | nil => rfl
  | cons v vs ih =>
    rw [itemsOnto, ih fun w hw => h w (List.mem_cons_of_mem _ hw), h v List.mem_cons_self]
    simp [behindCommas]

theorem fieldsOnto_eq {fs : List (String × Value)}
    (h : ∀ f ∈ fs, ∀ acc, f.2.textOnto acc = f.2.text.reverse ++ acc) (acc : List Char) :
    fieldsOnto acc fs = (behindCommas (namedText Value.text) fs).reverse ++ acc := by
  induction fs generalizing acc with
  | nil => rfl
  | cons f fs ih =>
    obtain ⟨name, v⟩ := f
    rw [fieldsOnto, ih fun g hg => h g (List.mem_cons_of_mem _ hg), h _ List.mem_cons_self]
    simp [behindCommas, namedText, List.reverseAux_eq]

/-- What is collected before a value stays as it is. -/
theorem textOnto_eq (v : Value) (acc : List Char) : v.textOnto acc = v.text.reverse ++ acc := by
  rw [Value.text, List.reverse_reverse]
  induction v generalizing acc with
  | null => rfl
  | bool b => cases b <;> rfl
  | number n => simp [Value.textOnto, List.reverseAux_eq]
  | string s => simp [Value.textOnto, List.reverseAux_eq]
  | array vs ih =>
    have parts : ∀ v ∈ vs, ∀ acc, v.textOnto acc = v.text.reverse ++ acc := by
      intro v member acc
      rw [Value.text, List.reverse_reverse, ih v member]
    cases vs with
    | nil => rfl
    | cons v vs =>
      have rest := itemsOnto_eq fun w hw => parts w (List.mem_cons_of_mem _ hw)
      simp only [Value.textOnto, rest, parts v List.mem_cons_self]
      simp
  | object fs ih =>
    have parts : ∀ f ∈ fs, ∀ acc, f.2.textOnto acc = f.2.text.reverse ++ acc := by
      intro f member acc
      rw [Value.text, List.reverse_reverse, ih f member]
    cases fs with
    | nil => rfl
    | cons f fs =>
      obtain ⟨name, v⟩ := f
      have first := parts (name, v) List.mem_cons_self
      have rest := fieldsOnto_eq fun g hg => parts g (List.mem_cons_of_mem _ hg)
      simp only [Value.textOnto, rest, first]
      simp [List.reverseAux_eq]

namespace Value

@[simp] theorem text_number (n : Number) : (Value.number n).text = n.text := by
  simp [text, textOnto, List.reverseAux_eq]

@[simp] theorem text_string (s : String) : (Value.string s).text = quote s := by
  simp [text, textOnto, List.reverseAux_eq]

@[simp] theorem text_array_nil : (Value.array []).text = ['[', ']'] := rfl

theorem text_array_cons (v : Value) (vs : List Value) :
    (Value.array (v :: vs)).text = '[' :: (v.text ++ (behindCommas text vs ++ [']'])) := by
  rw [text, textOnto, itemsOnto_eq fun w _ => textOnto_eq w, textOnto_eq]
  simp

@[simp] theorem text_object_nil : (Value.object []).text = ['\x7b', '\x7d'] := rfl

theorem text_object_cons (f : String × Value) (fs : List (String × Value)) :
    (Value.object (f :: fs)).text =
      '\x7b' :: (namedText text f ++ (behindCommas (namedText text) fs ++ ['\x7d'])) := by
  obtain ⟨name, v⟩ := f
  rw [text, textOnto, fieldsOnto_eq fun g _ => textOnto_eq g.2, textOnto_eq]
  simp [namedText, List.reverseAux_eq]

end Value

end ShardStore.Json
