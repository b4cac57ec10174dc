/-
# ShardStore.Proofs.Json.Shape -- the shape of a JSON value

Three things about a value decide whether its text is read back: it holds no double
(`FloatFree`), its objects are sorted at every depth (`Canonical`), and arrays and
objects are not nested too deep (`depth`).  A shallow merge keeps all three.

`Value.induct` is the induction over values; the cases of arrays and objects have the
hypothesis for every member.
-/
import ShardStore.Json.Value

namespace ShardStore.Json.Value

set_option autoImplicit false

/-! ## Induction -/

/-- Induction over values. -/
@[induction_eliminator]
theorem induct {motive : Value → Prop} (null : motive .null) (bool : ∀ b, motive (.bool b))
    (number : ∀ n, motive (.number n)) (string : ∀ s, motive (.string s))
    (array : ∀ vs, (∀ v ∈ vs, motive v) → motive (.array vs))
    (object : ∀ fs, (∀ f ∈ fs, motive f.2) → motive (.object fs)) : ∀ v, motive v := by
  intro v
  refine Value.rec (motive_1 := motive) (motive_2 := fun vs => ∀ v ∈ vs, motive v)
    (motive_3 := fun fs => ∀ f ∈ fs, motive f.2) (motive_4 := fun f => motive f.2)
    null bool number string array object ?_ ?_ ?_ ?_ ?_ v
  · intro v member
    cases member
  · intro v vs ofHead ofTail w member
    rcases List.mem_cons.1 member with rfl | member
    · exact ofHead
    · exact ofTail w member
  · intro f member
    cases member
  · intro f fs ofHead ofTail g member
    rcases List.mem_cons.1 member with rfl | member
    · exact ofHead
    · exact ofTail g member
  · intro name v ofValue
    exact ofValue

/-! ## Kinds of values -/

/-- No number of the value is a double. -/
inductive FloatFree : Value → Prop where
  | null : FloatFree .null
  | bool (b : Bool) : FloatFree (.bool b)
  | integer (n : Int) (low high) : FloatFree (.number (.integer n low high))
  | string (s : String) : FloatFree (.string s)
  | array {vs : List Value} : (∀ v ∈ vs, FloatFree v) → FloatFree (.array vs)
  | object {fs : List (String × Value)} : (∀ f ∈ fs, FloatFree f.2) → FloatFree (.object fs)

/-- Every object of the value is sorted. -/
inductive Canonical : Value → Prop where
  | null : Canonical .null
  | bool (b : Bool) : Canonical (.bool b)
  | number (n : Number) : Canonical (.number n)
  | string (s : String) : Canonical (.string s)
  | array {vs : List Value} : (∀ v ∈ vs, Canonical v) → Canonical (.array vs)
  | object {fs : List (String × Value)} :
      Assoc.Sorted fs → (∀ f ∈ fs, Canonical f.2) → Canonical (.object fs)

mutual

/-- How deep arrays and objects are nested in a value. -/
def depth : Value → Nat
  | .array vs => depthItems vs + 1
  | .object fs => depthFields fs + 1
  | _ => 0

def depthItems : List Value → Nat
  | [] => 0
  | v :: vs => max v.depth (depthItems vs)

def depthFields : List (String × Value) → Nat
  | [] => 0
  | (_, v) :: fs => max v.depth (depthFields fs)

end

theorem depthItems_le {vs : List Value} {d : Nat} :
    depthItems vs ≤ d ↔ ∀ v ∈ vs, v.depth ≤ d := by
  induction vs with
  | nil => simp [depthItems]
  | cons v vs ih => rw [depthItems, Nat.max_le, ih, List.forall_mem_cons]

theorem depthFields_le {fs : List (String × Value)} {d : Nat} :
    depthFields fs ≤ d ↔ ∀ f ∈ fs, f.2.depth ≤ d := by
  induction fs with
  | nil => simp [depthFields]
  | cons f fs ih =>
    obtain ⟨name, v⟩ := f
    rw [depthFields, Nat.max_le, ih, List.forall_mem_cons]

theorem depth_array_le {vs : List Value} {d : Nat} :
    (Value.array vs).depth ≤ d + 1 ↔ ∀ v ∈ vs, v.depth ≤ d := by
  rw [depth, Nat.add_le_add_iff_right, depthItems_le]

theorem depth_object_le {fs : List (String × Value)} {d : Nat} :
    (Value.object fs).depth ≤ d + 1 ↔ ∀ f ∈ fs, f.2.depth ≤ d := by
  rw [depth, Nat.add_le_add_iff_right, depthFields_le]

/-! ## Shallow merges -/

/-- A field of a merge is a field of one of its two sides. -/
theorem mem_merge {fields changes : List (String × Value)} {P : Value → Prop}
    (old : ∀ f ∈ fields, P f.2) (new : ∀ f ∈ changes, P f.2) :
    ∀ f ∈ Assoc.ofList (fields ++ changes), P f.2 := by
  intro f member
  rcases List.mem_append.1 (Assoc.mem_ofList member) with before | after
  · exact old f before
  · exact new f after

theorem FloatFree.merge {v w : Value} (hv : v.FloatFree) (hw : w.FloatFree) :
    (v.merge w).FloatFree := by
  unfold Value.merge
  split
  · cases hv with
    | object old =>
      cases hw with
      | object new => exact .object (mem_merge old new)
  · exact hw

theorem Canonical.merge {v w : Value} (hv : v.Canonical) (hw : w.Canonical) :
    (v.merge w).Canonical := by
  unfold Value.merge
  split
  · cases hv with
    | object _ old =>
      cases hw with
      | object _ new => exact .object (Assoc.sorted_ofList _) (mem_merge old new)
  · exact hw

/-- A shallow merge nests no deeper than its two sides. -/
theorem depth_merge_le (v w : Value) : (v.merge w).depth ≤ max v.depth w.depth := by
  unfold Value.merge
  split
  · rename_i fields changes
    have old := depthFields_le.1 (Nat.le_max_left (depthFields fields) (depthFields changes))
    have new := depthFields_le.1 (Nat.le_max_right (depthFields fields) (depthFields changes))
    have parts := depthFields_le.2 (mem_merge (P := (·.depth ≤ _)) old new)
    simp only [depth]
    omega
  · exact Nat.le_max_right _ _

/-! ## Plain values -/

/-- A value whose text is read back where `d` levels of nesting are allowed. -/
structure Plain (d : Nat) (v : Value) : Prop where
  floatFree : v.FloatFree
  canonical : v.Canonical
  shallow : v.depth ≤ d

namespace Plain

variable {d : Nat}

theorem mono {e : Nat} {v : Value} (h : v.Plain d) (le : d ≤ e) : v.Plain e :=
  ⟨h.floatFree, h.canonical, Nat.le_trans h.shallow le⟩

theorem integer (n : Int) (low high) : (Value.number (.integer n low high)).Plain d :=
  ⟨.integer n low high, .number _, Nat.zero_le _⟩

theorem merge {v w : Value} (hv : v.Plain d) (hw : w.Plain d) : (v.merge w).Plain d :=
  ⟨hv.floatFree.merge hw.floatFree, hv.canonical.merge hw.canonical,
    Nat.le_trans (depth_merge_le v w) (Nat.max_le.2 ⟨hv.shallow, hw.shallow⟩)⟩

end Plain

end ShardStore.Json.Value
