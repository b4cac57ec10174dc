/-
# ShardStore.Proofs.Json.Merge -- the laws of the shallow merge

The fields of a merge are known by name: what the later object has for a name counts, else
what the earlier one has (`field?_merge`).  From this come the laws, for a sorted list of
fields is known by what its names stand for:

* into whatever value, objects are merged one after the other or as their merge
  (`merge_assoc`, `foldl_merge`);
* objects that share no field are merged in either order (`merge_comm`);
* a merge made twice is a merge made once (`merge_again`).

The first law is one of objects: a delta that is none drops what was there before it, also
the fields that the merge of all deltas would have left.  The last one is one of canonical
values, which have every name once, as all that are read and all that are merged do.
-/
import ShardStore.Proofs.Json.Shape

namespace ShardStore.Json

set_option autoImplicit false

/-- Objects of these fields share no field. -/
def Apart (fs gs : List (String × Value)) : Prop :=
  ∀ name ∈ Assoc.keys fs, name ∉ Assoc.keys gs

theorem Apart.symm {fs gs : List (String × Value)} (apart : Apart fs gs) : Apart gs fs :=
  fun name second first => apart name first second

namespace Value

/-! ## Fields -/

def IsObject (v : Value) : Prop := ∃ fields, v = .object fields

/-- What an object has for a name; other values have no fields. -/
def field? : Value → String → Option Value
  | .object fields, name => fields.lookup name
  | _, _ => none

variable {c d e : Value} {fs gs : List (String × Value)}

theorem IsObject.merge (hc : c.IsObject) (hd : d.IsObject) : (c.merge d).IsObject := by
  obtain ⟨fs, rfl⟩ := hc
  obtain ⟨gs, rfl⟩ := hd
  exact ⟨_, rfl⟩

/-- Into a value that is no object, and from one that is none, nothing is merged. -/
theorem merge_eq_right (h : ¬ (c.IsObject ∧ d.IsObject)) : c.merge d = d := by
  unfold Value.merge
  split
  · rename_i fs gs
    exact absurd ⟨⟨fs, rfl⟩, ⟨gs, rfl⟩⟩ h
  · rfl

/-- A merge of objects has every name once, with what the later object has for it, else what
the earlier one has. -/
theorem field?_merge (hc : c.Canonical) (hd : d.Canonical) (first : c.IsObject)
    (second : d.IsObject) :
    ∃ fields, c.merge d = .object fields ∧ Assoc.Sorted fields ∧
      ∀ name, fields.lookup name = (d.field? name).or (c.field? name) := by
  obtain ⟨fs, rfl⟩ := first
  obtain ⟨gs, rfl⟩ := second
  cases hc with
  | object sorted old =>
    cases hd with
    | object sorted' new =>
      refine ⟨_, rfl, Assoc.sorted_ofList _, fun name => ?_⟩
      rw [Assoc.ofList_append, Assoc.ofList_sorted sorted, Assoc.lookup_insertAll_sorted sorted']
      rfl

/-! ## Merges of merges -/

/-- Objects merged into an object one after the other are put in one after the other. -/
theorem merge_merge_object (es fs gs : List (String × Value)) :
    ((object es).merge (object fs)).merge (object gs) =
      object (Assoc.insertAll (Assoc.insertAll (Assoc.ofList es) fs) gs) := by
  simp only [merge]
  rw [Assoc.ofList_append, Assoc.ofList_ofList, Assoc.ofList_append]

/-- Two objects are merged into a value one after the other, or as their merge. -/
theorem merge_assoc (c : Value) (hd : d.IsObject) (he : e.IsObject) :
    (c.merge d).merge e = c.merge (d.merge e) := by
  by_cases hc : c.IsObject
  · obtain ⟨es, rfl⟩ := hc
    obtain ⟨fs, rfl⟩ := hd
    obtain ⟨gs, rfl⟩ := he
    rw [merge_merge_object]
    simp only [merge, Assoc.ofList_append es, Assoc.insertAll_ofList (Assoc.sorted_ofList es),
      Assoc.insertAll_append]
  · have alone (v : Value) : c.merge v = v := merge_eq_right fun both => hc both.1
    rw [alone, alone]

/-- Any number of objects are merged into a value one after the other, or as their merge. -/
theorem foldl_merge (c : Value) {deltas : List Value} (hd : d.IsObject)
    (objects : ∀ x ∈ deltas, x.IsObject) :
    (d :: deltas).foldl merge c = c.merge (deltas.foldl merge d) := by
  induction deltas generalizing d with
  | nil => rfl
  | cons e deltas ih =>
    obtain ⟨he, later⟩ := List.forall_mem_cons.1 objects
    calc (d :: e :: deltas).foldl merge c
        = deltas.foldl merge ((c.merge d).merge e) := rfl
      _ = deltas.foldl merge (c.merge (d.merge e)) := by rw [merge_assoc c hd he]
      _ = c.merge (deltas.foldl merge (d.merge e)) := ih (hd.merge he) later
      _ = c.merge ((e :: deltas).foldl merge d) := rfl

-- A delta that is no object is not put aside by the objects behind it.
example :
    let c : Value := .object [("a", .null)]
    (c.merge (.bool true)).merge (.object []) = .object [] ∧
      c.merge ((Value.bool true).merge (.object [])) = c := ⟨rfl, rfl⟩

/-! ## Merges in another order -/

/-- Two objects that share no field are merged in either order. -/
theorem merge_object_comm (apart : Apart fs gs) :
    (object fs).merge (object gs) = (object gs).merge (object fs) := by
  have sorted : Assoc.Sorted ([] : List (String × Value)) := List.Pairwise.nil
  simp only [merge, Assoc.ofList, Assoc.insertAll_append, Assoc.insertAll_comm sorted apart]

/-- And they are merged into any value in either order. -/
theorem merge_comm (apart : Apart fs gs) (v : Value) :
    (v.merge (object fs)).merge (object gs) = (v.merge (object gs)).merge (object fs) := by
  have first : (object fs).IsObject := ⟨fs, rfl⟩
  have second : (object gs).IsObject := ⟨gs, rfl⟩
  rw [merge_assoc v first second, merge_object_comm apart, merge_assoc v second first]

/-! ## Merges made twice -/

theorem merge_self (hd : d.Canonical) : d.merge d = d := by
  by_cases object : d.IsObject
  · obtain ⟨fs, rfl⟩ := object
    cases hd with
    | object sorted fields =>
      simp only [merge]
      rw [Assoc.ofList_append, Assoc.ofList_sorted sorted, Assoc.insertAll_self sorted]
  · exact merge_eq_right fun both => object both.1

/-- What was merged is not merged again. -/
theorem merge_again (c : Value) (hd : d.Canonical) : (c.merge d).merge d = c.merge d := by
  by_cases object : d.IsObject
  · rw [merge_assoc c object object, merge_self hd]
  · have alone (v : Value) : v.merge d = d := merge_eq_right fun both => object both.2
    rw [alone, alone]

/-- The shallow merge of two values is the later one unless both are objects, and else it has
the fields of both, each name once, with the later value of a shared name.  So objects may
be merged with each other before they are merged into a value, and no merge does more
when it is made twice. -/
theorem merge_laws (hc : c.Canonical) (hd : d.Canonical) :
    (¬ (c.IsObject ∧ d.IsObject) → c.merge d = d) ∧
    (c.IsObject → d.IsObject → ∃ fields, c.merge d = .object fields ∧ Assoc.Sorted fields ∧
      ∀ name, fields.lookup name = (d.field? name).or (c.field? name)) ∧
    (∀ delta deltas, (∀ x ∈ delta :: deltas, x.IsObject) →
      (delta :: deltas).foldl merge c = c.merge (deltas.foldl merge delta)) ∧
    (c.merge d).merge d = c.merge d := by
  refine ⟨merge_eq_right, field?_merge hc hd, ?_, merge_again c hd⟩
  intro delta deltas objects
  obtain ⟨first, later⟩ := List.forall_mem_cons.1 objects
  exact foldl_merge c first later

/-- Two objects that share a field, and two deltas of which the later one takes it again. -/
theorem merge_laws_shared_field :
    let c : Value := .object [("a", .null), ("b", .bool true)]
    let d : Value := .object [("b", .bool false), ("c", .null)]
    let e : Value := .object [("b", .null)]
    c.Canonical ∧ d.Canonical ∧ (∀ x ∈ [d, e], x.IsObject) ∧
      c.merge d = .object [("a", .null), ("b", .bool false), ("c", .null)] ∧
      [d, e].foldl merge c = c.merge (.object [("b", .null), ("c", .null)]) ∧
      (c.merge d).merge d = c.merge d := by
  intro c d e
  have hc : c.Canonical :=
    .object (Assoc.sorted_ofList [("a", Value.null), ("b", Value.bool true)])
      (by simp [Canonical.null, Canonical.bool])
  have hd : d.Canonical :=
    .object (Assoc.sorted_ofList [("b", Value.bool false), ("c", Value.null)])
      (by simp [Canonical.null, Canonical.bool])
  have objects : ∀ x ∈ [d, e], x.IsObject := by simp [d, e, IsObject]
  obtain ⟨-, -, folded, again⟩ := merge_laws hc hd
  exact ⟨hc, hd, objects, rfl, (folded d [e] objects).trans rfl, again⟩

end Value

end ShardStore.Json
