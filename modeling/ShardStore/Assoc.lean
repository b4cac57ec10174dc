/-
# ShardStore.Assoc -- sorted association lists

A finite map from strings is a list of pairs with ascending names, each name once.
The order is that of the code points, which is also the order of the UTF-8 bytes.
`List.lookup` is the view: `insert` changes it at one name and nowhere else.

* `lookup_insert`, `lookup_insertAll` -- what a name stands for after one insertion or many;
* `sorted_insert`, `sorted_ofList` -- the order is kept, and made from any list;
* `ofList_sorted` -- a sorted list describes itself;
* `eq_of_lookup` -- and is known by what its names stand for, as is the sum of lists that they
  stand for (`flatMap_eq_of_lookup`).
-/

namespace ShardStore.Assoc

set_option autoImplicit false

variable {α : Type}

/-- The names in order. -/
def keys (xs : List (String × α)) : List String := xs.map Prod.fst

/-- Ascending names, each once. -/
def Sorted (xs : List (String × α)) : Prop := (keys xs).Pairwise (· < ·)

/-- Puts a pair in its place, in place of the one with its name. -/
def insert (k : String) (v : α) : List (String × α) → List (String × α)
  | [] => [(k, v)]
  | (k', v') :: rest =>
    if k < k' then (k, v) :: (k', v') :: rest
    else if k = k' then (k, v) :: rest
    else (k', v') :: insert k v rest

/-- Puts pairs in one after the other, so that of equal names the last stays. -/
def insertAll (into : List (String × α)) (pairs : List (String × α)) : List (String × α) :=
  pairs.foldl (fun xs p => insert p.1 p.2 xs) into

/-- The map that a list of pairs describes, the last pair of a name counting. -/
def ofList (pairs : List (String × α)) : List (String × α) := insertAll [] pairs

/-! ## The view -/

theorem lookup_cons_eq_ite (k x : String) (v : α) (xs : List (String × α)) :
    ((k, v) :: xs).lookup x = if x = k then some v else xs.lookup x := by
  rw [List.lookup_cons]
  by_cases h : x = k
  · subst h; simp
  · have : (x == k) = false := by simpa using h
    simp [this, h]

theorem lookup_insert (k x : String) (v : α) (xs : List (String × α)) :
    (insert k v xs).lookup x = if x = k then some v else xs.lookup x := by
  induction xs with
  | nil => exact lookup_cons_eq_ite k x v []
  | cons p rest ih =>
    obtain ⟨k', v'⟩ := p
    unfold insert
    split
    · exact lookup_cons_eq_ite k x v _
    · split
      · rename_i h
        subst h
        simp only [lookup_cons_eq_ite]
        split <;> rfl
      · rename_i h
        simp only [lookup_cons_eq_ite, ih]
        by_cases hx : x = k'
        · simp [hx, Ne.symm h]
        · simp [hx]

/-- Of pairs put in one after the other the last one of a name counts. -/
theorem lookup_insertAll (x : String) (xs pairs : List (String × α)) :
    (insertAll xs pairs).lookup x = (pairs.reverse.lookup x).or (xs.lookup x) := by
  induction pairs generalizing xs with
  | nil => rfl
  | cons p rest ih =>
    obtain ⟨k, v⟩ := p
    have step : insertAll xs ((k, v) :: rest) = insertAll (insert k v xs) rest := rfl
    rw [step, ih, lookup_insert, List.reverse_cons, List.lookup_append, Option.or_assoc,
      lookup_cons_eq_ite]
    split <;> rfl

/-- A pair takes the place of the one that was put in before it. -/
theorem insert_insert (k : String) (v w : α) (xs : List (String × α)) :
    insert k w (insert k v xs) = insert k w xs := by
  have again (rest : List (String × α)) : insert k w ((k, v) :: rest) = (k, w) :: rest := by
    rw [insert, if_neg (String.lt_irrefl k), if_pos rfl]
  induction xs with
  | nil => exact again []
  | cons p rest ih =>
    obtain ⟨k', v'⟩ := p
    by_cases before : k < k'
    · rw [insert, if_pos before, again, insert, if_pos before]
    · by_cases same : k = k'
      · rw [insert, if_neg before, if_pos same, again, insert, if_neg before, if_pos same]
      · rw [insert, if_neg before, if_neg same, insert, if_neg before, if_neg same, ih, insert,
          if_neg before, if_neg same]

theorem keys_insert (k : String) (v : α) (xs : List (String × α)) :
    ∀ x, x ∈ keys (insert k v xs) ↔ x = k ∨ x ∈ keys xs := by
  induction xs with
  | nil => simp [insert, keys]
  | cons p rest ih =>
    obtain ⟨k', v'⟩ := p
    intro x
    unfold insert
    split
    · simp [keys]
    · split
      · rename_i h; subst h; simp [keys]
      · have := ih x
        simp only [keys, List.map_cons, List.mem_cons] at this ⊢
        grind

theorem isSome_lookup (k : String) (xs : List (String × α)) :
    (xs.lookup k).isSome = true ↔ k ∈ keys xs := by
  induction xs with
  | nil => simp [keys]
  | cons p rest ih =>
    obtain ⟨k', v'⟩ := p
    rw [lookup_cons_eq_ite]
    by_cases same : k = k'
    · simp [keys, same]
    · rw [if_neg same, ih]
      simp [keys, same]

/-! ## The order -/

theorem sorted_insert {xs : List (String × α)} (k : String) (v : α) (h : Sorted xs) :
    Sorted (insert k v xs) := by
  induction xs with
  | nil => simp [insert, Sorted, keys]
  | cons p rest ih =>
    obtain ⟨k', v'⟩ := p
    simp only [Sorted, keys, List.map_cons, List.pairwise_cons] at h
    unfold insert
    split
    · rename_i hlt
      simp only [Sorted, keys, List.map_cons, List.pairwise_cons, List.mem_cons]
      refine ⟨?_, h⟩
      rintro x (rfl | hx)
      · exact hlt
      · exact String.lt_trans hlt (h.1 x hx)
    · split
      · rename_i hk; subst hk
        simpa only [Sorted, keys, List.map_cons, List.pairwise_cons] using h
      · rename_i hlt hne
        simp only [Sorted, keys, List.map_cons, List.pairwise_cons]
        refine ⟨?_, ih h.2⟩
        intro x hx
        rcases (keys_insert k v rest x).1 hx with rfl | hx
        · exact Std.lt_of_le_of_ne (String.not_lt.1 hlt) (Ne.symm hne)
        · exact h.1 x hx

theorem sorted_insertAll {xs : List (String × α)} (pairs : List (String × α)) (h : Sorted xs) :
    Sorted (insertAll xs pairs) := by
  induction pairs generalizing xs with
  | nil => exact h
  | cons p rest ih => exact ih (sorted_insert p.1 p.2 h)

theorem sorted_ofList (pairs : List (String × α)) : Sorted (ofList pairs) :=
  sorted_insertAll pairs List.Pairwise.nil

/-- A name behind all others goes to the end. -/
theorem insert_last {k : String} {xs : List (String × α)} (v : α) (h : ∀ x ∈ keys xs, x < k) :
    insert k v xs = xs ++ [(k, v)] := by
  induction xs with
  | nil => rfl
  | cons p rest ih =>
    obtain ⟨k', v'⟩ := p
    have before : k' < k := h k' (by simp [keys])
    have notBehind : ¬ k < k' := fun behind => String.lt_irrefl _ (String.lt_trans before behind)
    have notSame : k ≠ k' := fun same => String.lt_irrefl k' (same ▸ before)
    rw [insert, if_neg notBehind, if_neg notSame, ih fun x hx => h x (List.mem_cons_of_mem _ hx)]
    rfl

theorem insertAll_sorted {xs ys : List (String × α)} (h : Sorted (xs ++ ys)) :
    insertAll xs ys = xs ++ ys := by
  induction ys generalizing xs with
  | nil => simp [insertAll]
  | cons p rest ih =>
    obtain ⟨k, v⟩ := p
    have last : ∀ x ∈ keys xs, x < k := by
      intro x hx
      simp only [Sorted, keys, List.map_append, List.map_cons, List.pairwise_append] at h
      exact h.2.2 x hx k List.mem_cons_self
    have step : insertAll xs ((k, v) :: rest) = insertAll (insert k v xs) rest := rfl
    rw [step, insert_last v last, ih (by simpa using h)]
    simp

/-- A sorted list describes itself. -/
theorem ofList_sorted {xs : List (String × α)} (h : Sorted xs) : ofList xs = xs := by
  have := insertAll_sorted (show Sorted ([] ++ xs) from h)
  rwa [List.nil_append] at this

theorem insertAll_append (xs ys zs : List (String × α)) :
    insertAll xs (ys ++ zs) = insertAll (insertAll xs ys) zs := List.foldl_append

theorem ofList_append (xs ys : List (String × α)) :
    ofList (xs ++ ys) = insertAll (ofList xs) ys := insertAll_append [] xs ys

@[simp] theorem ofList_ofList (xs : List (String × α)) : ofList (ofList xs) = ofList xs :=
  ofList_sorted (sorted_ofList xs)

/-! ## Members -/

/-- A name before all others stands for nothing. -/
theorem lookup_before {k : String} {xs : List (String × α)} (h : ∀ x ∈ keys xs, k < x) :
    xs.lookup k = none := by
  rw [← Option.not_isSome_iff_eq_none, isSome_lookup]
  exact fun member => String.lt_irrefl k (h k member)

/-- In a sorted list every pair is what its name stands for. -/
theorem mem_iff_lookup {xs : List (String × α)} (h : Sorted xs) (k : String) (v : α) :
    (k, v) ∈ xs ↔ xs.lookup k = some v := by
  induction xs with
  | nil => simp
  | cons p rest ih =>
    obtain ⟨k', v'⟩ := p
    simp only [Sorted, keys, List.map_cons, List.pairwise_cons] at h
    rw [lookup_cons_eq_ite, List.mem_cons, ih h.2, Prod.mk.injEq]
    by_cases same : k = k'
    · subst same
      simp [lookup_before h.1, eq_comm]
    · simp [same]

/-- Sorted lists in which every name stands for the same are the same. -/
theorem eq_of_lookup {xs ys : List (String × α)} (hx : Sorted xs) (hy : Sorted ys)
    (same : ∀ k, xs.lookup k = ys.lookup k) : xs = ys := by
  induction xs generalizing ys with
  | nil =>
    cases ys with
    | nil => rfl
    | cons q ys =>
      have found := same q.1
      rw [lookup_cons_eq_ite, if_pos rfl] at found
      cases found
  | cons p xs ih =>
    cases ys with
    | nil =>
      have found := same p.1
      rw [lookup_cons_eq_ite, if_pos rfl] at found
      cases found
    | cons q ys =>
      simp only [Sorted, keys, List.map_cons, List.pairwise_cons] at hx hy
      -- neither of the first names can come before the other
      have first : p.1 = q.1 := by
        have inYs := (isSome_lookup p.1 (q :: ys)).1 (by simp [← same])
        have inXs := (isSome_lookup q.1 (p :: xs)).1 (by simp [same])
        simp only [keys, List.map_cons, List.mem_cons] at inXs inYs
        rcases inXs with equal | later
        · exact equal.symm
        · rcases inYs with equal | later'
          · exact equal
          · exact absurd (hx.1 _ later) (String.lt_asymm (hy.1 _ later'))
      have value : p.2 = q.2 := by
        have found := same p.1
        rw [lookup_cons_eq_ite, if_pos rfl, lookup_cons_eq_ite, if_pos first] at found
        exact Option.some.inj found
      rw [Prod.ext first value, ih hx.2 hy.2]
      intro k
      by_cases here : k = p.1
      · rw [lookup_before (fun x member => here ▸ hx.1 x member),
          lookup_before (fun x member => here ▸ first ▸ hy.1 x member)]
      · have behind := same k
        rwa [lookup_cons_eq_ite, if_neg here, lookup_cons_eq_ite, if_neg (first ▸ here)] at behind

/-- Of sorted pairs there is no last one of a name but the only one. -/
theorem lookup_insertAll_sorted {pairs : List (String × α)} (h : Sorted pairs) (x : String)
    (xs : List (String × α)) :
    (insertAll xs pairs).lookup x = (pairs.lookup x).or (xs.lookup x) := by
  have alone := lookup_insertAll x [] pairs
  rw [show insertAll [] pairs = pairs from ofList_sorted h, List.lookup_nil, Option.or_none] at alone
  rw [lookup_insertAll, ← alone]

/-- Pairs may be put in order before they are put in. -/
theorem insertAll_ofList {xs : List (String × α)} (h : Sorted xs) (pairs : List (String × α)) :
    insertAll xs (ofList pairs) = insertAll xs pairs := by
  apply eq_of_lookup (sorted_insertAll _ h) (sorted_insertAll _ h)
  intro x
  rw [lookup_insertAll_sorted (sorted_ofList pairs), ofList, lookup_insertAll, lookup_insertAll,
    List.lookup_nil, Option.or_none]

/-- Pairs that are there already are put in to no effect. -/
theorem insertAll_self {xs : List (String × α)} (h : Sorted xs) : insertAll xs xs = xs := by
  apply eq_of_lookup (sorted_insertAll xs h) h
  intro x
  rw [lookup_insertAll_sorted h, Option.or_self]

/-- Pairs that share no name may be put in in either order. -/
theorem insertAll_comm {xs ys zs : List (String × α)} (h : Sorted xs)
    (apart : ∀ x ∈ keys ys, x ∉ keys zs) :
    insertAll (insertAll xs ys) zs = insertAll (insertAll xs zs) ys := by
  apply eq_of_lookup
  · exact sorted_insertAll zs (sorted_insertAll ys h)
  · exact sorted_insertAll ys (sorted_insertAll zs h)
  · intro x
    simp only [lookup_insertAll]
    cases first : ys.reverse.lookup x with
    | none => rw [Option.none_or, Option.none_or]
    | some v =>
      have named : x ∈ keys ys.reverse := (isSome_lookup x _).1 (by rw [first]; rfl)
      have absent : zs.reverse.lookup x = none := by
        rw [← Option.not_isSome_iff_eq_none, isSome_lookup]
        intro other
        rw [keys, List.map_reverse, List.mem_reverse] at named other
        exact apart x named other
      rw [absent, Option.none_or, Option.some_or, Option.some_or]

/-- What is made of the pair of one name is made of what the name stands for. -/
theorem flatMap_lookup {β : Type} {xs : List (String × α)} (h : Sorted xs) (k : String)
    (f : α → List β) :
    (xs.flatMap fun p => if p.1 = k then f p.2 else []) = ((xs.lookup k).map f).getD [] := by
  induction xs with
  | nil => rfl
  | cons p rest ih =>
    obtain ⟨k', v⟩ := p
    simp only [Sorted, keys, List.map_cons, List.pairwise_cons] at h
    rw [List.flatMap_cons, ih h.2, lookup_cons_eq_ite]
    by_cases same : k = k'
    · subst same
      simp [lookup_before h.1]
    · simp [same, Ne.symm same]

theorem lookup_map {β : Type} (f : α → β) (k : String) (xs : List (String × α)) :
    (xs.map fun p => (p.1, f p.2)).lookup k = (xs.lookup k).map f := by
  induction xs with
  | nil => rfl
  | cons p rest ih =>
    obtain ⟨k', v'⟩ := p
    rw [List.map_cons, lookup_cons_eq_ite, lookup_cons_eq_ite, ih]
    split <;> rfl

theorem sorted_map {β : Type} {xs : List (String × α)} (f : α → β) (h : Sorted xs) :
    Sorted (xs.map fun p => (p.1, f p.2)) := by
  have same : keys (xs.map fun p => (p.1, f p.2)) = keys xs := by simp [keys, Function.comp_def]
  rwa [Sorted, same]

section Lists

variable {β : Type}

/-- The names that hold something. -/
def filled (xs : List (String × List β)) : List (String × List β) :=
  xs.filter fun p => !p.2.isEmpty

theorem flatMap_filled (xs : List (String × List β)) :
    (filled xs).flatMap (·.2) = xs.flatMap (·.2) := by
  induction xs with
  | nil => rfl
  | cons p xs ih =>
    rw [List.flatMap_cons, ← ih, filled, List.filter_cons]
    by_cases nothing : p.2 = []
    · simp [nothing, filled]
    · simp [nothing, filled]

theorem sorted_filled {xs : List (String × List β)} (h : Sorted xs) : Sorted (filled xs) :=
  List.Pairwise.sublist (List.filter_sublist.map _) h

theorem lookup_filled {xs : List (String × List β)} (h : Sorted xs) {k : String} {v : List β} :
    (filled xs).lookup k = some v ↔ (xs.lookup k).getD [] = v ∧ v ≠ [] := by
  rw [← mem_iff_lookup (sorted_filled h), filled, List.mem_filter, mem_iff_lookup h]
  cases xs.lookup k with
  | none => simp
  | some w => simp

/-- What sorted lists hold in all, in the order of the names, is the same if every name holds
the same.  A name that holds nothing need not be in both. -/
theorem flatMap_eq_of_lookup {xs ys : List (String × List β)} (hx : Sorted xs) (hy : Sorted ys)
    (same : ∀ k, (xs.lookup k).getD [] = (ys.lookup k).getD []) :
    xs.flatMap (·.2) = ys.flatMap (·.2) := by
  have alike : filled xs = filled ys := by
    apply eq_of_lookup (sorted_filled hx) (sorted_filled hy)
    intro k
    apply Option.ext
    intro v
    rw [lookup_filled hx, lookup_filled hy, same]
  rw [← flatMap_filled xs, alike, flatMap_filled]

end Lists

theorem mem_insert {k : String} {v : α} {xs : List (String × α)} {p : String × α}
    (h : p ∈ insert k v xs) : p = (k, v) ∨ p ∈ xs := by
  induction xs with
  | nil => exact Or.inl (by simpa [insert] using h)
  | cons q rest ih =>
    obtain ⟨k', v'⟩ := q
    unfold insert at h
    split at h
    · simpa using h
    · split at h
      · simp only [List.mem_cons] at h ⊢
        rcases h with h | h
        · exact Or.inl h
        · exact Or.inr (Or.inr h)
      · simp only [List.mem_cons] at h ⊢
        rcases h with h | h
        · exact Or.inr (Or.inl h)
        · rcases ih h with h | h
          · exact Or.inl h
          · exact Or.inr (Or.inr h)

theorem mem_insertAll {xs pairs : List (String × α)} {p : String × α}
    (h : p ∈ insertAll xs pairs) : p ∈ xs ∨ p ∈ pairs := by
  induction pairs generalizing xs with
  | nil => exact Or.inl h
  | cons q rest ih =>
    rcases ih h with h | h
    · rcases mem_insert h with h | h
      · exact Or.inr (h ▸ List.mem_cons_self)
      · exact Or.inl h
    · exact Or.inr (List.mem_cons_of_mem _ h)

theorem mem_ofList {pairs : List (String × α)} {p : String × α} (h : p ∈ ofList pairs) :
    p ∈ pairs := by
  rcases mem_insertAll h with h | h
  · cases h
  · exact h

/-! ## Parts -/

section Filter

variable (q : String → Bool)

theorem keys_filter (xs : List (String × α)) :
    keys (xs.filter fun p => q p.1) = (keys xs).filter q := by
  rw [keys, keys, List.filter_map]
  rfl

theorem lookup_filter (k : String) (xs : List (String × α)) :
    (xs.filter fun p => q p.1).lookup k = if q k then xs.lookup k else none := by
  induction xs with
  | nil => simp
  | cons p rest ih =>
    obtain ⟨k', v'⟩ := p
    rw [List.filter_cons, lookup_cons_eq_ite]
    by_cases same : k = k'
    · subst same
      cases kept : q k with
      | true => rw [if_pos rfl, lookup_cons_eq_ite, if_pos rfl, if_pos rfl, if_pos rfl]
      | false => simpa [kept] using ih
    · rw [if_neg same, ← ih]
      split
      · rw [lookup_cons_eq_ite, if_neg same]
      · rfl

/-- A name before all others goes to the head. -/
theorem insert_first {k : String} {xs : List (String × α)} (v : α) (h : ∀ x ∈ keys xs, k < x) :
    insert k v xs = (k, v) :: xs := by
  cases xs with
  | nil => rfl
  | cons p rest => rw [insert, if_pos (h p.1 List.mem_cons_self)]

/-- What is put in stands in the part of its name. -/
theorem filter_insert_of_pos {k : String} (kept : q k = true) (v : α) {xs : List (String × α)}
    (h : Sorted xs) :
    (insert k v xs).filter (fun p => q p.1) = insert k v (xs.filter fun p => q p.1) := by
  induction xs with
  | nil => simp [insert, kept]
  | cons p rest ih =>
    obtain ⟨k', v'⟩ := p
    have behind := List.pairwise_cons.1 h
    rw [insert]
    split
    · rename_i before
      have first : ∀ x ∈ keys (((k', v') :: rest).filter fun p => q p.1), k < x := by
        intro x member
        rw [keys_filter] at member
        rcases List.mem_cons.1 (List.mem_filter.1 member).1 with rfl | member
        · exact before
        · exact String.lt_trans before (behind.1 x member)
      rw [insert_first v first, List.filter_cons, if_pos kept]
    · split
      · rename_i same
        subst same
        rw [List.filter_cons, if_pos kept, List.filter_cons, if_pos kept, insert,
          if_neg (String.lt_irrefl k), if_pos rfl]
      · rename_i notBefore other
        rw [List.filter_cons, List.filter_cons, ih behind.2]
        split
        · rw [insert, if_neg notBefore, if_neg other]
        · rfl

/-- And in no other part. -/
theorem filter_insert_of_neg {k : String} (dropped : q k = false) (v : α)
    (xs : List (String × α)) :
    (insert k v xs).filter (fun p => q p.1) = xs.filter fun p => q p.1 := by
  induction xs with
  | nil => simp [insert, dropped]
  | cons p rest ih =>
    obtain ⟨k', v'⟩ := p
    rw [insert]
    split
    · simp [dropped]
    · split
      · rename_i same
        subst same
        simp [dropped]
      · rw [List.filter_cons, List.filter_cons, ih]

end Filter

end ShardStore.Assoc
