/-
# ShardStore.Proofs.Topology.Segments -- a host is its segments

Dots cut a host into segments.  A run of dots, or a dot at an end, only makes empty ones, so to
collapse runs and to trim ends leaves the segments that are not empty as they are
(`segments_collapse`, `segments_strip`).  A text without runs of dots and without dots at its
ends is those segments with one dot between any two of them (`Tight.intercalate_segments`).

Collapsing and trimming make such a text of every text, so the normal form of a host is known
by the segments of the host (`normalize_segments`).
-/
import Mathlib.Data.List.Infix
import ShardStore.Proofs.Text.Trim
import ShardStore.Topology.Host

namespace ShardStore.Host

set_option autoImplicit false

variable {α : Type} [DecidableEq α] {dot x : α} {xs : List α}

/-! ## Runs of dots -/

theorem collapse_cons (c : α) (rest : List α) :
    collapse dot (c :: rest) =
      if c = dot ∧ rest.head? = some dot then collapse dot rest else c :: collapse dot rest := by
  cases rest with
  | nil => simp [collapse]
  | cons d rest => simp [collapse]

theorem collapse_apart {front : List α} (foreign : dot ∉ front) (back : List α) :
    collapse dot (front ++ back) = front ++ collapse dot back := by
  induction front with
  | nil => rfl
  | cons c front ih =>
    have other : c ≠ dot := fun same => foreign (same ▸ List.mem_cons_self)
    rw [List.cons_append, collapse_cons, if_neg fun both => other both.1,
      ih fun member => foreign (List.mem_cons_of_mem c member), List.cons_append]

/-- Only dots go. -/
theorem filter_collapse (xs : List α) :
    (collapse dot xs).filter (· ≠ dot) = xs.filter (· ≠ dot) := by
  induction xs with
  | nil => rfl
  | cons c xs ih =>
    rw [collapse_cons]
    split
    · rename_i both
      rw [ih, List.filter_cons_of_neg (by simp [both.1])]
    · rw [List.filter_cons, List.filter_cons, ih]

theorem mem_collapse (other : x ≠ dot) {xs : List α} : x ∈ collapse dot xs ↔ x ∈ xs := by
  have same : x ∈ (collapse dot xs).filter (· ≠ dot) ↔ x ∈ xs.filter (· ≠ dot) := by
    rw [filter_collapse]
  simpa [other] using same

theorem collapse_sublist (xs : List α) : (collapse dot xs).Sublist xs := by
  induction xs with
  | nil => exact .slnil
  | cons c xs ih =>
    rw [collapse_cons]
    split
    · exact ih.cons c
    · exact ih.cons_cons c

theorem head?_collapse (xs : List α) : (collapse dot xs).head? = xs.head? := by
  induction xs with
  | nil => rfl
  | cons c xs ih =>
    rw [collapse_cons]
    split
    · rename_i both
      rw [ih, both.2, both.1, List.head?_cons]
    · rfl

/-- No run of dots is left. -/
theorem collapse_single (xs : List α) : ¬ [dot, dot] <:+: collapse dot xs := by
  induction xs with
  | nil => simp [collapse]
  | cons c xs ih =>
    rw [collapse_cons]
    split
    · exact ih
    · rename_i notBoth
      rw [List.infix_cons_iff, not_or]
      refine ⟨fun front => notBoth ?_, ih⟩
      rw [List.cons_prefix_cons] at front
      refine ⟨front.1.symm, ?_⟩
      have same : (collapse dot xs).head? = xs.head? := head?_collapse xs
      obtain ⟨rest, whole⟩ := front.2
      rw [← same, ← whole]
      rfl

/-! ## Segments -/

/-- The parts of a text between dots, the empty ones left out. -/
def segments (dot : α) (xs : List α) : List (List α) := (xs.splitOn dot).filter (· ≠ [])

@[simp] theorem segments_nil : segments dot [] = [] := by
  simp [segments]

theorem segments_append (xs ys : List α) :
    segments dot (xs ++ dot :: ys) = segments dot xs ++ segments dot ys := by
  rw [segments, List.splitOn_append_cons_self, List.filter_append, segments, segments]

/-- A dot in front makes no segment, nor does one behind. -/
theorem segments_cons (xs : List α) : segments dot (dot :: xs) = segments dot xs := by
  simpa using segments_append [] xs

theorem segments_concat (xs : List α) : segments dot (xs ++ [dot]) = segments dot xs := by
  simpa using segments_append xs []

/-- The induction is on the text, behind what is passed already. -/
theorem segments_append_collapse (front xs : List α) :
    segments dot (front ++ collapse dot xs) = segments dot (front ++ xs) := by
  induction xs generalizing front with
  | nil => rfl
  | cons c xs ih =>
    rw [collapse_cons]
    split
    · rename_i both
      obtain ⟨rest, rfl⟩ := List.head?_eq_some_iff.1 both.2
      rw [ih, both.1, segments_append, segments_append, segments_cons]
    · have passed := ih (front ++ [c])
      simpa using passed

theorem segments_collapse (xs : List α) : segments dot (collapse dot xs) = segments dot xs :=
  segments_append_collapse [] xs

theorem segments_dropWhile (xs : List α) :
    segments dot (xs.dropWhile (· = dot)) = segments dot xs := by
  induction xs with
  | nil => rfl
  | cons c xs ih =>
    by_cases here : c = dot
    · rw [List.dropWhile_cons_of_pos (by simpa using here), ih, here, segments_cons]
    · rw [List.dropWhile_cons_of_neg (by simpa using here)]

theorem segments_rdropWhile (xs : List α) :
    segments dot (xs.rdropWhile (· = dot)) = segments dot xs := by
  induction xs using List.reverseRecOn with
  | nil => rfl
  | append_singleton xs c ih =>
    rw [List.rdropWhile_concat]
    split
    · rename_i here
      rw [ih, of_decide_eq_true here, segments_concat]
    · rfl

theorem segments_strip (xs : List α) :
    segments dot (Text.strip (· = dot) xs) = segments dot xs :=
  (segments_rdropWhile _).trans (segments_dropWhile xs)

/-! ## Texts without needless dots -/

/-- Dots stand one by one, and only between other characters. -/
structure Tight (dot : α) (xs : List α) : Prop where
  first : xs.head? ≠ some dot
  last : xs.getLast? ≠ some dot
  single : ¬ [dot, dot] <:+: xs

/-- Behind the first dot an empty part comes of a second dot, or of the end. -/
theorem nil_mem_splitOn_tail (empty : [] ∈ (xs.splitOn dot).tail) :
    xs.getLast? = some dot ∨ [dot, dot] <:+: xs := by
  induction xs with
  | nil => simp at empty
  | cons c xs ih =>
    have later (empty : [] ∈ (xs.splitOn dot).tail) :
        (c :: xs).getLast? = some dot ∨ [dot, dot] <:+: c :: xs := by
      rcases ih empty with last | run
      · exact .inl (by rw [List.getLast?_cons, last]; rfl)
      · exact .inr (List.infix_cons run)
    rw [List.splitOn_cons_eq_if_modifyHead] at empty
    by_cases here : c = dot
    · subst here
      rw [if_pos (by simp), List.tail_cons] at empty
      -- the part between this dot and the next one
      cases xs with
      | nil => exact .inl rfl
      | cons d xs =>
        by_cases next : d = c
        · exact .inr (next ▸ (List.prefix_append [d, d] xs).isInfix)
        · refine later ?_
          rw [List.splitOn_cons_eq_if_modifyHead, if_neg (by simpa using next)] at empty ⊢
          obtain ⟨front, parts, cut⟩ := List.exists_cons_of_ne_nil (List.splitOn_ne_nil c xs)
          rw [cut] at empty ⊢
          simpa using empty
    · rw [if_neg (by simpa using here), List.tail_modifyHead] at empty
      exact later empty

namespace Tight

theorem nil_notMem_splitOn (h : Tight dot xs) (some : xs ≠ []) : [] ∉ xs.splitOn dot := by
  obtain ⟨c, rest, rfl⟩ := List.exists_cons_of_ne_nil some
  have other : c ≠ dot := fun same => h.first (by rw [same, List.head?_cons])
  intro empty
  have behind : [] ∈ ((c :: rest).splitOn dot).tail := by
    rw [List.splitOn_cons_eq_if_modifyHead, if_neg (by simpa using other)] at empty ⊢
    obtain ⟨front, parts, cut⟩ := List.exists_cons_of_ne_nil (List.splitOn_ne_nil dot rest)
    rw [cut] at empty ⊢
    simpa using empty
  rcases nil_mem_splitOn_tail behind with last | run
  · exact h.last last
  · exact h.single run

theorem intercalate_segments (h : Tight dot xs) : [dot].intercalate (segments dot xs) = xs := by
  by_cases empty : xs = []
  · subst empty
    rw [segments_nil]
    rfl
  · have whole : segments dot xs = xs.splitOn dot := by
      refine List.filter_eq_self.2 fun part member => ?_
      have filled : part ≠ [] := fun nothing => h.nil_notMem_splitOn empty (nothing ▸ member)
      simpa using filled
    rw [whole, List.intercalate_splitOn]

end Tight

theorem tight_strip_collapse (xs : List α) :
    Tight dot (Text.strip (· = dot) (collapse dot xs)) where
  first here := by simpa using Text.head?_strip dot here
  last here := by simpa using Text.getLast?_strip dot here
  single run := collapse_single xs (run.trans (Text.isInfix_strip _ _))

/-! ## Hosts -/

theorem toList_normalize (host : String) :
    (normalize host).toList =
      Text.strip (· = '.') (collapse '.' (Text.trim host).toList) := by
  rw [normalize, String.toList_ofList, Text.toList_trim]

/-- The normal form of a host is the join of the segments that the trimmed host has: dots stand
in it one by one and between segments, it is empty if the trimmed host has nothing but dots, and
from the trimmed host nothing is missing but dots. -/
theorem normalize_segments (host : String) :
    (normalize host).toList = ['.'].intercalate (segments '.' (Text.trim host).toList) ∧
      Tight '.' (normalize host).toList ∧
      (normalize host = "" ↔ ∀ c ∈ (Text.trim host).toList, c = '.') ∧
      (normalize host).toList.Sublist (Text.trim host).toList ∧
      (normalize host).toList.filter (· ≠ '.') = (Text.trim host).toList.filter (· ≠ '.') := by
  rw [← String.toList_eq_nil_iff, toList_normalize]
  generalize (Text.trim host).toList = xs
  have tight : Tight '.' (Text.strip (· = '.') (collapse '.' xs)) := tight_strip_collapse xs
  refine ⟨?_, tight, ?_, ?_, ?_⟩
  · rw [← segments_collapse xs, ← segments_strip, tight.intercalate_segments]
  · rw [Text.strip_eq_nil]
    constructor
    · intro dots c member
      by_contra other
      exact other (by simpa using dots c ((mem_collapse other).2 member))
    · intro dots c member
      simpa using dots c ((collapse_sublist xs).subset member)
  · exact (Text.isInfix_strip _ _).sublist.trans (collapse_sublist xs)
  · rw [← filter_collapse xs]
    simpa using Text.filter_strip (· = '.') (collapse '.' xs)

example : normalize "..a...b." = "a.b" := by decide

end ShardStore.Host
