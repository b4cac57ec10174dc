/-
# ShardStore.Proofs.Topology.NormalForm -- which hosts get a normal form

White space goes from the ends of a host before the dots do, and does not go again.  So the dots
at the ends may leave white space behind that stood next to them: the ends of a host that has been
normalized are the first and the last character of the trimmed host that is no dot
(`head?_normalize`, `getLast?_normalize`), and the host has its normal form exactly if neither is
white space (`Guarded`).

A host stays as it is exactly if it is tight and has no white space at its ends
(`normalize_eq_self`), and a host that does not stay gets shorter (`length_normalize_lt`).  So
every host comes to a normal form if it is normalized over and over (`exists_settled`).
-/
import Mathlib.Logic.Function.Iterate
import ShardStore.Proofs.Topology.Segments

namespace ShardStore.Host

set_option autoImplicit false

/-- No character of a kind stands at an end of a text. -/
structure Trimmed (p : Char → Bool) (s : String) : Prop where
  first : ∀ c ∈ s.toList.head?, p c = false
  last : ∀ c ∈ s.toList.getLast?, p c = false

/-- A normal form: nothing is left to trim, and nothing changes any more. -/
structure Settled (host : String) : Prop where
  blank : Trimmed Text.isSpace host
  dots : Trimmed (· = '.') host
  again : normalize host = host

/-- No white space stands next to the dots at the ends of a trimmed host. -/
structure Guarded (host : String) : Prop where
  first : ∀ c ∈ (Text.trim host).toList.find? (· ≠ '.'), Text.isSpace c = false
  last : ∀ c ∈ (Text.trim host).toList.reverse.find? (· ≠ '.'), Text.isSpace c = false

variable {host : String}

/-! ## The ends of a normalized host -/

theorem tight_normalize (host : String) : Tight '.' (normalize host).toList := by
  rw [toList_normalize]
  exact tight_strip_collapse _

theorem Tight.trimmed (tight : Tight '.' host.toList) : Trimmed (· = '.') host where
  first c here := by
    have other : c ≠ '.' := fun dot => tight.first (dot ▸ here)
    simpa using other
  last c here := by
    have other : c ≠ '.' := fun dot => tight.last (dot ▸ here)
    simpa using other

theorem head?_normalize (host : String) :
    (normalize host).toList.head? = (Text.trim host).toList.find? (· ≠ '.') := by
  rw [toList_normalize, Text.head?_strip_eq_find?, ← List.head?_filter, ← List.head?_filter,
    ← filter_collapse]
  simp

theorem getLast?_normalize (host : String) :
    (normalize host).toList.getLast? = (Text.trim host).toList.reverse.find? (· ≠ '.') := by
  rw [toList_normalize, Text.getLast?_strip_eq_find?, ← List.head?_filter, ← List.head?_filter,
    List.filter_reverse, List.filter_reverse, ← filter_collapse]
  simp

theorem trimmed_normalize_iff : Trimmed Text.isSpace (normalize host) ↔ Guarded host := by
  constructor
  · rintro ⟨first, last⟩
    exact ⟨head?_normalize host ▸ first, getLast?_normalize host ▸ last⟩
  · rintro ⟨first, last⟩
    exact ⟨head?_normalize host ▸ first, getLast?_normalize host ▸ last⟩

/-! ## Hosts that stay -/

theorem normalize_sublist_trim (host : String) :
    (normalize host).toList.Sublist (Text.trim host).toList := by
  rw [toList_normalize]
  exact (Text.isInfix_strip _ _).sublist.trans (collapse_sublist _)

theorem trim_sublist (host : String) : (Text.trim host).toList.Sublist host.toList := by
  rw [Text.toList_trim]
  exact (Text.isInfix_strip _ _).sublist

theorem normalize_eq_self :
    normalize host = host ↔ Tight '.' host.toList ∧ Trimmed Text.isSpace host := by
  constructor
  · intro same
    -- what the dots leave is the whole host, so trimming leaves it as well
    have all : Text.trim host = host := by
      have back := normalize_sublist_trim host
      rw [same] at back
      exact String.toList_inj.1 ((trim_sublist host).eq_of_length_le back.length_le)
    refine ⟨same ▸ tight_normalize host, ?_, ?_⟩
    · rw [← all, Text.toList_trim]
      exact Text.head?_strip
    · rw [← all, Text.toList_trim]
      exact Text.getLast?_strip
  · rintro ⟨tight, blank⟩
    rw [← String.toList_inj, toList_normalize, Text.trim_eq_self blank.first blank.last]
    calc Text.strip (· = '.') (collapse '.' host.toList)
      _ = ['.'].intercalate (segments '.' (Text.strip (· = '.') (collapse '.' host.toList))) :=
        (tight_strip_collapse _).intercalate_segments.symm
      _ = ['.'].intercalate (segments '.' host.toList) := by
        rw [segments_strip, segments_collapse]
      _ = host.toList := tight.intercalate_segments

theorem normalize_normalize_iff :
    normalize (normalize host) = normalize host ↔ Trimmed Text.isSpace (normalize host) := by
  rw [normalize_eq_self, and_iff_right (tight_normalize host)]

theorem settled_iff : Settled host ↔ normalize host = host := by
  refine ⟨Settled.again, fun same => ?_⟩
  obtain ⟨tight, blank⟩ := normalize_eq_self.1 same
  exact ⟨blank, tight.trimmed, same⟩

/-! ## Hosts that get shorter -/

theorem length_normalize_lt (moved : normalize host ≠ host) :
    (normalize host).length < host.length := by
  have within := (normalize_sublist_trim host).trans (trim_sublist host)
  by_contra notLess
  refine moved (String.toList_inj.1 (within.eq_of_length_le ?_))
  rw [String.length_toList, String.length_toList]
  exact Nat.le_of_not_lt notLess

/-- The induction is on the length of the host. -/
theorem exists_settled (host : String) :
    ∃ rounds ≤ host.length, Settled (normalize^[rounds] host) := by
  induction length : host.length using Nat.strong_induction_on generalizing host with
  | _ n ih =>
    by_cases same : normalize host = host
    · exact ⟨0, Nat.zero_le _, settled_iff.2 same⟩
    · have less := length_normalize_lt same
      obtain ⟨rounds, few, settled⟩ := ih _ (length ▸ less) (normalize host) rfl
      exact ⟨rounds + 1, by omega, settled⟩

/-- A host that has been normalized has no dot at its ends.  It has no white space there, and
stays as it is if it is normalized again, exactly if no white space stood next to the dots at the
ends of the trimmed host; and in no more rounds than it has characters every host comes to a
normal form. -/
theorem normalize_settled (host : String) :
    Trimmed (· = '.') (normalize host) ∧
      (Trimmed Text.isSpace (normalize host) ↔ Guarded host) ∧
      (normalize (normalize host) = normalize host ↔ Guarded host) ∧
      ∃ rounds ≤ host.length, Settled (normalize^[rounds] host) :=
  ⟨(tight_normalize host).trimmed, trimmed_normalize_iff,
    normalize_normalize_iff.trans trimmed_normalize_iff, exists_settled host⟩

/-- The dot at the end goes, and the space in front of it stays. -/
theorem normalize_half_trimmed :
    normalize "kv-0.kv-hl ." = "kv-0.kv-hl " ∧
      ¬ Trimmed Text.isSpace "kv-0.kv-hl " ∧
      normalize "kv-0.kv-hl " = "kv-0.kv-hl" := by
  refine ⟨by decide, fun trimmed => ?_, by decide⟩
  exact absurd (trimmed.last ' ' (by decide)) (by decide)

end ShardStore.Host
