/-
# ShardStore.Proofs.Url.Scheme -- the scheme of a URL

The scheme of a URL stands in front of its first colon, so more text behind a colon does not
change it (`protocol?_append`).  A URL for web servers always has a host
(`hasHost_of_web`).
-/
import ShardStore.Proofs.Except
import ShardStore.Proofs.Text.Trim
import ShardStore.Url.Basic

namespace ShardStore.Url

set_option autoImplicit false

/-- The scheme that a text begins with, whether the text is a URL or not. -/
def protocol? (s : String) : Option String := (scheme? (clean s)).map (·.1)

/-! ## Text in front of a colon -/

theorem scheme?_append (front rest : List Char) :
    (scheme? (front ++ ':' :: rest)).map (·.1) = (scheme? (front ++ [':'])).map (·.1) := by
  have name (rest : List Char) :
      (front ++ ':' :: rest).takeWhile isSchemeChar = front.takeWhile isSchemeChar :=
    Text.takeWhile_append_cons (by decide) rest
  have within : (front.takeWhile isSchemeChar).length ≤ front.length :=
    (List.takeWhile_prefix isSchemeChar).length_le
  simp only [scheme?, name, List.drop_append_of_le_length within]
  -- behind the name comes more of the front, or the colon
  cases front.drop (front.takeWhile isSchemeChar).length with
  | nil =>
    simp only [List.nil_append]
    split <;> rfl
  | cons c behind =>
    by_cases colon : c = ':'
    · subst colon
      simp only [List.cons_append]
      split <;> rfl
    · simp [colon]

theorem clean_append (front rest : String) : ∃ behind,
    clean (front ++ ":" ++ rest) =
      (front.toList.dropWhile isControlOrSpace).filter (fun c => c ≠ '\t' && c ≠ '\n' && c ≠ '\r')
        ++ ':' :: behind := by
  have whole : (front ++ ":" ++ rest).toList = front.toList ++ ':' :: rest.toList := by simp
  rw [clean, whole, Text.strip_append_cons (by decide), List.filter_append,
    List.filter_cons_of_pos (by decide)]
  exact ⟨_, rfl⟩

/-- Text behind a colon does not change the scheme. -/
theorem protocol?_append (front rest : String) :
    protocol? (front ++ ":" ++ rest) = protocol? (front ++ ":") := by
  obtain ⟨behind, whole⟩ := clean_append front rest
  obtain ⟨none, alone⟩ := clean_append front ""
  rw [String.append_empty] at alone
  rw [protocol?, protocol?, whole, alone, scheme?_append _ behind, scheme?_append _ none]

/-! ## URLs -/

variable {s : String} {url : Url}

theorem protocol?_of_ofString (parsed : ofString s = .ok url) :
    protocol? s = some url.scheme := by
  rw [ofString] at parsed
  split at parsed
  · cases parsed
  · rename_i scheme rest found
    rw [protocol?, found]
    have same : scheme = url.scheme := by
      split at parsed
      · obtain ⟨_, -, rfl⟩ := map_eq_ok.1 parsed
        rfl
      · obtain ⟨_, -, rfl⟩ := map_eq_ok.1 parsed
        rfl
      · split at parsed
        · obtain ⟨_, -, rfl⟩ := map_eq_ok.1 parsed
          rfl
        · cases parsed
          rfl
    exact congrArg some same

/-- An authority for web servers has a host. -/
theorem authority_web {cs : List Char} {known : Bool} (checked : authority .web cs = .ok known) :
    known = true := by
  unfold authority at checked
  obtain ⟨⟨login, text⟩, -, checked⟩ := bind_eq_ok.1 checked
  simp only [if_true] at checked
  by_cases unnamed : text.take (hostLength .web false text) = []
  · rw [if_pos unnamed] at checked
    cases checked
  · rw [if_neg unnamed] at checked
    obtain ⟨_, -, checked⟩ := bind_eq_ok.1 checked
    rw [← decide_eq_true unnamed]
    split at checked
    · obtain ⟨_, -, checked⟩ := bind_eq_ok.1 checked
      exact (Except.ok.inj checked).symm
    · exact (Except.ok.inj checked).symm

theorem hasHost_of_web (parsed : ofString s = .ok url)
    (web : url.scheme = "http" ∨ url.scheme = "https") : url.hasHost = true := by
  obtain ⟨⟨scheme, rest⟩, found, same⟩ := Option.map_eq_some_iff.1 (protocol?_of_ofString parsed)
  have family : Family.ofScheme scheme = .web := by
    rcases web with http | https <;> simp_all [Family.ofScheme]
  rw [ofString, found] at parsed
  simp only [family] at parsed
  obtain ⟨_, checked, rfl⟩ := map_eq_ok.1 parsed
  exact authority_web checked

end ShardStore.Url
