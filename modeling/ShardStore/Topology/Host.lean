/-
# ShardStore.Topology.Host -- host names from a template

A template names parts of a host by placeholders in braces.  The placeholders are
replaced one kind after the other, in a fixed order, so that a value may bring in or
complete a placeholder of a later kind.  The result is trimmed of white space, runs of
dots become one dot, and dots at the ends go.
-/
import ShardStore.Text.Category

namespace ShardStore.Host

set_option autoImplicit false

/-! ## The normal form -/

/-- Every run of a separator becomes one. -/
def collapse {α : Type} [DecidableEq α] (dot : α) : List α → List α
  | [] => []
  | [c] => [c]
  | c :: d :: rest =>
    if c = dot ∧ d = dot then collapse dot (d :: rest) else c :: collapse dot (d :: rest)

def normalize (host : String) : String :=
  String.ofList (Text.strip (· = '.') (collapse '.' (Text.strip Text.isSpace host.toList)))

/-! ## Replacement -/

/-- Replaces a nonempty pattern from the left, first dropping so many characters. -/
def replaceFrom {α : Type} [DecidableEq α] (pattern text : List α) : Nat → List α → List α
  | _, [] => []
  | n + 1, _ :: rest => replaceFrom pattern text n rest
  | 0, c :: rest =>
    if pattern.isPrefixOf (c :: rest) then
      text ++ replaceFrom pattern text (pattern.length - 1) rest
    else c :: replaceFrom pattern text 0 rest

/-- Replaces every occurrence of a nonempty pattern, from the left. -/
def replace {α : Type} [DecidableEq α] (pattern text host : List α) : List α :=
  replaceFrom pattern text 0 host

/-- A name between braces. -/
def placeholder (name : String) : List Char := '\x7b' :: (name.toList ++ ['\x7d'])

/-- Replaces the placeholders of the names, one after the other. -/
def substitute (values : List (String × String)) (template : String) : String :=
  String.ofList (values.foldl (fun host v => replace (placeholder v.1) v.2.toList host)
    template.toList)

end ShardStore.Host
