/-
# ShardStore.Text.Composed -- the composed form of a text

Texts that are the same but for how marks are written have one composed form: every
character is taken apart, the marks behind a character are put in the order of their
classes, and each mark joins the character before it if the two make one and no mark of
its class or above stands between.
-/
import ShardStore.Text.Combining

namespace ShardStore.Text.Composed

set_option autoImplicit false

/-- A character taken apart.  The fuel bounds how often a first part has parts. -/
def apart : Nat → Char → List Char
  | 0, c => [c]
  | fuel + 1, c =>
    match parts? c with
    | some (a, b) => apart fuel a ++ [b]
    | none => [c]

/-- A character with its combining class. -/
abbrev Classed : Type := Nat × Char

def classed (c : Char) : Classed := (combiningClass c, c)

/-- Marks in the order of their classes; those of one class keep their order. -/
def sorted (marks : List Classed) : List Classed := marks.mergeSort fun a b => a.1 ≤ b.1

/-- Orders the marks behind each character, given those seen since the last one, the last
of them first. -/
def ordered : List Classed → List Classed → List Classed
  | marks, [] => sorted marks.reverse
  | marks, c :: rest =>
    if c.1 = 0 then sorted marks.reverse ++ c :: ordered [] rest else ordered (c :: marks) rest

/-- Joins what follows to a character, given the marks that did not join it, the last of
them first. -/
def joined (base : Char) (marks : List Classed) : List Classed → List Char
  | [] => base :: (marks.reverse.map (·.2))
  | c :: rest =>
    match if marks.head?.all (·.1 < c.1) then whole? base c.2 else none with
    | some w => joined w marks rest
    | none =>
      if c.1 = 0 then base :: (marks.reverse.map (·.2) ++ joined c.2 [] rest)
      else joined base (c :: marks) rest

/-- The composed form. -/
def text (cs : List Char) : List Char :=
  let parts := ordered [] ((cs.flatMap (apart 4)).map classed)
  let marks := parts.takeWhile (·.1 ≠ 0)
  marks.map (·.2) ++
    match parts.drop marks.length with
    | [] => []
    | base :: rest => joined base.2 [] rest

end ShardStore.Text.Composed
