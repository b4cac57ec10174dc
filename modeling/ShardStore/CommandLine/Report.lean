/-
# ShardStore.CommandLine.Report -- what a terminal shows

Messages may hold text of the user's.  On their way to a terminal they lose ASCII control
characters other than white space, and whole escape sequences:

* an escape character, intermediate characters and a final one;
* a control sequence, behind `ESC [`, up to its final character;
* a string, behind `ESC` and one of `P X ] ^ _`, up to the next escape character; one
  behind `ESC ]` also ends with a bell.

The control characters CAN and SUB end any of them, and an escape character begins
another.  White space in one of the first two kinds is shown and ends it.

A failure to start is reported with its context on the first line and its cause, indented,
below.
-/
import ShardStore.Text.Category

namespace ShardStore.CommandLine.Report

set_option autoImplicit false

/-! ## Escape sequences -/

/-- Where a text stands: in the open, behind an escape character, behind intermediate
characters, in a control sequence, in a string, or in a string that a bell ends. -/
inductive Stand where
  | plain
  | escaped
  | intermediate
  | control
  | string
  | command
deriving DecidableEq, Repr

/-- White space that acts inside a sequence. -/
def isLayout (c : Char) : Bool := c = '\t' || c = '\n' || c = '\r' || c = '\x0c'

def isControl (c : Char) : Bool := c.toNat < 0x20 || c.toNat = 0x7F

/-- Is a character shown where a text stands? -/
def isShown : Stand → Char → Bool
  | .plain, c => isLayout c || !isControl c
  | .string, _ | .command, _ => false
  | _, c => isLayout c

/-- Is the character one of those that the names of sequences are made of? -/
def isIntermediate (c : Char) : Bool := 0x20 ≤ c.toNat && c.toNat ≤ 0x2F

/-- The stand behind an escape character and a character that is no control. -/
def Stand.opened (c : Char) : Stand :=
  if isIntermediate c then .intermediate
  else if c = '[' then .control
  else if c = ']' then .command
  else if c ∈ ['P', 'X', '^', '_'] then .string
  else .plain

/-- The stand behind a character. -/
def Stand.next (s : Stand) (c : Char) : Stand :=
  if c = '\x1b' then .escaped
  else if c = '\x18' ∨ c = '\x1a' then .plain
  else if isShown s c then .plain
  else if s = .command ∧ c = '\x07' then .plain
  else if isControl c ∨ 0x80 ≤ c.toNat then s
  else
    match s with
    | .escaped => .opened c
    | .intermediate => if isIntermediate c then .intermediate else .plain
    | .control => if c.toNat < 0x40 then .control else .plain
    | _ => s

/-- The characters that are shown. -/
def shownFrom : Stand → List Char → List Char
  | _, [] => []
  | s, c :: rest =>
    if isShown s c then c :: shownFrom (s.next c) rest else shownFrom (s.next c) rest

/-! ## Messages -/

/-- What is shown of a text in pieces.  Between pieces the style changes; that is an
escape sequence of its own, so none goes on from one piece into the next. -/
def shown (pieces : List String) : String :=
  String.ofList (pieces.flatMap fun s => shownFrom .plain s.toList)

/-- The first line of a text, without the carriage return that may end it. -/
def firstLine (s : String) : String :=
  let line := s.toList.takeWhile (· ≠ '\n')
  String.ofList (if line.getLast? = some '\r' then line.dropLast else line)

/-- Indents every line. -/
def indent (s : String) : String :=
  "    " ++ String.ofList (s.toList.flatMap fun c =>
    if c = '\n' then '\n' :: List.replicate 4 ' ' else [c])

/-- A failure with its context and its cause. -/
def failure (context cause : String) : String :=
  s!"Error: {context}\n\nCaused by:\n{indent cause}"

end ShardStore.CommandLine.Report
