/-
# ShardStore.Url.Basic -- which texts are URLs

An absolute URL begins with a scheme and a colon.  White space and controls around it,
and tabs and line breaks inside it, do not count.  The well-known schemes (`http`,
`https`, `ws`, `wss`, `ftp`) have an authority behind any number of slashes of either
kind; `file` and all other schemes have one behind two slashes only.  An authority is
credentials up to the last `@`, a host, and a port up to 65535.

Only the authority can be at fault: every path, query and fragment is allowed.
-/
import ShardStore.Text.Category
import ShardStore.Url.Host

namespace ShardStore

set_option autoImplicit false

/-- What is looked at of a URL: its scheme, and whether it has a host. -/
structure Url where
  scheme : String
  hasHost : Bool
deriving DecidableEq, Repr

namespace Url

/-! ## Schemes -/

inductive Family where
  | web
  | file
  | other
deriving DecidableEq, Repr

def Family.ofScheme (scheme : String) : Family :=
  if scheme ∈ ["http", "https", "ws", "wss", "ftp"] then .web
  else if scheme = "file" then .file
  else .other

/-- Does a backslash count as a slash? -/
def Family.isSpecial (f : Family) : Bool := f ≠ .other

def isSchemeChar (c : Char) : Bool := c.isAlphanum || c = '+' || c = '-' || c = '.'

/-- The scheme, in small letters, and the characters behind its colon. -/
def scheme? (cs : List Char) : Option (String × List Char) :=
  let name := cs.takeWhile isSchemeChar
  match cs.drop name.length with
  | ':' :: rest =>
    if name.head?.any Char.isAlpha then some (String.ofList (name.map Char.toLower), rest)
    else none
  | _ => none

/-! ## The authority -/

/-- Does the character end an authority? -/
def endsAuthority (f : Family) (c : Char) : Bool :=
  c = '/' || c = '?' || c = '#' || (c = '\\' && f.isSpecial)

/-- Cuts credentials off: whether there are any, and the characters behind them. -/
def credentials (f : Family) (cs : List Char) : Except Fault (Bool × List Char) :=
  let authority := cs.takeWhile (!endsAuthority f ·)
  let behind := cs.drop authority.length
  if '@' ∈ authority then
    let host := (authority.reverse.takeWhile (· ≠ '@')).reverse
    let before := authority.take (authority.length - host.length - 1)
    if before = [] ∧ host = [] ∧ behind ≠ [] then .error .emptyHost
    else .ok (before ≠ [] && before ≠ [':'], host ++ behind)
  else .ok (false, cs)

/-- The length of a host: up to a colon outside brackets, or the end of the authority. -/
def hostLength (f : Family) : Bool → List Char → Nat
  | _, [] => 0
  | inside, c :: rest =>
    if (c = ':' && !inside) || endsAuthority f c then 0
    else
      let inside := if c = '[' then true else if c = ']' then false else inside
      hostLength f inside rest + 1

/-- Checks a port up to the path. -/
def port : Nat → List Char → Except Fault Unit
  | _, [] => .ok ()
  | value, c :: rest =>
    if c.isDigit then
      let value := 10 * value + (c.toNat - '0'.toNat)
      if value > 65535 then .error .port else port value rest
    else if c = '/' ∨ c = '\\' ∨ c = '?' ∨ c = '#' then .ok ()
    else .error .port

/-- Checks an authority; the result is whether it has a host. -/
def authority (f : Family) (cs : List Char) : Except Fault Bool := do
  let (known, cs) ← credentials f cs
  let n := hostLength f false cs
  let host := cs.take n
  let behind := cs.drop n
  if f = .web then
    if host = [] then throw .emptyHost
    let _ ← plainHost host
  else
    checkOpaque host
    if host = [] ∧ (known ∨ behind.head? = some ':') then throw .emptyHost
  match behind with
  | ':' :: digits => port 0 digits
  | _ => pure ()
  return host ≠ []

/-! ## Files -/

def isSlash (c : Char) : Bool := c = '/' || c = '\\'

/-- A letter and a colon or a bar. -/
def isDrive : List Char → Bool
  | [a, b] => a.isAlpha && (b = ':' || b = '|')
  | _ => false

/-- Checks the host of a file; the result is whether it has one. -/
def fileHost (cs : List Char) : Except Fault Bool := do
  match cs with
  | a :: b :: rest =>
    if isSlash a && isSlash b then
      let host := rest.takeWhile (!endsAuthority .file ·)
      if host = [] ∨ isDrive host then return false
      return (← plainHost host) ≠ "localhost".toList
    else return false
  | _ => return false

/-! ## Whole texts -/

def isControlOrSpace (c : Char) : Bool := c.toNat ≤ 0x20

/-- The characters that count. -/
def clean (s : String) : List Char :=
  (Text.strip isControlOrSpace s.toList).filter fun c => c ≠ '\t' && c ≠ '\n' && c ≠ '\r'

/-- The URL that a text is. -/
def ofString (s : String) : Except Fault Url :=
  match scheme? (clean s) with
  | none => .error .relative
  | some (scheme, rest) =>
    match Family.ofScheme scheme with
    | .web => (authority .web (rest.dropWhile isSlash)).map (⟨scheme, ·⟩)
    | .file => (fileHost rest).map (⟨scheme, ·⟩)
    | .other =>
      match rest with
      | '/' :: '/' :: rest => (authority .other rest).map (⟨scheme, ·⟩)
      | _ => .ok ⟨scheme, false⟩

end Url

end ShardStore
