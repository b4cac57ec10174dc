/-
# ShardStore.CommandLine.Parser -- from arguments to a command

The first argument names a role, or asks for help or the version.  Behind a role come
options, as `--name=value` or as `--name` and the value in the next argument.  A value
in an argument of its own does not begin with a dash, a lone dash excepted; it is
looked at only when the next option of the role comes, or the arguments end.  So an
argument that is none of the role's is reported before the value that came before it.

When the arguments are read, the environment is asked for the options not given, in
their order.
-/
import ShardStore.CommandLine.Option

namespace ShardStore.CommandLine

set_option autoImplicit false

/-! ## Faults -/

/-- A page of help. -/
inductive Page where
  | overview
  | role (role : Role)
  | help
deriving DecidableEq, Repr

/-- Its first line. -/
def Page.title : Page → String
  | .overview => "Sharded in-memory key-value store"
  | .role .node => "Serve one shard's versioned store"
  | .role .router => "Serve the router that partitions keys across the shards"
  | .help => "Print this message or the help of the given subcommand(s)"

/-- Why arguments make no command. -/
inductive Fault where
  | help (page : Page)
  | version
  | noCommand
  | unknownCommand (name : String)
  | unknownArgument (text : String)
  | repeated (option : Opt)
  | noValue (option : Opt)
  | unwantedValue (flag value : String)
  | invalidValue (value : String) (option : Opt) (reason : String)
deriving DecidableEq, Repr

/-- What is said of a mistake, and where help is.  The last piece runs on into the hint. -/
def mistake (pieces : List String) (last : String) : List String :=
  "error: " :: pieces ++ [last ++ "\n\nFor more information, try '", "--help", "'.\n"]

/-- What is said of a fault, cut where the style changes: arguments are pieces of their own,
but a reason has the style of the sentence. -/
def Fault.pieces : Fault → List String
  | .help page => [page.title]
  | .version => ["kvshard 0.1.0"]
  | .noCommand => [Page.overview.title]
  | .unknownCommand name => mistake ["unrecognized subcommand '", name] "'"
  | .unknownArgument text => mistake ["unexpected argument '", text] "' found"
  | .repeated o => mistake [] s!"the argument '{o.usage}' cannot be used multiple times"
  | .noValue o => mistake [] s!"a value is required for '{o.usage}' but none was supplied"
  | .unwantedValue flag value =>
    mistake ["unexpected value '", value] s!"' for '{flag}' found; no more were expected"
  | .invalidValue value o reason =>
    mistake ["invalid value '", value] s!"' for '{o.usage}': {reason}"

/-- Asking for help or the version is no mistake. -/
def Fault.exitCode : Fault → Nat
  | .help _ | .version => 0
  | _ => 2

/-! ## Options -/

/-- The options read, and one whose value has not been looked at yet. -/
structure State where
  settings : Settings := {}
  pending : Option (Opt × Option String) := none

namespace State

/-- Gives an option a value. -/
def give (s : State) (o : Opt) (value : String) : Except Fault State :=
  if s.settings.has o ∧ ¬ o.repeats then .error (.repeated o)
  else
    match s.settings.set o value with
    | .ok settings => .ok { s with settings }
    | .error (value, reason) => .error (.invalidValue value o reason)

/-- Looks at the value that has been put off. -/
def resolve (s : State) : Except Fault State :=
  match s.pending with
  | none => .ok s
  | some (o, none) => .error (.noValue o)
  | some (o, some value) => ({ s with pending := none } : State).give o value

end State

/-- The parts of `--name=value` behind the dashes. -/
def splitLong (text : List Char) : String × Option String :=
  let name := text.takeWhile (· ≠ '=')
  let value := text.drop (name.length + 1)
  (String.ofList name, if name.length < text.length then some (String.ofList value) else none)

/-- Reads the arguments of a role. -/
def readOptions (role : Role) (s : State) : List String → Except Fault State
  | [] => s.resolve
  | arg :: rest =>
    match arg.toList with
    | '-' :: '-' :: [] =>
      match rest with
      | [] => s.resolve
      | next :: _ => .error (.unknownArgument next)
    | '-' :: '-' :: text =>
      let (name, value) := splitLong text
      match role.option? name, value with
      | some o, some value => do
        readOptions role (← (← s.resolve).give o value) rest
      | some o, none => do
        readOptions role { ← s.resolve with pending := some (o, none) } rest
      | none, value =>
        if name = "help" then
          match value with
          | some value => .error (.unwantedValue "--help" value)
          | none => do
            let _ ← s.resolve
            throw (.help (.role role))
        else .error (.unknownArgument ("--" ++ name))
    | '-' :: c :: _ =>
      if c = 'h' then do
        let _ ← s.resolve
        throw (.help (.role role))
      else .error (.unknownArgument (String.ofList ['-', c]))
    | _ =>
      match s.pending with
      | some (o, none) => readOptions role { s with pending := some (o, some arg) } rest
      | _ => .error (.unknownArgument arg)

/-- The value of an environment variable. -/
abbrev Environment : Type := String → Option String

/-- Asks the environment for the options not given. -/
def readEnvironment (env : Environment) (s : State) : List Opt → Except Fault State
  | [] => .ok s
  | o :: rest =>
    if s.settings.has o then readEnvironment env s rest
    else
      match env o.environmentName with
      | none => readEnvironment env s rest
      | some value => do readEnvironment env (← s.give o value) rest

/-! ## Commands -/

def commandNames : List String := ["node", "router", "help"]

/-- The page that arguments behind `help` ask for. -/
def helpPage : List String → Fault
  | [] => .help .overview
  | [name] =>
    if name = "node" then .help (.role .node)
    else if name = "router" then .help (.role .router)
    else if name = "help" then .help .help
    else .unknownCommand name
  | name :: next :: _ => .unknownCommand (if name ∈ commandNames then next else name)

/-- The arguments of a role, and the environment. -/
def readRole (role : Role) (args : List String) (env : Environment) : Except Fault Command := do
  let s ← readOptions role {} args
  let s ← readEnvironment env s role.options
  return s.settings.command role

/-- The command that arguments and an environment make. -/
def parse (args : List String) (env : Environment) : Except Fault Command :=
  match args with
  | [] => .error .noCommand
  | "node" :: rest => readRole .node rest env
  | "router" :: rest => readRole .router rest env
  | "help" :: rest => .error (helpPage rest)
  | arg :: rest =>
    match arg.toList with
    | '-' :: '-' :: [] =>
      match rest with
      | [] => .error .noCommand
      | next :: _ =>
        if next ∈ commandNames then .error (.unknownArgument next)
        else .error (.unknownCommand next)
    | '-' :: '-' :: text =>
      let (name, value) := splitLong text
      if name = "help" ∨ name = "version" then
        match value with
        | some value => .error (.unwantedValue ("--" ++ name) value)
        | none => .error (if name = "help" then .help .overview else .version)
      else .error (.unknownArgument ("--" ++ name))
    | '-' :: c :: _ =>
      if c = 'h' then .error (.help .overview)
      else if c = 'V' then .error .version
      else .error (.unknownArgument (String.ofList ['-', c]))
    | _ => .error (.unknownCommand arg)

end ShardStore.CommandLine
