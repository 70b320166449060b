import SeedStream.Bytes

/-!
# Arguments of a command

A command has options, which begin with one or two hyphens, and operands. An
option may stand behind operands. The value of an option is attached to it or is
the next argument, which then must not look like an option. Arguments are read
from the left, so the first fault or request decides.
-/

set_option autoImplicit false

namespace SeedStream.CommandLine

inductive OptionKind
  | flag
  | counter
  | value
  | values
deriving DecidableEq, Repr

structure OptionSpec where
  name : String
  short : Option Char
  kind : OptionKind
  accepts : String → Bool

def OptionSpec.takesValue (o : OptionSpec) : Bool :=
  o.kind == .value || o.kind == .values

structure CommandSpec where
  options : List OptionSpec
  operandLimit : Option Nat
  subcommands : List String
  hasVersion : Bool

inductive Stop
  | usage
  | help
  | version
deriving DecidableEq, Repr

structure Given where
  options : List (String × Option String) := []
  operands : List String := []
deriving Repr

namespace Given

def has (g : Given) (name : String) : Bool :=
  g.options.any (·.1 == name)

def value? (g : Given) (name : String) : Option String :=
  (g.options.find? (·.1 == name)).bind (·.2)

def values (g : Given) (name : String) : List String :=
  (g.options.filter (·.1 == name)).filterMap (·.2)

def add (g : Given) (o : OptionSpec) (value : Option String) : Except Stop Given :=
  let once := o.kind == .flag || o.kind == .value
  if once && g.has o.name then .error .usage
  else if !(value.all o.accepts) then .error .usage
  else .ok { g with options := g.options ++ [(o.name, value)] }

def addOperand (c : CommandSpec) (g : Given) (operand : String) : Except Stop Given :=
  let full := match c.operandLimit with
    | some n => n ≤ g.operands.length
    | none => false
  if full || operand.isEmpty then .error .usage
  else .ok { g with operands := g.operands ++ [operand] }

end Given

inductive Argument
  | separator
  | long (name : String) (value : Option String)
  | cluster (letters : List Char)
  | operand (text : String)
deriving DecidableEq, Repr

def splitValue (cs : List Char) : String × Option String :=
  let name := String.ofList (cs.takeWhile (· != '='))
  match cs.dropWhile (· != '=') with
  | [] => (name, none)
  | _ :: value => (name, some (String.ofList value))

def Argument.ofText (s : String) : Argument :=
  match s.toList with
  | ['-', '-'] => .separator
  | '-' :: '-' :: cs => .long (splitValue cs).1 (splitValue cs).2
  | ['-'] => .operand s
  | '-' :: cs => .cluster cs
  | _ => .operand s

def readLong (c : CommandSpec) (g : Given) (name : String) (value : Option String) :
    Except Stop (Given × Option OptionSpec) :=
  match c.options.find? (·.name == name), value with
  | some o, some v =>
    if o.takesValue then (g.add o (some v)).map fun g => (g, none) else .error .usage
  | some o, none =>
    if o.takesValue then .ok (g, some o) else (g.add o none).map fun g => (g, none)
  | none, none =>
    if name = "help" then .error .help
    else if name = "version" ∧ c.hasVersion then .error .version
    else .error .usage
  | none, some _ => .error .usage

/-- Letters behind one hyphen. A letter that takes a value takes the rest. -/
def readCluster (c : CommandSpec) (g : Given) :
    List Char → Except Stop (Given × Option OptionSpec)
  | [] => .ok (g, none)
  | letter :: rest =>
    match c.options.find? (·.short == some letter) with
    | some o =>
      if o.takesValue then
        match rest with
        | [] => .ok (g, some o)
        | '=' :: value => (g.add o (some (String.ofList value))).map fun g => (g, none)
        | value => (g.add o (some (String.ofList value))).map fun g => (g, none)
      else
        match g.add o none with
        | .ok g => readCluster c g rest
        | .error e => .error e
    | none =>
      if letter = 'h' then .error .help
      else if letter = 'V' ∧ c.hasVersion then .error .version
      else .error .usage

inductive Ending
  | complete (g : Given)
  | subcommand (g : Given) (name : String) (rest : List String)
deriving Repr

def readOperands (c : CommandSpec) (g : Given) : List String → Except Stop Ending
  | [] => .ok (.complete g)
  | a :: rest =>
    match g.addOperand c a with
    | .ok g => readOperands c g rest
    | .error e => .error e

/-- The arguments of a command, of which some may be noted already. The option
that waits for its value comes first, if there is one. -/
def readFrom (c : CommandSpec) (g : Given) :
    Option OptionSpec → List String → Except Stop Ending
  | none, [] => .ok (.complete g)
  | some _, [] => .error .usage
  | some o, a :: rest =>
    match Argument.ofText a with
    | .operand v =>
      match g.add o (some v) with
      | .ok g => readFrom c g none rest
      | .error e => .error e
    | _ => .error .usage
  | none, a :: rest =>
    match Argument.ofText a with
    | .separator => readOperands c g rest
    | .long name value =>
      match readLong c g name value with
      | .ok (g, waiting) => readFrom c g waiting rest
      | .error e => .error e
    | .cluster letters =>
      match readCluster c g letters with
      | .ok (g, waiting) => readFrom c g waiting rest
      | .error e => .error e
    | .operand text =>
      if c.subcommands.contains text then .ok (.subcommand g text rest)
      else match g.addOperand c text with
        | .ok g => readFrom c g none rest
        | .error e => .error e

def read (c : CommandSpec) (args : List String) : Except Stop Ending :=
  readFrom c {} none args

end SeedStream.CommandLine
