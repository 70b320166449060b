import SeedStream.CommandLine.Arguments
import SeedStream.Text

/-!
# Commands

The commands of the program and the options of each. The options for the amount
of logging may stand at every command, but not both at one.
-/

set_option autoImplicit false

namespace SeedStream.CommandLine

structure SplitOptions where
  config : Option String
  quality : Option String
  includeChannels : Option String
  excludeChannels : Option String
deriving DecidableEq, Repr

inductive Command
  | split (inputs : List String) (options : SplitOptions) (details : Bool)
  | records (input quality : String) (limit : Option Nat)
  | stats (input quality : String)
  | coverage (inputs channels : List String) (options : SplitOptions)
deriving DecidableEq, Repr

structure Invocation where
  command : Command
  asJson : Bool
deriving DecidableEq, Repr

/-! ## Options -/

def anyText : String → Bool := fun _ => true

def path : String → Bool := fun s => !s.isEmpty

def number? (s : String) : Option Nat :=
  let digits := match s.toList with
    | '+' :: cs => cs
    | cs => cs
  let n : Nat := digits.foldl (fun n c => n * 10 + (c.toNat - 0x30)) 0
  if !digits.isEmpty && digits.all Char.isDigit && n < 18446744073709551616 then some n else none

def logging : List OptionSpec :=
  [⟨"verbose", some 'v', .counter, anyText⟩, ⟨"quiet", some 'q', .flag, anyText⟩]

def json : OptionSpec := ⟨"json", some 'j', .flag, anyText⟩

def quality : OptionSpec := ⟨"quality", none, .value, anyText⟩

def splitting : List OptionSpec :=
  [⟨"config", some 'c', .value, path⟩, quality, ⟨"include", none, .value, anyText⟩,
    ⟨"exclude", none, .value, anyText⟩]

def helpName : String := "help"

def programSpec : CommandSpec where
  options := logging
  operandLimit := some 0
  subcommands := ["split", "inspect", "coverage", helpName]
  hasVersion := true

def inspectSpec : CommandSpec where
  options := logging
  operandLimit := some 0
  subcommands := ["records", "stats", helpName]
  hasVersion := false

def splitSpec : CommandSpec where
  options := logging ++ splitting ++ [json, ⟨"details", none, .flag, anyText⟩]
  operandLimit := none
  subcommands := []
  hasVersion := false

def coverageSpec : CommandSpec where
  options := logging ++ splitting ++ [json, ⟨"channels", none, .values, anyText⟩]
  operandLimit := none
  subcommands := []
  hasVersion := false

def recordsSpec : CommandSpec where
  options := logging ++
    [quality, json, ⟨"limit", some 'n', .value, fun s => (number? s).isSome⟩]
  operandLimit := some 1
  subcommands := []
  hasVersion := false

def statsSpec : CommandSpec where
  options := logging ++ [quality, json]
  operandLimit := some 1
  subcommands := []
  hasVersion := false

/-! ## Reading -/

def checkLogging (g : Given) : Except Stop Unit :=
  if g.has "verbose" && g.has "quiet" then .error .usage else .ok ()

def splitOptions (g : Given) : SplitOptions :=
  ⟨g.value? "config", g.value? "quality", g.value? "include", g.value? "exclude"⟩

def readLeaf (c : CommandSpec) (args : List String) : Except Stop Given := do
  match ← read c args with
  | .subcommand _ _ _ => .error .usage
  | .complete g =>
    checkLogging g
    if g.operands.isEmpty then .error .usage else return g

def readSplit (args : List String) : Except Stop Invocation := do
  let g ← readLeaf splitSpec args
  return ⟨.split g.operands (splitOptions g) (g.has "details"), g.has "json"⟩

def readCoverage (args : List String) : Except Stop Invocation := do
  let g ← readLeaf coverageSpec args
  if !g.has "channels" then .error .usage
  else
    let channels := (g.values "channels").flatMap (Text.split ',')
    return ⟨.coverage g.operands channels (splitOptions g), g.has "json"⟩

def inspectedQuality (g : Given) : String := (g.value? "quality").getD "All"

def readRecords (args : List String) : Except Stop Invocation := do
  let g ← readLeaf recordsSpec args
  return ⟨.records (g.operands.headD "") (inspectedQuality g) ((g.value? "limit").bind number?),
    g.has "json"⟩

def readStats (args : List String) : Except Stop Invocation := do
  let g ← readLeaf statsSpec args
  return ⟨.stats (g.operands.headD "") (inspectedQuality g), g.has "json"⟩

def hasHelp : List String → Bool
  | [] => true
  | name :: rest =>
    if name = helpName then hasHelp rest
    else if name = "inspect" then
      match rest with
      | [] => true
      | sub :: more => inspectSpec.subcommands.contains sub && more.isEmpty
    else (name = "split" ∨ name = "coverage") && rest.isEmpty

def helpStop (known : Bool) : Stop := if known then .help else .usage

def readInspect (args : List String) : Except Stop Invocation := do
  match ← read inspectSpec args with
  | .complete _ => .error .usage
  | .subcommand g name rest => do
    let invocation ←
      if name = "records" then readRecords rest
      else if name = "stats" then readStats rest
      else .error (helpStop (hasHelp ("inspect" :: rest)))
    checkLogging g
    return invocation

def parse (args : List String) : Except Stop Invocation := do
  match ← read programSpec args with
  | .complete _ => .error .usage
  | .subcommand g name rest => do
    let invocation ←
      if name = "split" then readSplit rest
      else if name = "coverage" then readCoverage rest
      else if name = "inspect" then readInspect rest
      else .error (helpStop (hasHelp rest))
    checkLogging g
    return invocation

end SeedStream.CommandLine
