import SeedStream.CommandLine.Command
import SeedStream.Report.Text

/-!
# Running commands

A command reads files and yields a report or the text of an error. Files are
opened in the order given, and the first that cannot be opened ends the command.
A folder opens like a file, but reading it fails.
-/

set_option autoImplicit false

namespace SeedStream.CommandLine

structure Outcome where
  status : Nat
  output : String
  error : Option String
deriving DecidableEq, Repr

def describe {α : Type} : Except SettingsError α → Except String α
  | .ok x => .ok x
  | .error e => .error e.message

def describeStream {α : Type} : Except StreamError α → Except String α
  | .ok x => .ok x
  | .error e => .error e.message

def SplitOptions.base (o : SplitOptions) (files : Files) : Except SettingsError Settings :=
  match o.config with
  | some path => Settings.ofFile files path
  | none => .ok .standard

/-- The valid settings of a command; options go before the file. -/
def SplitOptions.settings (o : SplitOptions) (files : Files) : Except SettingsError Settings := do
  let s ← o.base files
  let t : Settings := { s with
    qualityFlags := o.quality.getD s.qualityFlags
    includeChannels := o.includeChannels <|> s.includeChannels
    excludeChannels := o.excludeChannels <|> s.excludeChannels }
  let _ ← t.validate
  return t

def readerOf (t : FileTree) : Reader :=
  match t.bytes? with
  | .ok b => Reader.plain b
  | .error _ => Reader.unreadable

def openAll (files : Files) : List String → Except StreamError (List Reader)
  | [] => .ok []
  | path :: rest =>
    match files path with
    | .error fault => .error (.ofFile path fault)
    | .ok t => (openAll files rest).map (readerOf t :: ·)

def splitFiles (o : SplitOptions) (files : Files) (inputs : List String) :
    Except String SplitResult := do
  let s ← describe (o.settings files)
  let readers ← describeStream (openAll files inputs)
  describe (Splitting.run s Decoder.rawInteger false readers)

def inspectedFramer (files : Files) (input quality : String) : Except String Framer := do
  let filter ← describeStream (QualityFilter.parse quality)
  match files input with
  | .error _ => .error s!"failed to open {input}"
  | .ok t => .ok (Framer.ofReader (readerOf t) 0 filter false)

def Command.run (files : Files) : Command → Except String Report
  | .split inputs options details => do
    return .split (← splitFiles options files inputs) details
  | .coverage inputs channels options => do
    let r ← splitFiles options files inputs
    return .windows channels (← describeStream (r.coverage channels))
  | .records input quality limit => do
    let f ← inspectedFramer files input quality
    let found := match limit with
      | some n => f.first n
      | none => f.records.1
    return .records input (.ofRecords found)
  | .stats input quality => do
    let f ← inspectedFramer files input quality
    let (found, g) := f.records
    return .framing input g.stats (.ofRecords found)

def programName : String := "seedsplit"
def programVersion : String := "0.1.0"

def Stop.outcome : Stop → Outcome
  | .usage => ⟨2, "", none⟩
  | .help => ⟨0, "", none⟩
  | .version => ⟨0, programName ++ " " ++ programVersion ++ "\n", none⟩

def outcome (asJson : Bool) (elapsed : Nat) : Except String Report → Outcome
  | .ok r => ⟨0, r.text asJson elapsed, none⟩
  | .error e => ⟨1, "", some e⟩

def run (files : Files) (elapsed : Nat) (args : List String) : Outcome :=
  match parse args with
  | .error stop => stop.outcome
  | .ok i => outcome i.asJson elapsed (i.command.run files)

end SeedStream.CommandLine
