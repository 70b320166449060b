import SeedStream.CommandLine.Run

/-!
# The program

Reads the named files, runs the command, and prints its report or its error.
-/

set_option autoImplicit false

namespace SeedStream

def openFile (path : String) : IO (Except FileFault FileTree) := do
  try
    let b ← IO.FS.readBinFile path
    return .ok (.file b.toList)
  catch
    | .inappropriateType none _ _ => return .ok (.folder [])
    | .inappropriateType (some _) _ _ => return .error .notFolder
    | .invalidArgument _ _ _ => return .error .nameTooLong
    | _ => return .error .missing

def namedFiles : CommandLine.Command → List String
  | .split inputs options _ => options.config.toList ++ inputs
  | .coverage inputs _ options => options.config.toList ++ inputs
  | .records input _ _ => [input]
  | .stats input _ => [input]

def loadFiles (paths : List String) : IO Files := do
  let loaded ← paths.mapM fun path => do return (path, ← openFile path)
  return fun path => (loaded.lookup path).getD (.error .missing)

def finishWith (o : CommandLine.Outcome) : IO UInt32 := do
  IO.print o.output
  if let some e := o.error then IO.eprintln s!"Error: {e}"
  return UInt32.ofNat o.status

end SeedStream

open SeedStream in
def main (args : List String) : IO UInt32 := do
  match CommandLine.parse args with
  | .error stop => finishWith stop.outcome
  | .ok i =>
    let files ← loadFiles (namedFiles i.command)
    let started ← IO.monoNanosNow
    let result := i.command.run files
    let elapsed := (← IO.monoNanosNow) - started
    finishWith (CommandLine.outcome i.asJson elapsed result)
