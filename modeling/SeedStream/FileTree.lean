import SeedStream.Bytes

/-!
# Files by their paths

A path leads through folders to a file or to a folder. A folder can be opened
but has no bytes to read. Relative paths start at a place in the tree, `.` and
`..` stand for a folder and the one above it, and only folders have something
behind a slash.
-/

set_option autoImplicit false

namespace SeedStream

inductive FileFault
  | missing
  | notFolder
  | isFolder
  | nameTooLong
deriving DecidableEq, Repr

def FileFault.message : FileFault → String
  | .missing => "No such file or directory (os error 2)"
  | .notFolder => "Not a directory (os error 20)"
  | .isFolder => "Is a directory (os error 21)"
  | .nameTooLong => "File name too long (os error 36)"

inductive FileTree
  | file (bytes : Bytes)
  | folder (entries : List (String × FileTree))
deriving Repr, Inhabited

abbrev Files := String → Except FileFault FileTree

namespace FileTree

def bytes? : FileTree → Except FileFault Bytes
  | .file b => .ok b
  | .folder _ => .error .isFolder

def nameLimit : Nat := 255

/-- The bytes that a path stays below. -/
def pathLimit : Nat := 4096

/-- Go on by one name. A place is a file or folder with the folders above it,
innermost first. -/
def step (place : List FileTree) (name : String) : Except FileFault (List FileTree) :=
  match place with
  | .folder entries :: above =>
    if name = "." then .ok place
    else if name = ".." then .ok (if above.isEmpty then place else above)
    else if nameLimit < name.utf8ByteSize then .error .nameTooLong
    else match entries.lookup name with
      | some t => .ok (t :: place)
      | none => .error .missing
  | _ => .error .notFolder

def pathNames (path : String) : List String :=
  let parts := path.splitToList (· == '/')
  parts.filter (· ≠ "") ++ if parts.getLast? = some "" then ["."] else []

def resolve (place : List FileTree) : Files := fun path =>
  if path.isEmpty then .error .missing
  else if pathLimit ≤ path.utf8ByteSize then .error .nameTooLong
  else
    let start := if path.startsWith "/" then place.drop (place.length - 1) else place
    match (pathNames path).foldlM step start with
    | .ok (t :: _) => .ok t
    | .ok [] => .error .missing
    | .error fault => .error fault

end FileTree
end SeedStream
