import SeedStream.FileTree
import SeedStream.Number.Decimal

/-!
# Errors of a stream

What can go wrong while records are framed, decoded and put together, and the
text that a reader of the log sees for each cause.
-/

set_option autoImplicit false

namespace SeedStream

inductive StreamError
  | framing (context message : String)
  | decode (context message : String)
  | sampleRate (rate : Binary64) (reason : String)
  | unsupportedEncoding (encoding : UInt8)
  | intervalMismatch (expected actual : Int)
  | mergeRange (distance : Int) (message : String)
  | range (requestedStart requestedEnd start stop : Int)
  | blockSizeMismatch (expected actual : Nat)
  | io (source message : String)
  | config (message : String)
  | other (message : String)
deriving DecidableEq, Repr

namespace StreamError

def message : StreamError → String
  | .framing context text => s!"Framing error in {context}: {text}"
  | .decode context text => s!"Decode error in {context}: {text}"
  | .sampleRate rate reason => s!"Illegal sample rate {rate.plainText} Hz: {reason}"
  | .unsupportedEncoding encoding => s!"Unsupported data encoding: {encoding.toNat}"
  | .intervalMismatch expected actual =>
    s!"Interval mismatch: expected {expected} us, found {actual} us"
  | .mergeRange distance text => s!"Merge range error ({distance} us apart): {text}"
  | .range a b start stop => s!"Range [{a}, {b}] is not within [{start}, {stop}]"
  | .blockSizeMismatch expected actual =>
    s!"Block size mismatch: pool holds {expected}-sample blocks, got {actual}"
  | .io source text => s!"I/O error on '{source}': {text}"
  | .config text => s!"Configuration error: {text}"
  | .other text => s!"Other error: {text}"

def details : StreamError → List (String × String)
  | .framing context text => [("context", context), ("message", text)]
  | .decode context text => [("context", context), ("message", text)]
  | .sampleRate rate reason => [("rate", rate.plainText), ("reason", reason)]
  | .unsupportedEncoding encoding => [("encoding", toString encoding.toNat)]
  | .intervalMismatch expected actual =>
    [("expected", toString expected), ("actual", toString actual)]
  | .mergeRange distance text => [("distance", toString distance), ("message", text)]
  | .range a b start stop =>
    [("requested_start", toString a), ("requested_end", toString b),
      ("start", toString start), ("end", toString stop)]
  | .blockSizeMismatch expected actual =>
    [("expected", toString expected), ("actual", toString actual)]
  | .io source text => [("source", source), ("message", text)]
  | .config text => [("message", text)]
  | .other text => [("message", text)]

def isRecoverable : StreamError → Bool
  | .io _ _ | .config _ | .blockSizeMismatch _ _ => false
  | _ => true

def ofFailedRead (text : String) : StreamError :=
  .io "stream" text

def ofFile (path : String) (fault : FileFault) : StreamError :=
  .io path fault.message

end StreamError
end SeedStream
