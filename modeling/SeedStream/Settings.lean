import SeedStream.BlockPool
import SeedStream.Channel.Aliases
import SeedStream.Segment
import SeedStream.Selection.Channels
import SeedStream.Selection.Quality
import SeedStream.Text.Utf8
import SeedStream.Toml.Document

/-!
# Settings

The tables and sizes of a run, with their defaults, as they are read from a
TOML document. Settings are valid when all sizes are positive and both filters
can be made from their texts.
-/

set_option autoImplicit false

namespace SeedStream

structure Settings where
  qualityFlags : String
  queueCapacity : Nat
  blockSize : Nat
  includeChannels : Option String
  excludeChannels : Option String
  jitterDivisor : Int
  locationAliases : LocationAliases
deriving DecidableEq, Repr

inductive SettingsError
  | unreadable (path reason : String)
  | malformed (reason : String)
  | pattern (fault : PatternFault)
  | invalid (reason : String)
deriving DecidableEq, Repr

namespace SettingsError

def message : SettingsError → String
  | .unreadable path reason => s!"failed to read config '{path}': {reason}"
  | .malformed reason => s!"invalid config syntax: {reason}"
  | .pattern fault => s!"invalid channel pattern: {fault.message}"
  | .invalid reason => s!"invalid config: {reason}"

def toError (e : SettingsError) : StreamError :=
  .config e.message

end SettingsError

namespace Settings

def standard : Settings where
  qualityFlags := QualityFilter.standardText
  queueCapacity := 1024
  blockSize := BlockPool.defaultBlockSize
  includeChannels := none
  excludeChannels := none
  jitterDivisor := Segment.defaultJitterDivisor
  locationAliases := .standard

instance : Inhabited Settings := ⟨standard⟩

/-! ## Filters -/

def qualityFilter (s : Settings) : Except SettingsError QualityFilter :=
  match QualityFilter.parse s.qualityFlags with
  | .ok f => .ok f
  | .error e => .error (.invalid e.message)

def pattern? : Option String → Except SettingsError (Option Pattern)
  | none => .ok none
  | some text =>
    match Pattern.parse text with
    | .ok p => .ok (some p)
    | .error fault => .error (.pattern fault)

def channelFilter (s : Settings) : Except SettingsError ChannelFilter :=
  match pattern? s.includeChannels, pattern? s.excludeChannels with
  | .error e, _ => .error e
  | _, .error e => .error e
  | .ok keep, .ok drop => .ok (.ofPatterns keep drop)

structure Filters where
  quality : QualityFilter
  channels : ChannelFilter

def validate (s : Settings) : Except SettingsError Filters :=
  if s.queueCapacity = 0 then .error (.invalid "queue_capacity must be greater than zero")
  else if s.blockSize = 0 then .error (.invalid "block_size must be greater than zero")
  else if s.jitterDivisor ≤ 0 then .error (.invalid "jitter_divisor must be positive")
  else do
    let quality ← s.qualityFilter
    let channels ← s.channelFilter
    return ⟨quality, channels⟩

/-! ## Reading -/

def wrongType (key : String) : SettingsError :=
  .malformed s!"invalid type for {key}"

def string (key : String) : Toml.Value → Except SettingsError String
  | .string s => .ok s
  | _ => .error (wrongType key)

def integer (key : String) : Toml.Value → Except SettingsError Int
  | .integer n => .ok n
  | _ => .error (wrongType key)

def natural (key : String) : Toml.Value → Except SettingsError Nat
  | .integer n => if 0 ≤ n then .ok n.toNat else .error (wrongType key)
  | _ => .error (wrongType key)

def stringEntries (key : String) : Toml.Entries → Except SettingsError (List (String × String))
  | [] => .ok []
  | (k, v) :: rest => do
    let s ← string key v
    let entries ← stringEntries key rest
    return (k, s) :: entries

/-- The key under which a date or time counts as a table of one string. -/
def dateTimeKey : String := "$__toml_private_datetime"

def aliases (key : String) : Toml.Value → Except SettingsError LocationAliases
  | .table _ entries => (stringEntries key entries).map LocationAliases.mk
  | .dateTime text => .ok ⟨[(dateTimeKey, text)]⟩
  | _ => .error (wrongType key)

def optional {α : Type} (entries : Toml.Entries) (key : String)
    (read : String → Toml.Value → Except SettingsError α) : Except SettingsError (Option α) :=
  match entries.lookup key with
  | none => .ok none
  | some v => (read key v).map some

def ofEntries (entries : Toml.Entries) : Except SettingsError Settings := do
  let qualityFlags ← optional entries "quality_flags" string
  let queueCapacity ← optional entries "queue_capacity" natural
  let blockSize ← optional entries "block_size" natural
  let includeChannels ← optional entries "include_channels" string
  let excludeChannels ← optional entries "exclude_channels" string
  let jitterDivisor ← optional entries "jitter_divisor" integer
  let locationAliases ← optional entries "location_aliases" aliases
  return {
    qualityFlags := qualityFlags.getD standard.qualityFlags
    queueCapacity := queueCapacity.getD standard.queueCapacity
    blockSize := blockSize.getD standard.blockSize
    includeChannels
    excludeChannels
    jitterDivisor := jitterDivisor.getD standard.jitterDivisor
    locationAliases := locationAliases.getD standard.locationAliases }

def parse (text : String) : Except SettingsError Settings :=
  match Toml.parse text with
  | .error fault => .error (.malformed fault.message)
  | .ok entries => do
    let s ← ofEntries entries
    let _ ← s.validate
    return s

def ofFile (files : Files) (path : String) : Except SettingsError Settings :=
  match (files path).bind FileTree.bytes? with
  | .error fault => .error (.unreadable path fault.message)
  | .ok b =>
    match Text.Utf8.strict? b with
    | none => .error (.unreadable path "stream did not contain valid UTF-8")
    | some text => parse text

end Settings
end SeedStream
