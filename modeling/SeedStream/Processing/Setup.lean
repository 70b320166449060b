import SeedStream.Channel.Aliases
import SeedStream.Channel.Key
import SeedStream.Record.Payload
import SeedStream.Segment
import SeedStream.Selection.Channels
import SeedStream.Settings

/-!
# Sorting records

What a processor is set up with decides which channel a record belongs to, or
why it is skipped, before anything is known of other records.
-/

set_option autoImplicit false

namespace SeedStream

structure Setup where
  decoder : Decoder
  aliases : LocationAliases
  filter : ChannelFilter
  blockSize : Nat
  jitterDivisor : Int

inductive RecordKind
  | heartbeat
  | undecodable
  | badRate
  | filtered
  | data (key : ChannelKey) (h : Header)
deriving DecidableEq, Repr

namespace Setup

def ofDecoder (d : Decoder) : Setup :=
  ⟨d, .standard, .all, BlockPool.defaultBlockSize, Segment.defaultJitterDivisor⟩

def ofSettings (d : Decoder) (s : Settings) : Except SettingsError Setup :=
  s.validate.map fun f => ⟨d, s.locationAliases, f.channels, s.blockSize, s.jitterDivisor⟩

/-- The channel of a record, its location replaced by the aliases. -/
def keyOf (p : Setup) (h : Header) : ChannelKey :=
  ⟨h.network, h.station, p.aliases.normalize h.location, h.channel, h.rate⟩

def classify (p : Setup) (record : Bytes) : RecordKind :=
  if Header.isHeartbeatBytes record then .heartbeat
  else match Header.parse record with
    | .error _ => .undecodable
    | .ok h =>
      if h.isHeartbeat then .heartbeat
      else match SampleRate.interval h.rate with
        | .error _ => .badRate
        | .ok _ =>
          let key := p.keyOf h
          if p.filter.keeps key.name then .data key h else .filtered

end Setup
end SeedStream
