import SeedStream.Bytes
import SeedStream.Number.Decimal

/-!
# Channel identity

A channel is known by network, station, location, channel code and sample rate.
Keys are equal when all five agree, the rate by its bits, and are ordered by
the five fields in turn, the rate by the total order of bit patterns.
-/

set_option autoImplicit false

namespace SeedStream

structure ChannelKey where
  network : String
  station : String
  location : String
  channel : String
  rate : Binary64
deriving DecidableEq, Repr, Inhabited

namespace ChannelKey

/-- The name shared by all rates of a channel, such as `IU_ANMO_00_LHZ`. -/
def name (k : ChannelKey) : String :=
  s!"{k.network}_{k.station}_{k.location}_{k.channel}"

def text (k : ChannelKey) : String :=
  s!"{k.network}_{k.station} {k.location}-{k.channel} ({k.rate.onePlaceText} Hz)"

def same (a b : ChannelKey) : Bool :=
  a.network == b.network && a.station == b.station && a.location == b.location &&
    a.channel == b.channel && a.rate.same b.rate

/-- The bytes of a key that a table hashes, where words have the byte order of the machine: each
text, closed by a byte that no text contains, and the bits of the rate. -/
def hashed (order : ByteOrder) (k : ChannelKey) : Bytes :=
  [k.network, k.station, k.location, k.channel].flatMap (fun s => Bytes.ofText s ++ [0xff]) ++
    order.write 8 k.rate.bits.toNat

def compare (a b : ChannelKey) : Ordering :=
  (Ord.compare a.network b.network).then <|
  (Ord.compare a.station b.station).then <|
  (Ord.compare a.location b.location).then <|
  (Ord.compare a.channel b.channel).then <|
  a.rate.compare b.rate

def le (a b : ChannelKey) : Bool :=
  compare a b != .gt

end ChannelKey
end SeedStream
