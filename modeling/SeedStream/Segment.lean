import SeedStream.BlockPool
import SeedStream.Bytes
import SeedStream.SampleRate
import SeedStream.Time.Timestamp

/-!
# Segments

A segment is a run of samples without gaps: sample `i` belongs to the time
`start + i * interval`. Its samples lie in blocks of its own pool, all of them
full except the last. Times are numbers of 64 bits, and a time that is computed
may wrap around; where it does not, it is the exact one.
-/

set_option autoImplicit false

namespace SeedStream

/-- How the times that are computed are held: as they are, or in 64 bits, where they wrap
around. -/
inductive Arithmetic
  | exact
  | wrapping
deriving DecidableEq, Repr

namespace Arithmetic

def hold : Arithmetic → Int → Int
  | exact, x => x
  | wrapping, x => x.bmod 18446744073709551616

/-- A number of samples. In 64 bits one below zero is taken for a huge one. -/
def count : Arithmetic → Int → Nat
  | exact, x => x.toNat
  | wrapping, x => (x % 18446744073709551616).toNat

end Arithmetic

structure Segment where
  start : Int
  interval : Int
  rate : Binary64
  jitterDivisor : Int
  length : Nat
  handles : Array Handle
  pool : BlockPool
deriving DecidableEq, Repr, Inhabited

structure SegmentSummary where
  start : Int
  stop : Int
  interval : Int
  rate : Binary64
  samples : Nat
  digest : UInt32
deriving DecidableEq, Repr

namespace Segment

def defaultJitterDivisor : Int := 10

def create (start : Int) (rate : Binary64) (blockSize : Nat) : Except StreamError Segment :=
  match SampleRate.interval rate with
  | .error e => .error e
  | .ok interval =>
    match BlockPool.create blockSize with
    | .error e => .error e
    | .ok pool => .ok ⟨start, interval, rate, defaultJitterDivisor, 0, #[], pool⟩

def stop (s : Segment) : Int :=
  s.start + s.interval * s.length

def stopIn (m : Arithmetic) (s : Segment) : Int :=
  m.hold s.stop

def lastTimeIn (m : Arithmetic) (s : Segment) : Int :=
  if s.length = 0 then s.start else m.hold (s.stopIn m - s.interval)

def tolerance (s : Segment) : Int :=
  s.interval / s.jitterDivisor

def withJitterDivisor (s : Segment) (divisor : Int) : Segment :=
  { s with jitterDivisor := max divisor 1 }

def blockSize (s : Segment) : Nat := s.pool.blockSize

def samples (s : Segment) : List Int32 :=
  (s.handles.toList.flatMap fun h => (s.pool.block h).toList).take s.length

def reserve (s : Segment) : Segment :=
  if s.length = s.handles.size * s.blockSize then
    let (h, pool) := s.pool.acquire
    { s with handles := s.handles.push h, pool := pool }
  else s

def place (s : Segment) (x : Int32) : Segment :=
  { s with
    pool := s.pool.write (s.handles.back?.getD 0) (s.length % s.blockSize) x
    length := s.length + 1 }

def push (s : Segment) (x : Int32) : Segment :=
  s.reserve.place x

def append (s : Segment) (xs : List Int32) : Segment :=
  xs.foldl push s

def ofSamples (start : Int) (rate : Binary64) (xs : List Int32) : Except StreamError Segment :=
  (create start rate BlockPool.defaultBlockSize).map (·.append xs)

def get? (s : Segment) (i : Nat) : Option Int32 :=
  if i < s.length then
    (s.pool.block (s.handles.getD (i / s.blockSize) 0))[i % s.blockSize]?
  else none

/-- Drop the blocks of the pool that hold no samples. -/
def shrink (s : Segment) : Segment :=
  { s with
    handles := Array.range s.handles.size
    pool := (s.pool.compact s.handles.toList).2 }

def containsRangeIn (m : Arithmetic) (s : Segment) (a b : Int) : Bool :=
  a ≤ b && s.start ≤ a && b ≤ s.stopIn m

def containsRange (s : Segment) (a b : Int) : Bool :=
  s.containsRangeIn .exact a b

/-- The place of the first sample at or behind a time. -/
def firstFromIn (m : Arithmetic) (s : Segment) (a : Int) : Int :=
  Int.tdiv (m.hold (a - s.start + s.interval - 1)) s.interval

/-- The place of the last sample at or before a time. -/
def lastToIn (m : Arithmetic) (s : Segment) (b : Int) : Int :=
  min (Int.tdiv (m.hold (b - s.start)) s.interval) ((s.length : Int) - 1)

def extractIn (m : Arithmetic) (s : Segment) (a b : Int) : Except StreamError (List Int32) :=
  if !s.containsRangeIn m a b then .error (.range a b s.start (s.stopIn m))
  else if s.length = 0 then .ok []
  else
    let first := s.firstFromIn m a
    let last := s.lastToIn m b
    if last < first then .ok []
    else .ok ((s.samples.drop (m.count first)).take (m.count (m.hold (last - first + 1))))

def extract (s : Segment) (a b : Int) : Except StreamError (List Int32) :=
  s.extractIn .exact a b

/-- The order of segments: by start, then by end. It says nothing of samples. -/
def compareSpanIn (m : Arithmetic) (a b : Segment) : Ordering :=
  (Ord.compare a.start b.start).then (Ord.compare (a.stopIn m) (b.stopIn m))

def wideBytes (x : Int) : Bytes :=
  Bytes.ofNat 8 (x % 18446744073709551616).toNat

def sampleBytes (x : Int32) : Bytes :=
  Bytes.ofNat 4 x.toUInt32.toNat

def digest (s : Segment) : UInt32 :=
  Checksum.crc32 (wideBytes s.start ++ wideBytes s.interval ++ s.samples.flatMap sampleBytes)

def summary (s : Segment) : SegmentSummary :=
  ⟨s.start, s.stopIn .wrapping, s.interval, s.rate, s.length, s.digest⟩

def text (s : Segment) : String :=
  let stop := s.stopIn .wrapping
  s!"{Timestamp.text s.start} to {Timestamp.text stop} ({s.length} samples)"

def diagnosticText (s : Segment) : String :=
  let stop := s.stopIn .wrapping
  s!"Segment \x7b start_time: {s.start}, end_time: {stop}, interval: {s.interval}, " ++
    s!"sample_rate: {s.rate.diagnosticText}, length: {s.length} \x7d"

end Segment
end SeedStream
