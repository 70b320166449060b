import SeedStream.Report.Json
import SeedStream.Splitting

/-!
# Reports as JSON

The members of each kind of value, in the order in which they are written.
-/

set_option autoImplicit false

namespace SeedStream

open JsonValue

def ByteOrder.json : ByteOrder → JsonValue
  | .big => .text "Big"
  | .little => .text "Little"

def BinaryTime.json (t : BinaryTime) : JsonValue :=
  .object [("year", nat t.year.toNat), ("day_of_year", nat t.dayOfYear.toNat),
    ("hour", nat t.hour.toNat), ("minute", nat t.minute.toNat), ("second", nat t.second.toNat),
    ("fraction", nat t.fraction.toNat)]

def CalibrationMarker.json (m : CalibrationMarker) : JsonValue :=
  .object [("start_time", int m.start), ("flags", nat m.flags.toNat), ("duration", int m.duration),
    ("peak_to_peak", single m.peakToPeak), ("input_channel", .text m.inputChannel),
    ("reference_amplitude", nat m.referenceAmplitude.toNat), ("coupling", .text m.coupling),
    ("rolloff", .text m.rolloff), ("noise_type", .text m.noiseType)]

def Header.json (h : Header) : JsonValue :=
  .object [("sequence", nat h.sequence), ("quality", nat h.quality.toNat),
    ("network", .text h.network), ("station", .text h.station), ("location", .text h.location),
    ("channel", .text h.channel), ("start", h.startField.json), ("start_time", int h.start),
    ("num_samples", nat h.sampleCount.toNat), ("rate_factor", int h.rateFactor.toInt),
    ("rate_multiplier", int h.rateMultiplier.toInt), ("sample_rate", double h.rate),
    ("activity_flags", nat h.activityFlags.toNat), ("io_flags", nat h.ioFlags.toNat),
    ("data_quality_flags", nat h.qualityFlags.toNat),
    ("blockette_count", nat h.blocketteCount.toNat),
    ("time_correction", int h.timeCorrection.toInt), ("data_offset", nat h.dataOffset.toNat),
    ("first_blockette", nat h.firstBlockette.toNat), ("byte_order", h.byteOrder.json),
    ("encoding", nat h.encoding.toNat), ("word_order", h.wordOrder.json),
    ("record_length", nat h.length),
    ("timing_quality", optional (fun q : UInt8 => nat q.toNat) h.timingQuality),
    ("calibration", optional CalibrationMarker.json h.calibration)]

def ChannelKey.json (k : ChannelKey) : JsonValue :=
  .object [("network", .text k.network), ("station", .text k.station),
    ("location", .text k.location), ("channel", .text k.channel), ("sample_rate", double k.rate)]

def SegmentSummary.json (s : SegmentSummary) : JsonValue :=
  .object [("start_time", int s.start), ("end_time", int s.stop), ("interval", int s.interval),
    ("sample_rate", double s.rate), ("samples", nat s.samples), ("digest", nat s.digest.toNat)]

def Window.json (w : Window) : JsonValue :=
  .object [("start_time", int w.start), ("end_time", int w.stop), ("interval", int w.interval)]

def FramingStats.json (s : FramingStats) : JsonValue :=
  .object [("bytes_read", nat s.bytesRead), ("records", nat s.records),
    ("chunks_discarded", nat s.chunksDiscarded), ("quality_rejected", nat s.qualityRejected),
    ("heartbeats", nat s.heartbeats), ("truncated", nat s.truncated), ("io_errors", nat s.ioErrors)]

def ProcessingStats.json (s : ProcessingStats) : JsonValue :=
  .object [("records_received", nat s.received), ("records_decoded", nat s.decoded),
    ("heartbeats", nat s.heartbeats), ("decode_errors", nat s.decodeErrors),
    ("rate_discarded", nat s.rateDiscarded), ("filtered", nat s.filtered),
    ("overlaps", nat s.overlaps), ("out_of_sequence", nat s.outOfSequence),
    ("segments_opened", nat s.segmentsOpened), ("sources_finished", nat s.sourcesFinished)]

def AssemblyStats.json (s : AssemblyStats) : JsonValue :=
  .object [("merges", nat s.merges), ("gaps", nat s.gaps),
    ("interval_mismatches", nat s.intervalMismatches), ("empty_discarded", nat s.emptyDiscarded)]

def SplitStats.json (elapsed : Nat) (s : SplitStats) : JsonValue :=
  .object [("sources", nat s.sources), ("framing", s.framing.json),
    ("processing", s.processing.json), ("assembly", s.assembly.json), ("channels", nat s.channels),
    ("segments", nat s.segments), ("elapsed_sec", double (.ofRatio elapsed 1000000000))]

def channelJson (c : ChannelKey × ChannelData) : JsonValue :=
  .object [("name", .text c.1.name), ("key", c.1.json), ("records", nat c.2.records),
    ("segments", .list (c.2.segments.map fun s => s.summary.json)),
    ("timing_quality", .list (c.2.timingQuality.map fun q => nat q.toNat)),
    ("calibrations", .list (c.2.calibrations.map CalibrationMarker.json))]

def SplitResult.json (elapsed : Nat) (r : SplitResult) : JsonValue :=
  .object [("channels", .list (r.channels.map channelJson)), ("stats", r.stats.json elapsed)]

end SeedStream
