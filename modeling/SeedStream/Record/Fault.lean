import SeedStream.Bytes
import SeedStream.Text.Utf8
import SeedStream.Time.BinaryTime

/-!
# Faults of a record

Why bytes are no record header, and why the payload of a record yields no
samples. A fault becomes a framing error or a decoding error, depending on who
asked.
-/

set_option autoImplicit false

namespace SeedStream

inductive HeaderFault
  /-- A field was asked for that does not lie in the buffer. -/
  | outOfBounds (start stop size : Nat)
  | shortChunk (size : Nat)
  | shortRecord (size : Nat)
  | sequenceNumber (field : Bytes)
  | identifier (bad : UInt8) (fields : Bytes)
  /-- Neither byte order gives a date that a recorder would write. -/
  | startTime (field : Bytes)
  | chain (offset : Nat)
  | noDataBlockette
  | lengthExponent (exponent : UInt8)
  | truncated (size length : Nat)
  | dataOffset (offset length : Nat)
  | time (fault : TimeFault)
deriving DecidableEq, Repr

namespace HeaderFault

def message : HeaderFault → String
  | .outOfBounds start stop size => s!"bytes {start} to {stop} are outside a buffer of {size} bytes"
  | .shortChunk size => s!"chunk of {size} bytes is shorter than the fixed header"
  | .shortRecord size => s!"record of {size} bytes is shorter than the fixed header"
  | .sequenceNumber field => s!"invalid sequence number '{Text.Utf8.lenient field}'"
  | .identifier bad fields =>
    s!"illegal character 0x{Bytes.hex bad} in identifiers '{Text.Utf8.lenient fields}'"
  | .startTime field =>
    "implausible start time bytes [" ++ ", ".intercalate (field.map Bytes.hex) ++ "]"
  | .chain offset => s!"blockette chain loops or overlaps at offset {offset}"
  | .noDataBlockette => "missing blockette 1000"
  | .lengthExponent exponent => s!"record length 2^{exponent.toNat} outside 256..=16384"
  | .truncated size length => s!"record truncated: {size} of {length} bytes"
  | .dataOffset offset length => s!"data offset {offset} outside record of {length} bytes"
  | .time fault => fault.message

def toFraming (f : HeaderFault) : StreamError :=
  .framing "crack_record_length" f.message

def toDecode : HeaderFault → StreamError
  | .time fault => fault.toError
  | f => .decode "RecordHeader::parse" f.message

end HeaderFault

inductive PayloadFault
  | outOfBounds (start stop size : Nat)
  | offset (start stop : Nat)
  | encoding (code : UInt8)
  | tooShort (count needed size : Nat)
deriving DecidableEq, Repr

namespace PayloadFault

def toError : PayloadFault → StreamError
  | .outOfBounds start stop size =>
    .decode "RecordHeader::payload" s!"bytes {start} to {stop} are outside a record of {size} bytes"
  | .offset start stop =>
    .decode "RecordHeader::payload" s!"data offset {start} beyond record end {stop}"
  | .encoding code => .unsupportedEncoding code
  | .tooShort count needed size =>
    .decode "RawIntegerDecoder" s!"{count} samples need {needed} bytes, payload has {size}"

end PayloadFault
end SeedStream
