import SeedStream.Proofs.Framing.RoundTrip
import SeedStream.Proofs.Record.Chain

/-!
# Lengths seen by framing and by reading

A framer takes the length of a record from the blockettes in its first chunk.
Reading the record follows the chain to its end, where another blockette 1000 may
announce less. So the length in a header is at most that of the record, and the
two are equal if the last blockette 1000 lies in the first chunk.
-/

set_option autoImplicit false

namespace SeedStream

theorem Framer.framed_of_mem {b : Bytes} {source : Nat} {quality : QualityFilter} {isFinal : Bool}
    {r : RawRecord} (hr : r ∈ (ofReader (.plain b) source quality isFinal).records.1) :
    Framed quality r := by
  obtain ⟨pieces, htiles, hrecords, -⟩ := (plain_live b source quality isFinal).run
  rw [hrecords] at hr
  exact htiles.framed r hr

theorem Framed.records_eq {quality : QualityFilter} {b : Bytes} {source : Nat}
    (h : Framed quality ⟨source, b⟩) (isFinal : Bool) :
    (Framer.ofReader (.plain b) source quality isFinal).records.1 = [⟨source, b⟩] := by
  have hlive := Framer.plain_live b source quality isFinal
  have hone : b = [b].flatten := by simp
  exact (hlive.records_flatten hone fun c hc => List.mem_singleton.1 hc ▸ h).1

theorem Framed.length_eq {quality : QualityFilter} {r : RawRecord} {offset length : Nat}
    (h : Framed quality r) (ha : Header.Announces r.bytes offset length)
    (hin : offset + Blockette.dataSize ≤ Header.frameSize) : length = r.bytes.length := by
  obtain ⟨offset', ha'⟩ := Header.announces_of_crackLength h.announced
  exact (ha.take (by decide) h.isLength.le ha' hin).2.symm

namespace Bytes

/-- The fixed header of a record without samples, and a blockette 1000 that announces
512 bytes, followed by a link. -/
def linked (next : Nat) : Bytes :=
  Draft.longPeriod.fixedHeader ⟨2000, 1, 0, 0, 0, 0⟩ 1 1 0 ++ ofNat 2 1000 ++ ofNat 2 next ++
    [3, 1, 9, 0]

def singlyAnnounced : Bytes := Draft.fillTo 512 (linked 0)

/-- A record of 512 bytes with a second blockette 1000 behind the first chunk, which
announces 256 bytes. -/
def doublyAnnounced : Bytes :=
  Draft.fillTo 512 (Draft.fillTo 256 (linked 256) ++ ofNat 2 1000 ++ ofNat 2 0 ++ [3, 1, 8, 0])

end Bytes

theorem framed_singlyAnnounced : Framed .standard ⟨0, Bytes.singlyAnnounced⟩ where
  isLength := ⟨9, by decide +kernel⟩
  announced := by decide +kernel
  wanted := ⟨68, by decide +kernel⟩
  silent := by decide +kernel

theorem framed_doublyAnnounced : Framed .standard ⟨0, Bytes.doublyAnnounced⟩ where
  isLength := ⟨9, by decide +kernel⟩
  announced := by decide +kernel
  wanted := ⟨68, by decide +kernel⟩
  silent := by decide +kernel

namespace Framer

/-- The length in the header of a record put out is that announced by the last
blockette 1000 of the record. It is at most the record's own length, and equal to it
if that blockette lies in the first chunk. -/
theorem parsed_length (b : Bytes) (source : Nat) (quality : QualityFilter) (isFinal : Bool)
    (r : RawRecord) (hr : r ∈ (ofReader (.plain b) source quality isFinal).records.1) (h : Header)
    (hp : Header.parse r.bytes = .ok h) :
    h.length ≤ r.bytes.length ∧ ∃ offset, Header.Announces r.bytes offset h.length ∧
      (offset + Blockette.dataSize ≤ Header.frameSize → h.length = r.bytes.length) := by
  obtain ⟨⟨offset, ha⟩, hle⟩ := Header.announces_of_parse hp
  exact ⟨hle, offset, ha, (framed_of_mem hr).length_eq ha⟩

/-- A record with one blockette, which lies in the first chunk. -/
theorem parsed_length_of_single :
    ∃ h, Header.parse Bytes.singlyAnnounced = .ok h ∧
      h.length = Bytes.singlyAnnounced.length := by
  have hmem : ⟨0, Bytes.singlyAnnounced⟩ ∈
      (ofReader (.plain Bytes.singlyAnnounced) 0 .standard true).records.1 := by
    rw [framed_singlyAnnounced.records_eq]
    exact List.mem_cons_self
  have hbig : Header.detectOrder Bytes.singlyAnnounced = .ok .big := by decide +kernel
  have hone : Blockette.chain ⟨Bytes.singlyAnnounced, .big⟩ = .ok [⟨1000, 48⟩] := by
    decide +kernel
  have hparse : (Header.parse Bytes.singlyAnnounced).toBool := by decide +kernel
  cases hp : Header.parse Bytes.singlyAnnounced with
  | error e =>
    rw [hp] at hparse
    cases hparse
  | ok h =>
    obtain ⟨-, offset, ⟨order, blockettes, -, horder, hchain, hlast, -⟩, hequal⟩ :=
      parsed_length _ 0 .standard true _ hmem h hp
    cases hbig.symm.trans horder
    cases hone.symm.trans hchain
    have hoffset : offset = 48 := by
      have hfound : Blockette.last? [⟨1000, 48⟩] Blockette.dataKind Blockette.dataSize
          Bytes.singlyAnnounced.length = some 48 := by decide +kernel
      injection hlast.symm.trans hfound
    subst hoffset
    exact ⟨h, rfl, hequal (by decide)⟩

/-- A framer may put out a record whose header gives another length. -/
theorem parsed_length_differs :
    ¬ ∀ (b : Bytes) (source : Nat) (quality : QualityFilter) (isFinal : Bool) (r : RawRecord),
      r ∈ (ofReader (.plain b) source quality isFinal).records.1 →
      ∀ h, Header.parse r.bytes = .ok h → h.length = r.bytes.length := by
  intro hall
  have hmem : ⟨0, Bytes.doublyAnnounced⟩ ∈
      (ofReader (.plain Bytes.doublyAnnounced) 0 .standard true).records.1 := by
    rw [framed_doublyAnnounced.records_eq]
    exact List.mem_cons_self
  have hparse : (Header.parse Bytes.doublyAnnounced).toOption.map (·.length) = some 256 := by
    decide +kernel
  have hrecord : Bytes.doublyAnnounced.length = 512 := by decide +kernel
  cases hp : Header.parse Bytes.doublyAnnounced with
  | error e =>
    rw [hp] at hparse
    cases hparse
  | ok h =>
    rw [hp] at hparse
    have hshort : h.length = 256 := Option.some.inj hparse
    have hlength : h.length = Bytes.doublyAnnounced.length := hall _ _ _ _ _ hmem h hp
    omega

end Framer
end SeedStream
