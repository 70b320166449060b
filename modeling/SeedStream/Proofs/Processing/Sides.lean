import SeedStream.Proofs.Processing.Skipped
import SeedStream.Proofs.Record.Acceptance

/-!
# What a channel is told besides samples

A record whose samples are decoded is counted, and what it says of the quality of its timing and
of a calibration is kept. These are the last whole blockettes 1001 and 320 of its chain, if it
has any. A record that is skipped, for whatever reason, tells its channel nothing.
-/

set_option autoImplicit false

namespace SeedStream

namespace Blockette

variable {α : Type} {blockettes : List Blockette} {kind width size : Nat}
  {read : Nat → Except HeaderFault α} {told : Option α}

/-- What is told of a type of blockette is what is read of the last whole one, and nothing
if none is whole. -/
structure Quotes (blockettes : List Blockette) (kind width size : Nat)
    (read : Nat → Except HeaderFault α) (told : Option α) : Prop where
  isSome : told.isSome ↔ ∃ x ∈ blockettes, Whole kind width size x
  value : ∀ a, told = some a →
    ∃ x, LastWith (Whole kind width size) blockettes x ∧ read x.offset = .ok a

theorem quotes_of_ok (ht : (match last? blockettes kind width size with
      | none => .ok none
      | some offset => (read offset).map some) = Except.ok told) :
    Quotes blockettes kind width size read told := by
  cases hlast : last? blockettes kind width size with
  | none =>
    rw [hlast] at ht
    cases ht
    have hnone : ∀ x ∈ blockettes, ¬ Whole kind width size x := by
      simpa [last?, Whole] using hlast
    constructor
    · simpa using hnone
    · simp
  | some offset =>
    obtain ⟨x, hx, rfl⟩ := last?_eq_some.1 hlast
    rw [hlast] at ht
    dsimp only at ht
    cases hread : read x.offset with
    | error e =>
      rw [hread] at ht
      cases ht
    | ok a =>
      rw [hread] at ht
      cases ht
      obtain ⟨hwhole, front, back, hsplit, -⟩ := id hx
      constructor
      · simp only [Option.isSome_some, true_iff]
        exact ⟨x, by simp [hsplit], hwhole⟩
      · rintro b ⟨⟩
        exact ⟨x, hx, hread⟩

end Blockette

namespace Header

variable {r : Bytes} {h : Header}

def blockettes (r : Bytes) (h : Header) : List Blockette :=
  (Blockette.walk ⟨r, h.byteOrder⟩).visited

/-- The header of a record tells the code in its last whole blockette 1001, and the calibration in
its last whole blockette 320. -/
structure Tells (r : Bytes) (h : Header) : Prop where
  timing : Blockette.Quotes (h.blockettes r) 1001 8 r.length
    (fun offset => Fields.u8 ⟨r, h.byteOrder⟩ (offset + 4)) h.timingQuality
  calibration : Blockette.Quotes (h.blockettes r) 320 64 r.length
    (readCalibration ⟨r, h.byteOrder⟩) h.calibration

theorem tells_of_parse (hp : parse r = .ok h) : Tells r h := by
  obtain ⟨hlong, -, order, blockettes, -, hr⟩ := parse_eq_ok.1 hp
  have horder : h.byteOrder = order := hr.byteOrder
  subst horder
  have hchain := hr.chain
  rw [Blockette.chain_eq_walk hlong, Blockette.Walk.result_eq_ok] at hchain
  obtain ⟨-, rfl⟩ := hchain
  exact ⟨Blockette.quotes_of_ok hr.timingQuality, Blockette.quotes_of_ok hr.calibration⟩

end Header

namespace Setup

variable {p : Setup} {key : ChannelKey} {h : Header} {r : Bytes} {records : List Bytes}

def decoded (p : Setup) (key : ChannelKey) (records : List Bytes) : List (Header × Bytes) :=
  (p.arrivals key records).filter p.takes

theorem mem_decoded :
    (h, r) ∈ p.decoded key records ↔ r ∈ records ∧ ∃ xs, p.Decodes key r h xs := by
  simp only [decoded, List.mem_filter, mem_arrivals, takes_iff, Decodes, and_assoc,
    exists_and_left]

theorem decoded_append (a b : List Bytes) :
    p.decoded key (a ++ b) = p.decoded key a ++ p.decoded key b := by
  simp only [decoded, arrivals, List.filterMap_append, List.filter_append]

theorem decoded_cons (r : Bytes) (after : List Bytes) :
    p.decoded key (r :: after) = p.decoded key [r] ++ p.decoded key after :=
  decoded_append [r] after

end Setup

namespace Processor

variable {p : Setup} {q : Processor} {h : Header} {r : Bytes}

theorem told_processAll (q : Processor) (hb : 0 < q.setup.blockSize) (records : List Bytes)
    (key : ChannelKey) : ((q.processAll records).stateOf key).sides =
      (q.stateOf key).told (q.setup.decoded key records) := by
  rw [stateOf_processAll, Setup.decoded]
  apply ChannelState.receiveAll_told hb
  rintro ⟨h, r⟩ ha
  obtain ⟨hrate, hi⟩ := Setup.interval_of_mem_arrivals ha
  exact hrate ▸ hi

theorem decoded_receive_of_error {c : ChannelState} {x : StreamError}
    (hx : p.decoder.samples h r = .error x) : (c.receive p h r).2.decoded = 0 := by
  rw [ChannelState.receive]
  cases c.prepare p h with
  | error y => simp [ProcessingStats.add]
  | ok d => simp [ProcessingStats.add, ChannelState.openingCounts, hx]

theorem skips_iff (hb : 0 < q.setup.blockSize) :
    Skips q r ↔ ∀ key, q.setup.decoded key [r] = [] := by
  constructor
  · intro hr key
    apply List.eq_nil_iff_forall_not_mem.2
    rintro ⟨h, s⟩ hs
    obtain ⟨hmem, xs, hxs⟩ := Setup.mem_decoded.1 hs
    cases List.mem_singleton.1 hmem
    exact hr.not_decodes hb hxs
  · intro hnone
    rw [Skips]
    cases hc : q.setup.classify r with
    | data key h =>
      have hdecoded := hnone key
      rw [stats_process hc]
      cases hx : q.setup.decoder.samples h r with
      | error x => simp [ProcessingStats.add, decoded_receive_of_error hx]
      | ok xs =>
        have hmem : (h, r) ∈ q.setup.decoded key [r] :=
          Setup.mem_decoded.2 ⟨List.mem_cons_self, xs, hc, hx⟩
        rw [hdecoded] at hmem
        cases hmem
    | _ => simp [process, hc, count, ProcessingStats.add]

/-- What is put out for a channel tells how many of its records were decoded, and the codes and
the calibrations of those that carry a whole blockette 1001 or 320, in the order of the records.
The records that are skipped are those that are decoded for no channel; without one of them, the
same records are decoded. -/
theorem finish_sides (p : Setup) (records : List Bytes) (key : ChannelKey) (data : ChannelData)
    (hm : (key, data) ∈ ((ofSetup p).processAll records).finish.channels) :
    data.records = (p.decoded key records).length ∧
    data.timingQuality = (p.decoded key records).filterMap (fun a => a.1.timingQuality) ∧
    data.calibrations = (p.decoded key records).filterMap (fun a => a.1.calibration) ∧
    (∀ a ∈ p.decoded key records, a.1.Tells a.2) ∧
    ∀ before r after, records = before ++ r :: after →
      (Skips ((ofSetup p).processAll before) r ↔ ∀ k, p.decoded k [r] = []) ∧
      (Skips ((ofSetup p).processAll before) r →
        p.decoded key records = p.decoded key (before ++ after)) := by
  obtain ⟨-, i, c, ho⟩ := output_of_mem hm
  have hsides : data.sides = ({} : ChannelState).told (p.decoded key records) :=
    (mem_finish_sides (keys_nodup p records) hm).trans
      (told_processAll (ofSetup p) ho.sized records key)
  simp only [ChannelData.sides, ChannelState.told, Prod.mk.injEq, List.nil_append,
    Nat.zero_add] at hsides
  obtain ⟨hquality, hcalibrations, hrecords⟩ := hsides
  refine ⟨hrecords, hquality, hcalibrations, ?_, ?_⟩
  · rintro ⟨h, r⟩ ha
    obtain ⟨-, xs, hc, -⟩ := Setup.mem_decoded.1 ha
    exact Header.tells_of_parse (Setup.classify_data_iff.1 hc).2.1
  · rintro before r after rfl
    have hsetup : ((ofSetup p).processAll before).setup = p := processAll_setup _ before
    have hskips := skips_iff (q := (ofSetup p).processAll before) (r := r)
      (hsetup.symm ▸ ho.sized)
    rw [hsetup] at hskips
    refine ⟨hskips, fun hr => ?_⟩
    rw [Setup.decoded_append, Setup.decoded_cons, hskips.1 hr key, List.nil_append,
      Setup.decoded_append]

/-- A record with a code, one with a code that cannot be decoded, one of another channel, one with
a calibration, and one that is none. -/
theorem finish_sides_of_codes :
    ∃ r₁ r₂ r₃ r₄ : Bytes, ∃ data : ChannelData,
      { Draft.longPeriod with timingQuality := some 90 }.encode [1, 2] = .ok r₁ ∧
      { Draft.longPeriod with timingQuality := some 80, start := 2000000 }.encode [3] = .ok r₂ ∧
      { Draft.longPeriod with channel := "LHN", timingQuality := some 70 }.encode [4] = .ok r₃ ∧
      { Draft.longPeriod with
        calibration := some { (default : CalibrationMarker) with duration := 500 }
        start := 2000000 }.encode [5] = .ok r₄ ∧
      (⟨"IU", "ANMO", "00", "LHZ", ⟨0x3ff0000000000000⟩⟩, data) ∈
        ((ofSetup (.ofDecoder .rawInteger)).processAll
          [r₁, r₂.set 52 10, r₃, r₄, [0]]).finish.channels ∧
      data.records = 2 ∧ data.timingQuality = [90] ∧
      data.calibrations.map CalibrationMarker.duration = [500] := by
  let p : Setup := .ofDecoder .rawInteger
  let d := Draft.longPeriod
  let r₁ := ({ d with timingQuality := some 90 }.encode [1, 2]).toOption.getD []
  let r₂ := ({ d with timingQuality := some 80, start := 2000000 }.encode [3]).toOption.getD []
  let r₃ := ({ d with channel := "LHN", timingQuality := some 70 }.encode [4]).toOption.getD []
  let r₄ := ({ d with
    calibration := some { (default : CalibrationMarker) with duration := 500 }
    start := 2000000 }.encode [5]).toOption.getD []
  let k : ChannelKey := ⟨"IU", "ANMO", "00", "LHZ", ⟨0x3ff0000000000000⟩⟩
  let records := [r₁, r₂.set 52 10, r₃, r₄, [0]]
  let h₁ := (Header.parse r₁).toOption.getD default
  have hclass : p.classify r₁ = .data k h₁ := by decide +kernel
  have hsamples : p.decoder.samples h₁ r₁ = .ok [1, 2] := by decide +kernel
  obtain ⟨data, hm⟩ := exists_mem_finish (show 0 < p.blockSize by decide)
    (show r₁ ∈ records from List.mem_cons_self) ⟨hclass, hsamples⟩ (by decide)
  obtain ⟨hrecords, hquality, hcalibrations, -, -⟩ := finish_sides p records k data hm
  have hcount : (p.decoded k records).length = 2 := by decide +kernel
  have hcodes : (p.decoded k records).filterMap (fun a => a.1.timingQuality) = [90] := by
    decide +kernel
  have hmarkers : ((p.decoded k records).filterMap fun a => a.1.calibration).map
      CalibrationMarker.duration = [500] := by decide +kernel
  refine ⟨r₁, r₂, r₃, r₄, data, by decide +kernel, by decide +kernel, by decide +kernel,
    by decide +kernel, hm, hrecords.trans hcount, hquality.trans hcodes, ?_⟩
  rw [hcalibrations]
  exact hmarkers

end Processor
end SeedStream
