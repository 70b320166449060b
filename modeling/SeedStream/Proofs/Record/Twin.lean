import SeedStream.Proofs.Record.Heads
import SeedStream.Proofs.Record.Reversal
import SeedStream.Proofs.Record.StartTime

/-!
# The little-endian twin of a record

A record as a little-endian machine would have written it has the words of its header
and the links of its blockettes the other way round. The byte order of a header is
guessed from its start date, the big one first. So the twin is taken for what it is
unless its date also reads as a date of two centuries in big-endian order, which is so
for three days of one year.
-/

set_option autoImplicit false

namespace SeedStream

namespace Header

def wordSpans : List Span :=
  [⟨20, 2⟩, ⟨22, 2⟩, ⟨28, 2⟩, ⟨30, 2⟩, ⟨32, 2⟩, ⟨34, 2⟩, ⟨40, 4⟩,
    ⟨44, 2⟩, ⟨46, 2⟩]

/-- The words of a header and of the links of its blockettes. -/
def spans (blockettes : List Blockette) : List Span :=
  wordSpans ++ blockettes.flatMap fun x => [⟨x.offset, 2⟩, ⟨x.offset + 2, 2⟩]

theorem mem_spans {blockettes : List Blockette} {s : Span} (hs : s ∈ wordSpans) :
    s ∈ spans blockettes :=
  List.mem_append_left _ hs

/-- A big-endian record with the words of its header the other way round. -/
def twin (b : Bytes) : Bytes :=
  b.reverseAll (spans ((Blockette.chain ⟨b, .big⟩).toOption.getD []))

/-- A date of which the twin reads as a date in either byte order. -/
def IsPalindromic (year day : Nat) : Prop := year = 2056 ∧ (day = 1 ∨ day = 256 ∨ day = 257)

instance (year day : Nat) : Decidable (IsPalindromic year day) :=
  inferInstanceAs (Decidable (_ ∧ _))

/-- Of two centuries, three days are still days of them with the bytes of year and day swapped. -/
theorem isPlausible_swapped {year day : Nat} (h : IsPlausible year day) :
    IsPlausible (year % 256 * 256 + year / 256) (day % 256 * 256 + day / 256) ↔
      IsPalindromic year day := by
  unfold IsPlausible IsPalindromic at *
  have hyear : year / 256 = 7 ∨ year / 256 = 8 := by omega
  have hday : day / 256 = 0 ∨ day / 256 = 1 := by omega
  omega

/-- The order of the twin is guessed right unless its date reads as one in either order. -/
theorem detectOrder_turned {b c : Bytes} {blockettes : List Blockette} {time : BinaryTime}
    (ht : Turned b c (spans blockettes)) (h20 : (⟨b, .big⟩ : Fields).time 20 = .ok time)
    (ho : detectOrder b = .ok .big) : detectOrder c =
      .ok (if IsPalindromic time.year.toNat time.dayOfYear.toNat then .big else .little) := by
  obtain ⟨hyear, hday, -⟩ := time_eq_ok.1 h20
  have hplausible := isPlausible_of_detectOrder hyear hday ho
  have hlittle := hasPlausibleStart_eq
    ((ht.u16_turned (mem_spans (by decide))).trans hyear)
    ((ht.u16_turned (mem_spans (by decide))).trans hday)
  obtain ⟨year, hyear', hyearSwapped⟩ := ht.u16_big (mem_spans (by decide)) hyear
  obtain ⟨day, hday', hdaySwapped⟩ := ht.u16_big (mem_spans (by decide)) hday
  have hbig := hasPlausibleStart_eq hyear' hday'
  rw [hyearSwapped, hdaySwapped] at hbig
  by_cases hp : IsPalindromic time.year.toNat time.dayOfYear.toNat
  · rw [if_pos hp, detectOrder_big_iff, hbig,
      decide_eq_true ((isPlausible_swapped hplausible).2 hp)]
  · rw [if_neg hp]
    rw [decide_eq_false fun hs => hp ((isPlausible_swapped hplausible).1 hs)] at hbig
    rw [decide_eq_true hplausible] at hlittle
    exact detectOrder_little hbig hlittle

end Header

theorem Blockette.chainFrom_congr {f g : Fields} {previous offset : Nat}
    {blockettes : List Blockette} (hlen : g.bytes.length = f.bytes.length)
    (h : chainFrom f previous offset = .ok blockettes)
    (hsame : ∀ x ∈ blockettes, g.u16 x.offset = f.u16 x.offset ∧
      g.u16 (x.offset + 2) = f.u16 (x.offset + 2)) :
    chainFrom g previous offset = .ok blockettes := by
  fun_induction chainFrom f previous offset generalizing blockettes with
  | case1 =>
    rw [chainFrom, if_pos rfl]
    exact h
  | case2 => cases h
  | case3 previous offset hz hgrow hshort =>
    rw [chainFrom, if_neg hz, if_neg hgrow, if_pos (hlen ▸ hshort)]
    exact h
  | case4 previous offset hz hgrow hlong kind next hnext hkind ih =>
    cases hrest : chainFrom f offset next.toNat with
    | error e =>
      rw [hrest] at h
      cases h
    | ok rest =>
      rw [hrest] at h
      cases h
      obtain ⟨⟨hk, hn⟩, hothers⟩ := List.forall_mem_cons.1 hsame
      have hk' : g.u16 offset = .ok kind := hk.trans hkind
      have hn' : g.u16 (offset + 2) = .ok next := hn.trans hnext
      rw [chainFrom, if_neg hz, if_neg hgrow, if_neg (hlen ▸ hlong), hk', hn']
      dsimp only
      rw [ih hrest hothers]
      rfl
  | case5 => cases h
  | case6 => cases h

namespace Draft

def twinSpans : List Span :=
  Header.wordSpans ++ [⟨48, 2⟩, ⟨50, 2⟩, ⟨56, 2⟩, ⟨58, 2⟩]

variable {d : Draft} {t : BinaryTime} {factor multiplier : Int16} {count exponent : Nat}
  {calibration b c : Bytes} {h : Header}

theorem spans_sublist (hc : d.calibration = none) :
    (Header.spans d.blockettes).Sublist twinSpans := by
  rw [Header.spans, blockettes, hc]
  cases d.timingQuality <;>
    simp only [Option.isSome, Bool.false_eq_true, if_false, if_true] <;> decide

theorem spans_apart (hc : d.calibration = none) {s : Span} (ha : ∀ x ∈ twinSpans, x.Apart s) :
    ∀ x ∈ Header.spans d.blockettes, x.Apart s :=
  fun x hx => ha x ((spans_sublist hc).subset hx)

namespace Headed

variable (w : d.Headed t factor multiplier count exponent calibration b)
include w

theorem chain : Blockette.chain ⟨b, .big⟩ = .ok d.blockettes :=
  w.located.chain w.calibrated.kind

theorem turned_twin (hc : d.calibration = none) :
    Turned b (Header.twin b) (Header.spans d.blockettes) := by
  have htwin : Header.twin b = b.reverseAll (Header.spans d.blockettes) := by
    rw [Header.twin, w.chain]
    rfl
  have hlong := w.isLength.le
  have hfits : ∀ s ∈ twinSpans, s.offset + s.width ≤ 256 := by decide
  rw [htwin]
  apply turned_reverseAll
  · intro s hs
    exact (hfits s ((spans_sublist hc).subset hs)).trans hlong
  · exact List.Pairwise.sublist (spans_sublist hc) (by decide)

theorem chain_turned (ht : Turned b c (Header.spans d.blockettes)) :
    Blockette.chain ⟨c, .little⟩ = .ok d.blockettes := by
  have hchain := w.chain
  have hlink : (⟨c, .little⟩ : Fields).u16 46 = (⟨b, .big⟩ : Fields).u16 46 :=
    ht.u16_turned (Header.mem_spans (by decide))
  rw [Blockette.chain, Blockette.firstLinkOffset] at hchain ⊢
  obtain ⟨first, hfirst, hwalk⟩ := bind_eq_ok.1 hchain
  have hsame : ∀ x ∈ d.blockettes,
      (⟨c, .little⟩ : Fields).u16 x.offset = (⟨b, .big⟩ : Fields).u16 x.offset ∧
        (⟨c, .little⟩ : Fields).u16 (x.offset + 2) =
          (⟨b, .big⟩ : Fields).u16 (x.offset + 2) := by
    intro x hx
    have hmem : ∀ s ∈ [(⟨x.offset, 2⟩ : Span), ⟨x.offset + 2, 2⟩],
        s ∈ Header.spans d.blockettes :=
      fun s hs => List.mem_append_right _ (List.mem_flatMap.2 ⟨x, hx, hs⟩)
    exact ⟨ht.u16_turned (hmem _ (by simp)), ht.u16_turned (hmem _ (by simp))⟩
  exact bind_eq_ok.2
    ⟨first, hlink.trans hfirst, Blockette.chainFrom_congr ht.length hwalk hsame⟩

variable (hc : d.calibration = none) (ht : Turned b c (Header.spans d.blockettes))
include hc ht

theorem slice_turned {offset width : Nat} {order other : ByteOrder} (hfit : offset + width ≤ 256)
    (ha : ∀ x ∈ twinSpans, x.Apart ⟨offset, width⟩) :
    (⟨c, order⟩ : Fields).slice offset width = (⟨b, other⟩ : Fields).slice offset width :=
  ht.slice_kept (hfit.trans w.isLength.le) (spans_apart hc ha)

theorem text_turned {offset width : Nat} (hfit : offset + width ≤ 256)
    (ha : ∀ x ∈ twinSpans, x.Apart ⟨offset, width⟩) :
    (⟨c, .little⟩ : Fields).text offset width = (⟨b, .big⟩ : Fields).text offset width :=
  ht.text_kept (hfit.trans w.isLength.le) (spans_apart hc ha)

theorem u8_turned {offset : Nat} (hfit : offset + 1 ≤ 256)
    (ha : ∀ x ∈ twinSpans, x.Apart ⟨offset, 1⟩) :
    (⟨c, .little⟩ : Fields).u8 offset = (⟨b, .big⟩ : Fields).u8 offset :=
  ht.u8_kept (hfit.trans w.isLength.le) (spans_apart hc ha)

theorem readSequence_turned {order other : ByteOrder} :
    Header.readSequence ⟨c, order⟩ = Header.readSequence ⟨b, other⟩ := by
  have hfield : (⟨c, order⟩ : Fields).slice 0 6 = (⟨b, other⟩ : Fields).slice 0 6 :=
    w.slice_turned hc ht (by decide) (by decide)
  rw [Header.readSequence, hfield]
  rfl

theorem checkIdentifiers_turned :
    Header.checkIdentifiers ⟨c, .big⟩ = Header.checkIdentifiers ⟨b, .big⟩ := by
  have hfields : (⟨c, .big⟩ : Fields).slice 8 12 = (⟨b, .big⟩ : Fields).slice 8 12 :=
    w.slice_turned hc ht (by decide) (by decide)
  have hsequence : Header.readSequence ⟨c, .big⟩ = Header.readSequence ⟨b, .big⟩ :=
    w.readSequence_turned hc ht
  rw [Header.checkIdentifiers, hsequence, hfields]
  rfl

theorem time_turned {time : BinaryTime} (h20 : (⟨b, .big⟩ : Fields).time 20 = .ok time) :
    (⟨c, .little⟩ : Fields).time 20 = .ok time := by
  obtain ⟨hyear, hday, hhour, hminute, hsecond, hfraction⟩ := Header.time_eq_ok.1 h20
  apply Header.time_eq_ok.2
  refine ⟨?_, ?_, ?_, ?_, ?_, ?_⟩
  · exact (ht.u16_turned (Header.mem_spans (by decide))).trans hyear
  · exact (ht.u16_turned (Header.mem_spans (by decide))).trans hday
  · exact (w.u8_turned hc ht (by decide) (by decide)).trans hhour
  · exact (w.u8_turned hc ht (by decide) (by decide)).trans hminute
  · exact (w.u8_turned hc ht (by decide) (by decide)).trans hsecond
  · exact (ht.u16_turned (Header.mem_spans (by decide))).trans hfraction

theorem findData_turned :
    Header.findData ⟨c, .little⟩ d.blockettes = Header.findData ⟨b, .big⟩ d.blockettes := by
  have hlong := w.isLength.le
  have hsize : c.length = b.length := ht.length
  have hlast := d.last?_data (show 56 ≤ b.length by omega)
  have h52 : (⟨c, .little⟩ : Fields).u8 52 = (⟨b, .big⟩ : Fields).u8 52 :=
    w.u8_turned hc ht (by decide) (by decide)
  have h53 : (⟨c, .little⟩ : Fields).u8 53 = (⟨b, .big⟩ : Fields).u8 53 :=
    w.u8_turned hc ht (by decide) (by decide)
  have h54 : (⟨c, .little⟩ : Fields).u8 54 = (⟨b, .big⟩ : Fields).u8 54 :=
    w.u8_turned hc ht (by decide) (by decide)
  simp only [Header.findData, hsize, hlast, Header.readDataBlockette, Nat.reduceAdd, h52, h53, h54]

theorem findTiming_turned :
    Header.findTiming ⟨c, .little⟩ d.blockettes =
      Header.findTiming ⟨b, .big⟩ d.blockettes := by
  have hlong := w.isLength.le
  have hsize : c.length = b.length := ht.length
  have hlast := d.last?_timing (show 64 ≤ b.length by omega)
  have h60 : (⟨c, .little⟩ : Fields).u8 60 = (⟨b, .big⟩ : Fields).u8 60 :=
    w.u8_turned hc ht (by decide) (by decide)
  simp only [Header.findTiming, hsize, hlast]
  cases d.timingQuality.isSome
  · rfl
  · simp only [if_true, Nat.reduceAdd, h60]

theorem findCalibration_turned : Header.findCalibration ⟨c, .little⟩ d.blockettes =
    Header.findCalibration ⟨b, .big⟩ d.blockettes := by
  have hlong := w.isLength.le
  have hsize : c.length = b.length := ht.length
  have hlast := d.last?_calibration (show 128 ≤ b.length by omega)
  simp only [hc, Option.isSome, Bool.false_eq_true, if_false] at hlast
  simp only [Header.findCalibration, hsize, hlast]

theorem reads_turned (hr : Header.Reads ⟨b, .big⟩ d.blockettes h) :
    Header.Reads ⟨c, .little⟩ d.blockettes { h with byteOrder := .little } where
  byteOrder := rfl
  sequence := (w.readSequence_turned hc ht).trans hr.sequence
  startField := w.time_turned hc ht hr.startField
  start := by
    have hstart := hr.start
    rw [Fields.micros, hr.startField] at hstart
    rw [Fields.micros, w.time_turned hc ht hr.startField]
    exact hstart
  rateFactor := (ht.i16_turned (Header.mem_spans (by decide))).trans hr.rateFactor
  rateMultiplier := (ht.i16_turned (Header.mem_spans (by decide))).trans hr.rateMultiplier
  rate := hr.rate
  chain := w.chain_turned ht
  data := by
    rw [w.findData_turned hc ht]
    exact hr.data
  whole := by
    have hwhole := hr.whole
    have hsize : c.length = b.length := ht.length
    rw [Header.checkWhole] at hwhole ⊢
    simp only [hsize]
    exact hwhole
  dataOffset := (ht.u16_turned (Header.mem_spans (by decide))).trans hr.dataOffset
  payload := hr.payload
  timingQuality := (w.findTiming_turned hc ht).trans hr.timingQuality
  calibration := (w.findCalibration_turned hc ht).trans hr.calibration
  quality := (w.u8_turned hc ht (by decide) (by decide)).trans hr.quality
  station := (w.text_turned hc ht (by decide) (by decide)).trans hr.station
  location := (w.text_turned hc ht (by decide) (by decide)).trans hr.location
  channel := (w.text_turned hc ht (by decide) (by decide)).trans hr.channel
  network := (w.text_turned hc ht (by decide) (by decide)).trans hr.network
  sampleCount := (ht.u16_turned (Header.mem_spans (by decide))).trans hr.sampleCount
  activityFlags := (w.u8_turned hc ht (by decide) (by decide)).trans hr.activityFlags
  ioFlags := (w.u8_turned hc ht (by decide) (by decide)).trans hr.ioFlags
  qualityFlags := (w.u8_turned hc ht (by decide) (by decide)).trans hr.qualityFlags
  blocketteCount := (w.u8_turned hc ht (by decide) (by decide)).trans hr.blocketteCount
  timeCorrection := (ht.i32_turned (Header.mem_spans (by decide))).trans hr.timeCorrection
  firstBlockette := (ht.u16_turned (Header.mem_spans (by decide))).trans hr.firstBlockette

end Headed

/-- A record without calibration and its little-endian twin are parsed to the same header but
for the byte order, and announce the same length, unless the record starts on one of the three
days of which the twin reads as a day of the two centuries in big-endian order. -/
theorem parse_twin (d : Draft) (samples : List Int32) (b : Bytes) (h : Header)
    (henc : d.encode samples = .ok b) (hc : d.calibration = none) (hp : Header.parse b = .ok h)
    (hbig : h.byteOrder = .big) :
    let palindromic := Header.IsPalindromic h.startField.year.toNat h.startField.dayOfYear.toNat
    (Header.parse (Header.twin b) = .ok { h with byteOrder := .little } ↔ ¬ palindromic) ∧
      Header.crackLength b = .ok h.length ∧
      (¬ palindromic → Header.crackLength (Header.twin b) = .ok h.length) := by
  intro palindromic
  obtain ⟨t, factor, multiplier, exponent, calibration, w⟩ := headed_of_encode henc
  have ht := w.turned_twin hc
  generalize Header.twin b = c at ht ⊢
  obtain ⟨hlong, hids, order, blockettes, horder, hr⟩ := Header.parse_eq_ok.1 hp
  obtain rfl : order = .big := hr.byteOrder.symm.trans hbig
  obtain rfl : d.blockettes = blockettes := Except.ok.inj (w.chain.symm.trans hr.chain)
  have hguess := Header.detectOrder_turned ht hr.startField horder
  have hparse : ¬ palindromic → Header.parse c = .ok { h with byteOrder := .little } := by
    intro hnot
    rw [if_neg hnot] at hguess
    exact Header.parse_eq_ok.2 ⟨ht.length ▸ hlong, (w.checkIdentifiers_turned hc ht).trans hids,
      .little, d.blockettes, hguess, w.reads_turned hc ht hr⟩
  refine ⟨⟨?_, hparse⟩, Header.crackLength_of_parse hp, fun hnot =>
    (Header.crackLength_of_parse (hparse hnot) :)⟩
  intro htwin hpal
  rw [if_pos hpal] at hguess
  obtain ⟨-, -, order, _, horder', hr'⟩ := Header.parse_eq_ok.1 htwin
  cases hguess.symm.trans horder'
  have horders : ByteOrder.little = .big := hr'.byteOrder
  cases horders

def newYear (start : Int) : Draft :=
  { Draft.longPeriod with start := start }

theorem parse_twin_of_epoch : ∃ b h, (newYear 0).encode [1, 2, 3] = .ok b ∧
    Header.parse b = .ok h ∧ h.byteOrder = .big ∧
    Header.parse (Header.twin b) = .ok { h with byteOrder := .little } ∧
    Header.crackLength (Header.twin b) = .ok 512 := by
  let b := ((newYear 0).encode [1, 2, 3]).toOption.getD []
  let h := (Header.parse b).toOption.getD default
  have henc : (newYear 0).encode [1, 2, 3] = .ok b := by decide +kernel
  have hp : Header.parse b = .ok h := by decide +kernel
  have hbig : h.byteOrder = .big := by decide +kernel
  have hdate : ¬ Header.IsPalindromic h.startField.year.toNat h.startField.dayOfYear.toNat := by
    decide +kernel
  have hlength : h.length = 512 := by decide +kernel
  obtain ⟨hparse, -, hcrack⟩ := parse_twin (newYear 0) [1, 2, 3] b h henc rfl hp hbig
  exact ⟨b, h, henc, hp, hbig, hparse.2 hdate, hlength ▸ hcrack hdate⟩

/-- The twin of a record of the first day of 2056 is taken for a big-endian record. -/
theorem parse_twin_differs :
    ¬ ∀ (d : Draft) (samples : List Int32) (b : Bytes) (h : Header), d.encode samples = .ok b →
      d.calibration = none → Header.parse b = .ok h → h.byteOrder = .big →
      1900 ≤ h.startField.year.toNat ∧ h.startField.year.toNat ≤ 2100 →
      Header.parse (Header.twin b) = .ok { h with byteOrder := .little } ∧
        Header.crackLength (Header.twin b) = Header.crackLength b := by
  intro hall
  let b := ((newYear 2713910400000000).encode [1, 2, 3]).toOption.getD []
  let h := (Header.parse b).toOption.getD default
  have htwin : Header.parse (Header.twin b) = .error .noDataBlockette := by decide +kernel
  have hparse := (hall (newYear 2713910400000000) [1, 2, 3] b h (by decide +kernel) rfl
    (by decide +kernel) (by decide +kernel) (by decide +kernel)).1
  cases htwin.symm.trans hparse

end Draft
end SeedStream
