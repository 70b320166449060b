import SeedStream.Proofs.Record.Bounds
import SeedStream.Proofs.Record.StartTime
import SeedStream.Proofs.Record.Walk

/-!
# What bytes are a record

A chunk announces a length, and a record has a header, by conditions on their bytes alone.
Finding the length and reading the header check the same things, and reading checks four
more: that the record is whole, that its start and that of its calibration are points in
time, and that its samples lie in it.
-/

set_option autoImplicit false

namespace SeedStream

section

variable {ε α β : Type}

theorem exists_ok_map {x : Except ε α} {g : α → β} (h : ∃ a, x = .ok a) :
    ∃ b, x.map g = .ok b := by
  obtain ⟨a, rfl⟩ := h
  exact ⟨g a, rfl⟩

theorem exists_ok_bind {x : Except ε α} {f : α → Except ε β} (h : ∃ a, x = .ok a)
    (hf : ∀ a, x = .ok a → ∃ b, f a = .ok b) : ∃ b, (x >>= f) = .ok b := by
  obtain ⟨a, rfl⟩ := h
  exact hf a rfl

theorem exists_ok_step {x : Except ε α} {f : α → Except ε β} {a : α} (h : x = .ok a)
    (hf : ∃ b, f a = .ok b) : ∃ b, (x >>= f) = .ok b := by
  subst h
  exact hf

end

namespace Fields

variable {f : Fields} {offset width : Nat}

theorem word_ok (h : offset + width ≤ f.bytes.length) : ∃ n, f.word offset width = .ok n :=
  exists_ok_map ⟨_, slice_eq h⟩

theorem u8_ok (h : offset + 1 ≤ f.bytes.length) : ∃ x, f.u8 offset = .ok x :=
  exists_ok_map (word_ok h)

theorem u16_ok (h : offset + 2 ≤ f.bytes.length) : ∃ x, f.u16 offset = .ok x :=
  exists_ok_map (word_ok h)

theorem i16_ok (h : offset + 2 ≤ f.bytes.length) : ∃ x, f.i16 offset = .ok x :=
  exists_ok_map (word_ok h)

theorem u32_ok (h : offset + 4 ≤ f.bytes.length) : ∃ x, f.u32 offset = .ok x :=
  exists_ok_map (word_ok h)

theorem i32_ok (h : offset + 4 ≤ f.bytes.length) : ∃ x, f.i32 offset = .ok x :=
  exists_ok_map (word_ok h)

theorem text_ok (h : offset + width ≤ f.bytes.length) : ∃ s, f.text offset width = .ok s :=
  exists_ok_map ⟨_, slice_eq h⟩

theorem u8_eq_ok {x : UInt8} : f.u8 offset = .ok x ↔ f.bytes[offset]? = some x := by
  by_cases h : offset < f.bytes.length
  · have hone : f.bytes.window ⟨offset, 1⟩ = [f.bytes[offset]] := by
      rw [Bytes.window, List.drop_eq_getElem_cons h]
      rfl
    rw [u8, word, slice_eq h, hone, List.getElem?_eq_getElem h]
    cases f.order <;> simp [Except.map, ByteOrder.read, Bytes.value]
  · have hnone : f.bytes.slice? offset (offset + 1) = none := by
      rw [Bytes.slice?, if_neg fun hin => h hin.2]
    rw [u8, word, slice, hnone, List.getElem?_eq_none (Nat.not_lt.1 h)]
    simp [Except.map]

theorem micros_eq_ok {m : Int} :
    f.micros offset = .ok m ↔ ∃ t, f.time offset = .ok t ∧ t.toMicros = .ok m := by
  rw [micros, bind_eq_ok]
  refine exists_congr fun t => and_congr_right' ?_
  cases t.toMicros <;> simp

end Fields

namespace Header

variable {b : Bytes} {f : Fields} {order : ByteOrder} {blockettes : List Blockette} {n offset : Nat}

def IsSequenceByte (x : UInt8) : Prop := 0x30 ≤ x.toNat ∧ x.toNat ≤ 0x39 ∨ x = blank

instance (x : UInt8) : Decidable (IsSequenceByte x) := inferInstanceAs (Decidable (_ ∨ _))

theorem exists_sequenceOf {value : Nat} {field : Bytes} :
    (∃ n, sequenceOf value field = some n) ↔ ∀ x ∈ field, IsSequenceByte x := by
  induction field generalizing value with
  | nil => simp [sequenceOf]
  | cons x field ih =>
    rw [List.forall_mem_cons, IsSequenceByte, sequenceOf]
    by_cases hdigit : 0x30 ≤ x.toNat ∧ x.toNat ≤ 0x39
    · rw [if_pos hdigit, ih]
      simp [hdigit]
    · by_cases hblank : x = blank
      · rw [if_neg hdigit, if_pos hblank, ih]
        simp [hblank]
      · rw [if_neg hdigit, if_neg hblank]
        simp [hdigit, hblank]

theorem readSequence_ok (h : 6 ≤ f.bytes.length) :
    (∃ n, readSequence f = .ok n) ↔ ∀ x ∈ f.bytes.window ⟨0, 6⟩, IsSequenceByte x := by
  have hfield : f.slice 0 6 = .ok (f.bytes.window ⟨0, 6⟩) := Fields.slice_eq h
  rw [← exists_sequenceOf, readSequence, hfield]
  simp only [bind, Except.bind]
  cases sequenceOf 0 (f.bytes.window ⟨0, 6⟩) <;> simp

theorem isIdentifierByte_iff {x : UInt8} : isIdentifierByte x = true ↔
    (Char.ofNat x.toNat).isAlphanum = true ∨ x = blank ∨ x = 0x2d := by
  have hall : ∀ n : Fin 256, isIdentifierByte (UInt8.ofNat n) = true ↔
      (Char.ofNat n).isAlphanum = true ∨ UInt8.ofNat n = blank ∨ UInt8.ofNat n = 0x2d := by
    decide +kernel
  simpa using hall ⟨x.toNat, x.toNat_lt⟩

theorem checkIdentifiers_eq_ok (h : 20 ≤ f.bytes.length) : checkIdentifiers f = .ok () ↔
    (∀ x ∈ f.bytes.window ⟨0, 6⟩, IsSequenceByte x) ∧
      ∀ x ∈ f.bytes.window ⟨8, 12⟩, isIdentifierByte x = true := by
  have hfields : f.slice 8 12 = .ok (f.bytes.window ⟨8, 12⟩) := Fields.slice_eq h
  rw [← readSequence_ok (by omega), checkIdentifiers, hfields, bind_eq_ok, ← exists_and_right]
  refine exists_congr fun n => and_congr_right' ?_
  simp only [bind, Except.bind]
  cases hfind : (f.bytes.window ⟨8, 12⟩).find? fun x => !isIdentifierByte x with
  | none => simpa using hfind
  | some bad =>
    have hbad := List.find?_some hfind
    have hmem := List.mem_of_find?_eq_some hfind
    simp only [reduceCtorEq, false_iff]
    intro hall
    rw [hall bad hmem] at hbad
    cases hbad

def Dated (f : Fields) : Prop := IsPlausible (f.wordAt 20) (f.wordAt 22)

instance (f : Fields) : Decidable (Dated f) := inferInstanceAs (Decidable (IsPlausible _ _))

/-- The first byte order, with the big one before the little one, in which the start date is one
that a recorder would write. -/
def FirstDated (b : Bytes) (order : ByteOrder) : Prop :=
  Dated ⟨b, order⟩ ∧ (order = .little → ¬ Dated ⟨b, .big⟩)

instance (b : Bytes) (order : ByteOrder) : Decidable (FirstDated b order) :=
  inferInstanceAs (Decidable (_ ∧ _))

theorem hasPlausibleStart_eq_dated (h : 24 ≤ f.bytes.length) :
    hasPlausibleStart f = .ok (decide (Dated f)) := by
  rw [hasPlausibleStart_eq (Fields.u16_eq (by omega)) (Fields.u16_eq (by omega))]
  simp only [Fields.toNat_wordAt]
  rfl

theorem detectOrder_eq_ok (h : 24 ≤ b.length) :
    detectOrder b = .ok order ↔ FirstDated b order := by
  have hbig : hasPlausibleStart ⟨b, .big⟩ = .ok (decide (Dated ⟨b, .big⟩)) :=
    hasPlausibleStart_eq_dated h
  have hlittle : hasPlausibleStart ⟨b, .little⟩ = .ok (decide (Dated ⟨b, .little⟩)) :=
    hasPlausibleStart_eq_dated h
  cases order with
  | big => simp [detectOrder_big_iff, hbig, FirstDated]
  | little =>
    constructor
    · intro ho
      have hdated := hasPlausibleStart_of_detectOrder ho
      rw [hlittle] at hdated
      refine ⟨by simpa using hdated, fun _ hfirst => ?_⟩
      rw [decide_eq_true hfirst] at hbig
      cases ho.symm.trans (detectOrder_big_iff.2 hbig)
    · rintro ⟨hdated, hfirst⟩
      rw [decide_eq_false (hfirst rfl)] at hbig
      rw [decide_eq_true hdated] at hlittle
      exact detectOrder_little hbig hlittle

theorem checkDataOffset_eq_ok {d : UInt16} : checkDataOffset d n = .ok () ↔
    d.toNat = 0 ∨ 48 ≤ d.toNat ∧ d.toNat ≤ n := by
  unfold checkDataOffset Blockette.fixedHeaderSize
  split
  next h =>
    simp only [reduceCtorEq, false_iff]
    omega
  next h =>
    simp only [true_iff]
    omega

theorem readCalibration_ok (h : offset + Blockette.calibrationSize ≤ f.bytes.length) :
    (∃ c, readCalibration f offset = .ok c) ↔ ∃ m, f.micros (offset + 4) = .ok m := by
  rw [Blockette.calibrationSize] at h
  constructor
  · rintro ⟨c, hc⟩
    obtain ⟨m, hm, -⟩ := bind_eq_ok.1 hc
    exact ⟨m, hm⟩
  · intro hm
    exact exists_ok_bind hm fun _ _ =>
      exists_ok_bind (Fields.u8_ok (by omega)) fun _ _ =>
      exists_ok_bind (Fields.u32_ok (by omega)) fun _ _ =>
      exists_ok_bind (exists_ok_map (Fields.u32_ok (by omega))) fun _ _ =>
      exists_ok_bind (Fields.text_ok (by omega)) fun _ _ =>
      exists_ok_bind (Fields.u32_ok (by omega)) fun _ _ =>
      exists_ok_bind (Fields.text_ok (by omega)) fun _ _ =>
      exists_ok_bind (Fields.text_ok (by omega)) fun _ _ =>
      exists_ok_bind (Fields.text_ok (by omega)) fun _ _ => ⟨_, rfl⟩

theorem findCalibration_ok : (∃ c, findCalibration f blockettes = .ok c) ↔
    ∀ offset, Blockette.last? blockettes Blockette.calibrationKind Blockette.calibrationSize
      f.bytes.length = some offset → ∃ m, f.micros (offset + 4) = .ok m := by
  unfold findCalibration
  cases hlast : Blockette.last? blockettes Blockette.calibrationKind Blockette.calibrationSize
    f.bytes.length with
  | none => simp
  | some offset =>
    simp only [Option.some.injEq, forall_eq', ← readCalibration_ok (Blockette.last?_le hlast)]
    constructor
    · rintro ⟨c, hc⟩
      cases hread : readCalibration f offset with
      | error e =>
        rw [hread] at hc
        cases hc
      | ok c => exact ⟨c, rfl⟩
    · exact exists_ok_map

theorem findTiming_ok : ∃ t, findTiming f blockettes = .ok t := by
  unfold findTiming
  split
  next => exact ⟨none, rfl⟩
  next offset hlast =>
    have hle := Blockette.last?_le hlast
    rw [Blockette.timingSize] at hle
    exact exists_ok_map (Fields.u8_ok (by omega))

theorem findData_ok {e : UInt8} (hlast : Blockette.last? blockettes Blockette.dataKind
      Blockette.dataSize f.bytes.length = some offset) (he : f.u8 (offset + 6) = .ok e) :
    ∃ encoding wordOrder, findData f blockettes = .ok (encoding, wordOrder, e) := by
  have hle := Blockette.last?_le hlast
  rw [Blockette.dataSize] at hle
  obtain ⟨encoding, hencoding⟩ := Fields.u8_ok (show offset + 4 + 1 ≤ f.bytes.length by omega)
  obtain ⟨wordOrder, hword⟩ := Fields.u8_ok (show offset + 5 + 1 ≤ f.bytes.length by omega)
  refine ⟨encoding, wordOrder, ?_⟩
  rw [findData, hlast]
  simp only [readDataBlockette, hencoding, hword, he, bind, Except.bind, pure, Except.pure]

theorem ofFields_ok (hb : 48 ≤ f.bytes.length) (hsequence : ∃ k, readSequence f = .ok k)
    (hstart : ∃ m, f.micros 20 = .ok m) (hchain : Blockette.chain f = .ok blockettes)
    (hdata : ∃ data, findData f blockettes = .ok data ∧ lengthOfExponent data.2.2 = .ok n)
    (hwhole : n ≤ f.bytes.length)
    (hoffset : f.wordAt 44 = 0 ∨ 48 ≤ f.wordAt 44 ∧ f.wordAt 44 ≤ n)
    (hcalibration : ∃ c, findCalibration f blockettes = .ok c) : ∃ h, ofFields f = .ok h := by
  obtain ⟨m, hm⟩ := hstart
  obtain ⟨t, ht, -⟩ := Fields.micros_eq_ok.1 hm
  obtain ⟨data, hdata, hlength⟩ := hdata
  have hfield := Fields.u16_eq (show 44 + 2 ≤ f.bytes.length by omega)
  have hplace : checkDataOffset (UInt16.ofNat (f.wordAt 44)) n = .ok () := by
    rw [checkDataOffset_eq_ok, Fields.toNat_wordAt]
    exact hoffset
  exact exists_ok_bind hsequence fun _ _ => exists_ok_step ht <| exists_ok_step hm <|
    exists_ok_bind (Fields.i16_ok (by omega)) fun _ _ =>
    exists_ok_bind (Fields.i16_ok (by omega)) fun _ _ => exists_ok_step hchain <|
    exists_ok_step hdata <| exists_ok_step hlength <| exists_ok_step (checkWhole_eq_ok.2 hwhole) <|
    exists_ok_step hfield <| exists_ok_step hplace <|
    exists_ok_bind findTiming_ok fun _ _ => exists_ok_bind hcalibration fun _ _ =>
    exists_ok_bind (Fields.u8_ok (by omega)) fun _ _ =>
    exists_ok_bind (Fields.text_ok (by omega)) fun _ _ =>
    exists_ok_bind (Fields.text_ok (by omega)) fun _ _ =>
    exists_ok_bind (Fields.text_ok (by omega)) fun _ _ =>
    exists_ok_bind (Fields.text_ok (by omega)) fun _ _ =>
    exists_ok_bind (Fields.u16_ok (by omega)) fun _ _ =>
    exists_ok_bind (Fields.u8_ok (by omega)) fun _ _ =>
    exists_ok_bind (Fields.u8_ok (by omega)) fun _ _ =>
    exists_ok_bind (Fields.u8_ok (by omega)) fun _ _ =>
    exists_ok_bind (Fields.u8_ok (by omega)) fun _ _ =>
    exists_ok_bind (Fields.i32_ok (by omega)) fun _ _ =>
    exists_ok_bind (Fields.u16_ok (by omega)) fun _ _ => ⟨_, rfl⟩

/-- A walk along a chain of blockettes visits what the links lead to, one after the other, up to
the first link that ends the chain or strays. So it visits offsets that grow, from the end of the
fixed header on, and no more of them than there are bytes behind it, and it fails exactly if that
link strays. A length is announced exactly by a chunk of allowed bytes with a date in a byte
order whose chain does not stray, and it is the one in the last whole blockette 1000. -/
theorem chain_followed (b : Bytes) (hb : 48 ≤ b.length) :
    (∀ order, ∃ n, Blockette.StopsAt ⟨b, order⟩ n ∧
      (Blockette.walk ⟨b, order⟩).visited = (List.range n).map (fun k =>
        Blockette.readAt ⟨b, order⟩ (Blockette.link ⟨b, order⟩ k)) ∧
      (Blockette.walk ⟨b, order⟩).visited.Pairwise (fun x y => x.offset < y.offset) ∧
      (∀ x ∈ (Blockette.walk ⟨b, order⟩).visited, 48 ≤ x.offset) ∧
        n + 48 ≤ b.length ∧
      Blockette.chain ⟨b, order⟩ = if Blockette.Strays ⟨b, order⟩ n then
        .error (.chain (Blockette.link ⟨b, order⟩ n))
      else .ok (Blockette.walk ⟨b, order⟩).visited) ∧
    ∀ length, crackLength b = .ok length ↔
      (∀ x ∈ b.window ⟨0, 6⟩, IsSequenceByte x) ∧
      (∀ x ∈ b.window ⟨8, 12⟩, (Char.ofNat x.toNat).isAlphanum = true ∨ x = blank ∨
        x = 0x2d) ∧
      ∃ order, FirstDated b order ∧ (Blockette.walk ⟨b, order⟩).refused = none ∧
        ∃ x, Blockette.LastWith (Blockette.Whole 1000 8 b.length)
            (Blockette.walk ⟨b, order⟩).visited x ∧
          ∃ e, b[x.offset + 6]? = some e ∧ 8 ≤ e.toNat ∧ e.toNat ≤ 14 ∧
            length = 2 ^ e.toNat := by
  have hchain (order : ByteOrder) :
      Blockette.chain ⟨b, order⟩ = (Blockette.walk ⟨b, order⟩).result :=
        Blockette.chain_eq_walk hb
  constructor
  · intro order
    obtain ⟨n, hn, hwalk⟩ := Blockette.walk_eq ⟨b, order⟩
    rw [hchain, hwalk]
    refine ⟨n, hn, ?_, hn.pairwise_along, fun x hx => (hn.bounds_of_mem hx).1,
      hn.count_le hb, ?_⟩
    · rw [Blockette.along, List.range_eq_range']
    · by_cases hstrays : Blockette.Strays ⟨b, order⟩ n
      · rw [if_pos hstrays, if_pos hstrays]
        rfl
      · rw [if_neg hstrays, if_neg hstrays]
        rfl
  · intro length
    have hids := checkIdentifiers_eq_ok (show 20 ≤ (⟨b, .big⟩ : Fields).bytes.length from
      (by decide : 20 ≤ 48).trans hb)
    rw [crackLength_eq_ok, hids]
    simp only [detectOrder_eq_ok ((by decide : 24 ≤ 48).trans hb), hchain,
      Blockette.Walk.result_eq_ok, Blockette.last?_eq_some, Fields.u8_eq_ok, lengthOfExponent_eq_ok,
      isIdentifierByte_iff]
    constructor
    · rintro ⟨-, ⟨hsequence, hidentifiers⟩, order, horder, -, ⟨hrefused, rfl⟩, -,
        ⟨x, hx, rfl⟩, e, he, hlength⟩
      exact ⟨hsequence, hidentifiers, order, horder, hrefused, x, hx, e, he, hlength⟩
    · rintro ⟨hsequence, hidentifiers, order, horder, hrefused, x, hx, e, he, hlength⟩
      exact ⟨hb, ⟨hsequence, hidentifiers⟩, order, horder, _, ⟨hrefused, rfl⟩, _,
        ⟨x, hx, rfl⟩, e, he, hlength⟩

def chunkOf (blockettes : Bytes) : Bytes :=
  (Bytes.ofText "000001D ANMO 00LHZIU" ++ [7, 208, 0, 1, 0, 0, 0, 0, 0, 0] ++ List.replicate 16 0 ++
    [0, 48] ++ blockettes ++ List.replicate 208 0).take 256

/-- Two blockettes 1000, of which the second announces 256 bytes and holds a link. -/
def announcedTwice (next : UInt8) : Bytes :=
  chunkOf [3, 232, 0, 56, 3, 1, 9, 0, 3, 232, 0, next, 3, 1, 8, 0]

/-- A chain whose second blockette leads to itself, and one that ends there. -/
theorem chain_followed_of_loop :
    48 ≤ (announcedTwice 56).length ∧
    (Blockette.walk ⟨announcedTwice 56, .big⟩).visited = [⟨1000, 48⟩, ⟨1000, 56⟩] ∧
    Blockette.Strays ⟨announcedTwice 56, .big⟩ 2 ∧
    Blockette.chain ⟨announcedTwice 56, .big⟩ = .error (.chain 56) ∧
    48 ≤ (announcedTwice 0).length ∧ crackLength (announcedTwice 0) = .ok 256 := by
  have hloop : 48 ≤ (announcedTwice 56).length := by decide +kernel
  have hend : 48 ≤ (announcedTwice 0).length := by decide +kernel
  have hvisited : (Blockette.walk ⟨announcedTwice 56, .big⟩).visited =
      [⟨1000, 48⟩, ⟨1000, 56⟩] := by
    decide +kernel
  have hstrays : Blockette.Strays ⟨announcedTwice 56, .big⟩ 2 := by decide +kernel
  have hlink : Blockette.link ⟨announcedTwice 56, .big⟩ 2 = 56 := by decide +kernel
  obtain ⟨n, -, hlinks, -, -, -, hchain⟩ := (chain_followed _ hloop).1 .big
  have hn : n = 2 := by
    rw [hvisited] at hlinks
    simpa using (congrArg List.length hlinks).symm
  subst hn
  rw [if_pos hstrays, hlink] at hchain
  refine ⟨hloop, hvisited, hstrays, hchain, hend, ((chain_followed _ hend).2 256).2 ?_⟩
  exact ⟨by decide +kernel, by decide +kernel, .big, by decide +kernel, by decide +kernel,
    ⟨1000, 56⟩, ⟨⟨rfl, by decide +kernel⟩, [⟨1000, 48⟩], [], by decide +kernel,
      by simp⟩, 8, by decide +kernel,
    by decide, by decide, rfl⟩

/-- Bytes have a header exactly if they announce a length, hold as many bytes, start at a point in
time, have their samples nowhere or between the fixed header and their end, and if the last
whole blockette 320, where there is one, starts at a point in time. The header then has the
length that is announced. -/
theorem parse_accepts (b : Bytes) (n : Nat) : (∃ h, parse b = .ok h ∧ h.length = n) ↔
    crackLength b = .ok n ∧ n ≤ b.length ∧ ∃ order, detectOrder b = .ok order ∧
      (∃ t m, Fields.time ⟨b, order⟩ 20 = .ok t ∧ t.toMicros = .ok m) ∧
      (Fields.wordAt ⟨b, order⟩ 44 = 0 ∨
        48 ≤ Fields.wordAt ⟨b, order⟩ 44 ∧ Fields.wordAt ⟨b, order⟩ 44 ≤ n) ∧
      ∀ x, Blockette.LastWith (Blockette.Whole 320 64 b.length)
          (Blockette.walk ⟨b, order⟩).visited x →
        ∃ t m, Fields.time ⟨b, order⟩ (x.offset + 4) = .ok t ∧ t.toMicros = .ok m := by
  constructor
  · rintro ⟨h, hp, rfl⟩
    obtain ⟨hb, -, order, blockettes, horder, hr⟩ := parse_eq_ok.1 hp
    have hchain := hr.chain
    rw [Blockette.chain_eq_walk hb, Blockette.Walk.result_eq_ok] at hchain
    obtain ⟨-, rfl⟩ := hchain
    have hoffset := hr.dataOffset
    rw [Fields.u16_eq (show 44 + 2 ≤ b.length by omega)] at hoffset
    have hplace := checkDataOffset_eq_ok.1 hr.payload
    rw [← Except.ok.inj hoffset, Fields.toNat_wordAt] at hplace
    obtain ⟨t, ht, hm⟩ := Fields.micros_eq_ok.1 hr.start
    refine ⟨crackLength_of_parse hp, checkWhole_eq_ok.1 hr.whole, order, horder,
      ⟨t, _, ht, hm⟩, hplace, fun x hx => ?_⟩
    obtain ⟨m, hm⟩ := findCalibration_ok.1 ⟨_, hr.calibration⟩ x.offset
      (Blockette.last?_eq_some.2 ⟨x, hx, rfl⟩)
    obtain ⟨t, ht, hm⟩ := Fields.micros_eq_ok.1 hm
    exact ⟨t, m, ht, hm⟩
  · rintro ⟨hcrack, hwhole, order, horder, ⟨t, m, ht, hm⟩, hplace, hcalibration⟩
    obtain ⟨hb, hids, order', horder', blockettes, hchain, offset, hlast, e, he, hlength⟩ :=
      crackLength_eq_ok.1 hcrack
    cases horder.symm.trans horder'
    have hwalk := hchain
    rw [Blockette.chain_eq_walk hb, Blockette.Walk.result_eq_ok] at hwalk
    obtain ⟨-, rfl⟩ := hwalk
    have hsequence : ∃ k, readSequence ⟨b, order⟩ = .ok k :=
      (readSequence_ok ((by decide : 6 ≤ 48).trans hb)).2
        ((checkIdentifiers_eq_ok ((by decide : 20 ≤ 48).trans hb)).1 hids).1
    obtain ⟨encoding, wordOrder, hdata⟩ := findData_ok (f := ⟨b, order⟩) hlast he
    have hfound : ∃ c, findCalibration ⟨b, order⟩ (Blockette.walk ⟨b, order⟩).visited =
        .ok c := by
      rw [findCalibration_ok]
      intro offset hoffset
      obtain ⟨x, hx, rfl⟩ := Blockette.last?_eq_some.1 hoffset
      obtain ⟨t, m, ht, hm⟩ := hcalibration x hx
      exact ⟨m, Fields.micros_eq_ok.2 ⟨t, ht, hm⟩⟩
    obtain ⟨h, hh⟩ := ofFields_ok hb hsequence ⟨m, Fields.micros_eq_ok.2 ⟨t, ht, hm⟩⟩
      hchain
      ⟨_, hdata, hlength⟩ hwhole hplace hfound
    obtain ⟨blockettes, hr⟩ := ofFields_eq_ok.1 hh
    have hp : parse b = .ok h := parse_eq_ok.2 ⟨hb, hids, order, blockettes, horder, hr⟩
    exact ⟨h, hp, Except.ok.inj ((crackLength_of_parse hp).symm.trans hcrack)⟩

def calibratedOn (day : UInt8) : Bytes :=
  chunkOf [3, 232, 0, 56, 3, 1, 8, 0, 1, 64, 0, 0, 7, 208, 0, day]

/-- A record whose calibration starts on the first day of a year, and one whose calibration
starts on no day though the length it announces is found. -/
theorem parse_accepts_of_calibrated :
    (∃ h, parse (calibratedOn 1) = .ok h ∧ h.length = 256) ∧
    crackLength (calibratedOn 0) = .ok 256 ∧
    ¬ ∃ h, parse (calibratedOn 0) = .ok h ∧ h.length = 256 := by
  have hcrack (day : UInt8) (hday : day = 0 ∨ day = 1) :
      crackLength (calibratedOn day) = .ok 256 := by
    rcases hday with rfl | rfl <;> decide +kernel
  have hbig (day : UInt8) (hday : day = 0 ∨ day = 1) :
      detectOrder (calibratedOn day) = .ok .big := by
    rcases hday with rfl | rfl <;> decide +kernel
  have hvisited (day : UInt8) (hday : day = 0 ∨ day = 1) :
      (Blockette.walk ⟨calibratedOn day, .big⟩).visited = [⟨1000, 48⟩, ⟨320, 56⟩] := by
    rcases hday with rfl | rfl <;> decide +kernel
  refine ⟨(parse_accepts _ _).2 ⟨hcrack 1 (.inr rfl), by decide +kernel, .big,
    hbig 1 (.inr rfl), ⟨⟨2000, 1, 0, 0, 0, 0⟩, 946684800000000, by decide +kernel,
      by decide +kernel⟩,
    .inl (by decide +kernel), ?_⟩, hcrack 0 (.inl rfl), ?_⟩
  · rintro x ⟨⟨hkind, -⟩, front, back, hx, -⟩
    have hmem : x ∈ (Blockette.walk ⟨calibratedOn 1, .big⟩).visited := hx ▸ by simp
    rw [hvisited 1 (.inr rfl)] at hmem
    simp only [List.mem_cons, List.not_mem_nil, or_false] at hmem
    rcases hmem with rfl | rfl
    · cases hkind
    · exact ⟨⟨2000, 1, 0, 0, 0, 0⟩, 946684800000000, by decide +kernel, by decide +kernel⟩
  · intro hp
    obtain ⟨-, -, order, horder, -, -, hcalibration⟩ := (parse_accepts _ _).1 hp
    cases (hbig 0 (.inl rfl)).symm.trans horder
    obtain ⟨t, m, ht, hm⟩ := hcalibration ⟨320, 56⟩
      ⟨⟨rfl, by decide +kernel⟩, [⟨1000, 48⟩], [], hvisited 0 (.inl rfl), by simp⟩
    have hzero : Fields.time ⟨calibratedOn 0, .big⟩ 60 = .ok ⟨2000, 0, 0, 0, 0, 0⟩ := by
      decide +kernel
    cases hzero.symm.trans ht
    cases hm

end Header
end SeedStream
