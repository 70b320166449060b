import SeedStream.Proofs.Processing.Isolation
import SeedStream.Proofs.Processing.Reassembly
import SeedStream.Proofs.Record.Acceptance
import SeedStream.Proofs.Text.Ascii
import SeedStream.Splitting

/-!
# Names of channels

Underscores separate the fields of a name, and a location may contain them, since an alias can
be any text. The fields on either side of it cannot: a header with an underscore in its
identifiers is refused. So the first two underscores and the last one of a name are the
separators, and a name tells everything but the rate.
-/

set_option autoImplicit false

namespace SeedStream

namespace Text

theorem mem_of_mem_trimChars {l : List Char} {c : Char} (h : c ∈ trimChars l) : c ∈ l := by
  rw [trimChars, List.mem_reverse] at h
  have hback := (List.dropWhile_suffix isBlank).mem h
  exact (List.dropWhile_suffix isBlank).mem (List.mem_reverse.1 hback)

variable {α : Type} {x y a b : List α} {sep : α}

theorem append_first_inj (hx : sep ∉ x) (hy : sep ∉ y) :
    x ++ sep :: a = y ++ sep :: b ↔ x = y ∧ a = b := by
  induction x generalizing y with
  | nil =>
    cases y with
    | nil => simp
    | cons d y =>
      have hne : sep ≠ d := fun h => hy (h ▸ List.mem_cons_self)
      simp [hne]
  | cons c x ih =>
    cases y with
    | nil =>
      have hne : c ≠ sep := fun h => hx (h ▸ List.mem_cons_self)
      simp [hne]
    | cons d y =>
      have hrest := ih (fun h => hx (List.mem_cons_of_mem c h)) fun h =>
        hy (List.mem_cons_of_mem d h)
      simp [hrest, and_assoc]

theorem append_last_inj (ha : sep ∉ a) (hb : sep ∉ b) :
    x ++ sep :: a = y ++ sep :: b ↔ x = y ∧ a = b := by
  have hreverse := append_first_inj (x := a.reverse) (y := b.reverse) (a := x.reverse)
    (b := y.reverse) (by simpa using ha) (by simpa using hb)
  rw [← List.reverse_inj]
  simpa [and_comm] using hreverse

end Text

namespace Header

variable {f : Fields} {offset width : Nat} {s : String}

theorem char_of_identifier {x : UInt8} (hx : isIdentifierByte x = true) :
    (Char.ofNat x.toNat).toNat < 128 ∧ Bytes.code (Char.ofNat x.toNat) = x ∧
      Char.ofNat x.toNat ≠ '_' := by
  have hall : ∀ n : Fin 256, isIdentifierByte (UInt8.ofNat n) = true →
      (Char.ofNat n).toNat < 128 ∧ Bytes.code (Char.ofNat n) = UInt8.ofNat n ∧
        Char.ofNat n ≠ '_' := by
    decide +kernel
  simpa using hall ⟨x.toNat, x.toNat_lt⟩ (by simpa using hx)

/-- Bytes allowed in identifiers give a text without underscores. -/
theorem underscore_notMem_lenient {b : Bytes} (hb : ∀ x ∈ b, isIdentifierByte x = true) :
    '_' ∉ (Text.Utf8.lenient b).toList := by
  have hcodes : (b.map fun x => Char.ofNat x.toNat).map Bytes.code = b := by
    rw [List.map_map]
    exact (List.map_congr_left fun x hx => (char_of_identifier (hb x hx)).2.1).trans (List.map_id b)
  have hascii : ∀ c ∈ b.map fun x => Char.ofNat x.toNat, c.toNat < 128 := by
    rw [List.forall_mem_map]
    exact fun x hx => (char_of_identifier (hb x hx)).1
  rw [← hcodes, Text.Utf8.lenient, Text.Utf8.lenientFrom_ascii hascii, String.toList_ofList,
    List.mem_map]
  rintro ⟨x, hx, hc⟩
  exact (char_of_identifier (hb x hx)).2.2 hc

theorem underscore_notMem_text (hlen : 20 ≤ f.bytes.length)
    (hids : ∀ x ∈ f.bytes.window ⟨8, 12⟩, isIdentifierByte x = true)
    (hin : 8 ≤ offset ∧ offset + width ≤ 20) (hs : f.text offset width = .ok s) :
    '_' ∉ s.toList := by
  have hwithin : ∀ x ∈ f.bytes.window ⟨offset, width⟩,
      x ∈ f.bytes.window ⟨8, 12⟩ := by
    intro x hx
    have hsub : f.bytes.window ⟨offset, width⟩ =
        ((f.bytes.window ⟨8, 12⟩).drop (offset - 8)).take width := by
      have hstart : 8 + (offset - 8) = offset := by omega
      have hwidth : min width (12 - (offset - 8)) = width := by omega
      simp only [Bytes.window, List.drop_take, List.drop_drop, List.take_take, hstart, hwidth]
    rw [hsub] at hx
    exact List.mem_of_mem_drop (List.mem_of_mem_take hx)
  rw [Fields.text, Fields.slice_eq (by omega)] at hs
  cases hs
  intro hc
  dsimp only at hc
  rw [Text.trim, String.toList_ofList] at hc
  exact underscore_notMem_lenient (fun x hx => hids x (hwithin x hx)) (Text.mem_of_mem_trimChars hc)

end Header

namespace ChannelKey

/-- No field of a key but the location has an underscore. -/
structure Separable (k : ChannelKey) : Prop where
  network : '_' ∉ k.network.toList
  station : '_' ∉ k.station.toList
  channel : '_' ∉ k.channel.toList

@[mk_iff]
structure Akin (a b : ChannelKey) : Prop where
  network : a.network = b.network
  station : a.station = b.station
  location : a.location = b.location
  channel : a.channel = b.channel

variable {a b c : ChannelKey}

theorem toList_name (k : ChannelKey) : k.name.toList = k.network.toList ++ '_' ::
    (k.station.toList ++ '_' :: (k.location.toList ++ '_' :: k.channel.toList)) := by
  simp only [name, String.toList_append, List.append_assoc]
  rfl

theorem name_eq_iff (ha : a.Separable) (hb : b.Separable) : a.name = b.name ↔ a.Akin b := by
  rw [← String.toList_inj, toList_name, toList_name, Text.append_first_inj ha.network hb.network,
    Text.append_first_inj ha.station hb.station, Text.append_last_inj ha.channel hb.channel]
  simp only [String.toList_inj, akin_iff]

theorem Akin.symm (h : a.Akin b) : b.Akin a :=
  ⟨h.network.symm, h.station.symm, h.location.symm, h.channel.symm⟩

theorem Akin.trans (h : a.Akin b) (h' : b.Akin c) : a.Akin c :=
  ⟨h.network.trans h'.network, h.station.trans h'.station, h.location.trans h'.location,
    h.channel.trans h'.channel⟩

theorem Akin.compare_eq (h : a.Akin b) : compare a b = a.rate.compare b.rate := by
  simp [compare, h.network, h.station, h.location, h.channel]

theorem find?_eq_some_iff {β : Type} {l : List (ChannelKey × β)} {q : ChannelKey → Bool}
    (hl : l.Pairwise fun a b => a.1.Precedes b.1) {e : ChannelKey × β} :
    l.find? (fun c => q c.1) = some e ↔
      e ∈ l ∧ q e.1 = true ∧ ∀ c ∈ l, q c.1 = true → (compare e.1 c.1).isLE = true := by
  rw [List.find?_eq_some_iff_append]
  constructor
  · rintro ⟨he, front, back, rfl, hfront⟩
    obtain ⟨-, hback, -⟩ := List.pairwise_append.1 hl
    refine ⟨by simp, he, fun c hc hq => ?_⟩
    rcases List.mem_append.1 hc with hc | hc
    · have hnot := hfront c hc
      rw [hq] at hnot
      cases hnot
    · rcases List.mem_cons.1 hc with rfl | hc
      · have heq : compare c.1 c.1 = .eq := Std.ReflCmp.compare_self
        rw [heq]
        rfl
      · have hlt : compare e.1 c.1 = .lt := (List.pairwise_cons.1 hback).1 c hc
        rw [hlt]
        rfl
  · rintro ⟨hmem, he, hlow⟩
    obtain ⟨front, back, rfl⟩ := List.append_of_mem hmem
    obtain ⟨-, -, hbefore⟩ := List.pairwise_append.1 hl
    refine ⟨he, front, back, rfl, fun c hc => ?_⟩
    have hlt : compare c.1 e.1 = .lt := hbefore c hc e List.mem_cons_self
    rw [Bool.not_eq_true', Bool.eq_false_iff]
    intro hq
    have hle := hlow c (List.mem_append_left _ hc) hq
    rw [compare_swap, hlt] at hle
    cases hle

end ChannelKey

namespace Setup

variable {p : Setup} {r : Bytes} {h : Header}

theorem separable_keyOf (hp : Header.parse r = .ok h) : (p.keyOf h).Separable := by
  obtain ⟨hlong, hids, order, blockettes, -, hr⟩ := Header.parse_eq_ok.1 hp
  have hlen : 20 ≤ r.length := by omega
  have hallowed := ((Header.checkIdentifiers_eq_ok (f := ⟨r, .big⟩) hlen).1 hids).2
  constructor
  · exact Header.underscore_notMem_text hlen hallowed (by decide) hr.network
  · exact Header.underscore_notMem_text hlen hallowed (by decide) hr.station
  · exact Header.underscore_notMem_text hlen hallowed (by decide) hr.channel

end Setup

namespace SplitResult

variable {p : Setup} {records : List Bytes} {r : SplitResult} {key : ChannelKey}
  {data : ChannelData} {b : Bytes} {h : Header}

theorem exists_keyOf (hr : r.channels = ((Processor.ofSetup p).processAll records).finish.channels)
    (hm : (key, data) ∈ r.channels) :
    ∃ b ∈ records, ∃ h, Header.parse b = .ok h ∧ p.keyOf h = key := by
  rw [hr] at hm
  obtain ⟨hne, i, c, ho⟩ := Processor.output_of_mem hm
  obtain ⟨y, v, hy⟩ := ho.exists_yields hne
  obtain ⟨b, hb, h, xs, ⟨hclass, -⟩, -⟩ := Setup.yields_arrivals.1 hy
  obtain ⟨-, hp, -, -, hkey, -⟩ := Setup.classify_data_iff.1 hclass
  exact ⟨b, hb, h, hp, hkey⟩

theorem name_eq_iff_akin
    (hr : r.channels = ((Processor.ofSetup p).processAll records).finish.channels)
    (hm : (key, data) ∈ r.channels) (hp : Header.parse b = .ok h) :
    key.name = (p.keyOf h).name ↔ key.Akin (p.keyOf h) := by
  obtain ⟨b', -, h', hp', rfl⟩ := exists_keyOf hr hm
  exact ChannelKey.name_eq_iff (Setup.separable_keyOf hp') (Setup.separable_keyOf hp)

theorem channel?_eq_some_iff
    (hr : r.channels = ((Processor.ofSetup p).processAll records).finish.channels)
    (hp : Header.parse b = .ok h) : r.channel? (p.keyOf h).name = some (key, data) ↔
      (key, data) ∈ r.channels ∧ key.Akin (p.keyOf h) ∧
        ∀ e ∈ r.channels, e.1.Akin (p.keyOf h) → (key.rate.compare e.1.rate).isLE = true := by
  have hordered : r.channels.Pairwise fun a b => a.1.Precedes b.1 :=
    hr ▸ Processor.finish_ordered _ (Processor.keys_nodup p records)
  rw [channel?, ChannelKey.find?_eq_some_iff (q := fun k => k.name == (p.keyOf h).name) hordered]
  simp only [beq_iff_eq]
  apply and_congr_right
  intro hm
  rw [name_eq_iff_akin hr hm hp]
  apply and_congr_right
  intro hkey
  apply forall₂_congr
  rintro ⟨k, d⟩ hk
  rw [name_eq_iff_akin hr hk hp]
  apply forall_congr'
  intro hother
  rw [(hkey.trans hother.symm).compare_eq]

theorem channel?_eq_none_iff
    (hr : r.channels = ((Processor.ofSetup p).processAll records).finish.channels)
    (hp : Header.parse b = .ok h) :
    r.channel? (p.keyOf h).name = none ↔ ∀ e ∈ r.channels, ¬ e.1.Akin (p.keyOf h) := by
  rw [channel?, List.find?_eq_none]
  apply forall₂_congr
  rintro ⟨k, d⟩ hk
  rw [beq_iff_eq, name_eq_iff_akin hr hk hp]

/-- Records that can be read have channels of one name exactly if they agree in network, station,
location after aliases, and channel code, whatever the aliases are. So what is found under a name
is a channel of that name, and under the name of a record it is the channel with the lowest rate
among those that differ from the record's in their rate at most. -/
theorem channel_identified (p : Setup) (records : List Bytes) (r : SplitResult)
    (hr : r.channels = ((Processor.ofSetup p).processAll records).finish.channels) :
    (∀ a b g h, Header.parse a = .ok g → Header.parse b = .ok h →
      ((p.keyOf g).name = (p.keyOf h).name ↔ g.network = h.network ∧ g.station = h.station ∧
        p.aliases.normalize g.location = p.aliases.normalize h.location ∧
        g.channel = h.channel)) ∧
    (∀ name key data, r.channel? name = some (key, data) →
      ∃ b ∈ records, ∃ h, Header.parse b = .ok h ∧ p.keyOf h = key ∧ key.name = name) ∧
    ∀ b h, Header.parse b = .ok h →
      (∀ key data, r.channel? (p.keyOf h).name = some (key, data) ↔
        (key, data) ∈ r.channels ∧ key.Akin (p.keyOf h) ∧
          ∀ e ∈ r.channels, e.1.Akin (p.keyOf h) →
            (key.rate.compare e.1.rate).isLE = true) ∧
      (r.channel? (p.keyOf h).name = none ↔ ∀ e ∈ r.channels, ¬ e.1.Akin (p.keyOf h)) := by
  refine ⟨?_, ?_, ?_⟩
  · intro a b g h ha hb
    rw [ChannelKey.name_eq_iff (Setup.separable_keyOf ha) (Setup.separable_keyOf hb)]
    exact ChannelKey.akin_iff _ _
  · intro name key data hfound
    obtain ⟨b, hb, h, hp, hkey⟩ := exists_keyOf hr (List.mem_of_find?_eq_some hfound)
    have hname := List.find?_some hfound
    exact ⟨b, hb, h, hp, hkey, beq_iff_eq.1 hname⟩
  · intro b h hp
    exact ⟨fun key data => channel?_eq_some_iff hr hp, channel?_eq_none_iff hr hp⟩

/-- Two rates of a channel with an underscore in its location, the higher one first. -/
theorem channel_identified_of_rates :
    ∃ r₁ r₂ : Bytes, ∃ data : ChannelData,
      { Draft.longPeriod with rate := ⟨0x4000000000000000⟩ }.encode [1, 2] = .ok r₁ ∧
      { Draft.longPeriod with location := "--" }.encode [3] = .ok r₂ ∧
      ({ channels := ((Processor.ofSetup
          ⟨.rawInteger, ⟨[("00", "A_B"), ("--", "A_B")]⟩, .all, 4, 10⟩).processAll
            [r₁, r₂]).finish.channels } : SplitResult).channel? "IU_ANMO_A_B_LHZ" =
        some (⟨"IU", "ANMO", "A_B", "LHZ", ⟨0x3ff0000000000000⟩⟩, data) := by
  let p : Setup := ⟨.rawInteger, ⟨[("00", "A_B"), ("--", "A_B")]⟩, .all, 4, 10⟩
  let d := Draft.longPeriod
  let r₁ := ({ d with rate := ⟨0x4000000000000000⟩ }.encode [1, 2]).toOption.getD []
  let r₂ := ({ d with location := "--" }.encode [3]).toOption.getD []
  let h₁ := (Header.parse r₁).toOption.getD default
  let h₂ := (Header.parse r₂).toOption.getD default
  let out : SplitResult :=
    { channels := ((Processor.ofSetup p).processAll [r₁, r₂]).finish.channels }
  have hp₁ : Header.parse r₁ = .ok h₁ := by decide +kernel
  have hp₂ : Header.parse r₂ = .ok h₂ := by decide +kernel
  have hclass : p.classify r₂ = .data (p.keyOf h₂) h₂ := by decide +kernel
  have hsamples : p.decoder.samples h₂ r₂ = .ok [3] := by decide +kernel
  obtain ⟨data, hm⟩ := Processor.exists_mem_finish (show 0 < p.blockSize by decide)
    (show r₂ ∈ [r₁, r₂] by simp) ⟨hclass, hsamples⟩ (by decide)
  have hlow : ∀ e ∈ out.channels, ((p.keyOf h₂).rate.compare e.1.rate).isLE = true := by
    rintro ⟨key, data'⟩ he
    obtain ⟨b, hb, h, hp, rfl⟩ := exists_keyOf (r := out) rfl he
    rcases List.mem_pair.1 hb with rfl | rfl
    · cases hp₁.symm.trans hp
      exact show ((p.keyOf h₂).rate.compare (p.keyOf h₁).rate).isLE = true by decide +kernel
    · cases hp₂.symm.trans hp
      exact show ((p.keyOf h₂).rate.compare (p.keyOf h₂).rate).isLE = true by decide +kernel
  obtain ⟨-, -, hfind⟩ := channel_identified p [r₁, r₂] out rfl
  have hfound := ((hfind r₂ h₂ hp₂).1 (p.keyOf h₂) data).2
    ⟨hm, ⟨rfl, rfl, rfl, rfl⟩, fun e he _ => hlow e he⟩
  have hname : (p.keyOf h₂).name = "IU_ANMO_A_B_LHZ" := by decide +kernel
  have hkey : p.keyOf h₂ = ⟨"IU", "ANMO", "A_B", "LHZ", ⟨0x3ff0000000000000⟩⟩ := by
    decide +kernel
  rw [hname, hkey] at hfound
  exact ⟨r₁, r₂, data, by decide +kernel, by decide +kernel, hfound⟩

end SplitResult
end SeedStream
