import SeedStream.Proofs.Assembly.Spacing
import SeedStream.Proofs.Channel.Name
import SeedStream.Proofs.Record.Words

/-!
# Channels as keys of tables

Keys are found in a table by the bytes that are hashed of them and by equality, and stand in a
result in the order of their comparison. All three tell the same keys apart, whatever the bits of
the rate are: the two zeros are two rates, and so is each NaN. So no channel is lost or merged
with another one when the entries of a table are moved into a map in the order of keys.
-/

set_option autoImplicit false

namespace SeedStream

namespace Bytes

variable {s t : String}

theorem ofText_injective (h : ofText s = ofText t) : s = t := by
  rw [ofText_eq_toList, ofText_eq_toList, Array.toList_inj] at h
  exact String.toByteArray_inj.1 (ByteArray.ext h)

theorem lt_of_mem_encode {c : Char} {x : UInt8} (h : x ∈ String.utf8EncodeChar c) :
    x.toNat < 255 := by
  simp only [String.utf8EncodeChar] at h
  split at h
  · simp only [List.mem_singleton] at h
    subst h
    simp only [UInt8.toNat_ofNat']
    omega
  · split at h
    · simp only [List.mem_cons, List.not_mem_nil, or_false] at h
      rcases h with rfl | rfl <;> simp only [UInt8.toNat_ofNat'] <;> omega
    · split at h
      · simp only [List.mem_cons, List.not_mem_nil, or_false] at h
        rcases h with rfl | rfl | rfl <;> simp only [UInt8.toNat_ofNat'] <;> omega
      · simp only [List.mem_cons, List.not_mem_nil, or_false] at h
        rcases h with rfl | rfl | rfl | rfl <;> simp only [UInt8.toNat_ofNat'] <;> omega

theorem notMem_ofText (s : String) : 0xff ∉ ofText s := by
  rw [ofText_eq_flatMap, List.mem_flatMap]
  rintro ⟨c, -, hc⟩
  exact absurd (lt_of_mem_encode hc) (by decide)

/-- A closed text and what follows it are told by their bytes. -/
theorem closed_inj {a b : Bytes} :
    ofText s ++ 0xff :: a = ofText t ++ 0xff :: b ↔ s = t ∧ a = b := by
  rw [Text.append_first_inj (notMem_ofText s) (notMem_ofText t)]
  exact and_congr_left fun _ => ⟨ofText_injective, congrArg ofText⟩

end Bytes

namespace Binary64

/-- The signed word by which numbers are compared: the bits of the number, all but the sign
inverted if the sign is set. -/
def ordered (x : Binary64) : BitVec 64 :=
  let bits := x.bits.toBitVec
  bits ^^^ bits.sshiftRight 63 >>> 1

theorem spread_sign (v : BitVec 64) :
    v.sshiftRight 63 >>> 1 = if v.msb then BitVec.intMax 64 else 0#64 := by
  cases h : v.msb with
  | false =>
    rw [BitVec.sshiftRight_eq_of_msb_false h]
    ext i hi
    simp
  | true =>
    apply BitVec.eq_of_getLsbD_eq
    intro i hi
    rw [BitVec.getLsbD_ushiftRight, BitVec.getLsbD_sshiftRight, if_pos rfl,
      BitVec.getLsbD_intMax, h]
    by_cases hlast : i + 1 < 64
    · have hin : 1 + i < 64 := by omega
      have hout : ¬ 63 + (1 + i) < 64 := by omega
      simp [hlast, hin, hout]
    · have hout : ¬ 1 + i < 64 := by omega
      simp [hlast, hout]

theorem xor_intMax {v : BitVec 64} (h : v.msb = true) :
    v ^^^ BitVec.intMax 64 = ~~~(v &&& BitVec.intMax 64) := by
  apply BitVec.eq_of_getLsbD_eq
  intro i hi
  rw [BitVec.getLsbD_xor, BitVec.getLsbD_not, BitVec.getLsbD_and, BitVec.getLsbD_intMax]
  by_cases hlast : i + 1 < 64
  · simp [hlast, hi]
  · obtain rfl : i = 63 := by omega
    have hsign : v.getLsbD 63 = true := by simpa [BitVec.msb_eq_getLsbD_last] using h
    simp [hsign]

theorem rank_eq_toInt (x : Binary64) : x.rank = x.ordered.toInt := by
  obtain ⟨v, hv⟩ : ∃ v, x.bits.toBitVec = v := ⟨_, rfl⟩
  have hbits : x.bits.toNat = v.toNat := by
    rw [← hv]
    rfl
  have hlt := v.isLt
  rw [rank, hbits, ordered, hv, spread_sign]
  cases h : v.msb with
  | false =>
    have hsmall := BitVec.toNat_lt_of_msb_false h
    rw [if_pos (by omega), if_neg (by decide), BitVec.xor_zero, BitVec.toInt_eq_toNat_of_msb h]
  | true =>
    have hlarge := BitVec.toNat_ge_of_msb_true h
    have hturned : (v ^^^ BitVec.intMax 64).toNat = 2 ^ 64 - 1 - (v.toNat - 2 ^ 63) := by
      rw [xor_intMax h, BitVec.toNat_not, BitVec.toNat_and, BitVec.toNat_intMax,
        Nat.and_two_pow_sub_one_eq_mod]
      omega
    rw [if_neg (by omega), if_pos rfl, BitVec.toInt_eq_toNat_cond, hturned, if_neg (by omega)]
    omega

end Binary64

namespace ChannelKey

variable {a b c : ChannelKey}

instance : Std.LawfulEqCmp compare where
  eq_of_compare := eq_of_compare

theorem compare_eq_iff : compare a b = .eq ↔ a.same b = true := by
  rw [same_iff]
  exact Std.LawfulEqCmp.compare_eq_iff_eq

theorem le_trans (hab : a.le b = true) (hbc : b.le c = true) : a.le c = true := by
  rw [le_iff] at *
  exact Std.TransCmp.isLE_trans hab hbc

theorem le_total (a b : ChannelKey) : a.le b = true ∨ b.le a = true := by
  rw [le_iff, le_iff, compare_swap b]
  cases compare a b <;> decide

theorem le_antisymm (hab : a.le b = true) (hba : b.le a = true) : a.same b = true := by
  rw [le_iff] at *
  exact compare_eq_iff.1 (Std.OrientedCmp.isLE_antisymm hab hba)

theorem rate_eq_of_write {order : ByteOrder} {x y : Binary64}
    (h : order.write 8 x.bits.toNat = order.write 8 y.bits.toNat) : x = y := by
  have hread := congrArg order.read h
  have hx := x.bits.toNat_lt
  have hy := y.bits.toNat_lt
  rw [ByteOrder.read_write, ByteOrder.read_write, Nat.mod_eq_of_lt (by omega),
    Nat.mod_eq_of_lt (by omega)] at hread
  exact congrArg Binary64.mk (UInt64.toNat_inj.1 hread)

theorem hashed_eq (order : ByteOrder) (k : ChannelKey) :
    k.hashed order = Bytes.ofText k.network ++ 0xff :: (Bytes.ofText k.station ++ 0xff ::
      (Bytes.ofText k.location ++ 0xff :: (Bytes.ofText k.channel ++ 0xff ::
        order.write 8 k.rate.bits.toNat))) := by
  simp [hashed]

/-- Two keys are the same exactly if the same bytes of them are hashed. -/
theorem hashed_eq_iff (order : ByteOrder) (a b : ChannelKey) :
    a.hashed order = b.hashed order ↔ a.same b = true := by
  rw [same_iff]
  constructor
  · intro h
    rw [hashed_eq, hashed_eq, Bytes.closed_inj, Bytes.closed_inj, Bytes.closed_inj,
      Bytes.closed_inj] at h
    obtain ⟨hnetwork, hstation, hlocation, hchannel, hrate⟩ := h
    obtain ⟨n, s, l, c, x⟩ := a
    obtain ⟨n', s', l', c', x'⟩ := b
    rw [mk.injEq]
    exact ⟨hnetwork, hstation, hlocation, hchannel, rate_eq_of_write hrate⟩
  · rintro rfl
    rfl

end ChannelKey

namespace Processor

variable {q : Processor} {entries : List (ChannelKey × ChannelState)}

def shownEntry (e : ChannelKey × ChannelState) : Option (ChannelKey × ChannelData) :=
  e.2.shown.map (Prod.mk e.1)

/-- Move the entries of a table one after the other into a map in the order of keys. Channels
without samples are left out; an entry replaces one whose key compares equal. -/
def moveInto (m : Std.TreeMap ChannelKey ChannelData ChannelKey.compare) :
    List (ChannelKey × ChannelState) → Std.TreeMap ChannelKey ChannelData ChannelKey.compare
  | [] => m
  | (key, c) :: rest =>
    match c.shown with
    | none => moveInto m rest
    | some data => moveInto (m.insert key data) rest

theorem moveInto_perm {m : Std.TreeMap ChannelKey ChannelData ChannelKey.compare}
    (hn : (entries.map Prod.fst).Nodup) (hm : ∀ e ∈ m.toList, e.1 ∉ entries.map Prod.fst) :
    (moveInto m entries).toList.Perm (entries.filterMap shownEntry ++ m.toList) := by
  induction entries generalizing m with
  | nil => exact .refl _
  | cons e rest ih =>
    obtain ⟨key, c⟩ := e
    obtain ⟨hkey, hrest⟩ := List.nodup_cons.1 hn
    have hold : ∀ e ∈ m.toList, e.1 ∉ rest.map Prod.fst := fun e he hmem =>
      hm e he (List.mem_cons_of_mem key hmem)
    cases hc : c.shown with
    | none =>
      have hskip : shownEntry (key, c) = none := by simp [shownEntry, hc]
      rw [moveInto, hc, List.filterMap_cons_none hskip]
      exact ih hrest hold
    | some data =>
      have hshown : shownEntry (key, c) = some (key, data) := by simp [shownEntry, hc]
      have hfresh : m.toList.filter (fun x => decide ¬(key == x.1) = true) = m.toList := by
        rw [List.filter_eq_self]
        intro e he
        have hne : key ≠ e.1 := fun heq => hm e he (heq ▸ List.mem_cons_self)
        simpa using hne
      have hinsert : (m.insert key data).toList.Perm ((key, data) :: m.toList) :=
        hfresh ▸ Std.TreeMap.toList_insert_perm
      rw [moveInto, hc, List.filterMap_cons_some hshown]
      refine (ih hrest ?_).trans ?_
      · intro e he
        rcases List.mem_cons.1 (hinsert.mem_iff.1 he) with rfl | he
        · exact hkey
        · exact hold e he
      · exact (hinsert.append_left _).trans List.perm_middle

theorem shown_isSome_iff (c : ChannelState) :
    c.shown.isSome = true ↔ ∃ s ∈ c.segments, 0 < s.length := by
  rw [Option.isSome_iff_exists]
  simp only [ChannelState.shown_eq_some, exists_eq_left]
  constructor
  · intro hne
    have hsorted : Assembly.sorted c.segments ≠ [] := fun hnil => hne (by
      simp [assembleChannel, Assembly.assemble_def, hnil, Assembly.foldAll_nil])
    obtain ⟨s, hs⟩ := List.exists_mem_of_ne_nil _ hsorted
    exact ⟨s, Assembly.mem_sorted.1 hs⟩
  · exact Assembly.assemble_ne_nil

/-- Whatever the order in which a table yields its entries, moving them gives the channels of the
result. -/
theorem toList_moveInto (hq : (q.channels.map Prod.fst).Nodup) (hp : entries.Perm q.channels) :
    (moveInto ∅ entries).toList = q.finish.channels ∧
      q.finish.channels.Perm (entries.filterMap shownEntry) := by
  have hmoved : (moveInto ∅ entries).toList.Perm (entries.filterMap shownEntry) := by
    have hperm := moveInto_perm (m := ∅) ((hp.map Prod.fst).nodup_iff.2 hq) (by simp)
    have hempty : (∅ : Std.TreeMap ChannelKey ChannelData ChannelKey.compare).toList = [] := rfl
    rwa [hempty, List.append_nil] at hperm
  have hsame : (moveInto ∅ entries).toList = q.finish.channels := by
    apply ChannelKey.eq_of_ordered Std.TreeMap.ordered_keys_toList (finish_ordered q hq)
    rintro ⟨key, data⟩
    rw [hmoved.mem_iff, mem_finish, List.mem_filterMap]
    constructor
    · rintro ⟨⟨k, c⟩, he, hshown⟩
      obtain ⟨d, hd, heq⟩ := Option.map_eq_some_iff.1 hshown
      cases heq
      exact ⟨c, hp.mem_iff.1 he, ChannelState.shown_eq_some.1 hd⟩
    · rintro ⟨c, hc, hdata⟩
      refine ⟨(key, c), hp.mem_iff.2 hc, ?_⟩
      rw [shownEntry, ChannelState.shown_eq_some.2 hdata]
      rfl
  exact ⟨hsame, hsame ▸ hmoved⟩

/-- Comparing keys is a total order for all bits of the rates. Two keys compare equal exactly if
they are the same, and exactly then the same bytes of them are hashed. So a result has one entry
for each entry of the table of channels that has samples, and is the map in the order of keys
into which these are moved, in whatever order the table yields them. -/
theorem finish_keyed :
    (∀ a b c : ChannelKey, (a.le b = true ∨ b.le a = true) ∧
      (a.le b = true → b.le a = true → a.same b = true) ∧
      (a.le b = true → b.le c = true → a.le c = true)) ∧
    (∀ a b : ChannelKey, a.compare b = (b.compare a).swap ∧
      (a.compare b = .eq ↔ a.same b = true) ∧
      ∀ order, a.hashed order = b.hashed order ↔ a.same b = true) ∧
    (∀ x y : Binary64, x.compare y = Ord.compare x.ordered.toInt y.ordered.toInt) ∧
    (∀ p records, ((ofSetup p).processAll records).channels.Pairwise fun a b =>
      a.1.same b.1 = false) ∧
    ∀ q : Processor, (q.channels.Pairwise fun a b => a.1.same b.1 = false) →
      ∀ entries : List (ChannelKey × ChannelState), entries.Perm q.channels →
        (moveInto ∅ entries).toList = q.finish.channels ∧
        q.finish.channels.Perm (entries.filterMap shownEntry) ∧
        ∀ e ∈ entries, (shownEntry e).isSome = true ↔
          ∃ s ∈ e.2.segments, 0 < s.length := by
  have hdistinct : ∀ channels : List (ChannelKey × ChannelState),
      (channels.Pairwise fun a b => a.1.same b.1 = false) ↔ (channels.map Prod.fst).Nodup := by
    intro channels
    rw [List.Nodup, List.pairwise_map]
    simp only [← Bool.not_eq_true, ChannelKey.same_iff, ne_eq]
  refine ⟨?_, ?_, ?_, ?_, ?_⟩
  · exact fun a b c => ⟨a.le_total b, ChannelKey.le_antisymm, ChannelKey.le_trans⟩
  · exact fun a b => ⟨a.compare_swap b, ChannelKey.compare_eq_iff, fun order =>
      ChannelKey.hashed_eq_iff order a b⟩
  · intro x y
    rw [Binary64.compare, Binary64.rank_eq_toInt, Binary64.rank_eq_toInt]
  · exact fun p records => (hdistinct _).2 (keys_nodup p records)
  · intro q hq entries hp
    obtain ⟨hmoved, hperm⟩ := toList_moveInto ((hdistinct _).1 hq) hp
    refine ⟨hmoved, hperm, fun e _ => ?_⟩
    rw [← shown_isSome_iff, shownEntry, Option.isSome_map]

/-- Three channels that differ in the bits of their rates only: the two zeros and a NaN. -/
theorem finish_keyed_of_zeros :
    ∃ (q : Processor) (c : ChannelState) (data : ChannelData),
      let key (bits : UInt64) : ChannelKey := ⟨"IU", "ANMO", "00", "LHZ", ⟨bits⟩⟩
      q.channels = [(key 0, c), (key 0x8000000000000000, c), (key 0xfff8000000000001, c)] ∧
        c.shown = some data ∧ q.finish.channels =
          [(key 0xfff8000000000001, data), (key 0x8000000000000000, data), (key 0, data)] := by
  let key (bits : UInt64) : ChannelKey := ⟨"IU", "ANMO", "00", "LHZ", ⟨bits⟩⟩
  let s : Segment :=
    ⟨0, 1000000, ⟨0x3ff0000000000000⟩, 10, 1, #[0], ⟨1, #[#[7]], [], 1, by decide⟩⟩
  let c : ChannelState := { current := some s }
  let channels := [(key 0, c), (key 0x8000000000000000, c), (key 0xfff8000000000001, c)]
  let q : Processor := { ofSetup (.ofDecoder .rawInteger) with channels }
  obtain ⟨data, hdata⟩ : ∃ data, c.shown = some data :=
    Option.isSome_iff_exists.1 (by decide +kernel)
  have hdistinct : channels.Pairwise fun a b => a.1.same b.1 = false := by decide +kernel
  obtain ⟨-, -, -, -, hkept⟩ := finish_keyed
  obtain ⟨-, hperm, -⟩ := hkept q hdistinct channels.reverse channels.reverse_perm
  have hordered := finish_ordered q (by decide +kernel)
  have hkeys : [key 0xfff8000000000001, key 0x8000000000000000, key 0].Pairwise fun a b =>
      a.compare b = .lt := by
    decide +kernel
  refine ⟨q, c, data, rfl, hdata, ChannelKey.eq_of_ordered hordered ?_ ?_⟩
  · simpa [ChannelKey.Precedes] using hkeys
  · intro e
    rw [hperm.mem_iff]
    simp [channels, key, shownEntry, hdata]

end Processor
end SeedStream
