import SeedStream.Proofs.Record.Parsing
import SeedStream.Proofs.Time.RoundTrip

/-!
# The start time of a record

The byte order of a header is guessed from its start date, and a date outside of two
centuries is taken in neither order. So every record that can be parsed starts in one of
these years, up to a leap second at the end of the last one.
-/

set_option autoImplicit false

namespace SeedStream

theorem BinaryTime.toMicros_bounds {t : BinaryTime} {m : Int} (h : t.toMicros = .ok m) :
    Calendar.startOfYear t.year.toNat ≤ m ∧
      m < Calendar.startOfYear (t.year.toNat + 1) + 1000000 := by
  obtain ⟨hv, rfl⟩ := toMicros_eq_ok.1 h
  have hdays := hv.days_bounds
  have hclock := hv.clock_bounds
  have hfraction := hv.fraction
  rw [Calendar.startOfYear, Calendar.startOfYear]
  omega

namespace Header

def IsPlausible (year day : Nat) :
    Prop := 1900 ≤ year ∧ year ≤ 2100 ∧ 1 ≤ day ∧ day ≤ 366

instance (year day : Nat) : Decidable (IsPlausible year day) :=
  inferInstanceAs (Decidable (_ ∧ _))

theorem hasPlausibleStart_eq {f : Fields} {year day : UInt16} (hyear : f.u16 20 = .ok year)
    (hday : f.u16 22 = .ok day) :
    hasPlausibleStart f = .ok (decide (IsPlausible year.toNat day.toNat)) := by
  rw [hasPlausibleStart, hyear, hday]
  apply congrArg Except.ok
  rw [Bool.eq_iff_iff, decide_eq_true_iff]
  simp [IsPlausible, and_assoc]

theorem hasPlausibleStart_of_detectOrder {b : Bytes} {order : ByteOrder}
    (ho : detectOrder b = .ok order) : hasPlausibleStart ⟨b, order⟩ = .ok true := by
  simp only [detectOrder, bind_eq_ok] at ho
  obtain ⟨big, hbig, ho⟩ := ho
  cases big with
  | true =>
    cases ho
    exact hbig
  | false =>
    obtain ⟨little, hlittle, ho⟩ := bind_eq_ok.1 ho
    cases little with
    | true =>
      cases ho
      exact hlittle
    | false =>
      obtain ⟨field, -, ho⟩ := bind_eq_ok.1 ho
      cases ho

theorem detectOrder_big_iff {b : Bytes} :
    detectOrder b = .ok .big ↔ hasPlausibleStart ⟨b, .big⟩ = .ok true := by
  unfold detectOrder
  cases hasPlausibleStart ⟨b, .big⟩ with
  | error e => simp [bind, Except.bind]
  | ok big =>
    cases big with
    | true => simp [bind, Except.bind, pure, Except.pure]
    | false =>
      cases hasPlausibleStart ⟨b, .little⟩ with
      | error e => simp [bind, Except.bind]
      | ok little =>
        cases little with
        | true => simp [bind, Except.bind, pure, Except.pure]
        | false => simp [bind_eq_ok]

theorem detectOrder_little {b : Bytes} (hbig : hasPlausibleStart ⟨b, .big⟩ = .ok false)
    (hlittle : hasPlausibleStart ⟨b, .little⟩ = .ok true) : detectOrder b = .ok .little := by
  rw [detectOrder, hbig]
  change (hasPlausibleStart ⟨b, .little⟩ >>= _) = _
  rw [hlittle]
  rfl

theorem isPlausible_of_detectOrder {b : Bytes} {order : ByteOrder} {year day : UInt16}
    (hyear : (⟨b, order⟩ : Fields).u16 20 = .ok year)
    (hday : (⟨b, order⟩ : Fields).u16 22 = .ok day) (ho : detectOrder b = .ok order) :
    IsPlausible year.toNat day.toNat := by
  have hplausible := hasPlausibleStart_of_detectOrder ho
  rw [hasPlausibleStart_eq hyear hday] at hplausible
  exact of_decide_eq_true (Except.ok.inj hplausible)

theorem time_eq_ok {f : Fields} {offset : Nat} {t : BinaryTime} : f.time offset = .ok t ↔
    f.u16 offset = .ok t.year ∧ f.u16 (offset + 2) = .ok t.dayOfYear ∧
      f.u8 (offset + 4) = .ok t.hour ∧ f.u8 (offset + 5) = .ok t.minute ∧
      f.u8 (offset + 6) = .ok t.second ∧ f.u16 (offset + 8) = .ok t.fraction := by
  constructor
  · intro h
    simp only [Fields.time, bind_eq_ok] at h
    obtain ⟨year, hyear, day, hday, hour, hhour, minute, hminute, second, hsecond, fraction,
      hfraction, ht⟩ := h
    cases ht
    exact ⟨hyear, hday, hhour, hminute, hsecond, hfraction⟩
  · rintro ⟨hyear, hday, hhour, hminute, hsecond, hfraction⟩
    simp only [Fields.time, hyear, hday, hhour, hminute, hsecond, hfraction, bind, Except.bind,
      pure, Except.pure]

theorem start_bounds {b : Bytes} {h : Header} (hp : parse b = .ok h) :
    Calendar.startOfYear 1900 ≤ h.start ∧ h.start < Calendar.startOfYear 2101 + 1000000 := by
  obtain ⟨-, -, order, blockettes, ho, hr⟩ := parse_eq_ok.1 hp
  obtain ⟨t, ht, hmicros⟩ := bind_eq_ok.1 hr.start
  obtain ⟨hyear, hday, -⟩ := time_eq_ok.1 ht
  obtain ⟨hfirst, hlast, -⟩ := isPlausible_of_detectOrder hyear hday ho
  cases hm : t.toMicros with
  | error e =>
    rw [hm] at hmicros
    cases hmicros
  | ok m =>
    rw [hm] at hmicros
    cases hmicros
    obtain ⟨hlo, hhi⟩ := BinaryTime.toMicros_bounds hm
    have hbefore := Calendar.daysBefore_le (show (1900 : Int) ≤ t.year.toNat by omega)
    have hafter := Calendar.daysBefore_le (show (t.year.toNat + 1 : Int) ≤ 2101 by omega)
    unfold Calendar.startOfYear at *
    omega

end Header
end SeedStream
