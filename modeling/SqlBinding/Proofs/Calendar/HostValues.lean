import Mathlib.Data.List.Basic
import SqlBinding.Host.Conversion
import SqlBinding.Proofs.Array.ScalarLift

/-!
# Calendar data as host values

A date, a time or a date-time that becomes a host value is bound as just what it was, to the
nanosecond. A leap second shows as sixty seconds or more, so it is refused as a time and as a
timestamp; its date can still be bound.
-/

namespace SqlBinding

private theorem divHalfUp_mul_left (q : Nat) {d : Nat} (h : 0 < d) : divHalfUp (d * q) d = q := by
  have hsum : 2 * (d * q) + d = d + 2 * d * q := by
    rw [Nat.mul_assoc, Nat.add_comm]
  have hsmall : d / (2 * d) = 0 := Nat.div_eq_of_lt (by omega)
  rw [divHalfUp, hsum, Nat.add_mul_div_left _ _ (by omega), hsmall, Nat.zero_add]

namespace Decimal

@[simp] private theorem round_zero : zero.round = 0 := rfl

private theorem floor_ofNat (n : Nat) (h : n < mantissaBound) : (ofNat n h).floor = n := by
  simp [floor, ofNat, signed]

private theorem floor_ofNanos (n : Nat) (h : n < mantissaBound) :
    (ofNanos n h).floor = (n / 1000000000 : Nat) := by
  have hpower : tenPow 9 = 1000000000 := rfl
  simp [floor, ofNanos, signed, hpower]

private theorem nanos_ofNat (n : Nat) (h : n < mantissaBound) :
    (ofNat n h).fraction.times? 1000000000 = some zero := by
  have hfraction : (ofNat n h).fraction.mantissa = 0 := Nat.mod_one n
  rw [times?, hfraction, if_pos (Nat.mul_zero _)]

private theorem nanos_ofNanos (n : Nat) (h : n < mantissaBound) :
    ∃ nanos, (ofNanos n h).fraction.times? 1000000000 = some nanos ∧
      nanos.round = (n % 1000000000 : Nat) := by
  have hfraction : (ofNanos n h).fraction.mantissa = n % 1000000000 := rfl
  rw [times?, hfraction]
  by_cases hzero : 1000000000 * (n % 1000000000) = 0
  · have hnone : n % 1000000000 = 0 := by omega
    exact ⟨zero, if_pos hzero, by rw [hnone]; rfl⟩
  · have hlt : 1000000000 * (n % 1000000000) < mantissaBound := by
      simp only [mantissaBound]
      omega
    rw [if_neg hzero]
    refine ⟨_, fit?_of_lt _ _ hlt, ?_⟩
    have hround := divHalfUp_mul_left (n % 1000000000) (tenPow_pos 9)
    exact congrArg Int.ofNat hround

end Decimal

private theorem splitSeconds_of_parts {s nanos : Decimal} {whole nano : Nat}
    (hpositive : s.negative = false) (hfloor : s.floor = whole)
    (hnanos : s.fraction.times? 1000000000 = some nanos)
    (hround : nanos.round = nano) (hnano : nano < 1000000000) :
    splitSeconds (some s) = if whole < 60 then .ok (whole, nano) else .refuse (.second s) := by
  have hbillion : ¬ (1000000000 : Int) ≤ nano := by omega
  unfold splitSeconds
  simp only [Option.getD_some, hnanos, hpositive, hfloor, hround, hbillion, Bool.false_or,
    decide_false, Bool.or_false, decide_eq_true_eq, Int.toNat_natCast]
  by_cases hwhole : whole < 60
  · have hminute : ¬ (60 : Int) ≤ whole := by omega
    rw [if_pos hwhole, if_neg hminute]
  · have hminute : (60 : Int) ≤ whole := by omega
    rw [if_neg hwhole, if_pos hminute]

namespace Calendar

/-- A time without a leap second has the seconds that it had; those of a leap second are refused. -/
private theorem Time.splitSeconds_decimalSecond (t : Time) :
    splitSeconds (some t.decimalSecond) =
      if t.nano < 1000000000 then .ok (t.second, t.nano)
      else .refuse (.second t.decimalSecond) := by
  have htime := t.isTime
  simp only [IsTime] at htime
  unfold decimalSecond
  split
  · next hwhole =>
    obtain ⟨hnano, -⟩ := hwhole
    rw [splitSeconds_of_parts rfl (Decimal.floor_ofNat _ _) (Decimal.nanos_ofNat _ _)
      Decimal.round_zero (by decide), if_pos t.second_lt, hnano]
    rfl
  · obtain ⟨nanos, hnanos, hround⟩ := Decimal.nanos_ofNanos t.nanoOfMinute
      (Nat.lt_trans t.nanoOfMinute_lt (by decide))
    rw [splitSeconds_of_parts rfl (Decimal.floor_ofNanos _ _) hnanos hround (by omega)]
    by_cases hnano : t.nano < 1000000000
    · have hsecond : t.nanoOfMinute / 1000000000 = t.second := by
        simp only [nanoOfMinute]
        omega
      have hrest : t.nanoOfMinute % 1000000000 = t.nano := by
        simp only [nanoOfMinute]
        omega
      rw [if_pos hnano, hsecond, hrest, if_pos t.second_lt]
    · have hfull : ¬ t.nanoOfMinute / 1000000000 < 60 := by
        simp only [nanoOfMinute]
        omega
      rw [if_neg hnano, if_neg hfull]

private theorem daysInMonth_le (year : Int) (month : Nat) : daysInMonth year month ≤ 31 := by
  unfold daysInMonth
  repeat' split
  all_goals decide

private theorem month_le_of_isDate {year : Int} {month day : Nat} (h : IsDate year month day) :
    month ≤ 12 := by
  obtain ⟨-, -, hday, hlast⟩ := h
  by_cases hmonth : month ≤ 12
  · exact hmonth
  · have hnone : daysInMonth year month = 0 := by
      unfold daysInMonth
      repeat' split
      all_goals first | rfl | omega
    omega

theorem Date.toCivil_parts (d : Date) :
    d.toCivil.year.toInt = d.year ∧ d.toCivil.month.toNat = d.month ∧
      d.toCivil.day.toNat = d.day := by
  obtain ⟨hleast, hmost, -, hday⟩ := d.isDate
  have hmonth := month_le_of_isDate d.isDate
  have hlast := daysInMonth_le d.year d.month
  simp only [minYear, maxYear] at hleast hmost
  refine ⟨toInt_ofInt_of_bounds (by omega), ?_, ?_⟩
  · exact UInt32.toNat_ofNat_of_lt (Nat.lt_of_le_of_lt hmonth (by decide))
  · exact UInt32.toNat_ofNat_of_lt
      (Nat.lt_of_le_of_lt (Nat.le_trans hday hlast) (by decide))

theorem Date.resolve_toCivil (d : Date) : d.toCivil.resolve = .ok d := by
  have hdate : Date.of? d.year d.month d.day = some d := Date.of?_eq_some_iff.mpr ⟨rfl, rfl, rfl⟩
  obtain ⟨hyear, hmonth, hday⟩ := d.toCivil_parts
  rw [CivilDate.resolve, hyear, hmonth, hday, hdate]
  rfl

theorem Time.toTimeOfDay_parts (t : Time) :
    t.toTimeOfDay.hour.toNat = t.hour ∧ t.toTimeOfDay.minute.toNat = t.minute := by
  obtain ⟨hhour, hminute, -, -⟩ := t.isTime
  exact ⟨UInt32.toNat_ofNat_of_lt (Nat.lt_trans hhour (by decide)),
    UInt32.toNat_ofNat_of_lt (Nat.lt_trans hminute (by decide))⟩

private theorem Time.resolveClock_decimalSecond (t : Time) :
    resolveClock (.ofNat t.hour) (.ofNat t.minute) (some t.decimalSecond) =
      if t.nano < 1000000000 then .ok t else .refuse (.second t.decimalSecond) := by
  have htime : Time.of? t.hour t.minute t.second t.nano = some t :=
    Time.of?_eq_some_iff.mpr ⟨rfl, rfl, rfl, rfl⟩
  obtain ⟨hhour, hminute⟩ := t.toTimeOfDay_parts
  simp only [toTimeOfDay] at hhour hminute
  rw [resolveClock, t.splitSeconds_decimalSecond, hhour, hminute]
  by_cases hnano : t.nano < 1000000000
  · rw [if_pos hnano, if_pos hnano]
    change Outcome.orRefuse _ (Time.of? t.hour t.minute t.second t.nano) = _
    rw [htime]
    rfl
  · rw [if_neg hnano, if_neg hnano]
    rfl

end Calendar

open Calendar

section

variable (arith : Arithmetic) (type : SqlType)

private theorem bindDate_ofDate (d : Date) : bindDate type (.ofDate d) = .ok (.date d) := by
  change NativeValue.date <$> d.toCivil.resolve = _
  rw [d.resolve_toCivil]
  rfl

private theorem bindDate_ofDateTime (dt : DateTime) :
    bindDate type (.ofDateTime dt) = .ok (.date dt.date) :=
  bindDate_ofDate type dt.date

private theorem bindTime_ofTime (t : Time) :
    bindTime arith type (.ofTime t) =
      if t.nano < 1000000000 then .ok (.time t) else .refuse (.second t.decimalSecond) := by
  change NativeValue.ofTime <$>
    (do return .naive (← resolveClock (.ofNat t.hour) (.ofNat t.minute) (some t.decimalSecond))) = _
  rw [t.resolveClock_decimalSecond]
  split <;> rfl

private theorem bindTimestamp_ofDateTime (dt : DateTime) :
    bindTimestamp arith type (.ofDateTime dt) =
      if dt.time.nano < 1000000000 then .ok (.timestamp dt)
      else .refuse (.second dt.time.decimalSecond) := by
  change NativeValue.ofTimestamp <$> (do
    let date ← dt.date.toCivil.resolve
    let time ← resolveClock (.ofNat dt.time.hour) (.ofNat dt.time.minute)
      (some dt.time.decimalSecond)
    return .naive ⟨date, time⟩) = _
  rw [dt.date.resolve_toCivil, dt.time.resolveClock_decimalSecond]
  split <;> rfl

end

section

variable (arith : Arithmetic) {σ : Type} [Connection σ] {type : SqlType}

private theorem bindsAlone_time (htype : type.category? = some .time) (t : Time) :
    BindsAlone arith σ type (.ofTime t)
      (if t.nano < 1000000000 then .ok (.time t) else .refuse (.second t.decimalSecond)) :=
  bindsAlone_of_category htype (congrArg Step.ofOutcome (bindTime_ofTime arith type t))

private theorem bindsAlone_timestamp (htype : type.category? = some .timestamp) (dt : DateTime) :
    BindsAlone arith σ type (.ofDateTime dt)
      (if dt.time.nano < 1000000000 then .ok (.timestamp dt)
        else .refuse (.second dt.time.decimalSecond)) :=
  bindsAlone_of_category htype (congrArg Step.ofOutcome (bindTimestamp_ofDateTime arith type dt))

end

/-- Dates, times and date-times are bound as what they were, and a leap second is refused by the
application rather than bound as another time. -/
theorem calendar_values_survive (arith : Arithmetic) (σ : Type) [Connection σ] :
    (∀ d, BindsAlone arith σ .date (.ofDate d) (.ok (.date d))) ∧
    (∀ dt, BindsAlone arith σ .date (.ofDateTime dt) (.ok (.date dt.date))) ∧
    (∀ t : Time, t.nano < 1000000000 → BindsAlone arith σ .time (.ofTime t) (.ok (.time t))) ∧
    (∀ dt : DateTime, dt.time.nano < 1000000000 → ∀ type, type = .timestamp ∨ type = .datetime →
      BindsAlone arith σ type (.ofDateTime dt) (.ok (.timestamp dt))) ∧
    (∀ t : Time, 1000000000 ≤ t.nano → ∃ e : Error, e.kind = .application ∧
      BindsAlone arith σ .time (.ofTime t) (.fail e)) ∧
    (∀ dt : DateTime, 1000000000 ≤ dt.time.nano → ∀ type, type = .timestamp ∨ type = .datetime →
      ∃ e : Error, e.kind = .application ∧ BindsAlone arith σ type (.ofDateTime dt) (.fail e)) := by
  have hcategory : ∀ type : SqlType, type = .timestamp ∨ type = .datetime →
      type.category? = some .timestamp := by
    rintro type (rfl | rfl) <;> rfl
  refine ⟨fun d => ?_, fun dt => ?_, fun t hnano => ?_, fun dt hnano type htype => ?_,
    fun t hleap => ?_, fun dt hleap type htype => ?_⟩
  · exact bindsAlone_of_category rfl (congrArg Step.ofOutcome (bindDate_ofDate .date d))
  · exact bindsAlone_of_category rfl (congrArg Step.ofOutcome (bindDate_ofDateTime .date dt))
  · have hbound : BindsAlone arith σ .time (.ofTime t) _ := bindsAlone_time arith rfl t
    rwa [if_pos hnano] at hbound
  · have hbound : BindsAlone arith σ type (.ofDateTime dt) _ :=
      bindsAlone_timestamp arith (hcategory type htype) dt
    rwa [if_pos hnano] at hbound
  · have hbound : BindsAlone arith σ .time (.ofTime t) _ := bindsAlone_time arith rfl t
    rw [if_neg (Nat.not_lt.mpr hleap)] at hbound
    exact ⟨_, rfl, hbound⟩
  · have hbound : BindsAlone arith σ type (.ofDateTime dt) _ :=
      bindsAlone_timestamp arith (hcategory type htype) dt
    rw [if_neg (Nat.not_lt.mpr hleap)] at hbound
    exact ⟨_, rfl, hbound⟩

/-- The last nanosecond of a day is bound as it is, and the leap second after it is refused. -/
theorem calendar_values_survive_midnight :
    let last : Time := ⟨23, 59, 59, 999999999, by decide⟩
    let leap : Time := ⟨23, 59, 59, 1000000000, by decide⟩
    last.nano < 1000000000 ∧
      BindsAlone .wrapping BufferedConnection .time (.ofTime last) (.ok (.time last)) ∧
      1000000000 ≤ leap.nano ∧ ∃ e : Error, e.kind = .application ∧
        BindsAlone .wrapping BufferedConnection .time (.ofTime leap) (.fail e) := by
  intro last leap
  have hlast : last.nano < 1000000000 := by decide
  have hleap : 1000000000 ≤ leap.nano := by decide
  obtain ⟨-, -, hbound, -, hrefused, -⟩ := calendar_values_survive .wrapping BufferedConnection
  exact ⟨hlast, hbound last hlast, hleap, hrefused leap hleap⟩

end SqlBinding
