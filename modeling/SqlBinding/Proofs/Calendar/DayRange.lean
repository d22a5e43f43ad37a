import Mathlib.Data.Int.Init
import SqlBinding.Proofs.Calendar.DayNumbers

/-!
# The range of days

Every day but the last of the range of years is followed by another one, whose number is the next
one. So the numbers of the days fill an interval, and the seconds of the instants fill the interval
from the first second of the first day to the last second of the last.
-/

namespace SqlBinding.Calendar

namespace Date

def firstNumber : Int := -96465292

def lastNumber : Int := 95026236

/-- Days before a year that begins in March, counted from the year zero. -/
def daysBefore (y : Int) : Int := 365 * y + y / 4 - y / 100 + y / 400

private theorem daysBefore_eq (y : Int) :
    y / 400 * 146097 + yearStart (y % 400) = daysBefore y := by
  simp only [yearStart, daysBefore]
  omega

private theorem daysBefore_succ (y : Int) :
    daysBefore (y + 1) = daysBefore y + if isLeapYear (y + 1) then 366 else 365 := by
  have hleap := @isLeapYear_iff (y + 1)
  simp only [daysBefore]
  split
  · next h =>
    have hyear := hleap.mp h
    omega
  · next h =>
    have hyear := mt hleap.mpr h
    omega

private theorem number_of_early {year : Int} {month day : Nat} (h : month ≤ 2) :
    number year month day = daysBefore (year - 1) + monthStart (month + 9) + day - 719469 := by
  simp only [number, if_pos h, daysBefore_eq]

private theorem number_of_late {year : Int} {month day : Nat} (h : 2 < month) :
    number year month day = daysBefore year + monthStart (month - 3) + day - 719469 := by
  simp only [number, if_neg (Nat.not_le_of_lt h), daysBefore_eq]

private theorem daysInMonth_february (year : Int) :
    daysInMonth year 2 = if isLeapYear year then 29 else 28 := rfl

theorem daysInMonth_le (year : Int) (month : Nat) : daysInMonth year month ≤ 31 := by
  by_cases hfebruary : month = 2
  · rw [hfebruary, daysInMonth_february]
    split <;> decide
  · unfold daysInMonth
    split <;> omega

theorem daysInMonth_pos_iff {year : Int} {month : Nat} :
    1 ≤ daysInMonth year month ↔ 1 ≤ month ∧ month ≤ 12 := by
  by_cases hfebruary : month = 2
  · rw [hfebruary, daysInMonth_february]
    split <;> decide
  · unfold daysInMonth
    split
    case h_13 =>
      simp only [imp_false] at *
      omega
    all_goals omega

private theorem number_next_month {year : Int} {month : Nat} (h0 : 1 ≤ month) (h1 : month < 12) :
    number year (month + 1) 1 = number year month (daysInMonth year month) + 1 := by
  by_cases hfebruary : month = 2
  · subst hfebruary
    have hnext := daysBefore_succ (year - 1)
    rw [Int.sub_add_cancel] at hnext
    rw [number_of_late (by decide), number_of_early (by decide), hnext, daysInMonth_february]
    simp only [monthStart]
    split <;> omega
  · by_cases hjanuary : month = 1
    · subst hjanuary
      rw [number_of_early (by decide), number_of_early (by decide)]
      simp only [daysInMonth, monthStart]
      omega
    · rw [number_of_late (by omega), number_of_late (by omega)]
      unfold daysInMonth
      simp only [monthStart]
      split
      case h_13 =>
        simp only [imp_false] at *
        omega
      all_goals omega

private theorem number_next_year (year : Int) : number (year + 1) 1 1 = number year 12 31 + 1 := by
  rw [number_of_early (by decide), number_of_late (by decide), Int.add_sub_cancel]
  simp only [monthStart]
  omega

private theorem dayNumber_bounds (d : Date) :
    firstNumber ≤ d.dayNumber ∧ d.dayNumber ≤ lastNumber := by
  obtain ⟨hyear0, hyear1, hday0, hday1⟩ := d.isDate
  obtain ⟨hmonth0, hmonth1⟩ := daysInMonth_pos_iff.mp (Nat.le_trans hday0 hday1)
  have hday := daysInMonth_le d.year d.month
  simp only [minYear, maxYear] at hyear0 hyear1
  by_cases hearly : d.month ≤ 2
  · rw [dayNumber, number_of_early hearly]
    simp only [daysBefore, monthStart, firstNumber, lastNumber]
    omega
  · rw [dayNumber, number_of_late (Nat.lt_of_not_le hearly)]
    simp only [daysBefore, monthStart, firstNumber, lastNumber]
    omega

/-- The next day is in the same month, or the first of the next month or of the next year. -/
private theorem exists_next (d : Date) (h : d.dayNumber < lastNumber) :
    ∃ d' : Date, d'.dayNumber = d.dayNumber + 1 := by
  obtain ⟨hyear0, hyear1, hday0, hday1⟩ := d.isDate
  obtain ⟨hmonth0, hmonth1⟩ := daysInMonth_pos_iff.mp (Nat.le_trans hday0 hday1)
  by_cases hday : d.day < daysInMonth d.year d.month
  · refine ⟨⟨d.year, d.month, d.day + 1, hyear0, hyear1, by omega, hday⟩, ?_⟩
    simp only [dayNumber, number]
    omega
  · have hnumber : d.dayNumber = number d.year d.month (daysInMonth d.year d.month) := by
      rw [dayNumber, Nat.le_antisymm hday1 (Nat.le_of_not_lt hday)]
    by_cases hmonth : d.month < 12
    · have hfirst : 1 ≤ daysInMonth d.year (d.month + 1) :=
        daysInMonth_pos_iff.mpr ⟨by omega, hmonth⟩
      refine ⟨⟨d.year, d.month + 1, 1, hyear0, hyear1, Nat.le_refl 1, hfirst⟩, ?_⟩
      rw [hnumber]
      exact number_next_month hmonth0 hmonth
    · have hdecember : d.month = 12 := by omega
      have hlast : daysInMonth d.year 12 = 31 := rfl
      rw [hdecember, hlast] at hnumber
      have hyear : d.year + 1 ≤ maxYear := by
        rw [hnumber, number_of_late (by decide)] at h
        simp only [daysBefore, monthStart, lastNumber] at h
        simp only [maxYear]
        omega
      have hfirst : 1 ≤ daysInMonth (d.year + 1) 1 := daysInMonth_pos_iff.mpr (by decide)
      refine ⟨⟨d.year + 1, 1, 1, by omega, hyear, Nat.le_refl 1, hfirst⟩, ?_⟩
      rw [hnumber]
      exact number_next_year d.year

private theorem exists_dayNumber_iff {z : Int} :
    (∃ d : Date, d.dayNumber = z) ↔ firstNumber ≤ z ∧ z ≤ lastNumber := by
  constructor
  · rintro ⟨d, rfl⟩
    exact d.dayNumber_bounds
  · rintro ⟨h0, h1⟩
    induction z, h0 using Int.leInduction with
    | base => exact ⟨⟨minYear, 1, 1, by decide⟩, by decide⟩
    | succ z _ ih =>
      obtain ⟨d, rfl⟩ := ih (by omega)
      exact d.exists_next (by omega)

end Date

namespace Instant

def firstSecond : Int := -8334601228800

def lastSecond : Int := 8210266876799

/-- There is an instant for every second from the first to the last, with every fraction that is no
leap second. -/
theorem exists_seconds_iff {s : Int} {nano : Nat} (hnano : nano < 1000000000) :
    (∃ i : Instant, i.seconds = s ∧ i.nano = nano) ↔ firstSecond ≤ s ∧ s ≤ lastSecond := by
  simp only [firstSecond, lastSecond]
  constructor
  · rintro ⟨i, rfl, -⟩
    obtain ⟨hfirst, hlast⟩ := i.utc.date.dayNumber_bounds
    have hclock := i.utc.time.secondOfDay_lt
    simp only [Date.firstNumber, Date.lastNumber] at hfirst hlast
    simp only [seconds, DateTime.seconds]
    omega
  · rintro ⟨h0, h1⟩
    obtain ⟨date, hdate⟩ := Date.exists_dayNumber_iff.mpr
      (by simp only [Date.firstNumber, Date.lastNumber]; omega :
        Date.firstNumber ≤ s / 86400 ∧ s / 86400 ≤ Date.lastNumber)
    have hclock : IsTime ((s % 86400).toNat / 3600) ((s % 86400).toNat / 60 % 60)
        ((s % 86400).toNat % 60) nano := by
      simp only [IsTime]
      omega
    refine ⟨⟨⟨date, ⟨_, _, _, nano, hclock⟩⟩⟩, ?_, rfl⟩
    simp only [seconds, DateTime.seconds, Time.secondOfDay, hdate]
    omega

end Instant

end SqlBinding.Calendar
