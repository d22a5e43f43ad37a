import SqlBinding.Calendar.DateTime

/-!
# Days found by their numbers

Every day is found again by its number, and so every date-time by its seconds since 1970. An offset
moves a local date-time to the one instant in UTC that lies so much earlier, if the range of years
has it.
-/

namespace SqlBinding.Calendar

namespace Date

theorem isLeapYear_iff {year : Int} :
    isLeapYear year = true ↔ year % 4 = 0 ∧ (year % 100 ≠ 0 ∨ year % 400 = 0) := by
  simp [isLeapYear]

private theorem daysInMonth_cycle (year : Int) (month : Nat) :
    daysInMonth ((year - 1) % 400 + 1) month = daysInMonth year month := by
  have h4 : ((year - 1) % 400 + 1) % 4 = year % 4 := by omega
  have h100 : ((year - 1) % 400 + 1) % 100 = year % 100 := by omega
  have h400 : ((year - 1) % 400 + 1) % 400 = year % 400 := by omega
  have hleap : isLeapYear ((year - 1) % 400 + 1) = isLeapYear year := by
    simp only [isLeapYear, h4, h100, h400]
  unfold daysInMonth
  rw [hleap]

/-- The days, counted from zero, of a year that begins in March: only one that ends with a leap day
has a day 365. -/
def HasDay (y d : Int) : Prop := 0 ≤ d ∧ d ≤ 365 ∧ (d = 365 → isLeapYear (y + 1) = true)

private theorem cycleYear_of_parts {g f r d : Int} (hg : 0 ≤ g ∧ g ≤ 3) (hf : 0 ≤ f ∧ f ≤ 24)
    (hr : 0 ≤ r ∧ r ≤ 3) (hd : 0 ≤ d ∧ d ≤ 365) (hleap : d = 365 → r = 3 ∧ (f = 24 → g = 3)) :
    cycleYear (yearStart (100 * g + 4 * f + r) + d) = 100 * g + 4 * f + r := by
  have hstart : yearStart (100 * g + 4 * f + r) = 36524 * g + 1461 * f + 365 * r := by
    simp only [yearStart]
    omega
  have hcentury : min ((36524 * g + 1461 * f + 365 * r + d) / 36524) 3 = g := by omega
  have hgroup : (36524 * g + 1461 * f + 365 * r + d - 36524 * g) / 1461 = f := by omega
  have hyear : min ((36524 * g + 1461 * f + 365 * r + d - 36524 * g - 1461 * f) / 365) 3 = r := by
    omega
  rw [hstart]
  simp only [cycleYear, hcentury, hgroup, hyear]

private theorem cycleYear_yearStart_add {y d : Int} (hy0 : 0 ≤ y) (hy1 : y < 400)
    (hd : HasDay y d) :
    cycleYear (yearStart y + d) = y := by
  obtain ⟨hd0, hd1, hleap⟩ := hd
  rw [isLeapYear_iff] at hleap
  have hsplit : y = 100 * (y / 100) + 4 * (y % 100 / 4) + y % 4 := by omega
  have hyear := @cycleYear_of_parts (y / 100) (y % 100 / 4) (y % 4) d (by omega) (by omega)
    (by omega) ⟨hd0, hd1⟩ (by omega)
  rwa [← hsplit] at hyear

private theorem cycle_of_hasDay {e y d : Int} (hy0 : 0 ≤ y) (hy1 : y < 400) (hd : HasDay y d) :
    (e * 146097 + yearStart y + d) / 146097 = e ∧
      (e * 146097 + yearStart y + d) % 146097 = yearStart y + d := by
  obtain ⟨hd0, hd1, hleap⟩ := hd
  rw [isLeapYear_iff] at hleap
  have h0 : 0 ≤ yearStart y + d := by
    simp only [yearStart]
    omega
  have h1 : yearStart y + d < 146097 := by
    simp only [yearStart]
    omega
  omega

/-- A day of a month stays before the next month of a year that begins in March. -/
private theorem hasDay_of_late {year y : Int} {month day : Nat} (hmonth : 2 < month)
    (hday0 : 1 ≤ day) (hday1 : day ≤ daysInMonth year month) :
    month ≤ 12 ∧ monthStart (month - 3) + day ≤ monthStart (month - 3 + 1) ∧
      HasDay y (monthStart (month - 3) + day - 1) := by
  unfold daysInMonth at hday1
  simp only [monthStart, HasDay]
  split at hday1 <;> omega

/-- The same of the last two months; the 29th of February is the day 365. -/
private theorem hasDay_of_early {y : Int} {month day : Nat} (hmonth : month ≤ 2)
    (hday0 : 1 ≤ day) (hday1 : day ≤ daysInMonth (y + 1) month) :
    1 ≤ month ∧ monthStart (month + 9) + day ≤ monthStart (month + 9 + 1) ∧
      HasDay y (monthStart (month + 9) + day - 1) := by
  have hcases : month = 0 ∨ month = 1 ∨ month = 2 := by omega
  rcases hcases with rfl | rfl | rfl
  · simp only [daysInMonth] at hday1
    omega
  · simp only [daysInMonth] at hday1
    simp only [monthStart, HasDay]
    omega
  · simp only [daysInMonth] at hday1
    split at hday1
    · next hleap =>
      simp only [monthStart, HasDay]
      exact ⟨by omega, by omega, by omega, by omega, fun _ => hleap⟩
    · simp only [monthStart, HasDay]
      omega

private theorem parts_of_hasDay {e y m : Int} {day : Nat} (hy0 : 0 ≤ y) (hy1 : y < 400)
    (hday0 : 1 ≤ day) (hday1 : monthStart m + day ≤ monthStart (m + 1))
    (hd : HasDay y (monthStart m + day - 1)) :
    parts (e * 146097 + yearStart y + monthStart m + day - 719469) =
      if m < 10 then (e * 400 + y, (m + 3).toNat, day)
      else (e * 400 + y + 1, (m - 9).toNat, day) := by
  have hz : e * 146097 + yearStart y + monthStart m + day - 719469 + 719468 =
      e * 146097 + yearStart y + (monthStart m + day - 1) := by omega
  obtain ⟨hcycle, hdayOfCycle⟩ := cycle_of_hasDay (e := e) hy0 hy1 hd
  have hyear := cycleYear_yearStart_add hy0 hy1 hd
  have hdayOfYear : yearStart y + (monthStart m + day - 1) - yearStart y =
      monthStart m + day - 1 := by omega
  have hmonth : (5 * (monthStart m + day - 1) + 2) / 153 = m := by
    simp only [monthStart] at hday1 ⊢
    omega
  have hday : (monthStart m + day - 1 - monthStart m + 1).toNat = day := by omega
  simp only [parts, hz, hcycle, hdayOfCycle, hyear, hdayOfYear, hmonth, hday]

private theorem parts_number {year : Int} {month day : Nat} (hday0 : 1 ≤ day)
    (hday1 : day ≤ daysInMonth year month) :
    parts (number year month day) = (year, month, day) := by
  by_cases hearly : month ≤ 2
  · rw [← daysInMonth_cycle] at hday1
    obtain ⟨hmonth, hnext, hd⟩ := hasDay_of_early hearly hday0 hday1
    have hparts := parts_of_hasDay (e := (year - 1) / 400) (by omega) (by omega) hday0 hnext hd
    have hlate : ¬ (month : Int) + 9 < 10 := by omega
    have hback : ((month : Int) + 9 - 9).toNat = month := by omega
    have hyear : (year - 1) / 400 * 400 + (year - 1) % 400 + 1 = year := by omega
    rw [if_neg hlate, hback, hyear] at hparts
    simp only [number, if_pos hearly, hparts]
  · obtain ⟨hmonth, hnext, hd⟩ :=
      hasDay_of_late (y := year % 400) (Nat.lt_of_not_le hearly) hday0 hday1
    have hparts := parts_of_hasDay (e := year / 400) (by omega) (by omega) hday0 hnext hd
    have hlate : (month : Int) - 3 < 10 := by omega
    have hback : ((month : Int) - 3 + 3).toNat = month := by omega
    have hyear : year / 400 * 400 + year % 400 = year := by omega
    rw [if_pos hlate, hback, hyear] at hparts
    simp only [number, if_neg hearly, hparts]

private theorem ofDayNumber?_eq_some_iff {z : Int} {d : Date} :
    ofDayNumber? z = some d ↔ d.dayNumber = z := by
  constructor
  · exact dayNumber_of_ofDayNumber?
  · rintro rfl
    obtain ⟨-, -, hday0, hday1⟩ := d.isDate
    simp only [ofDayNumber?, dayNumber, parts_number hday0 hday1]
    exact of?_eq_some_iff.mpr ⟨rfl, rfl, rfl⟩

end Date

private theorem Time.ofSecondOfDay?_eq_some_iff {s nano : Nat} {t : Time} :
    ofSecondOfDay? s nano = some t ↔ t.secondOfDay = s ∧ t.nano = nano := by
  constructor
  · exact secondOfDay_of_ofSecondOfDay?
  · rintro ⟨rfl, rfl⟩
    have htime := t.isTime
    simp only [IsTime] at htime
    have hhour : t.secondOfDay / 3600 = t.hour := by
      simp only [secondOfDay]
      omega
    have hminute : t.secondOfDay / 60 % 60 = t.minute := by
      simp only [secondOfDay]
      omega
    have hsecond : t.secondOfDay % 60 = t.second := by
      simp only [secondOfDay]
      omega
    exact of?_eq_some_iff.mpr ⟨hhour.symm, hminute.symm, hsecond.symm, rfl⟩

private theorem DateTime.ofSeconds?_eq_some_iff {s : Int} {nano : Nat} {dt : DateTime} :
    ofSeconds? s nano = some dt ↔ dt.seconds = s ∧ dt.time.nano = nano := by
  constructor
  · exact seconds_of_ofSeconds?
  · rintro ⟨rfl, rfl⟩
    have hlt := dt.time.secondOfDay_lt
    have hday : dt.seconds / 86400 = dt.date.dayNumber := by
      simp only [seconds]
      omega
    have hclock : (dt.seconds % 86400).toNat = dt.time.secondOfDay := by
      simp only [seconds]
      omega
    rw [ofSeconds?, hday, hclock, Date.ofDayNumber?_eq_some_iff.mpr rfl,
      Time.ofSecondOfDay?_eq_some_iff.mpr ⟨rfl, rfl⟩]
    rfl

theorem Instant.ofSeconds?_eq_some_iff {s : Int} {nano : Nat} {i : Instant} :
    ofSeconds? s nano = some i ↔ i.seconds = s ∧ i.nano = nano := by
  rw [ofSeconds?, Option.map_eq_some_iff]
  constructor
  · rintro ⟨dt, hdt, rfl⟩
    exact DateTime.ofSeconds?_eq_some_iff.mp hdt
  · intro h
    exact ⟨i.utc, DateTime.ofSeconds?_eq_some_iff.mpr h, rfl⟩

/-- The date-time in UTC that a local one with an offset stands for. -/
def DateTime.Shifts (wall : DateTime) (offset : Offset) (utc : DateTime) : Prop :=
  utc.seconds = wall.seconds - offset.east ∧ utc.time.nano = wall.time.nano

namespace OffsetDateTime

variable {wall : DateTime} {offset : Offset}

/-- The instant is the local date-time less the offset, to the nanosecond. -/
theorem nanos_instant (v : OffsetDateTime) :
    v.instant.utc.nanos = v.wall.nanos - v.offset.east * 1000000000 := by
  obtain ⟨hseconds, hnano⟩ := v.consistent
  simp only [Instant.seconds, Instant.nano] at hseconds hnano
  simp only [DateTime.nanos, hseconds, hnano]
  omega

theorem of?_ne_none_iff : of? wall offset ≠ none ↔ ∃ utc, wall.Shifts offset utc := by
  unfold of?
  constructor
  · intro h
    split at h
    · exact absurd rfl h
    · next instant hinstant => exact ⟨instant.utc, Instant.ofSeconds?_eq_some_iff.mp hinstant⟩
  · rintro ⟨utc, hshift⟩
    have hfound : Instant.ofSeconds? (wall.seconds - offset.east) wall.time.nano = some ⟨utc⟩ :=
      Instant.ofSeconds?_eq_some_iff.mpr hshift
    split
    · next hnone => simp [hfound] at hnone
    · simp

theorem of?_eq_some_iff {v : OffsetDateTime} :
    of? wall offset = some v ↔ v.wall = wall ∧ v.offset = offset := by
  constructor
  · intro h
    unfold of? at h
    split at h <;> cases h
    exact ⟨rfl, rfl⟩
  · rintro ⟨rfl, rfl⟩
    obtain ⟨wall, offset, instant, consistent⟩ := v
    have hfound : Instant.ofSeconds? (wall.seconds - offset.east) wall.time.nano = some instant :=
      Instant.ofSeconds?_eq_some_iff.mpr consistent
    unfold of?
    split
    · next hnone => simp [hfound] at hnone
    · next other hother =>
      rw [hfound] at hother
      cases hother
      rfl

end OffsetDateTime

end SqlBinding.Calendar
