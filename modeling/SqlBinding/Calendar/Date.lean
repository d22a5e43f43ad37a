/-!
# Dates

Dates of the proleptic Gregorian calendar with a year zero, and their numbers counted in days from
1970-01-01.
-/

namespace SqlBinding.Calendar

def isLeapYear (year : Int) : Bool := year % 4 == 0 && (year % 100 != 0 || year % 400 == 0)

/-- The number of days of a month; a month that does not exist has none. -/
def daysInMonth (year : Int) (month : Nat) : Nat :=
  match month with
  | 1 | 3 | 5 | 7 | 8 | 10 | 12 => 31
  | 4 | 6 | 9 | 11 => 30
  | 2 => if isLeapYear year then 29 else 28
  | _ => 0

def minYear : Int := -262143

def maxYear : Int := 262142

/-- The triples that name a day within the range of years. -/
def IsDate (year : Int) (month day : Nat) : Prop :=
  minYear ≤ year ∧ year ≤ maxYear ∧ 1 ≤ day ∧ day ≤ daysInMonth year month

instance (year : Int) (month day : Nat) : Decidable (IsDate year month day) := by
  unfold IsDate; infer_instance

/-- A day. -/
structure Date where
  year : Int
  month : Nat
  day : Nat
  isDate : IsDate year month day := by decide
deriving DecidableEq

namespace Date

/-- The day with this year, month and day of the month, if there is one. -/
def of? (year : Int) (month day : Nat) : Option Date :=
  if h : IsDate year month day then some ⟨year, month, day, h⟩ else none

theorem of?_eq_some_iff {year : Int} {month day : Nat} {d : Date} :
    of? year month day = some d ↔ d.year = year ∧ d.month = month ∧ d.day = day := by
  unfold of?
  split
  · rename_i h
    constructor
    · rintro h'; cases h'; exact ⟨rfl, rfl, rfl⟩
    · rintro ⟨rfl, rfl, rfl⟩; rfl
  · rename_i h
    constructor
    · intro h'; cases h'
    · rintro ⟨rfl, rfl, rfl⟩; exact absurd d.isDate h

/-- Days before year `y` of a cycle of 400 years, when every year begins in March and so ends with
its leap day. -/
def yearStart (y : Int) : Int := 365 * y + y / 4 - y / 100

/-- Days before month `m` of a year that begins in March. -/
def monthStart (m : Int) : Int := (153 * m + 2) / 5

/-- Days from 1970-01-01 to a date given by its parts. Four centuries make a cycle of 146097 days,
and 719468 days lie between the first of March of the year zero and 1970-01-01. -/
def number (year : Int) (month day : Nat) : Int :=
  let y := if month ≤ 2 then year - 1 else year
  let m : Int := if month ≤ 2 then month + 9 else month - 3
  y / 400 * 146097 + yearStart (y % 400) + monthStart m + day - 719469

def dayNumber (d : Date) : Int := number d.year d.month d.day

/-- The year of a cycle that holds day `c` of the cycle: whole centuries, whole groups of four
years, then years. The last of four centuries and the last of four years are a day longer. -/
def cycleYear (c : Int) : Int :=
  let century := min (c / 36524) 3
  let group := (c - 36524 * century) / 1461
  let year := min ((c - 36524 * century - 1461 * group) / 365) 3
  100 * century + 4 * group + year

def parts (z : Int) : Int × Nat × Nat :=
  let cycle := (z + 719468) / 146097
  let dayOfCycle := (z + 719468) % 146097
  let y := cycleYear dayOfCycle
  let dayOfYear := dayOfCycle - yearStart y
  let m := (5 * dayOfYear + 2) / 153
  let day := dayOfYear - monthStart m + 1
  if m < 10 then (cycle * 400 + y, (m + 3).toNat, day.toNat)
  else (cycle * 400 + y + 1, (m - 9).toNat, day.toNat)

/-- The day with a given number, if it is within the range of years. -/
def ofDayNumber? (z : Int) : Option Date :=
  let p := parts z
  of? p.1 p.2.1 p.2.2

private theorem cycleYear_bounds {c : Int} (h0 : 0 ≤ c) (h1 : c < 146097) :
    0 ≤ cycleYear c ∧ cycleYear c < 400 ∧
      yearStart (cycleYear c) ≤ c ∧ c - yearStart (cycleYear c) ≤ 365 := by
  simp only [cycleYear]
  generalize hg : min (c / 36524) 3 = g
  generalize hf : (c - 36524 * g) / 1461 = f
  generalize hr : min ((c - 36524 * g - 1461 * f) / 365) 3 = r
  have hg0 : 0 ≤ g ∧ g ≤ 3 := by omega
  have hf0 : 0 ≤ f ∧ f ≤ 24 := by omega
  have hr0 : 0 ≤ r ∧ r ≤ 3 := by omega
  have h4 : (100 * g + 4 * f + r) / 4 = 25 * g + f := by omega
  have h100 : (100 * g + 4 * f + r) / 100 = g := by omega
  simp only [yearStart, h4, h100]
  omega

private theorem number_early {e y m : Int} {day : Nat} (hy0 : 0 ≤ y) (hy1 : y < 400)
    (hm0 : 0 ≤ m) (hm1 : m < 10) :
    number (e * 400 + y) (m + 3).toNat day =
      e * 146097 + yearStart y + monthStart m + day - 719469 := by
  have h1 : ¬ (m + 3).toNat ≤ 2 := by omega
  have h2 : (e * 400 + y) / 400 = e := by omega
  have h3 : (e * 400 + y) % 400 = y := by omega
  have h4 : ((m + 3).toNat : Int) - 3 = m := by omega
  simp only [number, if_neg h1, h2, h3, h4]

private theorem number_late {e y m : Int} {day : Nat} (hy0 : 0 ≤ y) (hy1 : y < 400)
    (hm0 : 10 ≤ m) (hm1 : m < 12) :
    number (e * 400 + y + 1) (m - 9).toNat day =
      e * 146097 + yearStart y + monthStart m + day - 719469 := by
  have h1 : (m - 9).toNat ≤ 2 := by omega
  have h2 : (e * 400 + y + 1 - 1) / 400 = e := by omega
  have h3 : (e * 400 + y + 1 - 1) % 400 = y := by omega
  have h4 : ((m - 9).toNat : Int) + 9 = m := by omega
  simp only [number, if_pos h1, h2, h3, h4]

theorem number_parts (z : Int) : number (parts z).1 (parts z).2.1 (parts z).2.2 = z := by
  have hc0 : 0 ≤ (z + 719468) % 146097 := by omega
  have hc1 : (z + 719468) % 146097 < 146097 := by omega
  obtain ⟨hy0, hy1, hd0, hd1⟩ := cycleYear_bounds hc0 hc1
  have hz : z = (z + 719468) / 146097 * 146097 + (z + 719468) % 146097 - 719468 := by omega
  simp only [parts]
  generalize (z + 719468) / 146097 = e at *
  generalize (z + 719468) % 146097 = c at *
  generalize cycleYear c = y at *
  generalize hd : c - yearStart y = d at *
  have hm : 0 ≤ (5 * d + 2) / 153 ∧ (5 * d + 2) / 153 < 12 ∧
      0 ≤ d - monthStart ((5 * d + 2) / 153) := by
    simp only [monthStart]; omega
  generalize (5 * d + 2) / 153 = m at *
  have hday : ((d - monthStart m + 1).toNat : Int) = d - monthStart m + 1 := by omega
  split
  · rw [number_early hy0 hy1 hm.1 (by omega), hday]; omega
  · rw [number_late hy0 hy1 (by omega) hm.2.1, hday]; omega

theorem dayNumber_of_ofDayNumber? {z : Int} {d : Date} (h : ofDayNumber? z = some d) :
    d.dayNumber = z := by
  obtain ⟨hy, hm, hd⟩ := of?_eq_some_iff.mp h
  rw [dayNumber, hy, hm, hd, number_parts]

end Date

end SqlBinding.Calendar
