/-!
# Times of day

A time of day to the nanosecond. A leap second is the 59th second of its minute with a billion or
more nanoseconds.
-/

namespace SqlBinding.Calendar

def IsTime (hour minute second nano : Nat) : Prop :=
  hour < 24 ∧ minute < 60 ∧ second < 60 ∧
    (nano < 1000000000 ∨ second = 59 ∧ nano < 2000000000)

instance (hour minute second nano : Nat) : Decidable (IsTime hour minute second nano) := by
  unfold IsTime; infer_instance

/-- A time of day. -/
structure Time where
  hour : Nat
  minute : Nat
  second : Nat
  nano : Nat
  isTime : IsTime hour minute second nano := by decide
deriving DecidableEq

namespace Time

def of? (hour minute second nano : Nat) : Option Time :=
  if h : IsTime hour minute second nano then some ⟨hour, minute, second, nano, h⟩ else none

theorem of?_eq_some_iff {hour minute second nano : Nat} {t : Time} :
    of? hour minute second nano = some t ↔
      t.hour = hour ∧ t.minute = minute ∧ t.second = second ∧ t.nano = nano := by
  unfold of?
  split
  · constructor
    · rintro h'; cases h'; exact ⟨rfl, rfl, rfl, rfl⟩
    · rintro ⟨rfl, rfl, rfl, rfl⟩; rfl
  · rename_i h
    constructor
    · intro h'; cases h'
    · rintro ⟨rfl, rfl, rfl, rfl⟩; exact absurd t.isTime h

def secondOfDay (t : Time) : Nat := t.hour * 3600 + t.minute * 60 + t.second

theorem secondOfDay_lt (t : Time) : t.secondOfDay < 86400 := by
  have := t.isTime
  simp only [IsTime] at this
  simp only [secondOfDay]
  omega

/-- The time `s` seconds and `nano` nanoseconds after midnight, if there is one. -/
def ofSecondOfDay? (s nano : Nat) : Option Time := of? (s / 3600) (s / 60 % 60) (s % 60) nano

theorem secondOfDay_of_ofSecondOfDay? {s nano : Nat} {t : Time}
    (h : ofSecondOfDay? s nano = some t) : t.secondOfDay = s ∧ t.nano = nano := by
  obtain ⟨h1, h2, h3, h4⟩ := of?_eq_some_iff.mp h
  refine ⟨?_, h4⟩
  simp only [secondOfDay, h1, h2, h3]
  omega

/-- Nanoseconds since midnight; those of a leap second come after the 59th second. -/
def nanoOfDay (t : Time) : Nat := t.secondOfDay * 1000000000 + t.nano

/-- The seconds of the minute with their fraction, in billionths. -/
def nanoOfMinute (t : Time) : Nat := t.second * 1000000000 + t.nano

theorem second_lt (t : Time) : t.second < 60 := by
  have := t.isTime
  simp only [IsTime] at this
  omega

theorem nanoOfMinute_lt (t : Time) : t.nanoOfMinute < 61000000000 := by
  have := t.isTime
  simp only [IsTime] at this
  simp only [nanoOfMinute]
  omega

end Time

end SqlBinding.Calendar
