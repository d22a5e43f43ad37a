import SqlBinding.Calendar.Date
import SqlBinding.Calendar.Time

/-!
# Points in time

Local date-times, offsets from UTC, date-times with an offset and UTC instants. A date-time with
an offset carries its UTC form, so the two always name one instant.
-/

namespace SqlBinding.Calendar

/-- A day and a time of day, in no particular zone. -/
structure DateTime where
  date : Date
  time : Time
deriving DecidableEq

namespace DateTime

def seconds (dt : DateTime) : Int := dt.date.dayNumber * 86400 + dt.time.secondOfDay

def nanos (dt : DateTime) : Int := dt.seconds * 1000000000 + dt.time.nano

/-- The date-time `s` seconds and `nano` nanoseconds from 1970-01-01 00:00:00, if it is within
range. -/
def ofSeconds? (s : Int) (nano : Nat) : Option DateTime := do
  let date ← Date.ofDayNumber? (s / 86400)
  let time ← Time.ofSecondOfDay? (s % 86400).toNat nano
  return ⟨date, time⟩

theorem seconds_of_ofSeconds? {s : Int} {nano : Nat} {dt : DateTime}
    (h : ofSeconds? s nano = some dt) : dt.seconds = s ∧ dt.time.nano = nano := by
  simp only [ofSeconds?, Option.bind_eq_bind, Option.bind_eq_some_iff, Option.pure_def,
    Option.some.injEq] at h
  obtain ⟨date, hdate, time, htime, rfl⟩ := h
  obtain ⟨hs, hn⟩ := Time.secondOfDay_of_ofSecondOfDay? htime
  refine ⟨?_, hn⟩
  simp only [seconds, Date.dayNumber_of_ofDayNumber? hdate, hs]
  omega

end DateTime

/-- An offset of local time from UTC in seconds, positive to the east, of at most 18 hours. -/
structure Offset where
  east : Int
  bounded : -64800 ≤ east ∧ east ≤ 64800 := by decide
deriving DecidableEq

/-- The offset of `east` seconds, if it is within 18 hours. -/
def Offset.of? (east : Int) : Option Offset :=
  if h : -64800 ≤ east ∧ east ≤ 64800 then some ⟨east, h⟩ else none

/-- A time of day in a zone with a fixed offset. -/
structure OffsetTime where
  time : Time
  offset : Offset
deriving DecidableEq

/-- An instant, given by its date-time in UTC. -/
structure Instant where
  utc : DateTime
deriving DecidableEq

namespace Instant

def seconds (i : Instant) : Int := i.utc.seconds

def nano (i : Instant) : Nat := i.utc.time.nano

/-- The instant `s` seconds and `nano` nanoseconds from the epoch, if it is within range. -/
def ofSeconds? (s : Int) (nano : Nat) : Option Instant := (DateTime.ofSeconds? s nano).map .mk

theorem seconds_of_ofSeconds? {s : Int} {nano : Nat} {i : Instant}
    (h : ofSeconds? s nano = some i) : i.seconds = s ∧ i.nano = nano := by
  obtain ⟨dt, hdt, rfl⟩ := Option.map_eq_some_iff.mp h
  exact DateTime.seconds_of_ofSeconds? hdt

end Instant

/-- A local date-time in a zone with a fixed offset, and the instant it names. -/
structure OffsetDateTime where
  wall : DateTime
  offset : Offset
  instant : Instant
  consistent : instant.seconds = wall.seconds - offset.east ∧ instant.nano = wall.time.nano
deriving DecidableEq

/-- The local date-time with an offset, if the instant it names is within range. -/
def OffsetDateTime.of? (wall : DateTime) (offset : Offset) : Option OffsetDateTime :=
  match h : Instant.ofSeconds? (wall.seconds - offset.east) wall.time.nano with
  | none => none
  | some instant => some ⟨wall, offset, instant, Instant.seconds_of_ofSeconds? h⟩

end SqlBinding.Calendar
