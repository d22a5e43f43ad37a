import SqlBinding.Calendar.Parser
import SqlBinding.Error
import SqlBinding.Native.Value
import SqlBinding.Number.Decimal.Arithmetic
import SqlBinding.Number.Int32

/-!
# From calendar records to the calendar

Each calendar record of the host is resolved to the day, time or instant that it names, or refused.
Seconds are split into their floor and the remainder, which is rounded half up to nanoseconds. An
offset decides by its presence alone whether the result carries one. Its parts are added up in 32
bits, by the arithmetic of the program.
-/

namespace SqlBinding

/-- Seconds as whole seconds of a minute and nanoseconds; an absent value is zero. A negative
value, zero with a sign included, is refused. -/
def splitSeconds (second : Option Decimal) : Outcome (Nat × Nat) :=
  let s := second.getD .zero
  match s.fraction.times? 1000000000 with
  | none => .error .overflow
  | some nanos =>
    if s.negative || 60 ≤ s.floor || 1000000000 ≤ nanos.round then .refuse (.second s)
    else .ok (s.floor.toNat, nanos.round.toNat)

namespace Arithmetic

/-- Refuses a number whose magnitude exceeds a bound. The least number has no magnitude in 32
bits. -/
def require (arith : Arithmetic) (bound : Int) (why : Refusal) (i : Int32) : Outcome Unit := do
  let magnitude ← .orOverflow (arith.int32? i.toInt.natAbs)
  if bound < magnitude.toInt then .refuse why

/-- The seconds in hours, minutes and seconds. -/
def total (arith : Arithmetic) (hours minutes seconds : Int32) : Outcome Int32 := do
  let h ← .orOverflow (arith.int32? (hours.toInt * 3600))
  let m ← .orOverflow (arith.int32? (minutes.toInt * 60))
  let hm ← .orOverflow (arith.int32? (h.toInt + m.toInt))
  .orOverflow (arith.int32? (hm.toInt + seconds.toInt))

end Arithmetic

/-- The offset a record names. Its seconds are rounded, a half going away from zero; no two of its
parts may have opposite signs, and hours may not exceed 18 in all. -/
def ZoneOffset.resolve (arith : Arithmetic) (o : ZoneOffset) : Outcome Calendar.Offset := do
  let seconds ← .orRefuse (.zoneOffset o) (int32? (o.seconds.getD .zero).round)
  let parts := [o.hours.toInt, o.minutes.toInt, seconds.toInt]
  if parts.any (0 < ·) && parts.any (· < 0) then .refuse (.zoneOffset o)
  arith.require 59 (.zoneOffset o) o.minutes
  arith.require 59 (.zoneOffset o) seconds
  let east ← arith.total o.hours o.minutes seconds
  arith.require 64800 (.zoneOffsetRange o) east
  .orRefuse (.zoneOffset o) (Calendar.Offset.of? east.toInt)

def CivilDate.resolve (d : CivilDate) : Outcome Calendar.Date :=
  .orRefuse (.date d) (Calendar.Date.of? d.year.toInt d.month.toNat d.day.toNat)

/-- The time of day that hour, minute and decimal seconds name. -/
def resolveClock (hour minute : UInt32) (second : Option Decimal) : Outcome Calendar.Time := do
  let (whole, nano) ← splitSeconds second
  .orRefuse (.time hour minute whole nano)
    (Calendar.Time.of? hour.toNat minute.toNat whole nano)

/-- The time of day a record names, with its offset if it has one. -/
def TimeOfDay.resolve (arith : Arithmetic) (t : TimeOfDay) : Outcome TimeValue := do
  let time ← resolveClock t.hour t.minute t.second
  match t.offset with
  | none => return .naive time
  | some o => return .withOffset ⟨time, ← o.resolve arith⟩

/-- The date-time a record names, with its offset if it has one. The date is looked at first, then
the time, then the offset. -/
def CivilDateTime.resolve (arith : Arithmetic) (c : CivilDateTime) : Outcome TimestampValue := do
  let date ← c.date.resolve
  let time ← resolveClock c.hour c.minute c.second
  match c.offset with
  | none => return .naive ⟨date, time⟩
  | some o =>
    let offset ← o.resolve arith
    return .withOffset (← .orRefuse (.civil c) (Calendar.OffsetDateTime.of? ⟨date, time⟩ offset))

/-- The instant a record names, rounded down to the millisecond. -/
def UtcInstant.resolve (u : UtcInstant) : Outcome Calendar.Instant :=
  match u.fraction.times? 1000 with
  | none => .error .overflow
  | some millis =>
    if millis.floor < 0 || 1000 ≤ millis.floor then .refuse (.utcFraction u.fraction)
    else
      .orRefuse (.utcSeconds u.seconds)
        (Calendar.Instant.ofSeconds? u.seconds.toInt (millis.floor.toNat * 1000000))

def resolveDateText (text : String) : Outcome Calendar.Date :=
  .orRefuse (.dateText text) (Calendar.Parser.readDate? (Text.trim text.toList))

/-- The time of day that a text gives as `hour:minute` or `hour:minute:second` with or without a
fraction. A refusal names the text without its outer blanks. -/
def resolveTimeText (text : String) : Outcome Calendar.Time :=
  let trimmed := Text.trim text.toList
  .orRefuse (.timeText (String.ofList trimmed)) (Calendar.Parser.readTime? trimmed)

/-- The date-time that a text gives as `year-month-day hour:minute:second`. -/
def resolveTimestampText (text : String) : Outcome Calendar.DateTime :=
  .orRefuse (.timestampText text) (Calendar.Parser.readDateTime? (Text.trim text.toList))

/-- The families of array elements that have names of their own when offsets occur. -/
inductive TemporalFamily where
  | date | time | timestamp
deriving DecidableEq

/-- The element type name of an array of a family: one element with an offset gives the whole array
the name with a time zone. -/
def TemporalFamily.elementName : TemporalFamily → Bool → String
  | .time, true => "TIME WITH TIMEZONE"
  | .time, false => "TIME"
  | .timestamp, true => "TIMESTAMP WITH TIMEZONE"
  | .timestamp, false => "TIMESTAMP"
  | .date, _ => "DATE"

end SqlBinding
