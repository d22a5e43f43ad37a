import SqlBinding.Number.Decimal
import SqlBinding.Text.Display

/-!
# Calendar records of the host

Dates, times and instants as a caller gives them: plain parts that need not name anything in the
calendar, with decimal seconds and an optional offset from UTC. Whole parts are numbers of 32 bits,
the seconds of an instant of 64.
-/

namespace SqlBinding

/-- A year, a month and a day of the month. -/
structure CivilDate where
  year : Int32
  month : UInt32
  day : UInt32
deriving DecidableEq

/-- An offset from UTC in hours, minutes and perhaps seconds, all of one sign. -/
structure ZoneOffset where
  hours : Int32
  minutes : Int32
  seconds : Option Decimal
deriving DecidableEq

/-- A time of day; an absent second is zero. -/
structure TimeOfDay where
  hour : UInt32
  minute : UInt32
  second : Option Decimal
  offset : Option ZoneOffset
deriving DecidableEq

/-- A date and a time of day. -/
structure CivilDateTime where
  year : Int32
  month : UInt32
  day : UInt32
  hour : UInt32
  minute : UInt32
  second : Option Decimal
  offset : Option ZoneOffset
deriving DecidableEq

/-- An instant: whole seconds from the epoch and a fraction of a second. -/
structure UtcInstant where
  seconds : Int64
  fraction : Decimal
deriving DecidableEq

namespace CivilDate

def text (d : CivilDate) : String :=
  toString d.year ++ "-" ++ toString d.month ++ "-" ++ toString d.day

def shown (d : CivilDate) : String :=
  Text.labelled "DateRecord"
    [("year", toString d.year), ("month", toString d.month), ("day", toString d.day)]

end CivilDate

private def shownDecimal (d : Option Decimal) : String := Text.optional (d.map Decimal.text)

def ZoneOffset.shown (o : ZoneOffset) : String :=
  Text.labelled "ZoneOffsetRecord"
    [("hours", toString o.hours), ("minutes", toString o.minutes),
      ("seconds", shownDecimal o.seconds)]

private def shownClock (hour minute : UInt32) (second : Option Decimal)
    (offset : Option ZoneOffset) : List (String × String) :=
  [("hour", toString hour), ("minute", toString minute), ("second", shownDecimal second),
    ("utc_offset", Text.optional (offset.map ZoneOffset.shown))]

def TimeOfDay.shown (t : TimeOfDay) : String :=
  Text.labelled "TimeOfDay" (shownClock t.hour t.minute t.second t.offset)

namespace CivilDateTime

def date (c : CivilDateTime) : CivilDate := ⟨c.year, c.month, c.day⟩

def timeOfDay (c : CivilDateTime) : TimeOfDay := ⟨c.hour, c.minute, c.second, c.offset⟩

def of (d : CivilDate) (t : TimeOfDay) : CivilDateTime :=
  ⟨d.year, d.month, d.day, t.hour, t.minute, t.second, t.offset⟩

def shown (c : CivilDateTime) : String :=
  Text.labelled "CivilDateTime"
    ([("year", toString c.year), ("month", toString c.month), ("day", toString c.day)] ++
      shownClock c.hour c.minute c.second c.offset)

end CivilDateTime

namespace UtcInstant

def text (u : UtcInstant) : String := Text.listed [toString u.seconds, u.fraction.text]

def shown (u : UtcInstant) : String :=
  Text.labelled "UtcInstant" [("seconds", toString u.seconds), ("fraction", u.fraction.text)]

end UtcInstant

private def sameOptional {α : Type} (same : α → α → Bool) : Option α → Option α → Bool
  | none, none => true
  | some a, some b => same a b
  | _, _ => false

def ZoneOffset.same (a b : ZoneOffset) : Bool :=
  a.hours == b.hours && a.minutes == b.minutes &&
    sameOptional Decimal.sameNumber a.seconds b.seconds

def TimeOfDay.same (a b : TimeOfDay) : Bool :=
  a.hour == b.hour && a.minute == b.minute &&
    sameOptional Decimal.sameNumber a.second b.second &&
    sameOptional ZoneOffset.same a.offset b.offset

def CivilDateTime.same (a b : CivilDateTime) : Bool :=
  a.date == b.date && a.timeOfDay.same b.timeOfDay

def UtcInstant.same (a b : UtcInstant) : Bool :=
  a.seconds == b.seconds && a.fraction.sameNumber b.fraction

end SqlBinding
