import SqlBinding.Calendar.DateTime
import SqlBinding.Host.Value

/-!
# Host values of plain data

The value for each kind of plain data. Calendar data becomes calendar records without an offset. A
whole second of a time has no decimals, unless it is the first of its minute; that one and every
second with a fraction have nine. A leap second shows as sixty seconds or more.
-/

namespace SqlBinding

namespace Calendar

def Date.toCivil (d : Date) : CivilDate := ⟨.ofInt d.year, .ofNat d.month, .ofNat d.day⟩

/-- The seconds of the minute with nine decimals, or with none where the sum of a second and its
fraction is that second alone: a sum with a zero is the other summand as it is written. -/
def Time.decimalSecond (t : Time) : Decimal :=
  if t.nano = 0 ∧ 0 < t.second then
    .ofNat t.second (Nat.lt_trans t.second_lt (by decide))
  else .ofNanos t.nanoOfMinute (Nat.lt_trans t.nanoOfMinute_lt (by decide))

def Time.toTimeOfDay (t : Time) : TimeOfDay :=
  ⟨.ofNat t.hour, .ofNat t.minute, some t.decimalSecond, none⟩

def DateTime.toCivil (dt : DateTime) : CivilDateTime := .of dt.date.toCivil dt.time.toTimeOfDay

/-- Seconds from the epoch and the fraction with nine decimals. -/
def Instant.toUtc (i : Instant) : UtcInstant where
  seconds := .ofInt i.seconds
  fraction := .ofNanos i.nano <| by
    have := i.utc.time.isTime
    simp only [IsTime] at this
    simp only [nano, Decimal.mantissaBound]
    omega

end Calendar

namespace Value

def ofInt16 (i : Int16) : Value := .int i.toInt32

def ofBlobs (blobs : List Bytes) : Value := .array (.binary blobs)

def ofDate (d : Calendar.Date) : Value := .date d.toCivil

def ofTime (t : Calendar.Time) : Value := .timeOfDay t.toTimeOfDay

def ofDateTime (dt : Calendar.DateTime) : Value := .civil dt.toCivil

def ofInstant (i : Calendar.Instant) : Value := .utc i.toUtc

end Value

end SqlBinding
