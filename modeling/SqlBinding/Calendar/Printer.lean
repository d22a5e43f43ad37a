import SqlBinding.Calendar.DateTime
import SqlBinding.Text.Padding

/-!
# Writing times

ISO texts of times of day and of offsets. A fraction takes the fewest of no, three, six and nine
digits that are exact; a leap second is written as the 60th.
-/

namespace SqlBinding.Calendar

open Text (zeroPadded)

def fractionText (nano : Nat) : String :=
  if nano = 0 then ""
  else if nano % 1000000 = 0 then "." ++ zeroPadded 3 (nano / 1000000)
  else if nano % 1000 = 0 then "." ++ zeroPadded 6 (nano / 1000)
  else "." ++ zeroPadded 9 nano

/-- A time of day as `hour:minute:second`, then the fraction. -/
def Time.text (t : Time) : String :=
  let (second, nano) :=
    if t.nano < 1000000000 then (t.second, t.nano) else (t.second + 1, t.nano - 1000000000)
  zeroPadded 2 t.hour ++ ":" ++ zeroPadded 2 t.minute ++ ":" ++ zeroPadded 2 second ++
    fractionText nano

/-- An offset as sign, hours and minutes, and seconds where there are any. -/
def Offset.text (o : Offset) : String :=
  let n := o.east.natAbs
  (if o.east < 0 then "-" else "+") ++ zeroPadded 2 (n / 3600) ++ ":" ++
    zeroPadded 2 (n / 60 % 60) ++ (if n % 60 = 0 then "" else ":" ++ zeroPadded 2 (n % 60))

def OffsetTime.text (t : OffsetTime) : String := t.time.text ++ t.offset.text

end SqlBinding.Calendar
