import SqlBinding.Postgres.Argument

/-!
# Values on the wire

What the server gets of an argument. Times are sent as whole microseconds, those of a day counted
from midnight and those of a timestamp from the beginning of the year 2000; what is below a
microsecond is cut off towards that point. A zero is sent without sign and scale.
-/

namespace SqlBinding.Postgres

/-- Microseconds since midnight. -/
structure WireTime where
  micros : Nat
deriving DecidableEq, Repr

namespace WireTime

def ofTime (t : Calendar.Time) : WireTime := ⟨t.nanoOfDay / 1000⟩

def hour (t : WireTime) : Nat := t.micros / 3600000000

def minute (t : WireTime) : Nat := t.micros / 60000000 % 60

def second (t : WireTime) : Nat := t.micros / 1000000 % 60

def micro (t : WireTime) : Nat := t.micros % 1000000

end WireTime

/-- Microseconds since 2000-01-01 00:00. -/
structure WireTimestamp where
  micros : Int
deriving DecidableEq, Repr

namespace WireTimestamp

def epochDay : Int := 10957

def ofDateTime (t : Calendar.DateTime) : WireTimestamp :=
  ⟨(t.nanos - epochDay * 86400000000000).tdiv 1000⟩

def dateParts (t : WireTimestamp) : Int × Nat × Nat :=
  Calendar.Date.parts (epochDay + t.micros / 86400000000)

def time (t : WireTimestamp) : WireTime := ⟨(t.micros % 86400000000).toNat⟩

def unixSeconds (t : WireTimestamp) : Int := epochDay * 86400 + t.micros / 1000000

def micro (t : WireTimestamp) : Nat := (t.micros % 1000000).toNat

end WireTimestamp

namespace ServerType

/-- What is sent for the values of a type. -/
abbrev Wire : ServerType → Type
  | time => WireTime
  | timetz => WireTime × Calendar.Offset
  | timestamp => WireTimestamp
  | timestamptz => WireTimestamp
  | int2 => Int16
  | int4 => Int32
  | int8 => Int64
  | float4 => Float32
  | float8 => Float
  | numeric => Decimal
  | bool => Bool
  | text => String
  | bytea => Bytes
  | date => Calendar.Date

def send : (type : ServerType) → type.Carrier → type.Wire
  | time, t => .ofTime t
  | timetz, t => (.ofTime t.time, t.offset)
  | timestamp, t => .ofDateTime t
  | timestamptz, i => .ofDateTime i.utc
  | numeric, d => if d.isZero then .zero else d
  | int2, i => i
  | int4, i => i
  | int8, i => i
  | float4, x => x
  | float8, x => x
  | bool, b => b
  | text, s => s
  | bytea, b => b
  | date, d => d

end ServerType

/-- An argument in the form in which it is sent. -/
inductive WireArgument where
  | scalar (type : ServerType) (value : Option type.Wire)
  | array (type : ServerType) (elements : List (Option type.Wire))

def Argument.send : Argument → WireArgument
  | scalar type value => .scalar type (value.map type.send)
  | array type elements => .array type (elements.map (·.map type.send))

def WireArgument.typeName : WireArgument → String
  | scalar type _ => type.name
  | array type _ => type.name ++ "[]"

end SqlBinding.Postgres
