import SqlBinding.Native.Value
import SqlBinding.Sql.SqlType

/-!
# Types of the server

The types in which a PostgreSQL server takes arguments, and the SQL types of its columns by the
names of their types.
-/

namespace SqlBinding.Postgres

/-- A type in which an argument, or every element of an array argument, is given to the server. -/
inductive ServerType where
  | int2 | int4 | int8
  | float4 | float8
  | numeric
  | bool
  | text
  | bytea
  | date | time | timetz | timestamp | timestamptz
deriving DecidableEq, Repr

namespace ServerType

def name : ServerType → String
  | int2 => "INT2"
  | int4 => "INT4"
  | int8 => "INT8"
  | float4 => "FLOAT4"
  | float8 => "FLOAT8"
  | numeric => "NUMERIC"
  | bool => "BOOL"
  | text => "TEXT"
  | bytea => "BYTEA"
  | date => "DATE"
  | time => "TIME"
  | timetz => "TIMETZ"
  | timestamp => "TIMESTAMP"
  | timestamptz => "TIMESTAMPTZ"

/-- The values that are given in a type. -/
abbrev Carrier : ServerType → Type
  | int2 => Int16
  | int4 => Int32
  | int8 => Int64
  | float4 => Float32
  | float8 => Float
  | numeric => Decimal
  | bool => Bool
  | text => String
  | bytea => Bytes
  | date => Calendar.Date
  | time => Calendar.Time
  | timetz => Calendar.OffsetTime
  | timestamp => Calendar.DateTime
  | timestamptz => Calendar.Instant

/-- The type in which a null of a native type is given. What has no type of its own goes as text. -/
def ofNull : NativeType → ServerType
  | .smallint => int2
  | .integer => int4
  | .bigint => int8
  | .float | .real => float4
  | .double => float8
  | .numeric | .decimal => numeric
  | .bit | .boolean => bool
  | .binary | .varbinary | .longVarbinary | .rowId => bytea
  | .date => date
  | .time => time
  | .timeWithTimezone => timetz
  | .timestamp => timestamp
  | .timestampWithTimezone => timestamptz
  | _ => text

end ServerType

/-- The name under which a column of a type is reported: blank-padded characters go by the name
CHAR, every other type by its own. -/
def reportedName (typeName : String) : String :=
  match typeName with
  | "BPCHAR" => "CHAR"
  | "BPCHAR[]" => "CHAR[]"
  | other => other

def sqlTypeOf (typeName : String) : SqlType :=
  match typeName with
  | "INT2" => .smallint
  | "INT4" => .integer
  | "INT8" => .bigint
  | "FLOAT4" => .real
  | "FLOAT8" => .double
  | "NUMERIC" => .numeric
  | "BOOL" => .boolean
  | "TEXT" => .text
  | "VARCHAR" | "NAME" => .varchar
  | "BPCHAR" => .char
  | "BYTEA" => .varbinary
  | "DATE" => .date
  | "TIME" => .time
  | "TIMETZ" => .timeWithTimezone
  | "TIMESTAMP" => .timestamp
  | "TIMESTAMPTZ" => .timestampWithTimezone
  | other => .custom other

end SqlBinding.Postgres
