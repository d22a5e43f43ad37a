import SqlBinding.Calendar.DateTime
import SqlBinding.Host.Channel
import SqlBinding.Native.Clob
import SqlBinding.Number.Decimal
import SqlBinding.Sql.NativeType

/-!
# Native values

What a driver gets for a parameter: one value of a native type. Arrays are vectors of one element
kind under the name of their element type, structs are lists of attributes under a type name.
-/

namespace SqlBinding

/-- A time of day, with an offset or without one. -/
inductive TimeValue where
  | naive (time : Calendar.Time)
  | withOffset (time : Calendar.OffsetTime)
deriving DecidableEq

def TimeValue.hasOffset : TimeValue → Bool
  | .naive _ => false
  | .withOffset _ => true

/-- A timestamp: local without an offset, local with one, or a UTC instant. -/
inductive TimestampValue where
  | naive (time : Calendar.DateTime)
  | withOffset (time : Calendar.OffsetDateTime)
  | utc (time : Calendar.Instant)
deriving DecidableEq

def TimestampValue.hasOffset : TimestampValue → Bool
  | .withOffset _ => true
  | _ => false

mutual

/-- The elements of a native array, all of one kind or null. -/
inductive ArrayData where
  | smallint (vs : List (Option Int16))
  | integer (vs : List (Option Int32))
  | bigint (vs : List (Option Int64))
  | double (vs : List (Option Float))
  | decimal (vs : List (Option Decimal))
  | text (vs : List (Option String))
  | boolean (vs : List (Option Bool))
  | binary (vs : List (Option Bytes))
  | date (vs : List (Option Calendar.Date))
  | time (vs : List (Option TimeValue))
  | timestamp (vs : List (Option TimestampValue))
  | other (vs : List (Option NativeValue))

/-- An array object of a driver. -/
structure NativeArray where
  elementType : String
  data : ArrayData

/-- A struct object of a driver. -/
structure NativeStruct where
  typeName : String
  attributes : List NativeValue

/-- One bound value. -/
inductive NativeValue where
  | null (type : NativeType)
  | smallint (v : Int16)
  | integer (v : Int32)
  | bigint (v : Int64)
  | float (v : Float32)
  | double (v : Float)
  | decimal (v : Decimal)
  | boolean (v : Bool)
  | string (v : String)
  | nstring (v : String)
  | bytes (v : Bytes)
  | binaryStream (c : ByteChannel)
  | characterStream (c : CharChannel)
  | clob (c : Clob)
  | date (v : Calendar.Date)
  | time (v : Calendar.Time)
  | timeWithTimezone (v : Calendar.OffsetTime)
  | timestamp (v : Calendar.DateTime)
  | timestampWithTimezone (v : Calendar.OffsetDateTime)
  | timestampUtc (v : Calendar.Instant)
  | array (v : NativeArray)
  | struct (v : NativeStruct)
  | rowId (v : Bytes)
  | xml (v : String)

end

def ArrayData.length : ArrayData → Nat
  | .smallint vs => vs.length
  | .integer vs => vs.length
  | .bigint vs => vs.length
  | .double vs => vs.length
  | .decimal vs => vs.length
  | .text vs => vs.length
  | .boolean vs => vs.length
  | .binary vs => vs.length
  | .date vs => vs.length
  | .time vs => vs.length
  | .timestamp vs => vs.length
  | .other vs => vs.length

namespace NativeValue

def isNull : NativeValue → Bool
  | .null _ => true
  | _ => false

def type : NativeValue → NativeType
  | .null type => type
  | .smallint _ => .smallint
  | .integer _ => .integer
  | .bigint _ => .bigint
  | .float _ => .float
  | .double _ => .double
  | .decimal _ => .decimal
  | .boolean _ => .boolean
  | .string _ => .varchar
  | .nstring _ => .nvarchar
  | .bytes _ => .varbinary
  | .binaryStream _ => .longVarbinary
  | .characterStream _ => .longVarchar
  | .clob c => if c.national then .nclob else .clob
  | .date _ => .date
  | .time _ => .time
  | .timeWithTimezone _ => .timeWithTimezone
  | .timestamp _ => .timestamp
  | .timestampUtc _ => .timestamp
  | .timestampWithTimezone _ => .timestampWithTimezone
  | .array _ => .array
  | .struct _ => .struct
  | .rowId _ => .rowId
  | .xml _ => .sqlXml

def ofTime : TimeValue → NativeValue
  | .naive t => .time t
  | .withOffset t => .timeWithTimezone t

def ofTimestamp : TimestampValue → NativeValue
  | .naive t => .timestamp t
  | .withOffset t => .timestampWithTimezone t
  | .utc t => .timestampUtc t

end NativeValue

end SqlBinding
