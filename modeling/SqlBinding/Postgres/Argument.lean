import SqlBinding.Binding.Step
import SqlBinding.Calendar.Printer
import SqlBinding.Postgres.ServerType

/-!
# Arguments

The arguments of a query, made from native values: one value of a type of the server, or an array
of them. Streams are read to their ends. Times with an offset have no array type at the server, so
an array that holds one goes as an array of texts; timestamps always go as instants, or as the
date-times of these instants in UTC.
-/

namespace SqlBinding

def TimeValue.wall : TimeValue → Calendar.Time
  | .naive t => t
  | .withOffset t => t.time

/-- A time of day in text form, with its offset if it has one. -/
def TimeValue.text : TimeValue → String
  | .naive t => t.text
  | .withOffset t => t.text

/-- The instant of a timestamp; one without an offset is taken to be in UTC. -/
def TimestampValue.instant : TimestampValue → Calendar.Instant
  | .naive t => ⟨t⟩
  | .withOffset t => t.instant
  | .utc t => t

end SqlBinding

namespace SqlBinding.Postgres

/-- An argument of a query: a value or a null of a type, or an array of values and nulls. -/
inductive Argument where
  | scalar (type : ServerType) (value : Option type.Carrier)
  | array (type : ServerType) (elements : List (Option type.Carrier))

def Argument.typeName : Argument → String
  | scalar type _ => type.name
  | array type _ => type.name ++ "[]"

/-- Whether the name of an element type says that its elements have a time zone. -/
def isZoned (elementType : String) : Bool :=
  "WITH TIMEZONE".toList.isSuffixOf elementType.toList

def Argument.ofArray (a : NativeArray) : Outcome Argument :=
  match a.data with
  | .smallint vs => .ok (.array .int2 vs)
  | .integer vs => .ok (.array .int4 vs)
  | .bigint vs => .ok (.array .int8 vs)
  | .double vs => .ok (.array .float8 vs)
  | .decimal vs => .ok (.array .numeric vs)
  | .text vs => .ok (.array .text vs)
  | .boolean vs => .ok (.array .bool vs)
  | .binary vs => .ok (.array .bytea vs)
  | .date vs => .ok (.array .date vs)
  | .time vs =>
    if vs.any (·.any TimeValue.hasOffset) then .ok (.array .text (vs.map (·.map TimeValue.text)))
    else .ok (.array .time (vs.map (·.map TimeValue.wall)))
  | .timestamp vs =>
    if isZoned a.elementType then .ok (.array .timestamptz (vs.map (·.map TimestampValue.instant)))
    else .ok (.array .timestamp (vs.map (·.map fun t => t.instant.utc)))
  | .other _ => .refuse (.arrayArgument a.elementType)

def Argument.ofNative : NativeValue → Reading Argument
  | .null t => return .scalar (.ofNull t) none
  | .smallint i => return .scalar .int2 (some i)
  | .integer i => return .scalar .int4 (some i)
  | .bigint i => return .scalar .int8 (some i)
  | .float x => return .scalar .float4 (some x)
  | .double x => return .scalar .float8 (some x)
  | .decimal d => return .scalar .numeric (some d)
  | .boolean b => return .scalar .bool (some b)
  | .string s | .nstring s | .xml s => return .scalar .text (some s)
  | .bytes b | .rowId b => return .scalar .bytea (some b)
  | .binaryStream c => (.scalar .bytea <| some ·) <$> Reading.bytes .binaryParameter c
  | .characterStream c => (.scalar .text <| some ·) <$> Reading.chars .characterParameter c
  | .clob c => return .scalar .text (some c.content)
  | .date d => return .scalar .date (some d)
  | .time t => return .scalar .time (some t)
  | .timeWithTimezone t => return .scalar .timetz (some t)
  | .timestamp t => return .scalar .timestamp (some t)
  | .timestampWithTimezone t => return .scalar .timestamptz (some t.instant)
  | .timestampUtc t => return .scalar .timestamptz (some t)
  | .array a => .ofOutcome (Argument.ofArray a)
  | .struct s => .ofOutcome (.refuse (.structArgument s.typeName))

end SqlBinding.Postgres
