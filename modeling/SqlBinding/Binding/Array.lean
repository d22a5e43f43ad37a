import SqlBinding.Binding.Scalar
import SqlBinding.Binding.Step

/-!
# Arrays

The conversion of an array value to a vector of native elements under the name of their type.
Arrays of plain values need no conversion; the elements of a typed array are converted one by one
to the array's element type, nulls staying where they are. A byte stream among the elements is read
to its end.
-/

namespace SqlBinding

/-- The conversion of arrays whose element type is custom. -/
abbrev CustomArrays := SqlType → List TypedValue → Reading NativeArray

namespace ArrayValue

def bindPlain : ArrayValue → Outcome NativeArray
  | .int vs => .ok ⟨"BIGINT", .bigint (vs.map some)⟩
  | .float vs => .ok ⟨"DOUBLE", .double (vs.map some)⟩
  | .decimal vs => .ok ⟨"DECIMAL", .decimal (vs.map some)⟩
  | .text vs => .ok ⟨"VARCHAR", .text (vs.map some)⟩
  | .boolean vs => .ok ⟨"BOOLEAN", .boolean (vs.map some)⟩
  | .binary vs => .ok ⟨"BINARY", .binary (vs.map some)⟩
  | .nested _ => .fail (.unsupported .nestedArray)
  | .typed elementType _ => .refuse (.typedArray elementType)

/-- Converts the elements that are not null, from the first to the last; the first that fails stops
the conversion. -/
def collect {α : Type} (convert : Value → Reading α) :
    List TypedValue → Reading (List (Option α))
  | [] => return []
  | ⟨_, none⟩ :: rest => return none :: (← collect convert rest)
  | ⟨_, some v⟩ :: rest => do
    let a ← convert v
    return some a :: (← collect convert rest)

def elementTime (arith : Arithmetic) (type : SqlType) (v : Value) : Outcome TimeValue :=
  match v with
  | .text s => .naive <$> resolveTimeText s
  | .timeOfDay t => t.resolve arith
  | _ => v.invalid type

def elementTimestamp (arith : Arithmetic) (type : SqlType) (v : Value) : Outcome TimestampValue :=
  match v with
  | .text s => .naive <$> resolveTimestampText s
  | .civil c => c.resolve arith
  | .utc u => .utc <$> u.resolve
  | _ => v.invalid type

/-- The bytes of an element; a stream is read to its end. -/
def elementBytes (type : SqlType) (v : Value) : Reading Bytes :=
  match v with
  | .bytes b => return b
  | .byteStream c => .bytes .arrayElement c
  | _ => .ofOutcome (v.invalid type)

/-- Elements that are converted without reading anything. -/
def collectPure {α : Type} (convert : Value → Outcome α) (elements : List TypedValue) :
    Reading (List (Option α)) :=
  collect (fun v => .ofOutcome (convert v)) elements

/-- An array of times of day, named with a time zone if its type is or if any element has an
offset. -/
def bindTimes (arith : Arithmetic) (type : SqlType) (elements : List TypedValue) :
    Reading NativeArray := do
  let vs ← collectPure (elementTime arith type) elements
  let zoned := type == .timeWithTimezone || vs.any (·.any TimeValue.hasOffset)
  return ⟨TemporalFamily.time.elementName zoned, .time vs⟩

/-- An array of timestamps, named with a time zone if its type is or if any element has an
offset. -/
def bindTimestamps (arith : Arithmetic) (type : SqlType) (elements : List TypedValue) :
    Reading NativeArray := do
  let vs ← collectPure (elementTimestamp arith type) elements
  let zoned := type == .timestampWithTimezone || vs.any (·.any TimestampValue.hasOffset)
  return ⟨TemporalFamily.timestamp.elementName zoned, .timestamp vs⟩

def bindTyped (arith : Arithmetic) (custom : CustomArrays) (type : SqlType)
    (elements : List TypedValue) : Reading NativeArray :=
  match type with
  | .smallint =>
    (⟨"SMALLINT", .smallint ·⟩) <$>
      collectPure (fun v => Int64.toInt16 <$> v.toInt64 type) elements
  | .integer =>
    (⟨"INT", .integer ·⟩) <$> collectPure (fun v => Int64.toInt32 <$> v.toInt64 type) elements
  | .bigint => (⟨"BIGINT", .bigint ·⟩) <$> collectPure (·.toInt64 type) elements
  | .decimal => (⟨"DECIMAL", .decimal ·⟩) <$> collectPure (·.toDecimal type) elements
  | .numeric => (⟨"NUMERIC", .decimal ·⟩) <$> collectPure (·.toDecimal type) elements
  | .real => (⟨"REAL", .double ·⟩) <$> collectPure (·.toFloat type) elements
  | .double => (⟨"DOUBLE", .double ·⟩) <$> collectPure (·.toFloat type) elements
  | .float => (⟨"FLOAT", .double ·⟩) <$> collectPure (·.toFloat type) elements
  | .char => (⟨"CHAR", .text ·⟩) <$> collectPure (·.toText type) elements
  | .varchar => (⟨"VARCHAR", .text ·⟩) <$> collectPure (·.toText type) elements
  | .nvarchar => (⟨"NVARCHAR", .text ·⟩) <$> collectPure (·.toText type) elements
  | .boolean => (⟨"BOOLEAN", .boolean ·⟩) <$> collectPure (·.toBool type) elements
  | .bit => (⟨"BIT", .boolean ·⟩) <$> collectPure (·.toBool type) elements
  | .date => (⟨"DATE", .date ·⟩) <$> collectPure (·.toDate type) elements
  | .time | .timeWithTimezone => bindTimes arith type elements
  | .timestamp | .datetime | .timestampWithTimezone => bindTimestamps arith type elements
  | .binary => (⟨"BINARY", .binary ·⟩) <$> collect (elementBytes type) elements
  | .varbinary => (⟨"VARBINARY", .binary ·⟩) <$> collect (elementBytes type) elements
  | .custom _ => custom type elements
  | _ => .fail (.unsupported (.elementType type))

def build (arith : Arithmetic) (custom : CustomArrays) (a : ArrayValue) : Reading NativeArray :=
  match a with
  | .typed type elements => bindTyped arith custom type elements
  | plain => .ofOutcome plain.bindPlain

end ArrayValue

def NativeArray.create {σ : Type} [Connection σ] (a : NativeArray) : Binding σ NativeValue :=
  .array <$> .ask (.createArray a.elementType) (Connection.createArray a.elementType a.data)

/-- An array, made by the connection once every element is converted. -/
def bindArray {σ : Type} [Connection σ] (arith : Arithmetic) (custom : CustomArrays)
    (type : SqlType) (v : Value) : Binding σ NativeValue :=
  match v with
  | .array a => do (← (a.build arith custom).lift).create
  | _ => .ofOutcome (v.invalid type)

/-- A character large object, made by the connection and written from its start, or a character
stream that is handed on unread. -/
def bindClob {σ : Type} [Connection σ] (type : SqlType) (v : Value) : Binding σ NativeValue :=
  match v with
  | .text s => do
    let clob ← .ask (.createClob type) (Connection.createClob (type == .nclob))
    return .clob (clob.write 1 s)
  | .charStream c => return .characterStream c
  | _ => .ofOutcome (v.invalid type)

end SqlBinding
