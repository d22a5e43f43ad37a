import SqlBinding.Host.Channel
import SqlBinding.Host.RecordType
import SqlBinding.Host.Temporal
import SqlBinding.Sql.NativeType
import SqlBinding.Sql.SqlType

/-!
# Host values

The values that a caller hands over: scalars, calendar records, streams, arrays and records of
values. A typed value says besides which SQL type it is meant to have; a parameter is a typed
value, a bare value, or nothing.
-/

namespace SqlBinding

mutual

/-- A value of the host program. -/
inductive Value where
  | int (v : Int32)
  | long (v : Int64)
  | float (v : Float32)
  | double (v : Float)
  | decimal (v : Decimal)
  | boolean (v : Bool)
  | text (v : String)
  | bytes (v : Bytes)
  | byteStream (c : ByteChannel)
  | charStream (c : CharChannel)
  | date (v : CivilDate)
  | timeOfDay (v : TimeOfDay)
  | civil (v : CivilDateTime)
  | utc (v : UtcInstant)
  | array (v : ArrayValue)
  | record (v : Record)
  | xml (v : String)

/-- An array of host values: of one plain kind, of byte arrays, of arrays, or of values that are
tagged with a common element type. -/
inductive ArrayValue where
  | int (vs : List Int64)
  | float (vs : List Float)
  | decimal (vs : List Decimal)
  | text (vs : List String)
  | boolean (vs : List Bool)
  | binary (vs : List Bytes)
  | nested (vs : List ArrayValue)
  | typed (elementType : SqlType) (elements : List TypedValue)

/-- A value with the SQL type it is meant to have, or a null of that type. -/
structure TypedValue where
  type : SqlType
  value : Option Value

/-- Values by field name, tagged with a record type. -/
structure Record where
  type : RecordType
  entries : List Entry

/-- The value of a record under one name, which may be null. -/
structure Entry where
  name : String
  value : Option Value

end

/-- One positional parameter of a statement. -/
inductive Parameter where
  | null
  | raw (value : Value)
  | typed (value : TypedValue)

def ArrayValue.length : ArrayValue → Nat
  | .int vs => vs.length
  | .float vs => vs.length
  | .decimal vs => vs.length
  | .text vs => vs.length
  | .boolean vs => vs.length
  | .binary vs => vs.length
  | .nested vs => vs.length
  | .typed _ elements => elements.length

namespace Record

/-- Puts a value under a name: in place of the one that stands there, or at the end. -/
def putEntry (name : String) (value : Option Value) : List Entry → List Entry
  | [] => [⟨name, value⟩]
  | e :: es => if e.name = name then ⟨name, value⟩ :: es else e :: putEntry name value es

def empty (type : RecordType) : Record := ⟨type, []⟩

def set (r : Record) (name : String) (value : Option Value) : Record :=
  { r with entries := putEntry name value r.entries }

/-- The record of a type with the given values put under their names one after the other. -/
def ofList (type : RecordType) (entries : List Entry) : Record :=
  entries.foldl (fun r e => r.set e.name e.value) (empty type)

/-- The value under a name, unless there is none or it is null. -/
def get? (r : Record) (name : String) : Option Value :=
  (r.entries.find? (·.name == name)).bind (·.value)

@[simp] theorem type_set (r : Record) (name : String) (value : Option Value) :
    (r.set name value).type = r.type := rfl

theorem ofList_concat (type : RecordType) (entries : List Entry) (e : Entry) :
    ofList type (entries ++ [e]) = (ofList type entries).set e.name e.value := by
  rw [ofList, List.foldl_append]
  rfl

@[simp] theorem get?_set_self (r : Record) (name : String) (value : Option Value) :
    (r.set name value).get? name = value := by
  simp only [get?, set]
  induction r.entries with
  | nil => simp [putEntry]
  | cons e es ih => by_cases h : e.name = name <;> simp_all [putEntry]

end Record

namespace SqlType

/-- The native type of a type of the vocabulary. A LOB type that is given a stream widens to the
long variant; a custom type has none here. -/
def native? (t : SqlType) (value : Option Value) : Option NativeType :=
  match t with
  | .varchar | .text => some .varchar
  | .char => some .char
  | .nchar => some .nchar
  | .nvarchar => some .nvarchar
  | .bit => some .bit
  | .boolean => some .boolean
  | .integer => some .integer
  | .bigint => some .bigint
  | .smallint => some .smallint
  | .float => some .float
  | .real => some .real
  | .double => some .double
  | .numeric => some .numeric
  | .decimal => some .decimal
  | .binary => some .binary
  | .varbinary => some .varbinary
  | .blob =>
    match value with
    | some (.byteStream _) => some .longVarbinary
    | _ => some .varbinary
  | .clob | .nclob =>
    match value with
    | some (.charStream _) => some .longVarchar
    | _ => some .clob
  | .date => some .date
  | .time => some .time
  | .timeWithTimezone => some .timeWithTimezone
  | .timestamp | .datetime => some .timestamp
  | .timestampWithTimezone => some .timestampWithTimezone
  | .array => some .array
  | .ref => some .ref
  | .struct => some .struct
  | .row => some .rowId
  | .custom _ => none

theorem native?_eq_none_iff {t : SqlType} {value : Option Value} :
    t.native? value = none ↔ t.isCustom = true := by
  cases t <;> simp only [native?, isCustom, reduceCtorEq]
  all_goals split <;> simp

end SqlType

end SqlBinding
