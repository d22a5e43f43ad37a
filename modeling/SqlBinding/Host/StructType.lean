import SqlBinding.Host.Conversion
import SqlBinding.Host.TypeSyntax

/-!
# Derived structs

Struct types whose record type and records are derived from a declaration. The kind of a field
follows from its type as it is written, the value from what that type is; the two are told apart
here, for a written type can be an alias. A struct type is what a declaration comes to once it is
accepted, and its instances hold data for each of its fields.
-/

namespace SqlBinding

/-- A type with a conversion into values of its own. -/
inductive PlainType where
  | int16 | int32 | int64
  | float32 | float64
  | decimal
  | bool
  | text
  | bytes | blobs
  | date | time | dateTime | instant
  | civilDate | timeOfDay | civil | utc
  | byteChannel | charChannel
  | array | record
  | value

abbrev PlainType.Data : PlainType → Type
  | .int16 => Int16
  | .int32 => Int32
  | .int64 => Int64
  | .float32 => Float32
  | .float64 => Float
  | .decimal => Decimal
  | .bool => Bool
  | .text => String
  | .bytes => Bytes
  | .blobs => List Bytes
  | .date => Calendar.Date
  | .time => Calendar.Time
  | .dateTime => Calendar.DateTime
  | .instant => Calendar.Instant
  | .civilDate => CivilDate
  | .timeOfDay => TimeOfDay
  | .civil => CivilDateTime
  | .utc => UtcInstant
  | .byteChannel => ByteChannel
  | .charChannel => CharChannel
  | .array => ArrayValue
  | .record => Record
  | .value => Value

def PlainType.toValue : (type : PlainType) → type.Data → Value
  | .int16 => .ofInt16
  | .int32 => .int
  | .int64 => .long
  | .float32 => .float
  | .float64 => .double
  | .decimal => .decimal
  | .bool => .boolean
  | .text => .text
  | .bytes => .bytes
  | .blobs => .ofBlobs
  | .date => .ofDate
  | .time => .ofTime
  | .dateTime => .ofDateTime
  | .instant => .ofInstant
  | .civilDate => .date
  | .timeOfDay => .timeOfDay
  | .civil => .civil
  | .utc => .utc
  | .byteChannel => .byteStream
  | .charChannel => .charStream
  | .array => .array
  | .record => .record
  | .value => id

mutual

/-- What a field holds: data under the kind that its written type shows, or a struct. -/
inductive FieldType where
  | plain (kind : PlainKind) (type : PlainType)
  | struct (type : StructType)

/-- A struct type: the name it has as a record type and its fields. -/
structure StructType where
  typeName : String
  fields : List StructField

/-- A field of a struct, which may be absent from an instance if it is optional. -/
structure StructField where
  name : String
  type : FieldType
  optional : Bool := false

end

/-- What a type in a declaration is, whatever name it goes by. -/
inductive DataType where
  | plain (type : PlainType)
  | struct (type : StructType)

/-- A field of a declaration: its type as it is written, and what that is, which is some data or
an option of it. -/
structure FieldDeclaration where
  name : String
  written : TypeSyntax
  data : DataType
  optional : Bool := false

/-- A declaration of a struct, with a type name that may be given apart. -/
structure StructDeclaration where
  name : String
  typeName? : Option String := none
  fields : List FieldDeclaration
  distinct : (fields.map (·.name)).Nodup

/-- What is read off the syntax of a field. -/
structure SchemaField where
  field : FieldDeclaration
  kind : WrittenKind
  nullable : Bool

/-- What is read off the syntax of a declaration. -/
structure Schema where
  typeName : String
  fields : List SchemaField

/-- The type whose kind counts: what stands inside an option, or else the whole type. -/
def FieldDeclaration.inner (f : FieldDeclaration) : TypeSyntax :=
  f.written.optionInner?.getD f.written

def FieldDeclaration.nullable (f : FieldDeclaration) : Bool := f.written.optionInner?.isSome

def FieldDeclaration.schema (f : FieldDeclaration) : Except DeriveError SchemaField :=
  return { field := f, kind := ← f.inner.kind, nullable := f.nullable }

def StructDeclaration.schema (d : StructDeclaration) : Except DeriveError Schema := do
  let fields ← d.fields.mapM (·.schema)
  return { typeName := d.typeName?.getD d.name, fields }

/-- The code for a field converts data on its own or as a struct, by its kind, and it takes an
option if the field is nullable. It must fit what the type of the field is. -/
def SchemaField.typed (s : SchemaField) : Except DeriveError StructField :=
  if s.nullable = s.field.optional then
    match s.kind, s.field.data with
    | .plain kind, .plain type => .ok ⟨s.field.name, .plain kind type, s.nullable⟩
    | .record _, .struct type => .ok ⟨s.field.name, .struct type, s.nullable⟩
    | _, _ => .error (.mismatched s.field.name)
  else .error (.mismatched s.field.name)

/-- The struct type of a declaration, unless that is refused. -/
def StructDeclaration.derive (d : StructDeclaration) : Except DeriveError StructType := do
  let schema ← d.schema
  let fields ← schema.fields.mapM (·.typed)
  return { typeName := schema.typeName, fields }

mutual

def FieldType.kind : FieldType → FieldKind
  | .plain kind _ => kind.fieldKind
  | .struct type => .record type.recordType

def StructType.recordType : StructType → RecordType
  | ⟨typeName, fields⟩ => ⟨typeName, StructField.recordFields fields⟩

def StructField.recordFields : List StructField → List Field
  | [] => []
  | ⟨name, type, optional⟩ :: fields =>
    ⟨name, type.kind, optional⟩ :: StructField.recordFields fields

end

mutual

/-- What an instance holds for a field that is present. -/
inductive Datum : FieldType → Type
  | plain {kind : PlainKind} {type : PlainType} (v : type.Data) : Datum (.plain kind type)
  | struct {type : StructType} (v : Instance type.fields) : Datum (.struct type)

/-- The data of fields, in their order; only an optional field may be absent. -/
inductive Instance : List StructField → Type
  | nil : Instance []
  | present {field : StructField} {fields : List StructField} (v : Datum field.type)
      (rest : Instance fields) : Instance (field :: fields)
  | absent {field : StructField} {fields : List StructField} (h : field.optional = true)
      (rest : Instance fields) : Instance (field :: fields)

end

mutual

def Datum.toValue : {type : FieldType} → Datum type → Value
  | .plain _ type, .plain v => type.toValue v
  | .struct type, .struct v => .record (.ofList type.recordType v.entries)

/-- The entries of an instance, one for each field; an absent field is null. -/
def Instance.entries : {fields : List StructField} → Instance fields → List Entry
  | _, .nil => []
  | field :: _, .present v rest => ⟨field.name, some v.toValue⟩ :: rest.entries
  | field :: _, .absent _ rest => ⟨field.name, none⟩ :: rest.entries

end

def StructType.record (type : StructType) (v : Instance type.fields) : Record :=
  .ofList type.recordType v.entries

theorem Instance.map_name_entries {fields : List StructField} (v : Instance fields) :
    v.entries.map (·.name) = fields.map (·.name) := by
  induction fields with
  | nil => cases v; rfl
  | cons field fields ih => cases v <;> simp [Instance.entries, ih]

end SqlBinding
