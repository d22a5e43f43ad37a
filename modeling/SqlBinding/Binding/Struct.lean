import SqlBinding.Binding.Array
import SqlBinding.Text.UpperCase

/-!
# Structs

The conversion of a record to a struct of its declared type. The whole record is planned first:
every declared field at every depth is converted, or the first that does not fit stops the
conversion. Only then does the connection make objects, inner ones before the ones that hold them.
-/

namespace SqlBinding

/-- An attribute that is converted and perhaps has to be made by the connection. -/
inductive Planned where
  | value (v : NativeValue)
  | array (a : NativeArray)
  | struct (typeName : String) (attributes : List Planned)

/-- The native type of a null field of a kind, if its kind is supported. -/
def FieldKind.nullType? : FieldKind → Option NativeType
  | .int => some .integer
  | .float => some .double
  | .decimal => some .decimal
  | .text => some .varchar
  | .boolean => some .boolean
  | .bytes => some .varbinary
  | .binaryArray => some .array
  | .record _ => some .struct
  | _ => none

def RecordType.structName (t : RecordType) : String := Text.upper t.name

def FieldKind.unsupported {α : Type} (kind : FieldKind) : Except Error α :=
  .error (.unsupported (.fieldKind kind))

/-- The outcome of a field whose value is not of its kind. -/
def Field.mismatch {α : Type} (name : String) (kind : FieldKind) (v : Value) : Except Error α :=
  .error (.invalidParameter v (.field kind name))

mutual

/-- Plans the declared fields of a record, in their order. -/
def planFields : List Field → Record → Except Error (List Planned)
  | [], _ => return []
  | ⟨name, kind, _⟩ :: fields, r => do
    let first ← planField name kind (r.get? name)
    return first :: (← planFields fields r)

/-- Plans one field with the value that a record has for it. -/
def planField (name : String) : FieldKind → Option Value → Except Error Planned
  | kind, none =>
    match kind.nullType? with
    | some t => return .value (.null t)
    | none => kind.unsupported
  | .int, some (.int i) => return .value (.integer i)
  | .int, some (.long i) => return .value (.bigint i)
  | .float, some (.float x) => return .value (.float x)
  | .float, some (.double x) => return .value (.double x)
  | .decimal, some (.decimal d) => return .value (.decimal d)
  | .text, some (.text s) => return .value (.string s)
  | .boolean, some (.boolean b) => return .value (.boolean b)
  | .bytes, some (.bytes b) => return .value (.bytes b)
  | .binaryArray, some (.array (.binary vs)) => return .array ⟨"BINARY", .binary (vs.map some)⟩
  | .record type, some (.record r) => planRecord type r
  | .int, some v => Field.mismatch name .int v
  | .float, some v => Field.mismatch name .float v
  | .decimal, some v => Field.mismatch name .decimal v
  | .text, some v => Field.mismatch name .text v
  | .boolean, some v => Field.mismatch name .boolean v
  | .bytes, some v => Field.mismatch name .bytes v
  | .binaryArray, some v => Field.mismatch name .binaryArray v
  | .record type, some v => Field.mismatch name (.record type) v
  | .date, some _ => FieldKind.unsupported .date
  | .time, some _ => FieldKind.unsupported .time
  | .timestamp, some _ => FieldKind.unsupported .timestamp
  | .array element, some _ => FieldKind.unsupported (.array element)
  | .other s, some _ => FieldKind.unsupported (.other s)

def planRecord : RecordType → Record → Except Error Planned
  | ⟨name, fields⟩, r => return .struct (Text.upper name) (← planFields fields r)

end

mutual

/-- Has the connection make an attribute, the objects inside it first. -/
def Planned.create {σ : Type} [Connection σ] : Planned → Binding σ NativeValue
  | .value v => return v
  | .array a => a.create
  | .struct typeName attributes => do
    let vs ← Planned.createAll attributes
    .struct <$> .ask (.createStruct typeName) (Connection.createStruct typeName vs)

def Planned.createAll {σ : Type} [Connection σ] : List Planned → Binding σ (List NativeValue)
  | [] => return []
  | p :: ps => do
    let v ← p.create
    return v :: (← Planned.createAll ps)

end

namespace Record

def plan (r : Record) : Outcome (List Planned) :=
  (planFields r.type.fields r).mapError .error

/-- The attributes of a record and the name of its struct type. The objects inside it are made, the
struct itself is not. -/
def attributes {σ : Type} [Connection σ] (r : Record) :
    Binding σ (List NativeValue × String) := do
  let plan ← .ofOutcome r.plan
  return (← Planned.createAll plan, r.type.structName)

def build {σ : Type} [Connection σ] (r : Record) : Binding σ NativeStruct := do
  let (vs, typeName) ← r.attributes
  .ask (.createStruct typeName) (Connection.createStruct typeName vs)

end Record

/-- A struct, made by the connection once every field is converted. -/
def bindStruct {σ : Type} [Connection σ] (type : SqlType) (v : Value) : Binding σ NativeValue :=
  match v with
  | .record r => .struct <$> r.build
  | _ => .ofOutcome (v.invalid type)

end SqlBinding
