import SqlBinding.Text.Display

/-!
# Record types

The declared shape of a structured value or of a row: a name and ordered fields, each with a kind
and a mark for whether it may be null. Kinds nest through arrays and records.
-/

namespace SqlBinding

mutual

/-- The declared kind of a field. -/
inductive FieldKind where
  | int | float | decimal | text | boolean | bytes | binaryArray | date | time | timestamp
  | array (element : FieldKind)
  | record (type : RecordType)
  | other (name : String)

/-- A named, ordered list of fields. -/
structure RecordType where
  name : String
  fields : List Field

/-- A field of a record type. -/
structure Field where
  name : String
  kind : FieldKind
  nullable : Bool := false

end

/-- The field of a given name; the first one, if several bear it. -/
def RecordType.field? (t : RecordType) (name : String) : Option Field :=
  t.fields.find? (·.name == name)

def FieldKind.name : FieldKind → String
  | .int => "int"
  | .float => "float"
  | .decimal => "decimal"
  | .text => "string"
  | .boolean => "boolean"
  | .bytes => "byte[]"
  | .binaryArray => "byte[][]"
  | .date => "date"
  | .time => "time"
  | .timestamp => "timestamp"
  | .array element => element.name ++ "[]"
  | .record type => type.name
  | .other name => name

mutual

def FieldKind.shown : FieldKind → String
  | .int => "Int"
  | .float => "Float"
  | .decimal => "Decimal"
  | .text => "Text"
  | .boolean => "Boolean"
  | .bytes => "Bytes"
  | .binaryArray => "BinaryArray"
  | .date => "Date"
  | .time => "Time"
  | .timestamp => "Timestamp"
  | .array element => Text.applied "Array" element.shown
  | .record type => Text.applied "Record" type.shown
  | .other name => Text.applied "Other" (Text.quoted name)

def RecordType.shown : RecordType → String
  | ⟨name, fields⟩ =>
    Text.labelled "RecordType"
      [("name", Text.quoted name), ("fields", Text.listed (Field.shownAll fields))]

def Field.shown : Field → String
  | ⟨name, kind, nullable⟩ =>
    Text.labelled "FieldDef"
      [("name", Text.quoted name), ("kind", kind.shown), ("nullable", toString nullable)]

def Field.shownAll : List Field → List String
  | [] => []
  | field :: fields => field.shown :: Field.shownAll fields

end

mutual

def FieldKind.same : FieldKind → FieldKind → Bool
  | .int, .int | .float, .float | .decimal, .decimal | .text, .text | .boolean, .boolean
  | .bytes, .bytes | .binaryArray, .binaryArray | .date, .date | .time, .time
  | .timestamp, .timestamp => true
  | .array a, .array b => a.same b
  | .record s, .record t => s.same t
  | .other a, .other b => a == b
  | _, _ => false

def RecordType.same : RecordType → RecordType → Bool
  | ⟨a, fs⟩, ⟨b, gs⟩ => a == b && Field.sameAll fs gs

def Field.same : Field → Field → Bool
  | ⟨a, k, n⟩, ⟨b, l, m⟩ => a == b && k.same l && n == m

def Field.sameAll : List Field → List Field → Bool
  | [], [] => true
  | f :: fs, g :: gs => f.same g && Field.sameAll fs gs
  | _, _ => false

end

end SqlBinding
