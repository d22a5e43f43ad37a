import SqlBinding.Driver.Basic
import SqlBinding.Text.AsciiCase

/-!
# Row shapes

The record type that a result set is decoded to. Without a declared one the shape is taken from the
columns; a declared one has to offer a field of the right kind for every column.
-/

namespace SqlBinding

def inferredShapeName : String := "$default"

def SqlType.fieldKind : SqlType → FieldKind
  | .integer | .bigint | .smallint => .int
  | .float | .real | .double => .float
  | .numeric | .decimal => .decimal
  | .bit | .boolean => .boolean
  | .binary | .varbinary | .blob => .bytes
  | .date => .date
  | .time | .timeWithTimezone => .time
  | .timestamp | .timestampWithTimezone | .datetime => .timestamp
  | .custom name => .other name
  | _ => .text

/-- The shape of a result set as its columns tell it: a nullable field for each of them. -/
def inferShape (columns : List Column) : RecordType :=
  ⟨inferredShapeName, columns.map fun c => ⟨c.name, c.type.fieldKind, true⟩⟩

/-- Whether values of a type may stand in a field of a kind. -/
def FieldKind.takes (kind : FieldKind) (type : SqlType) : Bool :=
  match kind, type with
  | .other _, _ => true
  | .record _, .struct => true
  | .binaryArray, .array => true
  | .array _, .array => true
  | kind, type => type.fieldKind.same kind

/-- The place of the field for a column in a shape: the first field that bears the column's name up
to ASCII case. -/
def RecordType.place? (shape : RecordType) (c : Column) : Option (Fin shape.fields.length) :=
  shape.fields.findFinIdx? fun f => Text.sameName f.name c.name

/-- The place of the field for a column, which must exist and take the column's type. -/
def RecordType.place (shape : RecordType) (c : Column) :
    Except Error (Fin shape.fields.length) :=
  match shape.place? c with
  | none => .error (.refused (.noField c.name shape.name))
  | some i =>
    let f := shape.fields[i]
    if f.kind.takes c.type then .ok i
    else .error (.refused (.unfitColumn c.name c.type f.name shape.name))

theorem RecordType.place_of_some {shape : RecordType} {c : Column} {i : Fin shape.fields.length}
    (h : shape.place? c = some i) :
    shape.place c =
      if (shape.fields.get i).kind.takes c.type then .ok i
      else .error (.refused (.unfitColumn c.name c.type (shape.fields.get i).name shape.name)) := by
  rw [place, h]
  rfl

theorem RecordType.place_of_none {shape : RecordType} {c : Column} (h : shape.place? c = none) :
    shape.place c = .error (.refused (.noField c.name shape.name)) := by
  rw [place, h]

/-- The places for all columns, up to the first column without one. -/
def RecordType.places (shape : RecordType) :
    List Column → Except Error (List (Fin shape.fields.length))
  | [] => .ok []
  | c :: cs => do return (← shape.place c) :: (← shape.places cs)

end SqlBinding
