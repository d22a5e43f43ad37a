import Mathlib.Data.List.Forall2
import SqlBinding.Host.SampleStructs
import SqlBinding.Proofs.Struct.ValueKinds

/-!
# Declarations of structs

What an accepted declaration comes to, field by field. The kind of a field is the one that the last
name of its written type shows, so its values are of that kind only if the type behind the name is
one that bears it. A declaration derives its struct type faithfully if that holds for all of its
fields, and for those of the structs inside it.
-/

namespace SqlBinding

/-- The kind that a type bears; a type whose values are of several kinds, or of none that a field
can show, bears none. -/
def PlainType.kind? : PlainType → Option PlainKind
  | .int16 | .int32 | .int64 => some .int
  | .float32 | .float64 => some .float
  | .decimal => some .decimal
  | .bool => some .boolean
  | .text => some .text
  | .bytes => some .bytes
  | .blobs => some .binaryArray
  | .date | .civilDate => some .date
  | .time | .timeOfDay => some .time
  | .dateTime | .instant | .civil | .utc => some .timestamp
  | .byteChannel | .charChannel | .array | .record | .value => none

theorem PlainType.suits {type : PlainType} {kind : PlainKind} (h : type.kind? = some kind)
    (v : type.Data) : (type.toValue v).Suits kind.fieldKind := by
  cases type with
  | date | civilDate =>
    cases h
    exact .date _
  | time | timeOfDay =>
    cases h
    exact .timeOfDay _
  | dateTime | civil =>
    cases h
    exact .civil _
  | instant | utc =>
    cases h
    exact .utc _
  | byteChannel | charChannel | array | record | value => cases h
  | _ =>
    cases h
    exact .plain rfl

mutual

/-- Data are of the kind that the field shows, and structs are well-formed. -/
inductive FieldType.WellFormed : FieldType → Prop
  | plain {kind : PlainKind} {type : PlainType} (h : type.kind? = some kind) :
      FieldType.WellFormed (.plain kind type)
  | struct {type : StructType} (h : StructType.WellFormed type) :
      FieldType.WellFormed (.struct type)

/-- The names of the fields of a struct type are distinct and the fields are well-formed. -/
inductive StructType.WellFormed : StructType → Prop
  | intro {type : StructType} (names : (type.fields.map (·.name)).Nodup)
      (inner : ∀ f ∈ type.fields, FieldType.WellFormed f.type) : StructType.WellFormed type

end

theorem StructType.WellFormed.nodup {type : StructType} (h : type.WellFormed) :
    (type.fields.map (·.name)).Nodup := by
  cases h with
  | intro names _ => exact names

theorem StructType.WellFormed.inside {type : StructType} (h : type.WellFormed) :
    ∀ f ∈ type.fields, f.type.WellFormed := by
  cases h with
  | intro _ inner => exact inner

/-- What an accepted field of a declaration comes to. -/
inductive FieldDeclaration.Becomes (f : FieldDeclaration) : StructField → Prop
  | plain {kind : PlainKind} {type : PlainType}
      (shown : f.inner.kind = .ok (.plain kind)) (data : f.data = .plain type) :
      f.Becomes ⟨f.name, .plain kind type, f.nullable⟩
  | struct {written : TypeSyntax} {type : StructType}
      (shown : f.inner.kind = .ok (.record written))
      (data : f.data = .struct type) :
      f.Becomes ⟨f.name, .struct type, f.nullable⟩

namespace FieldDeclaration

variable {f : FieldDeclaration} {g : StructField}

private theorem Becomes.name (h : f.Becomes g) : g.name = f.name := by
  cases h <;> rfl

private theorem Becomes.optional (h : f.Becomes g) : g.optional = f.nullable := by
  cases h <;> rfl

end FieldDeclaration

namespace StructDeclaration

variable {d : StructDeclaration} {type : StructType}

end StructDeclaration

end SqlBinding
