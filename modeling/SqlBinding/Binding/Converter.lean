import SqlBinding.Binding.Struct

/-!
# Converters

A converter says how the values of each category of SQL types are converted, and what to do with
types outside the vocabulary. The standard converter knows no custom type; others replace a category
or take custom types on.
-/

namespace SqlBinding

/-- The categories of SQL types that are converted alike. -/
inductive Category where
  | integer | float | decimal | boolean | text | binary | clob | date | time | timestamp | row
  | array | struct
deriving DecidableEq, Repr

def SqlType.category? : SqlType → Option Category
  | .integer | .bigint | .smallint => some .integer
  | .float | .real | .double => some .float
  | .numeric | .decimal => some .decimal
  | .bit | .boolean => some .boolean
  | .varchar | .char | .text | .nchar | .nvarchar => some .text
  | .binary | .varbinary | .blob => some .binary
  | .clob | .nclob => some .clob
  | .date => some .date
  | .time | .timeWithTimezone => some .time
  | .timestamp | .timestampWithTimezone | .datetime => some .timestamp
  | .array => some .array
  | .struct | .ref => some .struct
  | .row => some .row
  | .custom _ => none

def Category.bind {σ : Type} [Connection σ] (arith : Arithmetic) (custom : CustomArrays)
    (c : Category) (type : SqlType) (v : Value) : Binding σ NativeValue :=
  match c with
  | .integer => .ofOutcome (bindInteger type v)
  | .float => .ofOutcome (bindFloat type v)
  | .decimal => .ofOutcome (bindDecimal type v)
  | .boolean => .ofOutcome (bindBoolean type v)
  | .text => .ofOutcome (bindText type v)
  | .binary => .ofOutcome (bindBinary type v)
  | .clob => bindClob type v
  | .date => .ofOutcome (bindDate type v)
  | .time => .ofOutcome (bindTime arith type v)
  | .timestamp => .ofOutcome (bindTimestamp arith type v)
  | .row => .ofOutcome (bindRow type v)
  | .array => bindArray arith custom type v
  | .struct => bindStruct type v

/-- How values are converted. The conversion of a category is given the converter's own way with
arrays of custom elements. -/
structure Converter (σ : Type) where
  category : CustomArrays → Category → SqlType → Value → Binding σ NativeValue
  resolveCustom : String → Option NativeType
  custom : SqlType → Value → Binding σ NativeValue
  customArray : CustomArrays

namespace Converter

variable {σ : Type}

/-- The converter that knows the vocabulary and nothing else. -/
def standard [Connection σ] (arith : Arithmetic) : Converter σ where
  category := Category.bind arith
  resolveCustom := fun _ => none
  custom := fun type _ => .fail (.unsupported (.type type))
  customArray := fun type _ => .fail (.unsupported (.elementType type))

/-- The native type of a typed value; custom types are up to the converter. -/
def resolve (c : Converter σ) (t : TypedValue) : Outcome NativeType :=
  match (t.type.native? t.value).or (c.resolveCustom t.type.name) with
  | some native => .ok native
  | none => .fail (.unsupported (.type t.type))

/-- Converts a value that is not null by the category of its type. -/
def convertAs (c : Converter σ) (type : SqlType) (v : Value) : Binding σ NativeValue :=
  match type.category? with
  | some category => c.category c.customArray category type v
  | none => c.custom type v

end Converter

/-- The native type of a null that a driver takes for a given type: REAL nulls go as FLOAT. -/
def NativeType.ofNull : NativeType → NativeType
  | .real => .float
  | t => t

/-- A bare value with the native type that its kind implies. -/
def Value.bindBare (v : Value) : Outcome (NativeType × NativeValue) :=
  match v with
  | .text s => .ok (.varchar, .string s)
  | .int i => .ok (.bigint, .bigint i.toInt64)
  | .long i => .ok (.bigint, .bigint i)
  | .float x => .ok (.double, .double x.toFloat)
  | .double x => .ok (.double, .double x)
  | .decimal d => .ok (.numeric, .decimal d)
  | .boolean b => .ok (.boolean, .boolean b)
  | .bytes b => .ok (.varbinary, .bytes b)
  | .xml s => .ok (.sqlXml, .xml s)
  | _ => .refuse (.bareParameter v)

namespace Converter

variable {σ τ : Type} [PreparedStatement τ]

def convert (c : Converter σ) : Parameter → Binding σ (NativeType × NativeValue)
  | .null => return (.null, .null .null)
  | .raw v => .ofOutcome v.bindBare
  | .typed t => do
    let native ← .ofOutcome (c.resolve t)
    match t.value with
    | none => return (native, .null native.ofNull)
    | some v => return (native, ← c.convertAs t.type v)

/-- Converts a parameter and has the statement take it at a position. The statement is not touched
unless the conversion succeeds. -/
def bind (c : Converter σ) (index : Nat) (p : Parameter) : Step (World σ × τ) NativeType :=
  fun (w, statement) =>
    match c.convert p w with
    | (.error e, w) => (.error e, w, statement)
    | (.ok (native, v), w) =>
      match PreparedStatement.set index v statement with
      | (.ok (), statement) => (.ok native, w, statement)
      | (.error e, statement) =>
        (.error (.error (.database (.bindParameter index) e)), w, statement)

/-- Binds parameters at successive positions from `index` on, up to the first that fails. -/
def bindFrom (c : Converter σ) (index : Nat) :
    List Parameter → Step (World σ × τ) (List NativeType)
  | [] => return []
  | p :: ps => do
    let native ← c.bind index p
    return native :: (← c.bindFrom (index + 1) ps)

/-- Binds parameters at the positions from one on, up to the first that fails. -/
def bindAll (c : Converter σ) (ps : List Parameter) : Step (World σ × τ) (List NativeType) :=
  c.bindFrom 1 ps

end Converter

end SqlBinding
