import SqlBinding.Binding.Temporal
import SqlBinding.Number.Decimal.OfBinary
import SqlBinding.Number.Decimal.Significant
import SqlBinding.Number.Decimal.ToFloat
import SqlBinding.Text.AsciiCase

/-!
# Scalars

The conversion of one value for each category of SQL types that takes scalars. A value outside the
kinds that its type accepts is an invalid parameter.
-/

namespace SqlBinding

/-- Significant digits of a 64-bit number that is widened to a decimal. -/
def wideDigits : Nat := 16

/-- Significant digits of a 32-bit number that is widened to a decimal. -/
def narrowDigits : Nat := 7

namespace Value

def invalid {α : Type} (type : SqlType) (v : Value) : Outcome α :=
  .fail (.invalidParameter v (.type type))

/-- The decimal of a numeric value. Integers are widened exactly and binary numbers with all their
digits, then both are rounded to the digits that their width warrants. -/
def toDecimal (type : SqlType) (v : Value) : Outcome Decimal :=
  let widened :=
    match v with
    | .decimal d => some d
    | .long i => (Decimal.ofInt64 i).significant? wideDigits
    | .double x => (Decimal.ofBinary? (.ofFloat x)).bind (·.significant? wideDigits)
    | .int i => (Decimal.ofInt64 i.toInt64).significant? narrowDigits
    | .float x => (Decimal.ofBinary? (.ofFloat32 x)).bind (·.significant? narrowDigits)
    | _ => none
  match widened with
  | some d => .ok d
  | none => v.invalid type

def toFloat (type : SqlType) (v : Value) : Outcome Float :=
  match v with
  | .int i => .ok i.toFloat
  | .long i => .ok i.toFloat
  | .float x => .ok x.toFloat
  | .double x => .ok x
  | .decimal d => .ok d.toFloat
  | _ => v.invalid type

def toInt64 (type : SqlType) (v : Value) : Outcome Int64 :=
  match v with
  | .int i => .ok i.toInt64
  | .long i => .ok i
  | _ => v.invalid type

/-- The truth value of a boolean, of a text (true if it says so, in any ASCII case) or of the
integers zero and one. -/
def toBool (type : SqlType) (v : Value) : Outcome Bool :=
  match v with
  | .boolean b => .ok b
  | .text s => .ok (Text.sameName s "true")
  | .int _ | .long _ => do
    let i ← v.toInt64 type
    if i = 0 then return false
    else if i = 1 then return true
    else .fail (.invalidBit type i)
  | _ => v.invalid type

def toText (type : SqlType) (v : Value) : Outcome String :=
  match v with
  | .text s => .ok s
  | _ => v.invalid type

def toDate (type : SqlType) (v : Value) : Outcome Calendar.Date :=
  match v with
  | .text s => resolveDateText s
  | .date d => d.resolve
  | .civil c => c.date.resolve
  | _ => v.invalid type

end Value

def bindInteger (type : SqlType) (v : Value) : Outcome NativeValue := do
  let i ← v.toInt64 type
  match type with
  | .smallint => return .smallint i.toInt16
  | .integer => return .integer i.toInt32
  | _ => return .bigint i

/-- A binary number: of 64 bits for DOUBLE, and for REAL if it came with 64 bits, otherwise of 32
bits. -/
def bindFloat (type : SqlType) (v : Value) : Outcome NativeValue := do
  let x ← v.toFloat type
  match type, v with
  | .double, _ => return .double x
  | .real, .double _ => return .double x
  | _, _ => return .float x.toFloat32

def bindDecimal (type : SqlType) (v : Value) : Outcome NativeValue := .decimal <$> v.toDecimal type

def bindBoolean (type : SqlType) (v : Value) : Outcome NativeValue := .boolean <$> v.toBool type

def bindText (type : SqlType) (v : Value) : Outcome NativeValue :=
  match type, v with
  | .nchar, .text s => .ok (.nstring s)
  | .nvarchar, .text s => .ok (.nstring s)
  | _, .text s => .ok (.string s)
  | _, _ => v.invalid type

def bindBinary (type : SqlType) (v : Value) : Outcome NativeValue :=
  match v with
  | .bytes b => .ok (.bytes b)
  | .byteStream c => .ok (.binaryStream c)
  | _ => v.invalid type

def bindDate (type : SqlType) (v : Value) : Outcome NativeValue := .date <$> v.toDate type

def bindTime (arith : Arithmetic) (type : SqlType) (v : Value) : Outcome NativeValue :=
  match v with
  | .text s => .ok (.string s)
  | .timeOfDay t => .ofTime <$> t.resolve arith
  | _ => v.invalid type

def bindTimestamp (arith : Arithmetic) (type : SqlType) (v : Value) : Outcome NativeValue :=
  match v with
  | .text s => .ok (.string s)
  | .utc u => (fun i => .ofTimestamp (.utc i)) <$> u.resolve
  | .civil c => .ofTimestamp <$> c.resolve arith
  | _ => v.invalid type

def bindRow (type : SqlType) (v : Value) : Outcome NativeValue :=
  match v with
  | .bytes b => .ok (.rowId b)
  | _ => v.invalid type

end SqlBinding
