import SqlBinding.Host.Value
import SqlBinding.Number.BinaryText

/-!
# Values in messages

The kind of a value and its literal form, as error messages name them. A scalar is written as it
is; a composite value is written in its display form. A channel shows that it is one, and neither
its handle nor its content.
-/

namespace SqlBinding

def Bytes.shown (bytes : Bytes) : String := Text.listed (bytes.map fun b => toString b.toNat)

def ByteChannel.shown (_ : ByteChannel) : String := Text.applied "ByteChannel" "PTR"

def CharChannel.shown (_ : CharChannel) : String := Text.applied "CharChannel" "PTR"

def floatText (layout : BinaryLayout) (x : Float) : String := (Binary.ofFloat x).text layout

def float32Text (layout : BinaryLayout) (x : Float32) : String := (Binary.ofFloat32 x).text layout

mutual

def Value.shown : Value → String
  | .int v => Text.applied "Int" (toString v.toInt)
  | .long v => Text.applied "Long" (toString v.toInt)
  | .float v => Text.applied "Float" (float32Text .display v)
  | .double v => Text.applied "Double" (floatText .display v)
  | .decimal v => Text.applied "Decimal" v.text
  | .boolean v => Text.applied "Boolean" (toString v)
  | .text v => Text.applied "Text" (Text.quoted v)
  | .bytes v => Text.applied "Bytes" (Bytes.shown v)
  | .byteStream c => Text.applied "ByteStream" c.shown
  | .charStream c => Text.applied "CharStream" c.shown
  | .date v => Text.applied "Date" v.shown
  | .timeOfDay v => Text.applied "TimeOfDay" v.shown
  | .civil v => Text.applied "Civil" v.shown
  | .utc v => Text.applied "Utc" v.shown
  | .array v => Text.applied "Array" v.shown
  | .record v => Text.applied "Record" v.shown
  | .xml v => Text.applied "Xml" (Text.quoted v)

def Value.shownOption : Option Value → String
  | none => Text.optional none
  | some v => Text.optional (some v.shown)

def ArrayValue.shown : ArrayValue → String
  | .int vs => Text.applied "Int" (Text.listed (vs.map fun v => toString v.toInt))
  | .float vs => Text.applied "Float" (Text.listed (vs.map (floatText .display)))
  | .decimal vs => Text.applied "Decimal" (Text.listed (vs.map Decimal.text))
  | .text vs => Text.applied "Text" (Text.listed (vs.map Text.quoted))
  | .boolean vs => Text.applied "Boolean" (Text.listed (vs.map fun v => toString v))
  | .binary vs => Text.applied "Binary" (Text.listed (vs.map Bytes.shown))
  | .nested vs => Text.applied "Nested" (Text.listed (ArrayValue.shownAll vs))
  | .typed elementType elements =>
    Text.labelled "Typed"
      [("element_type", elementType.shown),
        ("elements", Text.listed (TypedValue.shownAll elements))]

def ArrayValue.shownAll : List ArrayValue → List String
  | [] => []
  | a :: as => a.shown :: ArrayValue.shownAll as

def TypedValue.shown : TypedValue → String
  | ⟨type, value⟩ =>
    Text.labelled "TypedValue"
      [("sql_type", type.shown), ("value", Value.shownOption value)]

def TypedValue.shownAll : List TypedValue → List String
  | [] => []
  | t :: ts => t.shown :: TypedValue.shownAll ts

def Record.shown : Record → String
  | ⟨type, entries⟩ =>
    Text.labelled "StructuredRecord"
      [("record_type", type.shown), ("fields", Text.listed (Entry.shownAll entries))]

def Entry.shown : Entry → String
  | ⟨name, value⟩ => Text.paired (Text.quoted name) (Value.shownOption value)

def Entry.shownAll : List Entry → List String
  | [] => []
  | e :: es => e.shown :: Entry.shownAll es

end

namespace Value

def kind : Value → String
  | .int _ => "int"
  | .long _ => "long"
  | .float _ => "float"
  | .double _ => "double"
  | .decimal _ => "decimal"
  | .boolean _ => "boolean"
  | .text _ => "string"
  | .bytes _ => "byte[]"
  | .byteStream _ => "byte channel"
  | .charStream _ => "character channel"
  | .date _ => "date"
  | .timeOfDay _ => "time of day"
  | .civil _ => "civil"
  | .utc _ => "utc"
  | .array _ => "array"
  | .record _ => "record"
  | .xml _ => "xml"

def literal : Value → String
  | .int v => toString v.toInt
  | .long v => toString v.toInt
  | .float v => float32Text .plain v
  | .double v => floatText .plain v
  | .decimal v => v.text
  | .boolean v => toString v
  | .text v | .xml v => v
  | .bytes v => Bytes.shown v
  | .byteStream c => c.shown
  | .charStream c => c.shown
  | .date v => v.text
  | .timeOfDay v => v.shown
  | .civil v => v.shown
  | .utc v => v.text
  | .array v => v.shown
  | .record v => v.type.name ++ Text.listed (Entry.shownAll v.entries)

end Value

end SqlBinding
