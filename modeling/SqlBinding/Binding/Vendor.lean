import SqlBinding.Binding.Converter

/-!
# A converter for vendor types

A converter that takes on two document types and knows a third one by name only: JSON documents go
as strings and XML documents as XML, both by their literal form. It also reads the text `Y` as true.
-/

namespace SqlBinding.Vendor

def resolve (name : String) : Option NativeType :=
  match name with
  | "JSON" => some (.other 1111)
  | "XMLTYPE" => some .sqlXml
  | "BROKEN" => some (.other (-1))
  | _ => none

def document {σ : Type} (type : SqlType) (v : Value) : Binding σ NativeValue :=
  match type.name with
  | "JSON" => return .string v.literal
  | "XMLTYPE" => return .xml v.literal
  | _ => .fail (.unsupported (.type type))

def documents : CustomArrays := fun type elements =>
  match type.name with
  | "JSON" => return ⟨"JSON", .other (elements.map fun e => e.value.map fun v => .string v.literal)⟩
  | _ => .fail (.unsupported (.elementType type))

/-- The standard conversions with the vendor's types and its word for true. -/
def converter {σ : Type} [Connection σ] (arith : Arithmetic) : Converter σ where
  category := fun custom c type v =>
    match c, v with
    | .boolean, .text "Y" => return .boolean true
    | c, v => c.bind arith custom type v
  resolveCustom := resolve
  custom := document
  customArray := documents

end SqlBinding.Vendor
