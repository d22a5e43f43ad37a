import SqlBinding.Host.StructType

/-!
# Sample structs

Declarations of four structs that between them hold data of every type, absent fields and structs
within structs.
-/

namespace SqlBinding.SampleStructs

open TypeSyntax

/-- A numbered item with tags; its type name is given apart. -/
def taggedItem : StructDeclaration where
  name := "TaggedItem"
  typeName? := some "tagged_item"
  fields := [⟨"id", named "i32", .plain .int32, false⟩,
    ⟨"tags", applied "Vec" (applied "Vec" (named "u8")), .plain .blobs, false⟩]
  distinct := by decide

def shipment (item : StructType) : StructDeclaration where
  name := "Shipment"
  fields := [⟨"code", named "String", .plain .text, false⟩,
    ⟨"weight", applied "Option" (named "f64"), .plain .float64, true⟩,
    ⟨"item", named "TaggedItem", .struct item, false⟩]
  distinct := by simp

/-- A field for almost every type of data, under a name outside ASCII. -/
def everything (child : StructType) : StructDeclaration where
  name := "Everything"
  typeName? := some "Éverything"
  fields := [⟨"small", named "i16", .plain .int16, false⟩,
    ⟨"big", applied "Option" (named "i64"), .plain .int64, true⟩,
    ⟨"single", named "f32", .plain .float32, false⟩,
    ⟨"amount", applied "Option" (named "Decimal"), .plain .decimal, true⟩,
    ⟨"flag", named "bool", .plain .bool, false⟩,
    ⟨"raw", applied "Vec" (named "u8"), .plain .bytes, false⟩,
    ⟨"raws", applied "Option" (applied "Vec" (applied "Vec" (named "u8"))), .plain .blobs, true⟩,
    ⟨"child", applied "Option" (named "Shipment"), .struct child, true⟩]
  distinct := by simp

def temporal : StructDeclaration where
  name := "Temporal"
  fields := [⟨"day", named "NaiveDate", .plain .date, false⟩,
    ⟨"at", applied "Option" (named "NaiveTime"), .plain .time, true⟩,
    ⟨"local", named "NaiveDateTime", .plain .dateTime, false⟩,
    ⟨"instant", applied "Option" (applied "DateTime" (named "Utc")), .plain .instant, true⟩]
  distinct := by decide

/-- The struct type of a sample, with those of the samples inside it. -/
def derive (name : String) : Except DeriveError (Option StructType) := do
  let item ← taggedItem.derive
  let parcel ← (shipment item).derive
  match name with
  | "TaggedItem" => return item
  | "Shipment" => return parcel
  | "Everything" => return ← (everything parcel).derive
  | "Temporal" => return ← temporal.derive
  | _ => return none

end SqlBinding.SampleStructs
