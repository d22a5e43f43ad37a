import SqlBinding.Host.RecordType

/-!
# Types as they are written

The type of a struct field as its declaration writes it, and the kind that is read off it. Only the
last segment of the path counts, so a kind follows from the name that a type is given and not from
what the type is.
-/

namespace SqlBinding

mutual

/-- A type in a declaration: a path, or a form that has none, such as a reference or a tuple. -/
inductive TypeSyntax where
  | path (segments : List PathSegment)
  | other

/-- A name in a path with its arguments in angle brackets. -/
structure PathSegment where
  name : String
  arguments : List GenericArgument := []

/-- An argument in angle brackets: a type, or a lifetime, constant or binding. -/
inductive GenericArgument where
  | type (type : TypeSyntax)
  | other

end

/-- Why no record type is derived from a declaration. -/
inductive DeriveError where
  | unsupported (type : TypeSyntax)
  /-- The generated code does not fit the type that the field really has. -/
  | mismatched (field : String)

/-- A kind whose values are converted on their own. -/
inductive PlainKind where
  | int | float | decimal | text | boolean | bytes | binaryArray | date | time | timestamp

def PlainKind.fieldKind : PlainKind → FieldKind
  | .int => .int
  | .float => .float
  | .decimal => .decimal
  | .text => .text
  | .boolean => .boolean
  | .bytes => .bytes
  | .binaryArray => .binaryArray
  | .date => .date
  | .time => .time
  | .timestamp => .timestamp

/-- The kind of a field as its written type shows it. -/
inductive WrittenKind where
  | plain (kind : PlainKind)
  | record (type : TypeSyntax)

/-- The message for a declaration that is refused before any code is generated for it. -/
def DeriveError.message? : DeriveError → Option String
  | .unsupported _ => some "unsupported field type for SqlStruct"
  | .mismatched _ => none

def GenericArgument.type? : GenericArgument → Option TypeSyntax
  | .type t => some t
  | .other => none

/-- The first type among the arguments. -/
def PathSegment.typeArgument? (s : PathSegment) : Option TypeSyntax :=
  s.arguments.findSome? (·.type?)

namespace TypeSyntax

/-- A name without a path or arguments. -/
def named (name : String) : TypeSyntax := .path [{ name }]

def applied (name : String) (argument : TypeSyntax) : TypeSyntax :=
  .path [{ name, arguments := [.type argument] }]

def lastSegment? : TypeSyntax → Option PathSegment
  | .path segments => segments.getLast?
  | .other => none

/-- The argument of a type under a certain name. -/
def argumentOf? (name : String) (t : TypeSyntax) : Option TypeSyntax := do
  let segment ← t.lastSegment?
  if segment.name = name then segment.typeArgument? else none

def optionInner? (t : TypeSyntax) : Option TypeSyntax := t.argumentOf? "Option"

def isByteVec (t : TypeSyntax) : Bool :=
  ((t.argumentOf? "Vec").bind (·.lastSegment?)).any (·.name == "u8")

def kind (t : TypeSyntax) : Except DeriveError WrittenKind :=
  match t.lastSegment? with
  | none => .error (.unsupported t)
  | some segment =>
    match segment.name with
    | "i16" | "i32" | "i64" => .ok (.plain .int)
    | "f32" | "f64" => .ok (.plain .float)
    | "Decimal" => .ok (.plain .decimal)
    | "String" => .ok (.plain .text)
    | "bool" => .ok (.plain .boolean)
    | "NaiveDate" => .ok (.plain .date)
    | "NaiveTime" => .ok (.plain .time)
    | "NaiveDateTime" | "DateTime" => .ok (.plain .timestamp)
    | "Vec" =>
      if t.isByteVec then .ok (.plain .bytes)
      else if segment.typeArgument?.any (·.isByteVec) then .ok (.plain .binaryArray)
      else .error (.unsupported t)
    | "Option" | "HashMap" | "BTreeMap" | "Box" => .error (.unsupported t)
    | _ => .ok (.record t)

end TypeSyntax

end SqlBinding
