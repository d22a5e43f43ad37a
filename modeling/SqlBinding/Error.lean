import SqlBinding.Host.Literal

/-!
# Errors

What can go wrong, by cause: a value that its type does not take, a type that is not supported,
content that has no meaning, a driver that refuses, a stream that cannot be read. The wording of
each cause is here and nowhere else.
-/

namespace SqlBinding

/-- A failure that a database driver reports, with a five-character state if it has one. -/
structure DriverError where
  message : String
  sqlState : Option String := none
  code : Int := 0
deriving DecidableEq, Repr

/-- What a driver was asked to do when it failed. -/
inductive DriverAction where
  | bindParameter (index : Nat)
  | createClob (type : SqlType)
  | createArray (elementType : String)
  | createStruct (typeName : String)
  | nextResult
  | iterateRows
  | closeResult
  | executeCall
deriving DecidableEq

def DriverAction.text : DriverAction → String
  | .bindParameter index => "Error while binding parameter " ++ toString index ++ "."
  | .createClob type => "Error while creating " ++ type.name ++ "."
  | .createArray elementType => "Error while creating " ++ elementType ++ " array."
  | .createStruct typeName => "Error while creating struct " ++ typeName ++ "."
  | .nextResult => "Error when accessing the next query result."
  | .iterateRows => "Error when iterating the SQL result."
  | .closeResult => "Error while closing the procedure call result."
  | .executeCall => "Error while executing procedure call."

/-- Which stream was being read when its source failed. -/
inductive StreamUse where
  | arrayElement
  | binaryParameter
  | characterParameter
deriving DecidableEq

def StreamUse.text : StreamUse → String
  | .arrayElement => "Error while reading binary stream of array element."
  | .binaryParameter => "Error while reading binary stream parameter."
  | .characterParameter => "Error while reading character stream parameter."

/-- What a value was to be bound as when it did not fit. -/
inductive Target where
  | type (type : SqlType)
  | field (kind : FieldKind) (name : String)

def Target.text : Target → String
  | .type t => t.name
  | .field kind name => kind.name ++ " field `" ++ name ++ "`"

/-- What is not supported. -/
inductive Unsupported where
  | type (type : SqlType)
  | elementType (type : SqlType)
  | nestedArray
  | fieldKind (kind : FieldKind)

def Unsupported.text : Unsupported → String
  | .type t => t.name
  | .elementType t => t.name ++ " as an array element type"
  | .nestedArray => "nested array other than an array of byte arrays"
  | .fieldKind kind =>
    "unsupported data type of " ++ kind.name ++ " specified for struct parameter"

/-- Why content or use is refused although the types would do. -/
inductive Refusal where
  | second (second : Decimal)
  | zoneOffset (offset : ZoneOffset)
  | zoneOffsetRange (offset : ZoneOffset)
  | date (date : CivilDate)
  | time (hour minute : UInt32) (second nano : Nat)
  | civil (value : CivilDateTime)
  | utcFraction (fraction : Decimal)
  | utcSeconds (seconds : Int64)
  | dateText (text : String)
  | timeText (text : String)
  | timestampText (text : String)
  | bareParameter (value : Value)
  | typedArray (elementType : SqlType)
  | unboundParameter (index : Nat)
  | structArgument (typeName : String)
  | arrayArgument (elementType : String)
  | resultClosed
  | shapeCount
  | noField (column typeName : String)
  | unfitColumn (column : String) (type : SqlType) (field typeName : String)
  | nullField (field typeName : String)
  | advancing (cause : Refusal)

def Refusal.text : Refusal → String
  | .second s => "Invalid second value: " ++ s.text
  | .zoneOffset offset => "Invalid zone offset: " ++ offset.shown
  | .zoneOffsetRange offset =>
    "Zone offset not in valid range: -18:00 to +18:00, found " ++ offset.shown
  | .date d => "Invalid date value: " ++ d.text
  | .time h m s nano =>
    "Invalid time value: " ++ toString h ++ ":" ++ toString m ++ ":" ++ toString s ++ "." ++
      Text.zeroPadded 9 nano
  | .civil value => "Invalid civil value: " ++ value.shown
  | .utcFraction fraction => "Invalid UTC fraction: " ++ fraction.text
  | .utcSeconds seconds => "Invalid UTC value: " ++ toString seconds
  | .dateText t => "Invalid date string: '" ++ t ++ "'"
  | .timeText t => "Invalid time string: '" ++ t ++ "'"
  | .timestampText t => "Invalid timestamp string: '" ++ t ++ "'"
  | .bareParameter value =>
    "Unsupported parameter type: " ++ value.kind ++
      "; wrap the value in a typed value with an explicit SQL type"
  | .typedArray elementType =>
    "Typed " ++ elementType.name ++ " array passed where a primitive array is expected"
  | .unboundParameter index => "Parameter " ++ toString index ++ " was not bound."
  | .structArgument typeName =>
    "Structured parameter " ++ typeName ++ " is not supported by the PostgreSQL adapter"
  | .arrayArgument elementType =>
    "Array of " ++ elementType ++ " is not supported by the PostgreSQL adapter"
  | .resultClosed => "The procedure call result is already closed."
  | .shapeCount =>
    "The record description array count does not match with the returned result sets count."
  | .noField column typeName =>
    "No mapping field found for SQL table column '" ++ column ++ "' in the record type '" ++
      typeName ++ "'"
  | .unfitColumn column type field typeName =>
    "The SQL column '" ++ column ++ "' of type " ++ type.name ++
      " cannot be mapped to the field '" ++ field ++ "' of record type '" ++ typeName ++ "'"
  | .nullField field typeName =>
    "Null value returned for the non-nullable field '" ++ field ++ "' of record type '" ++
      typeName ++ "'"
  | .advancing cause => DriverAction.nextResult.text ++ " " ++ cause.text

/-- An error as callers see it. -/
inductive Error where
  | invalidParameter (value : Value) (target : Target)
  | invalidBit (type : SqlType) (value : Int64)
  | unsupported (what : Unsupported)
  | refused (why : Refusal)
  | database (action : DriverAction) (source : DriverError)
  | io (use : StreamUse) (message : String)

/-- Where an error comes from: the application's own checks, the driver, or a stream. -/
inductive ErrorKind where
  | application | database | io
deriving DecidableEq, Repr

def ErrorKind.name : ErrorKind → String
  | application => "Application"
  | database => "Database"
  | io => "Io"

namespace Error

def kind : Error → ErrorKind
  | .database _ _ => .database
  | .io _ _ => .io
  | _ => .application

def message : Error → String
  | .invalidParameter value target =>
    "Invalid parameter: " ++ value.kind ++ " value `" ++ value.literal ++
      "` is passed as value for SQL type: " ++ target.text
  | .invalidBit type value =>
    "Only 1 or 0 can be passed for " ++ type.name ++ " SQL Type, but found :" ++
      toString value.toInt
  | .unsupported what => "Unsupported SQL type: " ++ what.text
  | .refused why => why.text
  | .database action source => action.text ++ " " ++ source.message
  | .io use message => use.text ++ " " ++ message

end Error

/-- How a conversion stops without a value: with an error for the caller, or because a product of
decimals outgrows its 96 bits or checked arithmetic its 32, which ends the computation
altogether. -/
inductive Failure where
  | error (e : Error)
  | overflow

instance : Coe Error Failure := ⟨.error⟩

/-- A conversion step that needs nothing but its arguments. -/
abbrev Outcome := Except Failure

namespace Outcome

def fail {α : Type} (e : Error) : Outcome α := .error (.error e)

/-- The outcome of a conversion whose content is refused. -/
def refuse {α : Type} (why : Refusal) : Outcome α := fail (.refused why)

def orRefuse {α : Type} (why : Refusal) : Option α → Outcome α
  | some a => .ok a
  | none => refuse why

/-- The outcome of arithmetic; without a result the computation ends. -/
def orOverflow {α : Type} : Option α → Outcome α
  | some a => .ok a
  | none => .error .overflow

end Outcome

end SqlBinding
