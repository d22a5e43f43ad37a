import SqlBinding.Text.Display

/-!
# Native types

The type codes by which drivers know the value bound to a parameter. A converter for custom types
may bring codes of its own.
-/

namespace SqlBinding

/-- The driver's type of a bound value. -/
inductive NativeType where
  | null
  | varchar | char | nchar | nvarchar | longVarchar
  | bit | boolean
  | integer | bigint | smallint
  | float | real | double
  | numeric | decimal
  | binary | varbinary | longVarbinary
  | clob | nclob
  | date | time | timeWithTimezone | timestamp | timestampWithTimezone
  | array | ref | struct | rowId | sqlXml
  | other (code : Int)
deriving DecidableEq, Repr

namespace NativeType

/-- The code of a native type in the numbering that most drivers share. -/
def code : NativeType → Int
  | null => 0
  | varchar => 12
  | char => 1
  | nchar => -15
  | nvarchar => -9
  | longVarchar => -1
  | bit => -7
  | boolean => 16
  | integer => 4
  | bigint => -5
  | smallint => 5
  | float => 6
  | real => 7
  | double => 8
  | numeric => 2
  | decimal => 3
  | binary => -2
  | varbinary => -3
  | longVarbinary => -4
  | clob => 2005
  | nclob => 2011
  | date => 91
  | time => 92
  | timeWithTimezone => 2013
  | timestamp => 93
  | timestampWithTimezone => 2014
  | array => 2003
  | ref => 2006
  | struct => 2002
  | rowId => -8
  | sqlXml => 2009
  | other code => code

def shown : NativeType → String
  | null => "Null"
  | varchar => "Varchar"
  | char => "Char"
  | nchar => "NChar"
  | nvarchar => "NVarchar"
  | longVarchar => "LongVarchar"
  | bit => "Bit"
  | boolean => "Boolean"
  | integer => "Integer"
  | bigint => "BigInt"
  | smallint => "SmallInt"
  | float => "Float"
  | real => "Real"
  | double => "Double"
  | numeric => "Numeric"
  | decimal => "Decimal"
  | binary => "Binary"
  | varbinary => "VarBinary"
  | longVarbinary => "LongVarBinary"
  | clob => "Clob"
  | nclob => "NClob"
  | date => "Date"
  | time => "Time"
  | timeWithTimezone => "TimeWithTimezone"
  | timestamp => "Timestamp"
  | timestampWithTimezone => "TimestampWithTimezone"
  | array => "Array"
  | ref => "Ref"
  | struct => "Struct"
  | rowId => "RowId"
  | sqlXml => "SqlXml"
  | other code => Text.applied "Other" (toString code)

def standard : List NativeType :=
  [null, varchar, char, nchar, nvarchar, longVarchar, bit, boolean, integer, bigint, smallint,
    float, real, double, numeric, decimal, binary, varbinary, longVarbinary, clob, nclob, date,
    time, timeWithTimezone, timestamp, timestampWithTimezone, array, ref, struct, rowId, sqlXml]

end NativeType

end SqlBinding
