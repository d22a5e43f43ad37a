import SqlBinding.Text.Display

/-!
# SQL types

The names by which a caller says what type a value is meant to have. Any name outside the
vocabulary is a custom type.
-/

namespace SqlBinding

/-- The type a value is meant to have in the database. -/
inductive SqlType where
  | varchar | char | text | nchar | nvarchar
  | bit | boolean
  | integer | bigint | smallint
  | float | real | double
  | numeric | decimal
  | binary | varbinary | blob
  | clob | nclob
  | date | time | timeWithTimezone | timestamp | timestampWithTimezone | datetime
  | array | ref | struct | row
  | custom (name : String)
deriving DecidableEq, Repr

namespace SqlType

def vocabulary : List SqlType :=
  [varchar, char, text, nchar, nvarchar, bit, boolean, integer, bigint, smallint, float, real,
    double, numeric, decimal, binary, varbinary, blob, clob, nclob, date, time, timeWithTimezone,
    timestamp, timestampWithTimezone, datetime, array, ref, struct, row]

def name : SqlType → String
  | varchar => "VARCHAR"
  | char => "CHAR"
  | text => "TEXT"
  | nchar => "NCHAR"
  | nvarchar => "NVARCHAR"
  | bit => "BIT"
  | boolean => "BOOLEAN"
  | integer => "INTEGER"
  | bigint => "BIGINT"
  | smallint => "SMALLINT"
  | float => "FLOAT"
  | real => "REAL"
  | double => "DOUBLE"
  | numeric => "NUMERIC"
  | decimal => "DECIMAL"
  | binary => "BINARY"
  | varbinary => "VARBINARY"
  | blob => "BLOB"
  | clob => "CLOB"
  | nclob => "NCLOB"
  | date => "DATE"
  | time => "TIME"
  | timeWithTimezone => "TIME WITH TIMEZONE"
  | timestamp => "TIMESTAMP"
  | timestampWithTimezone => "TIMESTAMP WITH TIMEZONE"
  | datetime => "DATETIME"
  | array => "ARRAY"
  | ref => "REF"
  | struct => "STRUCT"
  | row => "ROW"
  | custom name => name

/-- The type of a given name: the one of the vocabulary that bears it, or a custom type. -/
def ofName (name : String) : SqlType :=
  (vocabulary.find? (·.name == name)).getD (.custom name)

def isCustom : SqlType → Bool
  | custom _ => true
  | _ => false

def shown : SqlType → String
  | varchar => "Varchar"
  | char => "Char"
  | text => "Text"
  | nchar => "NChar"
  | nvarchar => "NVarchar"
  | bit => "Bit"
  | boolean => "Boolean"
  | integer => "Integer"
  | bigint => "BigInt"
  | smallint => "SmallInt"
  | float => "Float"
  | real => "Real"
  | double => "Double"
  | numeric => "Numeric"
  | decimal => "Decimal"
  | binary => "Binary"
  | varbinary => "VarBinary"
  | blob => "Blob"
  | clob => "Clob"
  | nclob => "NClob"
  | date => "Date"
  | time => "Time"
  | timeWithTimezone => "TimeWithTimezone"
  | timestamp => "Timestamp"
  | timestampWithTimezone => "TimestampWithTimezone"
  | datetime => "DateTime"
  | array => "Array"
  | ref => "Ref"
  | struct => "Struct"
  | row => "Row"
  | custom name => Text.applied "Custom" (Text.quoted name)

end SqlType

end SqlBinding
