import SqlBinding.Driver.Basic
import SqlBinding.Host.Conversion
import SqlBinding.Postgres.ServerType

/-!
# Cells of a row

The cells that a server sends, each with the name and the type of its column, and the host values
they are read as. Types without a format of their own are read as text.
-/

namespace SqlBinding.Postgres

/-- How the cells of a column are sent. -/
inductive CellFormat where
  | int2 | int4 | int8 | float4 | float8 | numeric | bool | bytea | date | time | timestamp
  | timestamptz | text
deriving DecidableEq, Repr

namespace CellFormat

def ofTypeName (typeName : String) : CellFormat :=
  match typeName with
  | "INT2" => int2
  | "INT4" => int4
  | "INT8" => int8
  | "FLOAT4" => float4
  | "FLOAT8" => float8
  | "NUMERIC" => numeric
  | "BOOL" => bool
  | "BYTEA" => bytea
  | "DATE" => date
  | "TIME" => time
  | "TIMESTAMP" => timestamp
  | "TIMESTAMPTZ" => timestamptz
  | _ => text

/-- What a cell holds. A numeric cell may hold what is no number; text is bytes as they came. -/
abbrev Content : CellFormat → Type
  | int2 => Int16
  | int4 => Int32
  | int8 => Int64
  | float4 => Float32
  | float8 => Float
  | numeric => Option Decimal
  | bool => Bool
  | bytea => Bytes
  | date => Calendar.Date
  | time => Calendar.Time
  | timestamp => Calendar.DateTime
  | timestamptz => Calendar.Instant
  | text => Bytes

end CellFormat

/-- Why the content of a cell is no value. -/
inductive CellFault where
  | notNumber
  | notText (fault : Text.Utf8Fault)
deriving DecidableEq, Repr

def CellFault.text : CellFault → String
  | notNumber => "Decimal does not support NaN values"
  | notText fault => fault.message

/-- The host value of the content of a cell. A numeric zero has neither sign nor scale. -/
def CellFormat.read : (format : CellFormat) → format.Content → Except CellFault Value
  | int2, i => .ok (.ofInt16 i)
  | int4, i => .ok (.int i)
  | int8, i => .ok (.long i)
  | float4, x => .ok (.float x)
  | float8, x => .ok (.double x)
  | numeric, none => .error .notNumber
  | numeric, some d => .ok (.decimal (if d.isZero then .zero else d))
  | bool, b => .ok (.boolean b)
  | bytea, b => .ok (.bytes b)
  | date, d => .ok (.ofDate d)
  | time, t => .ok (.ofTime t)
  | timestamp, t => .ok (.ofDateTime t)
  | timestamptz, i => .ok (.ofInstant i)
  | text, bytes =>
    match Text.decodeUtf8 bytes with
    | .ok s => .ok (.text s)
    | .error fault => .error (.notText fault)

/-- A cell with the name of its column and the reported name of the column's type; nothing is
null. -/
structure Cell where
  column : String
  typeName : String
  content : Option (CellFormat.ofTypeName typeName).Content

namespace Cell

def toColumn (c : Cell) : Column where
  name := c.column
  type := sqlTypeOf c.typeName

def read (c : Cell) : Except CellFault (Option Value) :=
  match c.content with
  | none => .ok none
  | some content => some <$> (CellFormat.ofTypeName c.typeName).read content

end Cell

/-- The failure of a driver that cannot read the cell of a column, counted from zero. -/
def CellFault.error (index : Nat) (fault : CellFault) : DriverError where
  message := "error occurred while decoding column " ++ toString index ++ ": " ++ fault.text

/-- The host values of the cells from column `index` on, up to the first that cannot be read. -/
def readCells (index : Nat) : List Cell → Except DriverError Row
  | [] => .ok []
  | c :: cs => do
    let v ← c.read.mapError (CellFault.error index)
    return v :: (← readCells (index + 1) cs)

end SqlBinding.Postgres
