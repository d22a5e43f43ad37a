import SqlBinding.Error
import SqlBinding.Native.Value

/-!
# Drivers

What the library needs of a database driver, as steps of state machines: a connection that makes
composite objects, a statement that takes values, a result set that gives rows, and a callable
statement that walks through its results. Nothing is assumed about their behaviour; any step may
fail, and a failing step may change the state too.
-/

namespace SqlBinding

/-- A column of a result set. -/
structure Column where
  name : String
  type : SqlType
  nullable : Bool := true
deriving DecidableEq

/-- The cells of a row, one for each column. -/
abbrev Row := List (Option Value)

/-- What a call has done once no result set is left. -/
structure ExecutionSummary where
  affectedRows : Nat := 0
  lastInsertId : Option Value := none

/-- A connection makes the composite objects that a statement can take. -/
class Connection (σ : Type) where
  createClob : Bool → σ → Except DriverError Clob × σ
  createArray : String → ArrayData → σ → Except DriverError NativeArray × σ
  createStruct : String → List NativeValue → σ → Except DriverError NativeStruct × σ

/-- A statement takes values by their positions, counted from one. -/
class PreparedStatement (τ : Type) where
  set : Nat → NativeValue → τ → Except DriverError Unit × τ

/-- A result set gives its rows one by one; no row marks the end. -/
class ResultSet (ρ : Type) where
  columns : ρ → List Column
  nextRow : ρ → Except DriverError (Option Row) × ρ

/-- A callable statement goes from result set to result set, and at last has a summary. -/
class CallableStatement (τ : Type) (ρ : outParam Type) where
  nextResult : τ → Except DriverError Bool × τ
  resultSet : τ → Except DriverError ρ × τ
  executionSummary : τ → Except DriverError ExecutionSummary × τ
  close : τ → Except DriverError Unit × τ

end SqlBinding
