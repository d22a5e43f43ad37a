import SqlBinding.Result.RowStream

/-!
# Results of a procedure call

A cursor over the results of a callable statement. Each advance opens the rows of the next result
set, or notes the summary once none is left. An advance that fails changes nothing that the caller
sees. The statement is released once, at the first close.
-/

namespace SqlBinding

/-- Where a cursor stands. -/
inductive CursorState where
  | idle | resultAvailable | executionSummary | closed
deriving DecidableEq, Repr

def CursorState.name : CursorState → String
  | idle => "Idle"
  | resultAvailable => "ResultAvailable"
  | executionSummary => "ExecutionSummary"
  | closed => "Closed"

/-- A procedure call with its statement, the shapes declared for its result sets and the number of
those already used. -/
structure ProcedureCall (τ ρ : Type) where
  statement : τ
  released : Bool := false
  shapes : List RecordType
  shapeIndex : Nat := 0
  rows : Option (RowStream ρ) := none
  summary : Option ExecutionSummary := none
  state : CursorState := .idle

namespace ProcedureCall

variable {τ ρ : Type}

/-- The shape for the next result set and the number of shapes used then. Declared shapes are used
in their order, one for each result set; without any the columns tell the shape. -/
def nextShape (shapes : List RecordType) (index : Nat) (columns : List Column) :
    Except Error (RecordType × Nat) :=
  if shapes.isEmpty then .ok (inferShape columns, index)
  else
    match shapes[index]? with
    | some shape => .ok (shape, index + 1)
    | none => .error (.refused .shapeCount)

/-- An error of an advance: the application's own checks say that it was one. -/
def advanceError : Error → Error
  | .refused why => .refused (.advancing why)
  | e => e

variable [ResultSet ρ] [CallableStatement τ ρ]

def openRows (c : ProcedureCall τ ρ) : Except Error Bool × ProcedureCall τ ρ :=
  match CallableStatement.resultSet c.statement with
  | (.error e, statement) => (.error (.database .nextResult e), { c with statement })
  | (.ok rows, statement) =>
    let c := { c with statement }
    match nextShape c.shapes c.shapeIndex (ResultSet.columns rows) with
    | .error e => (.error (advanceError e), c)
    | .ok (shape, shapeIndex) =>
      let c := { c with shapeIndex }
      match RowStream.start shape rows with
      | .error e => (.error (advanceError e), c)
      | .ok rows =>
        (.ok true, { c with rows := some rows, summary := none, state := .resultAvailable })

/-- Notes the summary of a statement that has no result set left. -/
def finish (c : ProcedureCall τ ρ) : Except Error Bool × ProcedureCall τ ρ :=
  match CallableStatement.executionSummary c.statement with
  | (.error e, statement) => (.error (.database .nextResult e), { c with statement })
  | (.ok summary, statement) =>
    (.ok false,
      { c with statement, rows := none, summary := some summary, state := .executionSummary })

/-- Moves to the next result: true if its rows can be read now, false if the summary was noted. -/
def next (c : ProcedureCall τ ρ) : Except Error Bool × ProcedureCall τ ρ :=
  if c.released then (.error (advanceError (.refused .resultClosed)), c)
  else
    match CallableStatement.nextResult c.statement with
    | (.error e, statement) => (.error (.database .nextResult e), { c with statement })
    | (.ok true, statement) => openRows { c with statement }
    | (.ok false, statement) => finish { c with statement }

/-- The next record of the current rows, if there are any. -/
def nextRow (c : ProcedureCall τ ρ) : Option (Option (Except Error Record)) × ProcedureCall τ ρ :=
  match c.rows with
  | none => (none, c)
  | some rows =>
    let (item, rows) := rows.next
    (some item, { c with rows := some rows })

def takeRows (c : ProcedureCall τ ρ) : Option (RowStream ρ) × ProcedureCall τ ρ :=
  (c.rows, { c with rows := none })

/-- Releases the statement; once it is released, nothing more happens. -/
def close (c : ProcedureCall τ ρ) : Except Error Unit × ProcedureCall τ ρ :=
  let c := { c with rows := none, state := .closed }
  if c.released then (.ok (), c)
  else
    let (answer, statement) := CallableStatement.close c.statement
    (answer.mapError (.database .closeResult), { c with statement, released := true })

/-- Gives a call up: the statement is released if it was not, and a failure of that is ignored. -/
def drop (c : ProcedureCall τ ρ) : ProcedureCall τ ρ := c.close.2

end ProcedureCall

end SqlBinding
