import SqlBinding.Driver.Basic

/-!
# Scripted driver

A callable statement that plays a script: each move to a next result takes the next event, and rows
may fail at a given place. It counts how often it was closed.
-/

namespace SqlBinding

/-- Rows of which one may fail: the request with that number, counted from zero, takes no row. -/
structure ScriptedRows where
  columns : List Column
  rows : List Row
  failure : Option (Nat × DriverError) := none
  asked : Nat := 0

/-- Gives the next row unless this request is the one that fails. -/
def ScriptedRows.next (s : ScriptedRows) : Except DriverError (Option Row) × ScriptedRows :=
  let asked := s.asked + 1
  let pass : Except DriverError (Option Row) × ScriptedRows :=
    match s.rows with
    | [] => (.ok none, { s with asked })
    | row :: rows => (.ok (some row), { s with rows, asked })
  match s.failure with
  | some (n, e) => if n = s.asked then (.error e, { s with asked }) else pass
  | none => pass

instance : ResultSet ScriptedRows where
  columns s := s.columns
  nextRow := ScriptedRows.next

/-- What a move to the next result meets: a failure of the move, a result set (or a failure to hand
it out), or the end with a summary (or a failure to give it). -/
inductive ScriptEvent where
  | fails (e : DriverError)
  | set (answer : Except DriverError ScriptedRows)
  | finish (answer : Except DriverError ExecutionSummary)

/-- A statement that plays events. With no event left it is at its end, with the last summary. -/
structure ScriptedCallable where
  events : List ScriptEvent
  current : Option (Except DriverError ScriptedRows) := none
  summary : Except DriverError ExecutionSummary := .ok {}
  closeError : Option DriverError := none
  closes : Nat := 0

namespace ScriptedCallable

def next (c : ScriptedCallable) : Except DriverError Bool × ScriptedCallable :=
  match c.events with
  | [] => (.ok false, c)
  | .fails e :: events => (.error e, { c with events })
  | .set answer :: events => (.ok true, { c with events, current := some answer })
  | .finish answer :: events => (.ok false, { c with events, summary := answer })

/-- Hands out the result set of the event that was played last. -/
def take (c : ScriptedCallable) : Except DriverError ScriptedRows × ScriptedCallable :=
  match c.current with
  | some answer => (answer, { c with current := none })
  | none => (.error { message := "no result set" }, c)

def release (c : ScriptedCallable) : Except DriverError Unit × ScriptedCallable :=
  let c := { c with closes := c.closes + 1 }
  match c.closeError with
  | some e => (.error e, c)
  | none => (.ok (), c)

end ScriptedCallable

instance : CallableStatement ScriptedCallable ScriptedRows where
  nextResult := ScriptedCallable.next
  resultSet := ScriptedCallable.take
  executionSummary c := (c.summary, c)
  close := ScriptedCallable.release

end SqlBinding
