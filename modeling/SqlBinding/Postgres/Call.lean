import SqlBinding.Postgres.Cell
import SqlBinding.Postgres.Parameters
import SqlBinding.Result.ProcedureCall
import SqlBinding.Text.Digits

/-!
# Procedure calls

A procedure call is answered by a stream of rows and completions of statements, which is gathered
to its end before the caller gets a cursor. The rows between two completions make a result set, if
there are any, with the columns of their first row; the affected rows of all statements are added
up.
-/

namespace SqlBinding.Postgres

/-- What comes back for a call: rows, completions with the number of rows they affected, or a
failure. -/
inductive StreamItem where
  | row (cells : List Cell)
  | done (affected : Nat)
  | failed (e : DriverError)

/-- The number of affected rows in the tag of a completion: the digits behind its last space, which
may follow a plus sign. A tag without one has none, and neither has a number beyond 64 bits. -/
def affectedRows (tag : String) : Nat :=
  let cs := tag.toList
  if cs.contains ' ' then
    let last := (cs.reverse.takeWhile (· != ' ')).reverse
    let unsigned := if last.head? = some '+' then last.tail else last
    let n := Text.digitsValue (unsigned.takeWhile Char.isDigit)
    if n < UInt64.size then n else 0
  else 0

/-- What was gathered so far: complete result sets, the rows since the last completion, and the
number of affected rows. -/
structure Gathered where
  sets : List BufferedResultSet := []
  current : Option BufferedResultSet := none
  affected : Nat := 0

namespace Gathered

def cut (g : Gathered) : Gathered :=
  { g with sets := g.sets ++ g.current.toList, current := none }

def push (columns : List Column) (row : Row) (g : Gathered) : Gathered :=
  match g.current with
  | none => { g with current := some ⟨columns, [row]⟩ }
  | some set => { g with current := some { set with rows := set.rows ++ [row] } }

def take (g : Gathered) : StreamItem → Except DriverError Gathered
  | .row cells => do return g.push (cells.map Cell.toColumn) (← readCells 0 cells)
  | .done affected => return { g.cut with affected := g.affected + affected }
  | .failed e => throw e

def statement (g : Gathered) : BufferedCallable where
  pending := g.cut.sets
  summary := { affectedRows := g.affected }

end Gathered

def gather (items : List StreamItem) : Except DriverError BufferedCallable := do
  return (← items.foldlM Gathered.take {}).statement

/-- The answer of a server to one statement: rows, the tag of the completion unless the statement is
not completed, and a failure if there is one. -/
structure StatementReply where
  rows : List (List Cell)
  tag : Option String := none
  error : Option DriverError := none

/-- The items of a reply in the order in which they come. -/
def StatementReply.items (r : StatementReply) : List StreamItem :=
  r.rows.map .row ++ (r.tag.map fun tag => .done (affectedRows tag)).toList ++
    (r.error.map .failed).toList

/-- A server that fails when a call is prepared, or else gives its replies whatever the
arguments. -/
structure ScriptedServer where
  prepareError : Option DriverError := none
  replies : List StatementReply

namespace ScriptedServer

def execute (s : ScriptedServer) (_ : List Argument) : List StreamItem :=
  match s.prepareError with
  | some e => [.failed e]
  | none => s.replies.flatMap StatementReply.items

/-- The arguments that reach the server: none unless the call can be prepared. -/
def receives (s : ScriptedServer) (arguments : List Argument) : Option (List Argument) :=
  match s.prepareError with
  | some _ => none
  | none => some arguments

end ScriptedServer

/-- The cursor over the results of a call with the given arguments. -/
def execute (server : List Argument → List StreamItem) (shapes : List RecordType)
    (arguments : List Argument) :
    Outcome (ProcedureCall BufferedCallable BufferedResultSet) :=
  match gather (server arguments) with
  | .ok statement => .ok { statement, shapes }
  | .error e => .fail (.database .executeCall e)

/-- Converts the parameters of a call, has the server execute it, and gives the cursor over its
results. -/
def call (arith : Arithmetic) (server : List Argument → List StreamItem) (params : List Parameter)
    (shapes : List RecordType) : Reading (ProcedureCall BufferedCallable BufferedResultSet) := do
  let arguments ← (← Parameters.collect arith params).arguments
  .ofOutcome (execute server shapes arguments)

end SqlBinding.Postgres
