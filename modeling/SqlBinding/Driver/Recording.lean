import SqlBinding.Driver.Basic

/-!
# Recording and refusing

Wrappers that watch a driver. One keeps a list of the objects a connection was asked for, whatever
came of it; one refuses a single request, given by its number; one refuses the value for a single
position of a statement.
-/

namespace SqlBinding

/-- A request for an object. -/
inductive Creation where
  | clob (national : Bool)
  | array (elementType : String) (length : Nat)
  | struct (typeName : String) (attributes : Nat)
deriving DecidableEq, Repr

def Creation.text : Creation → String
  | .clob national => if national then "NCLOB" else "CLOB"
  | .array elementType length => "ARRAY " ++ elementType ++ " " ++ toString length
  | .struct typeName attributes => "STRUCT " ++ typeName ++ " " ++ toString attributes

/-- A connection and the objects it was asked for, the latest first. -/
structure Recorded (σ : Type) where
  connection : σ
  created : List Creation := []

namespace Recorded

variable {σ α : Type}

def request (what : Creation) (ask : σ → Except DriverError α × σ) (r : Recorded σ) :
    Except DriverError α × Recorded σ :=
  let (answer, connection) := ask r.connection
  (answer, ⟨connection, what :: r.created⟩)

def requests (r : Recorded σ) : List Creation := r.created.reverse

end Recorded

instance {σ : Type} [Connection σ] : Connection (Recorded σ) where
  createClob national := Recorded.request (.clob national) (Connection.createClob national)
  createArray elementType data :=
    Recorded.request (.array elementType data.length) (Connection.createArray elementType data)
  createStruct typeName attributes :=
    Recorded.request (.struct typeName attributes.length)
      (Connection.createStruct typeName attributes)

/-- A connection that makes plain objects without locators, except the one whose number, counted
from one, it refuses. -/
structure RefusingConnection where
  asked : Nat := 0
  refusal : Option (Nat × DriverError) := none

def RefusingConnection.make {α : Type} (a : α) (c : RefusingConnection) :
    Except DriverError α × RefusingConnection :=
  let c := { c with asked := c.asked + 1 }
  match c.refusal with
  | some (n, e) => if n = c.asked then (.error e, c) else (.ok a, c)
  | none => (.ok a, c)

instance : Connection RefusingConnection where
  createClob national := RefusingConnection.make ⟨national, none, ""⟩
  createArray elementType data := RefusingConnection.make ⟨elementType, data⟩
  createStruct typeName attributes := RefusingConnection.make ⟨typeName, attributes⟩

/-- A statement that refuses the value for one position. -/
structure RefusingStatement (τ : Type) where
  statement : τ
  refusal : Option (Nat × DriverError) := none

instance {τ : Type} [PreparedStatement τ] : PreparedStatement (RefusingStatement τ) where
  set index v s :=
    let pass :=
      let (answer, statement) := PreparedStatement.set index v s.statement
      (answer, { s with statement })
    match s.refusal with
    | some (n, e) => if n = index then (.error e, s) else pass
    | none => pass

end SqlBinding
