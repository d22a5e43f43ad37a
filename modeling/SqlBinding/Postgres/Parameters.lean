import SqlBinding.Binding.Converter
import SqlBinding.Driver.Buffered
import SqlBinding.Postgres.Argument

/-!
# Parameters of a query

Native values collected by position, with gaps where none was set, and the arguments made of them.
The server's arrays and character large objects are plain values, so its connection makes them out
of nothing; it makes no structs.
-/

namespace SqlBinding.Postgres

/-- The source of composite objects for a query. -/
structure ObjectFactory where
deriving DecidableEq

def structRefusal (typeName : String) : DriverError where
  message :=
    "Structured parameter " ++ typeName ++
      " cannot be bound without a registered composite type"
  sqlState := some "0A000"

instance : Connection ObjectFactory where
  createClob national f := (.ok ⟨national, none, ""⟩, f)
  createArray elementType data f := (.ok ⟨elementType, data⟩, f)
  createStruct typeName _ f := (.error (structRefusal typeName), f)

/-- The values for the positions from one on; nothing where none was set. -/
structure Parameters where
  values : List (Option NativeValue) := []

namespace Parameters

/-- Puts a value at a place counted from zero; what is missing before it becomes a gap. -/
def put : Nat → NativeValue → List (Option NativeValue) → List (Option NativeValue)
  | 0, v, [] => [some v]
  | 0, v, _ :: vs => some v :: vs
  | i + 1, v, [] => none :: put i v []
  | i + 1, v, u :: vs => u :: put i v vs

def get? (ps : Parameters) : Nat → Option NativeValue
  | 0 => none
  | i + 1 => (ps.values[i]?).join

end Parameters

instance : PreparedStatement Parameters where
  set index v ps :=
    match index with
    | 0 => (.error .indexZero, ps)
    | i + 1 => (.ok (), ⟨Parameters.put i v ps.values⟩)

namespace Parameters

def collect (arith : Arithmetic) (params : List Parameter) : Reading Parameters := fun channels =>
  match (Converter.standard arith).bindAll params
    (⟨channels, ObjectFactory.mk⟩, Parameters.mk []) with
  | (.ok _, w, ps) => (.ok ps, w.channels)
  | (.error e, w, _) => (.error e, w.channels)

/-- The arguments of the values from a position on, up to the first gap. -/
def argumentsFrom (index : Nat) : List (Option NativeValue) → Reading (List Argument)
  | [] => return []
  | none :: _ => .ofOutcome (.refuse (.unboundParameter index))
  | some v :: vs => do
    let a ← Argument.ofNative v
    return a :: (← argumentsFrom (index + 1) vs)

/-- The arguments of the collected values, in the order of their positions. -/
def arguments (ps : Parameters) : Reading (List Argument) := argumentsFrom 1 ps.values

end Parameters

end SqlBinding.Postgres
