import SqlBinding.Result.Shape

/-!
# Row streams

The rows of a result set, decoded one by one to records of a shape. A stream ends at the end of its
result set or at its first error, and then stays at its end without asking for further rows.
-/

namespace SqlBinding

/-- The rows of a result set on their way to records. -/
structure RowStream (ρ : Type) where
  shape : RecordType
  places : List (Fin shape.fields.length)
  rows : ρ
  done : Bool := false

/-- Puts the cells of a row at their places among the values of a record, from the first column to
the last. A null for a field that may not be null is refused. -/
def RecordType.fill (shape : RecordType) :
    List (Option Value × Fin shape.fields.length) → List (Option Value) →
      Except Error (List (Option Value))
  | [], values => .ok values
  | (cell, i) :: rest, values =>
    let f := shape.fields[i]
    if cell.isNone && !f.nullable then .error (.refused (.nullField f.name shape.name))
    else shape.fill rest (values.set i cell)

theorem RecordType.fill_cons {shape : RecordType} (cell : Option Value)
    (i : Fin shape.fields.length) (rest : List (Option Value × Fin shape.fields.length))
    (values : List (Option Value)) :
    shape.fill ((cell, i) :: rest) values =
      if cell.isNone && !(shape.fields.get i).nullable then
        .error (.refused (.nullField (shape.fields.get i).name shape.name))
      else shape.fill rest (values.set i cell) := rfl

/-- The record of a row: each cell in the field of its column, and null where no column leads. -/
def RecordType.decode (shape : RecordType) (places : List (Fin shape.fields.length)) (row : Row) :
    Except Error Record := do
  let values ← shape.fill (row.zip places) (shape.fields.map fun _ => none)
  return ⟨shape, List.zipWith (fun f v => ⟨f.name, v⟩) shape.fields values⟩

namespace RowStream

variable {ρ : Type} [ResultSet ρ]

/-- The stream of a result set's rows in a shape that suits its columns. -/
def start (shape : RecordType) (rows : ρ) : Except Error (RowStream ρ) := do
  return { shape, places := ← shape.places (ResultSet.columns rows), rows }

/-- The next record, or the error that ends the stream, or nothing. -/
def next (s : RowStream ρ) : Option (Except Error Record) × RowStream ρ :=
  if s.done then (none, s)
  else
    match ResultSet.nextRow s.rows with
    | (.error e, rows) => (some (.error (.database .iterateRows e)), { s with rows, done := true })
    | (.ok none, rows) => (none, { s with rows, done := true })
    | (.ok (some row), rows) =>
      match s.shape.decode s.places row with
      | .ok record => (some (.ok record), { s with rows })
      | .error e => (some (.error e), { s with rows, done := true })

theorem next_of_done {s : RowStream ρ} (h : s.done = true) : s.next = (none, s) := by
  simp [next, h]

end RowStream

end SqlBinding
