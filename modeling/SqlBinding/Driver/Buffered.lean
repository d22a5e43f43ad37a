import SqlBinding.Driver.Basic

/-!
# Buffered driver

A driver that keeps everything in memory: it makes every object that it is asked for, records the
values that it is given, and hands out results that were fetched before.
-/

namespace SqlBinding

/-- A connection that makes every object. Its character large objects have locators, counted from
zero. -/
structure BufferedConnection where
  nextLocator : Nat := 0

instance : Connection BufferedConnection where
  createClob national c := (.ok ⟨national, some c.nextLocator, ""⟩, ⟨c.nextLocator + 1⟩)
  createArray elementType data c := (.ok ⟨elementType, data⟩, c)
  createStruct typeName attributes c := (.ok ⟨typeName, attributes⟩, c)

def DriverError.indexZero : DriverError :=
  { message := "Parameter indices start at 1", sqlState := some "07009" }

/-- Values by position, in the order of the positions. -/
structure BufferedStatement where
  values : List (Nat × NativeValue) := []

namespace BufferedStatement

/-- Puts a value at a position, in place of the one that stands there. -/
def put (index : Nat) (v : NativeValue) : List (Nat × NativeValue) → List (Nat × NativeValue)
  | [] => [(index, v)]
  | (i, u) :: rest =>
    if index < i then (index, v) :: (i, u) :: rest
    else if index = i then (index, v) :: rest
    else (i, u) :: put index v rest

def get? (s : BufferedStatement) (index : Nat) : Option NativeValue := s.values.lookup index

def toList (s : BufferedStatement) : List NativeValue := s.values.map (·.2)

@[simp] theorem lookup_put_self (index : Nat) (v : NativeValue)
    (values : List (Nat × NativeValue)) : (put index v values).lookup index = some v := by
  induction values with
  | nil => simp [put]
  | cons e rest ih =>
    obtain ⟨i, u⟩ := e
    rw [put]
    split
    · simp
    · split
      · simp
      · next hne =>
        have hb : (index == i) = false := beq_false_of_ne hne
        rw [List.lookup_cons, hb]
        exact ih

theorem lookup_put_ne {index i : Nat} (v : NativeValue) (values : List (Nat × NativeValue))
    (h : i ≠ index) : (put index v values).lookup i = values.lookup i := by
  have hb : (i == index) = false := beq_false_of_ne h
  induction values with
  | nil => simp [put, List.lookup_cons, hb]
  | cons e rest ih =>
    obtain ⟨j, u⟩ := e
    rw [put]
    split
    · simp [List.lookup_cons, hb]
    · split
      · next heq => simp [List.lookup_cons, ← heq, hb]
      · simp [List.lookup_cons, ih]

end BufferedStatement

instance : PreparedStatement BufferedStatement where
  set index v s :=
    if index = 0 then (.error .indexZero, s)
    else (.ok (), ⟨BufferedStatement.put index v s.values⟩)

/-- Rows that were fetched before. -/
structure BufferedResultSet where
  columns : List Column
  rows : List Row

instance : ResultSet BufferedResultSet where
  columns s := s.columns
  nextRow s :=
    match s.rows with
    | [] => (.ok none, s)
    | row :: rows => (.ok (some row), { s with rows })

/-- A call whose results were fetched before: those still to come, the one it stands on until that
is taken, and the summary. -/
structure BufferedCallable where
  pending : List BufferedResultSet
  current : Option BufferedResultSet := none
  summary : ExecutionSummary := {}
  closed : Bool := false

namespace BufferedCallable

def closedError : DriverError := { message := "Statement is closed", sqlState := some "HY010" }

/-- The refusal to hand out a result set when there is none to hand out. -/
def noResultSet : DriverError :=
  { message := "No result set is available", sqlState := some "24000" }

def next (c : BufferedCallable) : Except DriverError Bool × BufferedCallable :=
  if c.closed then (.error closedError, c)
  else
    match c.pending with
    | [] => (.ok false, { c with current := none })
    | set :: pending => (.ok true, { c with pending, current := some set })

def take (c : BufferedCallable) : Except DriverError BufferedResultSet × BufferedCallable :=
  if c.closed then (.error closedError, c)
  else
    match c.current with
    | none => (.error noResultSet, c)
    | some set => (.ok set, { c with current := none })

def summarize (c : BufferedCallable) : Except DriverError ExecutionSummary × BufferedCallable :=
  if c.closed then (.error closedError, c) else (.ok c.summary, c)

def release (c : BufferedCallable) : Except DriverError Unit × BufferedCallable :=
  (.ok (), { c with pending := [], current := none, closed := true })

end BufferedCallable

instance : CallableStatement BufferedCallable BufferedResultSet where
  nextResult := BufferedCallable.next
  resultSet := BufferedCallable.take
  executionSummary := BufferedCallable.summarize
  close := BufferedCallable.release

end SqlBinding
