import Mathlib.Data.List.Basic
import SqlBinding.Result.ProcedureCall

/-!
# Runs of a cursor

What one advance of a cursor can come to, whatever the driver does, and runs of a cursor: any
sequence of advances, row reads, takes of the current rows and closes.
-/

namespace SqlBinding

/-- What a result set is refused for when it is opened. -/
def Refusal.OfOpening : Refusal → Prop
  | .shapeCount | .noField _ _ | .unfitColumn _ _ _ _ => True
  | _ => False

theorem RecordType.places_error {shape : RecordType} {columns : List Column} {e : Error}
    (h : shape.places columns = .error e) : ∃ why, e = .refused why ∧ why.OfOpening := by
  induction columns with
  | nil => cases h
  | cons c cs ih =>
    rw [RecordType.places] at h
    cases hplace : shape.place c with
    | ok i =>
      rw [hplace] at h
      cases hrest : shape.places cs with
      | ok is => simp [hrest, bind, Except.bind, pure, Except.pure] at h
      | error e' =>
        rw [hrest] at h
        cases h
        exact ih hrest
    | error e' =>
      rw [hplace] at h
      cases h
      unfold RecordType.place at hplace
      split at hplace
      · cases hplace
        exact ⟨_, rfl, trivial⟩
      · dsimp only at hplace
        split at hplace
        · cases hplace
        · cases hplace
          exact ⟨_, rfl, trivial⟩

theorem RowStream.start_error {ρ : Type} [ResultSet ρ] {shape : RecordType} {rows : ρ} {e : Error}
    (h : RowStream.start shape rows = .error e) : ∃ why, e = .refused why ∧ why.OfOpening := by
  unfold RowStream.start at h
  cases hplaces : shape.places (ResultSet.columns rows) with
  | ok places => simp [hplaces, bind, Except.bind, pure, Except.pure] at h
  | error e' =>
    rw [hplaces] at h
    cases h
    exact RecordType.places_error hplaces

namespace ProcedureCall

theorem nextShape_ok {shapes : List RecordType} {index next : Nat} {columns : List Column}
    {shape : RecordType} (h : nextShape shapes index columns = .ok (shape, next)) :
    (shapes = [] ∧ shape = inferShape columns ∧ next = index) ∨
      (shapes[index]? = some shape ∧ next = index + 1) := by
  unfold nextShape at h
  split at h
  · next hempty =>
    cases h
    exact .inl ⟨List.isEmpty_iff.mp hempty, rfl, rfl⟩
  · split at h
    · next hshape =>
      cases h
      exact .inr ⟨hshape, rfl⟩
    · cases h

theorem nextShape_error {shapes : List RecordType} {index : Nat} {columns : List Column}
    {e : Error} (h : nextShape shapes index columns = .error e) : e = .refused .shapeCount := by
  unfold nextShape at h
  split at h
  · cases h
  · split at h
    · cases h
    · cases h
      rfl

theorem nextShape_le {shapes : List RecordType} {index next : Nat} {columns : List Column}
    {shape : RecordType} (h : nextShape shapes index columns = .ok (shape, next)) :
    index ≤ next ∧ next ≤ index + 1 ∧ (index ≤ shapes.length → next ≤ shapes.length) := by
  rcases nextShape_ok h with ⟨-, -, rfl⟩ | ⟨hshape, rfl⟩
  · exact ⟨Nat.le_refl _, Nat.le_succ _, id⟩
  · have hlt := (List.getElem?_eq_some_iff.mp hshape).1
    exact ⟨Nat.le_succ _, Nat.le_refl _, fun _ => hlt⟩

variable {τ ρ : Type} [CallableStatement τ ρ]

open CallableStatement

/-- A driver call of an advance fails: the move to the next result, the summary, or the result
set. -/
inductive DriverFault : τ → DriverError → τ → Prop
  | move {s s' : τ} {e : DriverError} (h : nextResult s = (.error e, s')) : DriverFault s e s'
  | summary {s s₁ s' : τ} {e : DriverError} (h : nextResult s = (.ok false, s₁))
      (hs : executionSummary s₁ = (.error e, s')) : DriverFault s e s'
  | set {s s₁ s' : τ} {e : DriverError} (h : nextResult s = (.ok true, s₁))
      (hs : resultSet s₁ = (.error e, s')) : DriverFault s e s'

theorem not_driverFault_of_set {s s₁ s₂ : τ} {rows : ρ} (h : nextResult s = (.ok true, s₁))
    (hs : resultSet s₁ = (.ok rows, s₂)) (e : DriverError) (s' : τ) : ¬ DriverFault s e s' := by
  intro hfault
  cases hfault with
  | move h' => simp [h] at h'
  | summary h' _ => simp [h] at h'
  | set h' hs' =>
    rw [h] at h'
    cases h'
    simp [hs] at hs'

variable [ResultSet ρ]

inductive Advance (c : ProcedureCall τ ρ) : Except Error Bool × ProcedureCall τ ρ → Prop
  | released (h : c.released = true) :
      Advance c (.error (.refused (.advancing .resultClosed)), c)
  | driverFailed {e : DriverError} {s : τ} (ho : c.released = false)
      (h : DriverFault c.statement e s) :
      Advance c (.error (.database .nextResult e), { c with statement := s })
  | finished {s₁ s₂ : τ} {summary : ExecutionSummary} (ho : c.released = false)
      (h : nextResult c.statement = (.ok false, s₁))
      (hs : executionSummary s₁ = (.ok summary, s₂)) :
      Advance c (.ok false, { c with
        statement := s₂, rows := none, summary := some summary, state := .executionSummary })
  | shapeRefused {s₁ s₂ : τ} {rows : ρ} (ho : c.released = false)
      (h : nextResult c.statement = (.ok true, s₁)) (hs : resultSet s₁ = (.ok rows, s₂))
      (hshape : nextShape c.shapes c.shapeIndex (ResultSet.columns rows) =
        .error (.refused .shapeCount)) :
      Advance c (.error (.refused (.advancing .shapeCount)), { c with statement := s₂ })
  | rowsRefused {s₁ s₂ : τ} {rows : ρ} {shape : RecordType} {index : Nat} {why : Refusal}
      (ho : c.released = false) (h : nextResult c.statement = (.ok true, s₁))
      (hs : resultSet s₁ = (.ok rows, s₂))
      (hshape : nextShape c.shapes c.shapeIndex (ResultSet.columns rows) = .ok (shape, index))
      (hrows : RowStream.start shape rows = .error (.refused why)) (hwhy : why.OfOpening) :
      Advance c (.error (.refused (.advancing why)),
        { c with statement := s₂, shapeIndex := index })
  | opened {s₁ s₂ : τ} {rows : ρ} {shape : RecordType} {index : Nat} {stream : RowStream ρ}
      (ho : c.released = false) (h : nextResult c.statement = (.ok true, s₁))
      (hs : resultSet s₁ = (.ok rows, s₂))
      (hshape : nextShape c.shapes c.shapeIndex (ResultSet.columns rows) = .ok (shape, index))
      (hrows : RowStream.start shape rows = .ok stream) :
      Advance c (.ok true, { c with
        statement := s₂, shapeIndex := index, rows := some stream, summary := none,
        state := .resultAvailable })

theorem advance_next (c : ProcedureCall τ ρ) : Advance c c.next := by
  unfold next
  split
  · next ho => exact .released ho
  · next ho =>
    replace ho : c.released = false := Bool.eq_false_iff.mpr ho
    rcases h : nextResult c.statement with ⟨e | more, s₁⟩
    · exact .driverFailed ho (.move h)
    · cases more with
      | false =>
        dsimp only [finish]
        rcases hs : executionSummary s₁ with ⟨e | summary, s₂⟩
        · exact .driverFailed ho (.summary h hs)
        · exact .finished ho h hs
      | true =>
        dsimp only [openRows]
        rcases hs : resultSet s₁ with ⟨e | rows, s₂⟩
        · exact .driverFailed ho (.set h hs)
        · dsimp only
          cases hshape : nextShape c.shapes c.shapeIndex (ResultSet.columns rows) with
          | error e =>
            obtain rfl := nextShape_error hshape
            exact .shapeRefused ho h hs hshape
          | ok p =>
            obtain ⟨shape, index⟩ := p
            dsimp only
            cases hrows : RowStream.start shape rows with
            | error e =>
              obtain ⟨why, rfl, hwhy⟩ := RowStream.start_error hrows
              exact .rowsRefused ho h hs hshape hrows hwhy
            | ok stream => exact .opened ho h hs hshape hrows

theorem next_of_driverFault {c : ProcedureCall τ ρ} {e : DriverError} {s : τ}
    (ho : c.released = false) (h : DriverFault c.statement e s) :
    c.next = (.error (.database .nextResult e), { c with statement := s }) := by
  unfold next
  rw [if_neg (Bool.eq_false_iff.mp ho)]
  cases h with
  | move h => rw [h]
  | summary h hs =>
    rw [h]
    dsimp only [finish]
    rw [hs]
  | set h hs =>
    rw [h]
    dsimp only [openRows]
    rw [hs]

inductive Op where
  | next | nextRow | takeRows | close
deriving DecidableEq

/-- The cursor of a statement before anything was done with it. -/
def start (statement : τ) (shapes : List RecordType) : ProcedureCall τ ρ := { statement, shapes }

def step (c : ProcedureCall τ ρ) : Op → ProcedureCall τ ρ
  | .next => c.next.2
  | .nextRow => c.nextRow.2
  | .takeRows => c.takeRows.2
  | .close => c.close.2

def run (c : ProcedureCall τ ρ) (ops : List Op) : ProcedureCall τ ρ := ops.foldl step c

@[simp] theorem run_nil (c : ProcedureCall τ ρ) : c.run [] = c := rfl

@[simp] theorem run_cons (c : ProcedureCall τ ρ) (op : Op) (ops : List Op) :
    c.run (op :: ops) = (c.step op).run ops := rfl

theorem run_append (c : ProcedureCall τ ρ) (ops more : List Op) :
    c.run (ops ++ more) = (c.run ops).run more := List.foldl_append ..

theorem step_nextRow (c : ProcedureCall τ ρ) :
    c.step .nextRow = { c with rows := c.rows.map fun s => s.next.2 } := by
  obtain ⟨statement, released, shapes, shapeIndex, rows, summary, state⟩ := c
  cases rows <;> rfl

@[simp] theorem step_takeRows (c : ProcedureCall τ ρ) :
    c.step .takeRows = { c with rows := none } := rfl

theorem step_close (c : ProcedureCall τ ρ) :
    ∃ s, c.step .close =
      { c with statement := s, released := true, rows := none, state := .closed } := by
  unfold step close
  dsimp only
  split
  · next ho => exact ⟨c.statement, by rw [← ho]⟩
  · exact ⟨_, rfl⟩

end ProcedureCall

end SqlBinding
