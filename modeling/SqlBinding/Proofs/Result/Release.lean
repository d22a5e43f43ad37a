import Mathlib.Data.List.Basic
import SqlBinding.Driver.Scripted
import SqlBinding.Proofs.Result.CursorRun

/-!
# Release of a statement

A statement that notes the calls it gets tells what a cursor does with it, whatever the driver
behind it is. It is closed once over the life of a cursor, at the first close or else when the
cursor is given up, and not called again after that.
-/

namespace SqlBinding

/-- A call of a callable statement. -/
inductive StatementCall where
  | nextResult | resultSet | executionSummary | close
deriving DecidableEq

/-- A statement with the calls that it got, in their order. -/
structure Watched (τ : Type) where
  statement : τ
  calls : List StatementCall := []

namespace Watched

variable {τ ρ α : Type}

def note (what : StatementCall) (ask : τ → Except DriverError α × τ) (w : Watched τ) :
    Except DriverError α × Watched τ :=
  ((ask w.statement).1, ⟨(ask w.statement).2, w.calls ++ [what]⟩)

end Watched

instance {τ ρ : Type} [CallableStatement τ ρ] : CallableStatement (Watched τ) ρ where
  nextResult := Watched.note .nextResult CallableStatement.nextResult
  resultSet := Watched.note .resultSet CallableStatement.resultSet
  executionSummary := Watched.note .executionSummary CallableStatement.executionSummary
  close := Watched.note .close CallableStatement.close

namespace Watched

variable {τ α : Type} {w w' w'' : Watched τ}

/-- From one state to the other the statement is called any number of times, but not closed. -/
def Uses (w w' : Watched τ) : Prop := ∃ more, w'.calls = w.calls ++ more ∧ .close ∉ more

private theorem Uses.refl (w : Watched τ) : Uses w w := ⟨[], (List.append_nil _).symm, by simp⟩

private theorem Uses.trans (h : Uses w w') (h' : Uses w' w'') : Uses w w'' := by
  obtain ⟨more, hmore, hclose⟩ := h
  obtain ⟨more', hmore', hclose'⟩ := h'
  refine ⟨more ++ more', ?_, ?_⟩
  · rw [hmore', hmore, List.append_assoc]
  · simp [hclose, hclose']

private theorem uses_note (what : StatementCall) (hwhat : what ≠ .close)
    {ask : τ → Except DriverError α × τ} {answer : Except DriverError α}
    (h : w.note what ask = (answer, w')) : Uses w w' := by
  cases h
  exact ⟨[what], rfl, by simpa using hwhat.symm⟩

section

variable {ρ : Type} [CallableStatement τ ρ]

open CallableStatement

private theorem uses_nextResult {answer : Except DriverError Bool}
    (h : nextResult w = (answer, w')) :
    Uses w w' := uses_note .nextResult nofun h

private theorem uses_resultSet {answer : Except DriverError ρ} (h : resultSet w = (answer, w')) :
    Uses w w' := uses_note .resultSet nofun h

private theorem uses_executionSummary {answer : Except DriverError ExecutionSummary}
    (h : executionSummary w = (answer, w')) : Uses w w' := uses_note .executionSummary nofun h

end

end Watched

namespace ProcedureCall

open Watched

variable {τ ρ : Type}

/-- The cursor over the statement itself. -/
def unwatch (c : ProcedureCall (Watched τ) ρ) : ProcedureCall τ ρ :=
  { c with statement := c.statement.statement }

/-- A cursor over a statement that was not called yet. -/
def startWatched (statement : τ) (shapes : List RecordType) : ProcedureCall (Watched τ) ρ :=
  start ⟨statement, []⟩ shapes

@[simp] private theorem unwatch_startWatched (statement : τ) (shapes : List RecordType) :
    (startWatched statement shapes : ProcedureCall (Watched τ) ρ).unwatch =
      start statement shapes := rfl

variable [CallableStatement τ ρ]

private theorem finish_unwatch (c : ProcedureCall (Watched τ) ρ) :
    c.unwatch.finish = (c.finish.1, c.finish.2.unwatch) := by
  dsimp only [unwatch, finish, CallableStatement.executionSummary, note]
  rcases CallableStatement.executionSummary c.statement.statement with ⟨e | summary, s⟩
  · rfl
  · rfl

section

variable [ResultSet ρ]

private theorem openRows_unwatch (c : ProcedureCall (Watched τ) ρ) :
    c.unwatch.openRows = (c.openRows.1, c.openRows.2.unwatch) := by
  dsimp only [unwatch, openRows, CallableStatement.resultSet, note]
  rcases CallableStatement.resultSet c.statement.statement with ⟨e | rows, s⟩
  · rfl
  · dsimp only
    cases nextShape c.shapes c.shapeIndex (ResultSet.columns rows) with
    | error e => rfl
    | ok p =>
      dsimp only
      cases RowStream.start p.1 rows with
      | error e => rfl
      | ok stream => rfl

private theorem next_unwatch (c : ProcedureCall (Watched τ) ρ) :
    c.unwatch.next = (c.next.1, c.next.2.unwatch) := by
  obtain ⟨⟨s, calls⟩, released, shapes, shapeIndex, rows, summary, state⟩ := c
  cases released with
  | true => rfl
  | false =>
    dsimp only [unwatch, next, CallableStatement.nextResult, note]
    rcases CallableStatement.nextResult s with ⟨e | more, s'⟩
    · rfl
    · cases more with
      | true => exact openRows_unwatch ⟨⟨s', calls ++ [.nextResult]⟩, false, shapes, _, _, _, _⟩
      | false => exact finish_unwatch ⟨⟨s', calls ++ [.nextResult]⟩, false, shapes, _, _, _, _⟩

private theorem step_unwatch (c : ProcedureCall (Watched τ) ρ) (op : Op) :
    (c.step op).unwatch = c.unwatch.step op := by
  cases op with
  | next => exact (congrArg Prod.snd c.next_unwatch).symm
  | nextRow =>
    rw [step_nextRow, step_nextRow]
    rfl
  | takeRows => rfl
  | close =>
    obtain ⟨s, released, shapes, shapeIndex, rows, summary, state⟩ := c
    cases released <;> rfl

/-- A cursor does not notice that its statement is watched. -/
private theorem run_unwatch (c : ProcedureCall (Watched τ) ρ) (ops : List Op) :
    (c.run ops).unwatch = c.unwatch.run ops := by
  induction ops generalizing c with
  | nil => rfl
  | cons op ops ih => rw [run_cons, ih, step_unwatch, run_cons]

end

private theorem DriverFault.uses {w w' : Watched τ} {e : DriverError} (h : DriverFault w e w') :
    Uses w w' := by
  cases h with
  | move h => exact uses_nextResult h
  | summary h hs => exact (uses_nextResult h).trans (uses_executionSummary hs)
  | set h hs => exact (uses_nextResult h).trans (uses_resultSet hs)

section

variable [ResultSet ρ] {c : ProcedureCall (Watched τ) ρ}

private theorem Advance.uses {r : Except Error Bool × ProcedureCall (Watched τ) ρ}
    (h : Advance c r) :
    Uses c.statement r.2.statement ∧ r.2.released = c.released := by
  cases h with
  | released => exact ⟨.refl _, rfl⟩
  | driverFailed _ h => exact ⟨h.uses, rfl⟩
  | finished _ h hs => exact ⟨(uses_nextResult h).trans (uses_executionSummary hs), rfl⟩
  | shapeRefused _ h hs => exact ⟨(uses_nextResult h).trans (uses_resultSet hs), rfl⟩
  | rowsRefused _ h hs => exact ⟨(uses_nextResult h).trans (uses_resultSet hs), rfl⟩
  | opened _ h hs => exact ⟨(uses_nextResult h).trans (uses_resultSet hs), rfl⟩

private theorem step_uses {op : Op} (hop : op ≠ .close) :
    Uses c.statement (c.step op).statement ∧ (c.step op).released = c.released := by
  cases op with
  | next => exact (advance_next c).uses
  | nextRow =>
    rw [step_nextRow]
    exact ⟨.refl _, rfl⟩
  | takeRows => exact ⟨.refl _, rfl⟩
  | close => exact absurd rfl hop

private theorem run_uses {ops : List Op} (hops : .close ∉ ops) :
    Uses c.statement (c.run ops).statement ∧ (c.run ops).released = c.released := by
  induction ops generalizing c with
  | nil => exact ⟨.refl _, rfl⟩
  | cons op ops ih =>
    rw [List.mem_cons, not_or] at hops
    obtain ⟨hfirst, hreleased⟩ := c.step_uses (Ne.symm hops.1)
    obtain ⟨hrest, hrest'⟩ := ih (c := c.step op) hops.2
    exact ⟨hfirst.trans hrest, hrest'.trans hreleased⟩

end

private theorem close_of_open {c : ProcedureCall τ ρ} (h : c.released = false) :
    c.close = ((CallableStatement.close c.statement).1.mapError (.database .closeResult),
      { c with
        statement := (CallableStatement.close c.statement).2
        released := true
        rows := none
        state := .closed }) := by
  simp [close, h]

private theorem calls_close {c : ProcedureCall (Watched τ) ρ} (h : c.released = false) :
    c.close.2.statement.calls = c.statement.calls ++ [.close] := by
  rw [close_of_open h]
  rfl

variable [ResultSet ρ]

/-- Nothing that a cursor is asked for changes it any more. -/
structure Spent (c : ProcedureCall τ ρ) : Prop where
  released : c.released = true
  state : c.state = .closed
  rows : c.rows = none
  next : c.next = (.error (.refused (.advancing .resultClosed)), c)
  nextRow : c.nextRow = (none, c)
  takeRows : c.takeRows = (none, c)
  close : c.close = (.ok (), c)

private theorem spent_close (c : ProcedureCall τ ρ) : c.close.2.Spent := by
  obtain ⟨s, hs⟩ := c.step_close
  change c.close.2 = _ at hs
  rw [hs]
  constructor <;> rfl

namespace Spent

variable {c : ProcedureCall τ ρ}

private theorem step (h : c.Spent) (op : Op) : c.step op = c := by
  cases op with
  | next => exact congrArg Prod.snd h.next
  | nextRow => exact congrArg Prod.snd h.nextRow
  | takeRows => exact congrArg Prod.snd h.takeRows
  | close => exact congrArg Prod.snd h.close

private theorem run (h : c.Spent) (ops : List Op) : c.run ops = c := by
  induction ops with
  | nil => rfl
  | cons op ops ih => rw [run_cons, h.step, ih]

end Spent

/-- Whatever follows a close, the cursor remains as the close left it. -/
private theorem run_append_close (c : ProcedureCall τ ρ) (before after : List Op) :
    c.run (before ++ .close :: after) = (c.run before).close.2 := by
  rw [run_append, run_cons]
  exact (spent_close _).run after

private theorem drop_run_append_close (c : ProcedureCall τ ρ) (before after : List Op) :
    (c.run (before ++ .close :: after)).drop = (c.run before).close.2 := by
  rw [drop, run_append_close, (spent_close _).close]

section

variable (s : τ) (shapes : List RecordType) {ops : List Op}

private theorem run_start_watched (hops : .close ∉ ops) :
    let c : ProcedureCall (Watched τ) ρ := (startWatched s shapes).run ops
    c.released = false ∧ .close ∉ c.statement.calls := by
  obtain ⟨⟨more, hmore, hclose⟩, hreleased⟩ :=
    run_uses (c := (startWatched s shapes : ProcedureCall (Watched τ) ρ)) hops
  refine ⟨hreleased, ?_⟩
  rw [hmore]
  exact hclose

private theorem released_run_start (hops : .close ∉ ops) :
    ((start s shapes : ProcedureCall τ ρ).run ops).released = false := by
  rw [← unwatch_startWatched s shapes, ← run_unwatch]
  exact (run_start_watched s shapes hops).1

end

/-- Over the life of a cursor the statement is closed once and not called afterwards, whatever the
driver does and whatever the cursor is asked for before it is given up. If the cursor was closed,
the first close did it, and only that one can tell a failure of the driver: from then on the cursor
is spent. Else it is done when the cursor is given up. -/
theorem statement_released_once (s : τ) (shapes : List RecordType) (ops : List Op) :
    let watched (ops : List Op) : ProcedureCall (Watched τ) ρ := (startWatched s shapes).run ops
    let c : ProcedureCall τ ρ := (start s shapes).run ops
    (watched ops).unwatch = c ∧
    (∃ used, (watched ops).drop.statement.calls = used ++ [.close] ∧ .close ∉ used) ∧
    (.close ∉ ops → c.released = false ∧ .close ∉ (watched ops).statement.calls) ∧
    (.close ∈ ops → c.Spent ∧ (watched ops).drop = watched ops) ∧
    (∀ before after, ops = before ++ .close :: after → .close ∉ before →
      let b : ProcedureCall τ ρ := (start s shapes).run before
      b.close = ((CallableStatement.close b.statement).1.mapError (.database .closeResult), c) ∧
      (watched ops).statement.calls = (watched before).statement.calls ++ [.close]) := by
  intro watched c
  refine ⟨run_unwatch _ ops, ?_, fun hops => ?_, fun hops => ?_, ?_⟩
  · -- The statement was closed by the first close, or else it is closed by the drop.
    by_cases hops : .close ∈ ops
    · obtain ⟨before, after, rfl, hbefore⟩ := List.eq_append_cons_of_mem hops
      obtain ⟨hopen, hcalls⟩ := run_start_watched s shapes hbefore
      refine ⟨_, ?_, hcalls⟩
      show ((startWatched s shapes).run _).drop.statement.calls = _
      rw [drop_run_append_close, calls_close hopen]
    · obtain ⟨hopen, hcalls⟩ := run_start_watched s shapes hops
      exact ⟨_, calls_close hopen, hcalls⟩
  · exact ⟨released_run_start s shapes hops, (run_start_watched s shapes hops).2⟩
  · obtain ⟨before, after, rfl, hbefore⟩ := List.eq_append_cons_of_mem hops
    refine ⟨?_, ?_⟩
    · show ((start s shapes).run _).Spent
      rw [run_append_close]
      exact spent_close _
    · show ((startWatched s shapes).run _).drop = (startWatched s shapes).run _
      rw [drop_run_append_close, run_append_close]
  · rintro before after rfl hbefore b
    refine ⟨?_, ?_⟩
    · show b.close = (_, (start s shapes).run _)
      rw [run_append_close, close_of_open (released_run_start s shapes hbefore)]
    · show ((startWatched s shapes).run _).statement.calls = _
      rw [run_append_close, calls_close (run_start_watched s shapes hbefore).1]

/-- A driver that cannot close its statement is asked to do it at the first close only. -/
theorem statement_released_once_refused :
    let e : DriverError := { message := "gone" }
    let s : ScriptedCallable := { events := [], closeError := some e }
    let ops : List Op := [.next, .close, .next, .close]
    let c : ProcedureCall ScriptedCallable ScriptedRows := (start s []).run ops
    .close ∈ ops ∧ .close ∉ [Op.next] ∧ c.Spent ∧ c.statement.closes = 1 ∧
      ((start s []).run [.next]).close = (.error (.database .closeResult e), c) := by
  intro e s ops c
  obtain ⟨-, -, -, hspent, hfirst⟩ := statement_released_once s [] ops
  refine ⟨by decide, by decide, (hspent (by decide)).1, rfl, ?_⟩
  exact (hfirst [.next] [.next, .close] rfl (by decide)).1

end ProcedureCall

end SqlBinding
