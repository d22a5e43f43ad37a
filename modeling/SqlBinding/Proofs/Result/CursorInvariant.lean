import Mathlib.Data.List.Basic
import SqlBinding.Proofs.Result.CursorRun

/-!
# What holds of a cursor at any time

A cursor that is reached by any operations over any driver is coherent: its state, its current rows,
its summary and the number of shapes used fit together. An advance that fails leaves all of these
but the shapes as they were, and its error says whether the driver or a shape was at fault.
-/

namespace SqlBinding.ProcedureCall

variable {τ ρ : Type}

structure Coherent (c : ProcedureCall τ ρ) : Prop where
  shapeIndex_le : c.shapeIndex ≤ c.shapes.length
  state_of_rows : c.rows.isSome = true → c.state = .resultAvailable
  state_of_summary : c.summary.isSome = true → c.state = .executionSummary ∨ c.state = .closed
  summary_of_state : c.state = .executionSummary → c.summary.isSome = true
  closed_iff : c.state = .closed ↔ c.released = true

private theorem Coherent.idle {c : ProcedureCall τ ρ} (h : c.Coherent) (hs : c.state = .idle) :
    c.rows = none ∧ c.summary = none := by
  constructor
  · cases hrows : c.rows with
    | none => rfl
    | some rows =>
      have hstate := h.state_of_rows (by rw [hrows]; rfl)
      rw [hs] at hstate
      cases hstate
  · cases hsummary : c.summary with
    | none => rfl
    | some summary =>
      have hstate := h.state_of_summary (by rw [hsummary]; rfl)
      rw [hs] at hstate
      rcases hstate with hstate | hstate <;> cases hstate

private theorem coherent_start (statement : τ) (shapes : List RecordType) :
    (start statement shapes : ProcedureCall τ ρ).Coherent where
  shapeIndex_le := Nat.zero_le _
  state_of_rows h := by cases h
  state_of_summary h := by cases h
  summary_of_state h := by cases h
  closed_iff := by simp [start]

/-- How far some advances can have moved a cursor through its shapes; it never comes back to
idle. -/
structure Follows (c c' : ProcedureCall τ ρ) (advances : Nat) : Prop where
  shapes : c'.shapes = c.shapes
  shapeIndex_ge : c.shapeIndex ≤ c'.shapeIndex
  shapeIndex_le : c'.shapeIndex ≤ c.shapeIndex + advances
  not_idle : c.state ≠ .idle → c'.state ≠ .idle

private theorem Follows.trans {c₁ c₂ c₃ : ProcedureCall τ ρ} {m n : Nat} (h : Follows c₁ c₂ m)
    (h' : Follows c₂ c₃ n) : Follows c₁ c₃ (m + n) where
  shapes := h'.shapes.trans h.shapes
  shapeIndex_ge := Nat.le_trans h.shapeIndex_ge h'.shapeIndex_ge
  shapeIndex_le := by
    have := h.shapeIndex_le
    have := h'.shapeIndex_le
    omega
  not_idle hs := h'.not_idle (h.not_idle hs)

variable [ResultSet ρ] [CallableStatement τ ρ] {c : ProcedureCall τ ρ}

/-- The error of an advance: the driver's own, or the refusal of the cursor or of a shape. -/
inductive AdvanceError (c : ProcedureCall τ ρ) : Error → Prop
  | driver {e : DriverError} {s : τ} (ho : c.released = false)
      (h : DriverFault c.statement e s) : AdvanceError c (.database .nextResult e)
  | released (h : c.released = true) : AdvanceError c (.refused (.advancing .resultClosed))
  | opening {why : Refusal} (ho : c.released = false)
      (h : ∀ e s, ¬ DriverFault c.statement e s) (hwhy : why.OfOpening) :
      AdvanceError c (.refused (.advancing why))

private theorem Advance.coherent {r : Except Error Bool × ProcedureCall τ ρ} (h : Advance c r)
    (hc : c.Coherent) : r.2.Coherent := by
  cases h with
  | released => exact hc
  | driverFailed => exact { hc with }
  | finished ho =>
    exact {
      shapeIndex_le := hc.shapeIndex_le
      state_of_rows := by simp
      state_of_summary := by simp
      summary_of_state := by simp
      closed_iff := by simp [ho] }
  | shapeRefused => exact { hc with }
  | rowsRefused _ _ _ hshape =>
    exact { hc with shapeIndex_le := (nextShape_le hshape).2.2 hc.shapeIndex_le }
  | opened ho _ _ hshape =>
    exact {
      shapeIndex_le := (nextShape_le hshape).2.2 hc.shapeIndex_le
      state_of_rows := by simp
      state_of_summary := by simp
      summary_of_state := by simp
      closed_iff := by simp [ho] }

private theorem coherent_step (hc : c.Coherent) (op : Op) : (c.step op).Coherent := by
  cases op with
  | next => exact (advance_next c).coherent hc
  | nextRow =>
    rw [step_nextRow]
    exact { hc with state_of_rows := fun h => hc.state_of_rows (by simpa using h) }
  | takeRows => exact { hc with state_of_rows := by simp }
  | close =>
    obtain ⟨s, hs⟩ := c.step_close
    rw [hs]
    exact {
      shapeIndex_le := hc.shapeIndex_le
      state_of_rows := by simp
      state_of_summary := by simp
      summary_of_state := by simp
      closed_iff := by simp }

private theorem Advance.follows {r : Except Error Bool × ProcedureCall τ ρ} (h : Advance c r) :
    Follows c r.2 1 := by
  cases h with
  | released => exact ⟨rfl, Nat.le_refl _, Nat.le_succ _, id⟩
  | driverFailed => exact ⟨rfl, Nat.le_refl _, Nat.le_succ _, id⟩
  | finished => exact ⟨rfl, Nat.le_refl _, Nat.le_succ _, by simp⟩
  | shapeRefused => exact ⟨rfl, Nat.le_refl _, Nat.le_succ _, id⟩
  | rowsRefused _ _ _ hshape =>
    obtain ⟨hge, hle, -⟩ := nextShape_le hshape
    exact ⟨rfl, hge, hle, id⟩
  | opened _ _ _ hshape =>
    obtain ⟨hge, hle, -⟩ := nextShape_le hshape
    exact ⟨rfl, hge, hle, by simp⟩

private theorem step_follows (c : ProcedureCall τ ρ) (op : Op) :
    Follows c (c.step op) ([op].count .next) := by
  cases op with
  | next => exact (advance_next c).follows
  | nextRow =>
    rw [step_nextRow]
    exact ⟨rfl, Nat.le_refl _, Nat.le_refl _, id⟩
  | takeRows => exact ⟨rfl, Nat.le_refl _, Nat.le_refl _, id⟩
  | close =>
    obtain ⟨s, hs⟩ := c.step_close
    rw [hs]
    exact ⟨rfl, Nat.le_refl _, Nat.le_refl _, by simp⟩

private theorem Advance.of_error {err : Error} {c' : ProcedureCall τ ρ}
    (h : Advance c (.error err, c')) :
    AdvanceError c err ∧ c'.state = c.state ∧ c'.rows = c.rows ∧ c'.summary = c.summary := by
  cases h with
  | released ho => exact ⟨.released ho, rfl, rfl, rfl⟩
  | driverFailed ho hfault => exact ⟨.driver ho hfault, rfl, rfl, rfl⟩
  | shapeRefused ho h hs =>
    exact ⟨.opening ho (not_driverFault_of_set h hs) trivial, rfl, rfl, rfl⟩
  | rowsRefused ho h hs _ _ hwhy =>
    exact ⟨.opening ho (not_driverFault_of_set h hs) hwhy, rfl, rfl, rfl⟩

private theorem coherent_run (hc : c.Coherent) (ops : List Op) : (c.run ops).Coherent := by
  induction ops generalizing c with
  | nil => exact hc
  | cons op ops ih => exact ih (coherent_step hc op)

private theorem run_follows (c : ProcedureCall τ ρ) (ops : List Op) :
    Follows c (c.run ops) (ops.count .next) := by
  induction ops generalizing c with
  | nil => exact ⟨rfl, Nat.le_refl _, Nat.le_refl _, id⟩
  | cons op ops ih =>
    have h := (step_follows c op).trans (ih (c.step op))
    rwa [← List.count_append] at h

/-- Whatever the driver does, a cursor is coherent at any time; it uses its shapes in order, at most
one at each advance, and never comes back to idle. An advance that fails leaves the state, the
current rows and the summary as they were; it fails with the driver's own error exactly if a driver
call failed. -/
theorem cursor_invariant (statement : τ) (shapes : List RecordType) (ops : List Op) :
    let c : ProcedureCall τ ρ := (start statement shapes).run ops
    c.Coherent ∧
    (c.state = .idle → c.rows = none ∧ c.summary = none) ∧
    (∀ more, Follows c (c.run more) (more.count .next)) ∧
    (∀ err, c.next.1 = .error err → AdvanceError c err ∧
      c.next.2.state = c.state ∧ c.next.2.rows = c.rows ∧ c.next.2.summary = c.summary) ∧
    (∀ e s, c.released = false → DriverFault c.statement e s →
      c.next.1 = .error (.database .nextResult e)) := by
  intro c
  have hc : c.Coherent := coherent_run (coherent_start statement shapes) ops
  refine ⟨hc, hc.idle, c.run_follows, fun err herr => ?_, fun e s ho hfault => ?_⟩
  · have hadvance := advance_next c
    rw [show c.next = (.error err, c.next.2) from Prod.ext herr rfl] at hadvance
    exact hadvance.of_error
  · rw [next_of_driverFault ho hfault]

end SqlBinding.ProcedureCall
