import Mathlib.Data.List.Basic
import SqlBinding.Driver.Buffered
import SqlBinding.Proofs.Result.CursorRun

/-!
# The cursor of a buffered statement

Over a buffered statement the advance with a number depends on that number alone: it opens the
result set with the number in the shape with the number, or gives the summary when there is no such
result set. What the caller did with the rows in between, and whether earlier advances failed, has
no part in it.
-/

namespace SqlBinding.ProcedureCall

open CallableStatement

structure View where
  rows : Option (RowStream BufferedResultSet)
  summary : Option ExecutionSummary
  state : CursorState

def view (c : ProcedureCall BufferedCallable BufferedResultSet) : View :=
  ⟨c.rows, c.summary, c.state⟩

/-- The shape for the result set with a number. -/
def shapeAt (shapes : List RecordType) (i : Nat) (columns : List Column) : Option RecordType :=
  if shapes = [] then some (inferShape columns) else shapes[i]?

/-- What the advance with a number answers, and what is seen after it. -/
def advanceAt (rs : List BufferedResultSet) (shapes : List RecordType) (summary : ExecutionSummary)
    (i : Nat) (seen : View) : Except Error Bool × View :=
  match rs[i]? with
  | none => (.ok false, ⟨none, some summary, .executionSummary⟩)
  | some set =>
    match shapeAt shapes i set.columns with
    | none => (.error (.refused (.advancing .shapeCount)), seen)
    | some shape =>
      match RowStream.start shape set with
      | .error e => (.error (advanceError e), seen)
      | .ok rows => (.ok true, ⟨some rows, none, .resultAvailable⟩)

structure At (rs : List BufferedResultSet) (shapes : List RecordType) (summary : ExecutionSummary)
    (i : Nat) (c : ProcedureCall BufferedCallable BufferedResultSet) : Prop where
  pending : c.statement.pending = rs.drop i
  summary_eq : c.statement.summary = summary
  unclosed : c.statement.closed = false
  unreleased : c.released = false
  shapes_eq : c.shapes = shapes
  shapeIndex : c.shapeIndex = min i (min rs.length shapes.length)

variable {rs : List BufferedResultSet} {shapes : List RecordType} {summary : ExecutionSummary}
  {i : Nat} {c : ProcedureCall BufferedCallable BufferedResultSet} {set : BufferedResultSet}

private theorem at_start : At rs shapes summary 0 (start { pending := rs, summary } shapes) where
  pending := rfl
  summary_eq := rfl
  unclosed := rfl
  unreleased := rfl
  shapes_eq := rfl
  shapeIndex := (Nat.zero_min _).symm

/-- The shape that is next when a result set comes up is the one with the number of that set. -/
private theorem nextShape_min (shapes : List RecordType) {n : Nat} (hi : i < n)
    (columns : List Column) :
    nextShape shapes (min i (min n shapes.length)) columns =
      match shapeAt shapes i columns with
      | none => .error (.refused .shapeCount)
      | some shape => .ok (shape, min (i + 1) (min n shapes.length)) := by
  unfold nextShape shapeAt
  by_cases hempty : shapes = []
  · subst hempty
    simp
  · rw [if_neg (by simpa using hempty), if_neg hempty]
    by_cases hlt : i < shapes.length
    · have hindex : min i (min n shapes.length) = i := by omega
      have hnext : min (i + 1) (min n shapes.length) = i + 1 := by omega
      rw [hindex, hnext, List.getElem?_eq_getElem hlt]
    · have hindex : min i (min n shapes.length) = shapes.length := by omega
      have hpast : shapes[i]? = none := List.getElem?_eq_none (Nat.le_of_not_lt hlt)
      rw [hindex, hpast, List.getElem?_eq_none (Nat.le_refl _)]

private theorem min_succ_of_shapeAt_none {n : Nat} (hi : i < n) {columns : List Column}
    (h : shapeAt shapes i columns = none) :
    min i (min n shapes.length) = min (i + 1) (min n shapes.length) := by
  unfold shapeAt at h
  split at h
  · cases h
  · have hlen := List.getElem?_eq_none_iff.mp h
    omega

private theorem At.next_of_none (h : At rs shapes summary i c) (hi : rs[i]? = none) :
    c.next = (.ok false, { c with
      statement := { pending := rs.drop (i + 1), summary }
      rows := none, summary := some summary, state := .executionSummary }) := by
  have hle := List.getElem?_eq_none_iff.mp hi
  have hnow : c.statement.pending = [] := h.pending.trans (List.drop_eq_nil_of_le hle)
  have hlater : rs.drop (i + 1) = [] := List.drop_eq_nil_of_le (Nat.le_succ_of_le hle)
  simp [next, finish, nextResult, executionSummary, BufferedCallable.next,
    BufferedCallable.summarize, h.unreleased, h.unclosed, h.summary_eq, hnow, hlater]

private theorem At.next_of_some (h : At rs shapes summary i c) (hi : rs[i]? = some set) :
    c.next = openRows { c with
      statement := { pending := rs.drop (i + 1), current := some set, summary } } := by
  obtain ⟨hlt, hget⟩ := List.getElem?_eq_some_iff.mp hi
  have hnow : c.statement.pending = set :: rs.drop (i + 1) := by
    rw [h.pending, List.drop_eq_getElem_cons hlt, hget]
  simp [next, nextResult, BufferedCallable.next, h.unreleased, h.unclosed, h.summary_eq, hnow]

/-- One advance does what its number says, and leaves the cursor advanced once more. -/
private theorem At.advance (h : At rs shapes summary i c) :
    (c.next.1, c.next.2.view) = advanceAt rs shapes summary i c.view ∧
      At rs shapes summary (i + 1) c.next.2 := by
  unfold advanceAt
  cases hi : rs[i]? with
  | none =>
    have hle := List.getElem?_eq_none_iff.mp hi
    have hindex : c.shapeIndex = min (i + 1) (min rs.length shapes.length) := by
      rw [h.shapeIndex]
      omega
    rw [h.next_of_none hi]
    exact ⟨rfl, rfl, rfl, rfl, h.unreleased, h.shapes_eq, hindex⟩
  | some set =>
    have hlt := (List.getElem?_eq_some_iff.mp hi).1
    have hshape := nextShape_min shapes hlt set.columns
    rw [← h.shapeIndex] at hshape
    have htake (rest : List BufferedResultSet) :
        BufferedCallable.take { pending := rest, current := some set, summary } =
          (.ok set, { pending := rest, summary }) := rfl
    rw [h.next_of_some hi, openRows]
    simp only [resultSet, htake, ResultSet.columns, h.shapes_eq, hshape]
    cases hat : shapeAt shapes i set.columns with
    | none =>
      have hindex := h.shapeIndex.trans (min_succ_of_shapeAt_none hlt hat)
      exact ⟨rfl, rfl, rfl, rfl, h.unreleased, rfl, hindex⟩
    | some shape =>
      dsimp only
      cases RowStream.start shape set with
      | error e => exact ⟨rfl, rfl, rfl, rfl, h.unreleased, rfl, rfl⟩
      | ok rows => exact ⟨rfl, rfl, rfl, rfl, h.unreleased, rfl, rfl⟩

private theorem at_step (h : At rs shapes summary i c) {op : Op} (hop : op ≠ .close) :
    At rs shapes summary (i + [op].count .next) (c.step op) := by
  cases op with
  | next => exact h.advance.2
  | nextRow =>
    rw [step_nextRow]
    exact { h with }
  | takeRows => exact { h with }
  | close => exact absurd rfl hop

private theorem at_run (h : At rs shapes summary i c) {ops : List Op} (hopen : .close ∉ ops) :
    At rs shapes summary (i + ops.count .next) (c.run ops) := by
  induction ops generalizing i c with
  | nil => exact h
  | cons op ops ih =>
    rw [List.mem_cons, not_or] at hopen
    have hrun := ih (at_step h (Ne.symm hopen.1)) hopen.2
    rwa [Nat.add_assoc, ← List.count_append] at hrun

/-- What the rows of a result set are refused for is told after the words of the advance. -/
private theorem advanceError_of_start {shape : RecordType} {e : Error}
    (h : RowStream.start shape set = .error e) :
    (advanceError e).kind = .application ∧
      (advanceError e).message = DriverAction.nextResult.text ++ " " ++ e.message := by
  obtain ⟨why, rfl, -⟩ := RowStream.start_error h
  exact ⟨rfl, rfl⟩

/-- After any operations but a close the next advance does what its number says, whatever came of
the earlier ones, and a result set that does not suit its shape is told with the words of the
advance. The number of shapes used is that of the result sets that came up, as far as there are
shapes. -/
theorem buffered_run_law (rs : List BufferedResultSet) (shapes : List RecordType)
    (summary : ExecutionSummary) {ops : List Op} (hopen : .close ∉ ops) :
    let c : ProcedureCall BufferedCallable BufferedResultSet :=
      (start { pending := rs, summary } shapes).run ops
    let i := ops.count .next
    (c.next.1, c.next.2.view) = advanceAt rs shapes summary i c.view ∧
    c.shapeIndex = min i (min rs.length shapes.length) ∧
    (∀ set shape e, rs[i]? = some set → shapeAt shapes i set.columns = some shape →
      RowStream.start shape set = .error e →
      ∃ err, c.next.1 = .error err ∧ err.kind = .application ∧
        err.message = DriverAction.nextResult.text ++ " " ++ e.message) := by
  intro c i
  have h : At rs shapes summary i c := by
    have hrun := at_run (@at_start rs shapes summary) hopen
    rwa [Nat.zero_add] at hrun
  refine ⟨h.advance.1, h.shapeIndex, fun set shape e hset hshape hrows => ?_⟩
  have hanswer := congrArg Prod.fst h.advance.1
  simp only [advanceAt, hset, hshape, hrows] at hanswer
  exact ⟨_, hanswer, advanceError_of_start hrows⟩

/-- The rows of the first result set were taken, and there is no shape for the second. -/
theorem buffered_run_law_second :
    let shapes : List RecordType := [⟨"item", [⟨"id", .int, false⟩]⟩]
    let items : BufferedResultSet := ⟨[⟨"ID", .integer, true⟩], [[some (.int 7)]]⟩
    let c : ProcedureCall BufferedCallable BufferedResultSet :=
      (start { pending := [items, items] } shapes).run [.next, .nextRow, .takeRows]
    c.state = .resultAvailable ∧ c.shapeIndex = 1 ∧
      c.next.1 = .error (.refused (.advancing .shapeCount)) ∧ c.next.2.view = c.view := by
  intro shapes items c
  obtain ⟨hnext, hindex, -⟩ := buffered_run_law [items, items] shapes {}
    (show .close ∉ [Op.next, .nextRow, .takeRows] by decide)
  exact ⟨by decide +kernel, hindex, congrArg Prod.fst hnext, congrArg Prod.snd hnext⟩

end SqlBinding.ProcedureCall
