import Mathlib.Data.List.Forall2
import SqlBinding.Driver.Scripted
import SqlBinding.Result.RowStream

/-!
# Runs of a row stream

Whatever a result set does, a stream of its rows gives the records of the rows that come first, then
what stops it, an error or nothing, and from then on nothing. Each call asks the result set for one
row as long as the stream was not stopped, and for none afterwards.
-/

namespace SqlBinding

/-- What a result set answers to a number of requests for a row, and the state that they leave. -/
def ResultSet.pull {ρ : Type} [ResultSet ρ] :
    Nat → ρ → List (Except DriverError (Option Row)) × ρ
  | 0, rows => ([], rows)
  | n + 1, rows =>
    let (answer, rows) := ResultSet.nextRow rows
    let (answers, rows) := pull n rows
    (answer :: answers, rows)

namespace RowStream

variable {ρ : Type}

/-- An answer of the result set that the stream turns to a record. -/
def Reads (s : RowStream ρ) (answer : Except DriverError (Option Row)) (record : Record) : Prop :=
  ∃ row, answer = .ok (some row) ∧ s.shape.decode s.places row = .ok record

/-- An answer of the result set that stops the stream, and what the stream gives for it. -/
inductive Stops (s : RowStream ρ) :
    Except DriverError (Option Row) → Option (Except Error Record) → Prop
  | fault (e : DriverError) : Stops s (.error e) (some (.error (.database .iterateRows e)))
  | finished : Stops s (.ok none) none
  | undecodable {row : Row} {e : Error} (h : s.shape.decode s.places row = .error e)
      (kind : e.kind = .application) : Stops s (.ok (some row)) (some (.error e))

variable [ResultSet ρ]

/-- What a stream gives to a number of calls, and the stream that they leave. -/
def run : Nat → RowStream ρ → List (Option (Except Error Record)) × RowStream ρ
  | 0, s => ([], s)
  | n + 1, s =>
    let (item, s) := s.next
    let (items, s) := run n s
    (item :: items, s)

private theorem kind_of_fill_error {shape : RecordType}
    {cells : List (Option Value × Fin shape.fields.length)} {values : List (Option Value)}
    {e : Error} (h : shape.fill cells values = .error e) : e.kind = .application := by
  induction cells generalizing values with
  | nil => cases h
  | cons cell cells ih =>
    obtain ⟨value, i⟩ := cell
    rw [RecordType.fill_cons] at h
    split at h
    · cases h
      rfl
    · exact ih h

private theorem kind_of_decode_error {shape : RecordType} {places : List (Fin shape.fields.length)}
    {row : Row} {e : Error} (h : shape.decode places row = .error e) : e.kind = .application := by
  unfold RecordType.decode at h
  cases hfill : shape.fill (row.zip places) (shape.fields.map fun _ => none) with
  | ok values =>
    rw [hfill] at h
    cases h
  | error e' =>
    rw [hfill] at h
    cases h
    exact kind_of_fill_error hfill

/-- A call of a stream that was not stopped asks for one row, and either reads it or is stopped. -/
theorem next_cases {s : RowStream ρ} (hopen : s.done = false) :
    (∃ answer rows record, ResultSet.nextRow s.rows = (answer, rows) ∧ s.Reads answer record ∧
        s.next = (some (.ok record), { s with rows })) ∨
      ∃ answer rows item, ResultSet.nextRow s.rows = (answer, rows) ∧ s.Stops answer item ∧
        s.next = (item, { s with rows, done := true }) := by
  have hcall : ¬ s.done = true := Bool.eq_false_iff.mp hopen
  unfold next
  rw [if_neg hcall]
  rcases hrow : ResultSet.nextRow s.rows with ⟨e | row?, rows⟩
  · exact .inr ⟨_, rows, _, rfl, .fault e, rfl⟩
  · cases row? with
    | none => exact .inr ⟨_, rows, _, rfl, .finished, rfl⟩
    | some row =>
      cases hdecode : s.shape.decode s.places row with
      | ok record => exact .inl ⟨_, rows, record, rfl, ⟨row, rfl, hdecode⟩, by simp [hdecode]⟩
      | error e =>
        exact .inr ⟨_, rows, _, rfl, .undecodable hdecode (kind_of_decode_error hdecode),
          by simp [hdecode]⟩

private theorem run_of_done {s : RowStream ρ} (h : s.done = true) (n : Nat) :
    s.run n = (List.replicate n none, s) := by
  induction n with
  | zero => rfl
  | succ n ih => simp only [run, next_of_done h, ih, List.replicate_succ]

/-- A number of calls of a stream: either every one has read its row, or one of them was stopped, so
that the ones before it have read theirs and the ones after it ask for nothing. -/
inductive Outlined (s : RowStream ρ) (n : Nat) : Prop
  | reading {answers : List (Except DriverError (Option Row))} {records : List Record} {rows : ρ}
      (pull : ResultSet.pull n s.rows = (answers, rows))
      (reads : List.Forall₂ s.Reads answers records)
      (run : s.run n = (records.map fun r => some (.ok r), { s with rows }))
  | stopped {read silent : Nat} {answers : List (Except DriverError (Option Row))}
      {records : List Record} {last : Except DriverError (Option Row)}
      {item : Option (Except Error Record)} {rows : ρ} (calls : n = read + 1 + silent)
      (pull : ResultSet.pull (read + 1) s.rows = (answers ++ [last], rows))
      (reads : List.Forall₂ s.Reads answers records) (stops : s.Stops last item)
      (run : s.run n = ((records.map fun r => some (.ok r)) ++ item :: List.replicate silent none,
        { s with rows, done := true }))

section

variable {s s₁ : RowStream ρ} {answer : Except DriverError (Option Row)} {rows rows₁ : ρ}

private theorem pull_succ (h : ResultSet.nextRow rows = (answer, rows₁)) (n : Nat) :
    ResultSet.pull (n + 1) rows =
      (answer :: (ResultSet.pull n rows₁).1, (ResultSet.pull n rows₁).2) := by
  rw [ResultSet.pull, h]

private theorem run_succ {item : Option (Except Error Record)} (h : s.next = (item, s₁)) (n : Nat) :
    s.run (n + 1) = (item :: (s₁.run n).1, (s₁.run n).2) := by
  rw [run, h]

private theorem Outlined.cons {n : Nat} {record : Record}
    (hrow : ResultSet.nextRow s.rows = (answer, rows)) (hread : s.Reads answer record)
    (hnext : s.next = (some (.ok record), { s with rows })) (h : Outlined { s with rows } n) :
    Outlined s (n + 1) := by
  cases h with
  | @reading answers records rows' pull reads run =>
    have hpull : ResultSet.pull (n + 1) s.rows = (answer :: answers, rows') := by
      rw [pull_succ hrow, pull]
    have hrun : s.run (n + 1) =
        ((record :: records).map fun r => some (.ok r), { s with rows := rows' }) := by
      rw [run_succ hnext, run]
      rfl
    exact .reading hpull (.cons hread reads) hrun
  | @stopped read silent answers records last item rows' calls pull reads stops run =>
    have hcalls : n + 1 = read + 1 + 1 + silent := by omega
    have hpull : ResultSet.pull (read + 1 + 1) s.rows =
        (answer :: answers ++ [last], rows') := by
      rw [pull_succ hrow, pull]
      rfl
    have hrun : s.run (n + 1) =
        (((record :: records).map fun r => some (.ok r)) ++ item :: List.replicate silent none,
          { s with rows := rows', done := true }) := by
      rw [run_succ hnext, run]
      rfl
    have hstops : s.Stops last item := by
      cases stops with
      | fault e => exact .fault e
      | finished => exact .finished
      | undecodable h kind => exact .undecodable h kind
    exact .stopped hcalls hpull (.cons hread reads) hstops hrun

private theorem Outlined.first {item : Option (Except Error Record)}
    (hrow : ResultSet.nextRow s.rows = (answer, rows)) (hstop : s.Stops answer item)
    (hnext : s.next = (item, { s with rows, done := true })) (n : Nat) : Outlined s (n + 1) := by
  have hcalls : n + 1 = 0 + 1 + n := by omega
  have hpull : ResultSet.pull (0 + 1) s.rows = ([] ++ [answer], rows) := by
    rw [pull_succ hrow]
    rfl
  have hrun : s.run (n + 1) =
      (([] : List Record).map (fun r => some (.ok r)) ++ item :: List.replicate n none,
        { s with rows, done := true }) := by
    rw [run_succ hnext, run_of_done rfl]
    rfl
  exact .stopped hcalls hpull .nil hstop hrun

/-- The induction is on the number of calls: the first of them either reads its row, and leaves a
stream that was not stopped either, or stops the stream for good. -/
theorem outlined (hopen : s.done = false) (n : Nat) : s.Outlined n := by
  induction n generalizing s with
  | zero => exact .reading rfl .nil rfl
  | succ n ih =>
    rcases next_cases hopen with
      ⟨answer, rows, record, hrow, hread, hnext⟩ | ⟨answer, rows, item, hrow, hstop, hnext⟩
    · exact .cons hrow hread hnext (ih hopen)
    · exact .first hrow hstop hnext n

end

/-- A stream that was opened gives records as long as its result set gives rows that can be decoded,
then at most one error, and nothing from then on, and asks for one row with each call until it is
stopped. -/
theorem stream_yields_longest_prefix {shape : RecordType} {rows : ρ} {s : RowStream ρ}
    (h : start shape rows = .ok s) (n : Nat) : s.rows = rows ∧ s.Outlined n := by
  unfold start at h
  cases hplaces : shape.places (ResultSet.columns rows) with
  | error e =>
    rw [hplaces] at h
    cases h
  | ok places =>
    rw [hplaces] at h
    cases h
    exact ⟨rfl, outlined rfl n⟩

/-- A result set that fails between two rows: the second one is not asked for any more. -/
theorem stream_yields_longest_prefix_fault :
    let columns : List Column := [⟨"id", .integer, true⟩]
    let lost : DriverError := { message := "connection lost" }
    let rows : ScriptedRows := ⟨columns, [[some (.int 1)], [some (.int 2)]], some (1, lost), 0⟩
    let s : RowStream ScriptedRows :=
      { shape := inferShape columns, places := [⟨0, by decide⟩], rows }
    start (inferShape columns) rows = .ok s ∧ (s.rows = rows ∧ s.Outlined 4) ∧
      s.run 4 = ([some (.ok ⟨inferShape columns, [⟨"id", some (.int 1)⟩]⟩),
        some (.error (.database .iterateRows lost)), none, none],
        { s with rows := ⟨columns, [[some (.int 2)]], some (1, lost), 2⟩, done := true }) := by
  intro columns lost rows s
  have h : start (inferShape columns) rows = .ok s := by with_unfolding_all rfl
  exact ⟨h, stream_yields_longest_prefix h 4, by with_unfolding_all rfl⟩

end RowStream

end SqlBinding
