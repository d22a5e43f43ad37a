import SqlBinding.Proofs.Driver.BufferedResults
import SqlBinding.Proofs.Postgres.GatheredResults
import SqlBinding.Proofs.Result.RowDecoding
import SqlBinding.Proofs.Struct.ValueKinds

/-!
# Cells in the fields of their columns

The type of a column tells the kind of the field that its cells come to stand in, and how a cell is
read. Both agree for every type but one: a time with a zone is a time by its column and a text by
its cells. Nothing looks at the values again, so they stand in the rows of a call as they were read.
-/

namespace SqlBinding

mutual

private theorem FieldKind.eq_of_same : ∀ {k l : FieldKind}, k.same l = true → k = l
  | .array a, l, h => by
    cases l with
    | array b =>
      rw [FieldKind.same] at h
      rw [FieldKind.eq_of_same h]
    | _ => simp [FieldKind.same] at h
  | .record s, l, h => by
    cases l with
    | record t =>
      rw [FieldKind.same] at h
      rw [RecordType.eq_of_same h]
    | _ => simp [FieldKind.same] at h
  | .other a, l, h => by
    cases l with
    | other b =>
      rw [FieldKind.same] at h
      rw [beq_iff_eq.mp h]
    | _ => simp [FieldKind.same] at h
  | .int, l, h | .float, l, h | .decimal, l, h | .text, l, h | .boolean, l, h | .bytes, l, h
  | .binaryArray, l, h | .date, l, h | .time, l, h | .timestamp, l, h => by
    cases l <;> first | rfl | simp [FieldKind.same] at h

private theorem RecordType.eq_of_same : ∀ {s t : RecordType}, s.same t = true → s = t
  | ⟨a, fs⟩, ⟨b, gs⟩, h => by
    rw [RecordType.same] at h
    obtain ⟨hname, hfields⟩ := Bool.and_eq_true_iff.mp h
    rw [beq_iff_eq.mp hname, Field.eq_of_sameAll hfields]

private theorem Field.eq_of_same : ∀ {f g : Field}, f.same g = true → f = g
  | ⟨a, k, m⟩, ⟨b, l, n⟩, h => by
    rw [Field.same] at h
    obtain ⟨h, hnullable⟩ := Bool.and_eq_true_iff.mp h
    obtain ⟨hname, hkind⟩ := Bool.and_eq_true_iff.mp h
    rw [beq_iff_eq.mp hname, FieldKind.eq_of_same hkind, beq_iff_eq.mp hnullable]

private theorem Field.eq_of_sameAll : ∀ {fs gs : List Field}, Field.sameAll fs gs = true → fs = gs
  | [], [], _ => rfl
  | [], _ :: _, h | _ :: _, [], h => by simp [Field.sameAll] at h
  | f :: fs, g :: gs, h => by
    rw [Field.sameAll] at h
    obtain ⟨hfirst, hrest⟩ := Bool.and_eq_true_iff.mp h
    rw [Field.eq_of_same hfirst, Field.eq_of_sameAll hrest]

end

namespace Postgres

/-- The kind of the values that a cell of a format is read as. -/
def CellFormat.kind : CellFormat → FieldKind
  | int2 | int4 | int8 => .int
  | float4 | float8 => .float
  | numeric => .decimal
  | bool => .boolean
  | bytea => .bytes
  | date => .date
  | time => .time
  | timestamp | timestamptz => .timestamp
  | text => .text

private theorem CellFormat.suits_of_read {format : CellFormat} {content : format.Content}
    {v : Value}
    (h : format.read content = .ok v) : v.Suits format.kind := by
  cases format with
  | int2 | int4 | int8 | float4 | float8 | bool | bytea =>
    cases h
    exact .plain rfl
  | numeric =>
    cases content with
    | none => cases h
    | some d =>
      cases h
      exact .plain rfl
  | date =>
    cases h
    exact .date _
  | time =>
    cases h
    exact .timeOfDay _
  | timestamp =>
    cases h
    exact .civil _
  | timestamptz =>
    cases h
    exact .utc _
  | text =>
    rw [CellFormat.read] at h
    split at h
    · cases h
      exact .plain rfl
    · cases h

private theorem not_suits_time_of_text {content : CellFormat.text.Content} {v : Value}
    (h : CellFormat.text.read content = .ok v) : ¬ v.Suits .time := by
  rw [CellFormat.read] at h
  split at h
  · cases h
    intro hsuits
    cases hsuits with
    | plain hadmits => cases hadmits
  · cases h

/-- The types of columns and the formats of cells are two tables by the name of a type. -/
private theorem fieldKind_sqlTypeOf {typeName : String} (h : typeName ≠ "TIMETZ") :
    (sqlTypeOf typeName).fieldKind = (CellFormat.ofTypeName typeName).kind ∨
      (sqlTypeOf typeName).fieldKind = .other typeName := by
  unfold sqlTypeOf
  split <;> first | exact .inl rfl | exact .inr rfl | exact absurd rfl h

section

variable {typeName : String} {content : (CellFormat.ofTypeName typeName).Content} {v : Value}

private theorem suits_fieldKind_iff (h : (CellFormat.ofTypeName typeName).read content = .ok v) :
    v.Suits (sqlTypeOf typeName).fieldKind ↔ typeName ≠ "TIMETZ" := by
  constructor
  · rintro hsuits rfl
    exact not_suits_time_of_text h hsuits
  · intro hname
    rcases fieldKind_sqlTypeOf hname with hkind | hkind
    · rw [hkind]
      exact CellFormat.suits_of_read h
    · rw [hkind]
      exact .other v typeName

/-- A field takes a column of a server if it is of the kind that the column tells, or of one that
takes every column. The server has no columns of structs or arrays. -/
private theorem eq_fieldKind_of_takes {kind : FieldKind}
    (h : kind.takes (sqlTypeOf typeName) = true) :
    kind = (sqlTypeOf typeName).fieldKind ∨ ∃ name, kind = .other name := by
  have hstruct : sqlTypeOf typeName ≠ .struct := by
    unfold sqlTypeOf
    split <;> nofun
  have harray : sqlTypeOf typeName ≠ .array := by
    unfold sqlTypeOf
    split <;> nofun
  unfold FieldKind.takes at h
  split at h
  · exact .inr ⟨_, rfl⟩
  · next htype => exact absurd htype hstruct
  · next htype => exact absurd htype harray
  · next htype => exact absurd htype harray
  · exact .inl (FieldKind.eq_of_same h).symm

private theorem suits_iff_of_takes {kind : FieldKind}
    (htakes : kind.takes (sqlTypeOf typeName) = true)
    (h : (CellFormat.ofTypeName typeName).read content = .ok v) :
    v.Suits kind ↔ ¬ (kind = .time ∧ typeName = "TIMETZ") := by
  rcases eq_fieldKind_of_takes htakes with rfl | ⟨name, rfl⟩
  · rw [suits_fieldKind_iff h]
    constructor
    · rintro hname ⟨-, rfl⟩
      exact hname rfl
    · rintro hnot rfl
      exact hnot ⟨rfl, rfl⟩
  · refine iff_of_true (.other v name) ?_
    rintro ⟨hkind, -⟩
    cases hkind

end

private theorem forall₂_of_readCells {index : Nat} {cells : List Cell} {row : Row}
    (h : readCells index cells = .ok row) :
    List.Forall₂ (fun cell v => cell.read = .ok v) cells row := by
  induction cells generalizing index row with
  | nil =>
    cases h
    exact .nil
  | cons cell cells ih =>
    rw [readCells] at h
    cases hfirst : cell.read with
    | error fault =>
      rw [hfirst] at h
      cases h
    | ok v =>
      cases hrest : readCells (index + 1) cells with
      | error e =>
        rw [hfirst, hrest] at h
        cases h
      | ok rest =>
        rw [hfirst, hrest] at h
        cases h
        exact .cons hfirst (ih hrest)

/-- The rows between two completions have the columns of the first of them, as a server sends
them. -/
def Steady (items : List StreamItem) : Prop :=
  ∀ run ∈ runs items, ∀ first, run.head? = some first →
    ∀ cells ∈ run, cells.map Cell.toColumn = first.map Cell.toColumn

private theorem steady_single (cells : List Cell) (n : Nat) : Steady [.row cells, .done n] := by
  have hruns : runs [.row cells, .done n] = [[cells]] := by simp [runs]
  intro run hrun first hfirst row hrow
  rw [hruns, List.mem_singleton] at hrun
  subst hrun
  cases hfirst
  rw [List.mem_singleton.mp hrow]

/-- Every row of a result set was sent, under the columns of the set. -/
def SentRows (items : List StreamItem) (set : BufferedResultSet) : Prop :=
  ∀ row ∈ set.rows, ∃ cells, .row cells ∈ items ∧ set.columns = cells.map Cell.toColumn ∧
    Reads cells row

private theorem sentRows_of_madeOf {items : List StreamItem} {run : List (List Cell)}
    {set : BufferedResultSet} (hsteady : Steady items) (hrun : run ∈ runs items)
    (h : MadeOf run set) : SentRows items set := by
  intro row hrow
  obtain ⟨first, hfirst, hcolumns⟩ := h.columns
  obtain ⟨cells, hcells, hreads⟩ := exists_mem_of_forall₂ h.rows hrow
  have hsent : cells ∈ items.filterMap StreamItem.cells? := by
    rw [← flatten_runs]
    exact List.mem_flatten.mpr ⟨run, hrun, hcells⟩
  obtain ⟨item, hitem, hrow⟩ := List.mem_filterMap.mp hsent
  refine ⟨cells, ?_, hcolumns.trans (hsteady run hrun first hfirst cells hcells).symm, hreads⟩
  cases item with
  | row _ =>
    cases hrow
    exact hitem
  | done _ | failed _ => cases hrow

private theorem sentRows_of_gather {items : List StreamItem} {statement : BufferedCallable}
    (hsteady : Steady items) (h : gather items = .ok statement) :
    ∀ set ∈ statement.left, SentRows items set := by
  have hread : ∀ item ∈ items, item.Readable := by
    intro item hitem
    by_contra hunread
    obtain ⟨e, he⟩ := not_forall_not.mp hunread
    obtain ⟨before, first, after, e', rfl, hbefore, hfirst⟩ :=
      exists_first_fails ⟨item, hitem, e, he⟩
    rw [gather_of_fails hbefore hfirst] at h
    cases h
  obtain ⟨sets, hgather, hmade⟩ := gather_of_readable hread
  rw [hgather] at h
  cases h
  intro set hset
  obtain ⟨run, hrun, hrows⟩ := exists_mem_of_forall₂ hmade hset
  exact sentRows_of_madeOf hsteady hrun hrows

end Postgres

section

variable {P : BufferedResultSet → Prop}

/-- A stream gives rows of a set with a property, under the columns of the set. -/
def RowStream.SetSatisfies (P : BufferedResultSet → Prop) (s : RowStream BufferedResultSet) :
    Prop :=
  ∃ set, P set ∧ s.shape.places set.columns = .ok s.places ∧ s.rows.rows ⊆ set.rows

private theorem BufferedResultSet.nextRow_subset {rows rows' : BufferedResultSet}
    {answer : Except DriverError (Option Row)} (h : ResultSet.nextRow rows = (answer, rows')) :
    rows'.rows ⊆ rows.rows ∧ ∀ row, answer = .ok (some row) → row ∈ rows.rows := by
  obtain ⟨columns, rows⟩ := rows
  cases rows with
  | nil =>
    cases h
    exact ⟨List.Subset.refl _, nofun⟩
  | cons row rows =>
    cases h
    exact ⟨List.subset_cons_self row rows, fun _ hrow => by cases hrow; exact List.mem_cons_self⟩

namespace RowStream

variable {s : RowStream BufferedResultSet}

private theorem SetSatisfies.next (h : s.SetSatisfies P) : s.next.2.SetSatisfies P := by
  obtain ⟨set, hset, hplaces, hrows⟩ := h
  cases hdone : s.done with
  | true =>
    rw [next_of_done hdone]
    exact ⟨set, hset, hplaces, hrows⟩
  | false =>
    rcases next_cases hdone with ⟨_, _, _, hrow, -, hnext⟩ | ⟨_, _, _, hrow, -, hnext⟩
    · rw [hnext]
      exact ⟨set, hset, hplaces,
        List.Subset.trans (BufferedResultSet.nextRow_subset hrow).1 hrows⟩
    · rw [hnext]
      exact ⟨set, hset, hplaces,
        List.Subset.trans (BufferedResultSet.nextRow_subset hrow).1 hrows⟩

private theorem SetSatisfies.run (h : s.SetSatisfies P) (n : Nat) : (s.run n).2.SetSatisfies P := by
  induction n generalizing s with
  | zero => exact h
  | succ n ih => exact ih h.next

private theorem setSatisfies_start {shape : RecordType} {rows : BufferedResultSet} (hP : P rows)
    (h : start shape rows = .ok s) : s.SetSatisfies P := by
  obtain ⟨places, hplaces, rfl⟩ := start_ok_iff.mp h
  exact ⟨rows, hP, hplaces, List.Subset.refl _⟩

private theorem SetSatisfies.exists_row (h : s.SetSatisfies P) {record : Record}
    (hrecord : s.next.1 = some (.ok record)) :
    ∃ set, P set ∧ s.shape.places set.columns = .ok s.places ∧ ∃ row ∈ set.rows,
      s.shape.decode s.places row = .ok record := by
  obtain ⟨set, hset, hplaces, hrows⟩ := h
  have hyields : Yields record s s.next.2 := Prod.ext hrecord rfl
  obtain ⟨-, row, rows', hgives, hdecode, -⟩ := yields_iff.mp hyields
  exact ⟨set, hset, hplaces, row, hrows ((BufferedResultSet.nextRow_subset hgives).2 row rfl),
    hdecode⟩

end RowStream

namespace BufferedCallable

variable {b : BufferedCallable}

private theorem left_step_subset (b : BufferedCallable) (call : StatementCall) :
    (b.step call).left ⊆ b.left :=
  ((List.sublist_append_right _ _).trans (sublist_left b call)).subset

private theorem mem_left_of_take {set : BufferedResultSet} {b' : BufferedCallable}
    (h : b.take = (.ok set, b')) : set ∈ b.left := by
  have hhanded : b.handed .resultSet = some set := by rw [handed, h]; rfl
  refine ((List.sublist_append_left _ _).trans (sublist_left b .resultSet)).subset ?_
  rw [hhanded]
  exact List.mem_singleton_self set

end BufferedCallable

namespace ProcedureCall

open CallableStatement

variable {b b' : BufferedCallable} {c : ProcedureCall BufferedCallable BufferedResultSet}

private theorem left_of_nextResult {answer : Except DriverError Bool}
    (h : nextResult b = (answer, b')) : b'.left ⊆ b.left := by
  obtain rfl : b' = b.step .nextResult := (congrArg Prod.snd h).symm
  exact b.left_step_subset .nextResult

private theorem left_of_resultSet {answer : Except DriverError BufferedResultSet}
    (h : resultSet b = (answer, b')) : b'.left ⊆ b.left := by
  obtain rfl : b' = b.step .resultSet := (congrArg Prod.snd h).symm
  exact b.left_step_subset .resultSet

private theorem left_of_executionSummary {answer : Except DriverError ExecutionSummary}
    (h : executionSummary b = (answer, b')) : b'.left ⊆ b.left := by
  obtain rfl : b' = b.step .executionSummary := (congrArg Prod.snd h).symm
  exact b.left_step_subset .executionSummary

private theorem DriverFault.left {e : DriverError} (h : DriverFault b e b') : b'.left ⊆ b.left := by
  cases h with
  | move h => exact left_of_nextResult h
  | summary h hs => exact List.Subset.trans (left_of_executionSummary hs) (left_of_nextResult h)
  | set h hs => exact List.Subset.trans (left_of_resultSet hs) (left_of_nextResult h)

/-- A record that the caller may come to read: after anything that was done with the cursor and with
the rows it stands on. -/
def Gives (c : ProcedureCall BufferedCallable BufferedResultSet) (record : Record) : Prop :=
  ∃ ops s n, (c.run ops).rows = some s ∧ (s.run n).2.next.1 = some (.ok record)

/-- The sets that a cursor is still to open have a property, and so has the one that it reads. -/
structure SetsSatisfy (P : BufferedResultSet → Prop)
    (c : ProcedureCall BufferedCallable BufferedResultSet) : Prop where
  left : ∀ set ∈ c.statement.left, P set
  rows : ∀ s, c.rows = some s → s.SetSatisfies P

private theorem SetsSatisfy.advance (h : SetsSatisfy P c)
    {r : Except Error Bool × ProcedureCall BufferedCallable BufferedResultSet}
    (hr : Advance c r) : SetsSatisfy P r.2 := by
  have hkept : ∀ {b : BufferedCallable}, b.left ⊆ c.statement.left → ∀ set ∈ b.left, P set :=
    fun hsub set hset => h.left set (hsub hset)
  cases hr with
  | released => exact h
  | driverFailed _ hfault => exact ⟨hkept hfault.left, h.rows⟩
  | finished _ hnext hs =>
    exact ⟨hkept (List.Subset.trans (left_of_executionSummary hs) (left_of_nextResult hnext)),
      nofun⟩
  | shapeRefused _ hnext hs =>
    exact ⟨hkept (List.Subset.trans (left_of_resultSet hs) (left_of_nextResult hnext)), h.rows⟩
  | rowsRefused _ hnext hs =>
    exact ⟨hkept (List.Subset.trans (left_of_resultSet hs) (left_of_nextResult hnext)), h.rows⟩
  | opened _ hnext hs _ hrows =>
    refine ⟨hkept (List.Subset.trans (left_of_resultSet hs) (left_of_nextResult hnext)), ?_⟩
    rintro _ ⟨⟩
    refine RowStream.setSatisfies_start ?_ hrows
    exact h.left _ (left_of_nextResult hnext (BufferedCallable.mem_left_of_take hs))

private theorem SetsSatisfy.step (h : SetsSatisfy P c) (op : Op) : SetsSatisfy P (c.step op) := by
  cases op with
  | next => exact h.advance (advance_next c)
  | nextRow =>
    rw [step_nextRow]
    refine ⟨h.left, fun s hs => ?_⟩
    obtain ⟨s', hs', rfl⟩ := Option.map_eq_some_iff.mp hs
    exact (h.rows s' hs').next
  | takeRows => exact ⟨h.left, nofun⟩
  | close =>
    obtain ⟨statement, released, shapes, shapeIndex, rows, summary, state⟩ := c
    cases released with
    | true => exact ⟨h.left, nofun⟩
    | false => exact ⟨nofun, nofun⟩

private theorem SetsSatisfy.run (h : SetsSatisfy P c) (ops : List Op) :
    SetsSatisfy P (c.run ops) := by
  induction ops generalizing c with
  | nil => exact h
  | cons op ops ih => exact ih (h.step op)

end ProcedureCall

end

private theorem RecordType.Decodes.exists_cell {shape : RecordType}
    {cells : List (Column × Option Value)} {record : Record} (h : shape.Decodes cells record)
    {i : Fin shape.fields.length} {v : Value}
    (hv : (record.entries.map (·.value))[i.val]? = some (some v)) :
    ∃ c, (c, some v) ∈ cells ∧ shape.LeadsTo c i := by
  by_cases hled : ∃ cell ∈ cells, shape.LeadsTo cell.1 i
  · obtain ⟨cell, hcell, hleads⟩ := hled
    obtain ⟨before, ⟨c, value⟩, after, rfl, hlast, hafter⟩ :=
      exists_last_of_mem (P := fun cell => shape.LeadsTo cell.1 i) hcell hleads
    have hvalue := h.matched rfl hlast hafter
    rw [hv, Option.some.injEq] at hvalue
    subst hvalue
    exact ⟨c, by simp, hlast⟩
  · have hnone := h.unmatched (i := i) fun cell hcell hleads => hled ⟨cell, hcell, hleads⟩
    rw [hv] at hnone
    cases hnone

namespace Postgres

private theorem Cell.exists_content {cell : Cell} {v : Value} (h : cell.read = .ok (some v)) :
    ∃ content, (CellFormat.ofTypeName cell.typeName).read content = .ok v := by
  obtain ⟨column, typeName, content⟩ := cell
  cases content with
  | none => cases h
  | some content =>
    change some <$> (CellFormat.ofTypeName typeName).read content = .ok (some v) at h
    cases hread : (CellFormat.ofTypeName typeName).read content with
    | error fault =>
      rw [hread] at h
      cases h
    | ok u =>
      rw [hread] at h
      cases h
      exact ⟨content, hread⟩

section

variable {shape : RecordType} {cells : List Cell} {row : Row} {columns : List Column}
  {places : List (Fin shape.fields.length)} {record : Record}
  {i : Fin record.type.fields.length} {v : Value}

private theorem exists_cell_of_decode
    (hplaces : shape.places (cells.map Cell.toColumn) = .ok places)
    (hreads : Reads cells row) (hdecode : shape.decode places row = .ok record)
    (hv : (record.entries.map (·.value))[i.val]? = some (some v)) :
    ∃ cell ∈ cells, cell.read = .ok (some v) ∧ record.type.LeadsTo cell.toColumn i ∧
      (record.type.fields.get i).kind.takes (sqlTypeOf cell.typeName) = true := by
  have hall := forall₂_of_readCells hreads
  have hlen : row.length = (cells.map Cell.toColumn).length := by
    rw [List.length_map, hall.length_eq]
  have hrecord := (RecordType.rowLaw_decode hplaces hlen).decodes (congrArg some hdecode)
  obtain rfl := hrecord.type
  obtain ⟨c, hc, hleads⟩ := hrecord.exists_cell hv
  rw [List.zip_map_left] at hc
  obtain ⟨⟨cell, value⟩, hcell, hsame⟩ := List.mem_map.mp hc
  cases hsame
  have hmem := (List.of_mem_zip hcell).1
  obtain ⟨j, hj, htakes⟩ := RecordType.exists_places_iff.mp ⟨places, hplaces⟩ cell.toColumn
    (List.mem_map_of_mem hmem)
  obtain rfl := hj.unique hleads
  exact ⟨cell, hmem, (List.forall₂_iff_zip.mp hall).2 hcell, hleads, htakes⟩

end

section

variable {arith : Arithmetic} {server : List Argument → List StreamItem}
  {params : List Parameter} {shapes : List RecordType} {channels channels' : Channels}
  {c : ProcedureCall BufferedCallable BufferedResultSet}

private theorem exists_gather_of_call
    (h : (call arith server params shapes).run channels = (.ok c, channels')) :
    ∃ arguments statement, gather (server arguments) = .ok statement ∧
      c = { statement, shapes } := by
  rcases hrun : (Parameters.collect arith params >>= Parameters.arguments).run channels with
    ⟨e | arguments, channels₁⟩
  · rw [call, ← bind_assoc, Step.run_bind_error hrun] at h
    cases h
  · rw [run_call hrun, execute] at h
    cases hgather : gather (server arguments) with
    | error e =>
      rw [hgather] at h
      cases h
    | ok statement =>
      rw [hgather] at h
      cases h
      exact ⟨arguments, statement, hgather, rfl⟩

private theorem setsSatisfy_of_call (hsteady : ∀ arguments, Steady (server arguments))
    (h : (call arith server params shapes).run channels = (.ok c, channels')) :
    ∃ arguments, c.SetsSatisfy (SentRows (server arguments)) := by
  obtain ⟨arguments, statement, hgather, rfl⟩ := exists_gather_of_call h
  exact ⟨arguments, sentRows_of_gather (hsteady arguments) hgather, nofun⟩

end

/-- A call that is answered with a single cell gives it in a record of its own. -/
private theorem gives_single {cell : Cell} {value : Option Value} (h : cell.read = .ok value)
    (n : Nat) :
    ∃ c, (call .checked (fun _ => [.row [cell], .done n]) [] []).run .exhausted =
        (.ok c, .exhausted) ∧
      c.Gives ⟨inferShape [cell.toColumn], [⟨cell.column, value⟩]⟩ := by
  let set : BufferedResultSet := ⟨[cell.toColumn], [[value]]⟩
  let statement : BufferedCallable := { pending := [set], summary := { affectedRows := 0 + n } }
  let c : ProcedureCall BufferedCallable BufferedResultSet := { statement, shapes := [] }
  have hgather : gather [.row [cell], .done n] = .ok statement := by
    have hread : readCells 0 [cell] = .ok [value] := by
      rw [readCells, h]
      rfl
    rw [gather, List.foldlM_cons, Gathered.take, hread]
    rfl
  have hcall : (call .checked (fun _ => [.row [cell], .done n]) [] []).run .exhausted =
      (.ok c, .exhausted) := by
    rw [run_call rfl, execute, hgather]
  have hdistinct : DistinctNames [cell.toColumn] := List.pairwise_singleton _ _
  obtain ⟨places, hplaces, hrange⟩ := hdistinct.places
  let s : RowStream BufferedResultSet :=
    { shape := inferShape [cell.toColumn], places, rows := set }
  have hstart : RowStream.start (inferShape (ResultSet.columns set)) set = .ok s :=
    RowStream.start_ok_iff.mpr ⟨places, hplaces, rfl⟩
  have hset : CallableStatement.resultSet (c.statement.step .nextResult) =
      (.ok set, { statement with pending := [] }) := rfl
  have hrows : (c.run [.next]).rows = some s := by
    change c.next.2.rows = some s
    rw [ProcedureCall.next_of_undeclared rfl rfl rfl hset, hstart]
    rfl
  have hgives : Trace ResultSet.Gives set [[value]] ⟨[cell.toColumn], []⟩ := .single rfl
  have hyields := RowStream.yields_of_gives hrange hgives (by simp)
  cases hyields with
  | cons first _ => exact ⟨c, hcall, [.next], s, 0, hrows, congrArg Prod.fst first⟩

/-- A cell that is read to a value is of the kind that the type of its column tells, unless it is a
time with a zone: that is a text. So every value in a record of a call came from a cell that was
sent, and is of the kind of its field unless this is a time and the cell has a zone, whatever the
caller did with the results before and whether the shape was declared or not. -/
theorem cells_suit_fields_but_zoned_times (arith : Arithmetic)
    (server : List Argument → List StreamItem) (params : List Parameter)
    (shapes : List RecordType) :
    (∀ (typeName : String) (content : (CellFormat.ofTypeName typeName).Content) (v : Value),
      (CellFormat.ofTypeName typeName).read content = .ok v →
        (v.Suits (sqlTypeOf typeName).fieldKind ↔ typeName ≠ "TIMETZ")) ∧
    ((∀ arguments, Steady (server arguments)) →
      ∀ (channels channels' : Channels) (c : ProcedureCall BufferedCallable BufferedResultSet),
        (call arith server params shapes).run channels = (.ok c, channels') →
        ∃ arguments, ∀ record, c.Gives record →
          ∀ (i : Fin record.type.fields.length) (v : Value),
            (record.entries.map (·.value))[i.val]? = some (some v) →
            ∃ cells, .row cells ∈ server arguments ∧ ∃ cell ∈ cells, cell.read = .ok (some v) ∧
              record.type.LeadsTo cell.toColumn i ∧
              (v.Suits (record.type.fields.get i).kind ↔
                ¬ ((record.type.fields.get i).kind = .time ∧ cell.typeName = "TIMETZ"))) := by
  refine ⟨fun typeName content v h => suits_fieldKind_iff h, ?_⟩
  intro hsteady channels channels' c hcall
  obtain ⟨arguments, hsets⟩ := setsSatisfy_of_call hsteady hcall
  refine ⟨arguments, fun record ⟨ops, s, n, hs, hrecord⟩ i v hv => ?_⟩
  obtain ⟨set, hsent, hplaces, row, hrow, hdecode⟩ :=
    (((hsets.run ops).rows s hs).run n).exists_row hrecord
  obtain ⟨cells, hcells, hcolumns, hreads⟩ := hsent row hrow
  rw [hcolumns] at hplaces
  obtain ⟨cell, hcell, hread, hleads, htakes⟩ :=
    exists_cell_of_decode hplaces hreads hdecode hv
  obtain ⟨content, hcontent⟩ := cell.exists_content hread
  exact ⟨cells, hcells, cell, hcell, hread, hleads, suits_iff_of_takes htakes hcontent⟩

/-- Half past twelve without a zone, in a call that gives it as a record. -/
theorem cells_suit_fields_plain_time :
    let noon : Calendar.Time := ⟨12, 30, 0, 0, by decide⟩
    let items : List StreamItem := [.row [⟨"c", "TIME", some noon⟩], .done 1]
    let record : Record := ⟨⟨"$default", [⟨"c", .time, true⟩]⟩, [⟨"c", some (.ofTime noon)⟩]⟩
    Steady items ∧
      (∃ c, (call .checked (fun _ => items) [] []).run .exhausted = (.ok c, .exhausted) ∧
        c.Gives record) ∧
      (Value.ofTime noon).Suits .time := by
  intro noon items record
  have hsteady : Steady items := steady_single _ 1
  obtain ⟨c, hcall, hgives⟩ := @gives_single ⟨"c", "TIME", some noon⟩ _ rfl 1
  refine ⟨hsteady, ⟨c, hcall, hgives⟩, ?_⟩
  obtain ⟨-, hfields⟩ := cells_suit_fields_but_zoned_times .checked (fun _ => items) [] []
  obtain ⟨arguments, hsuits⟩ := hfields (fun _ => hsteady) .exhausted .exhausted c hcall
  obtain ⟨cells, hcells, cell, hcell, -, -, hiff⟩ :=
    hsuits record hgives ⟨0, by decide⟩ (.ofTime noon) rfl
  refine hiff.mpr ?_
  rintro ⟨-, hzoned⟩
  obtain rfl : cells = [⟨"c", "TIME", some noon⟩] := by simpa [items] using hcells
  rw [List.mem_singleton.mp hcell] at hzoned
  exact absurd hzoned (by decide)

/-- Half past twelve, two hours east: the field is a time, and the record has a text in it. -/
theorem zoned_time_stands_as_text :
    let cells : List Cell :=
      [⟨"c", "TIMETZ", some [0x31, 0x32, 0x3a, 0x33, 0x30, 0x3a, 0x30, 0x30, 0x2b, 0x30, 0x32]⟩]
    let items : List StreamItem := [.row cells, .done 1]
    let record : Record :=
      ⟨⟨"$default", [⟨"c", .time, true⟩]⟩, [⟨"c", some (.text "12:30:00+02")⟩]⟩
    Steady items ∧
      (∃ c, (call .checked (fun _ => items) [] []).run .exhausted = (.ok c, .exhausted) ∧
        c.Gives record) ∧
      ¬ (Value.text "12:30:00+02").Suits .time := by
  intro cells items record
  have hread : CellFormat.text.read [0x31, 0x32, 0x3a, 0x33, 0x30, 0x3a, 0x30, 0x30, 0x2b, 0x30,
      0x32] = .ok (.text "12:30:00+02") := by with_unfolding_all rfl
  refine ⟨steady_single cells 1, ?_, not_suits_time_of_text hread⟩
  exact @gives_single ⟨"c", "TIMETZ", some _⟩ _ (congrArg (some <$> ·) hread) 1

end Postgres

end SqlBinding
