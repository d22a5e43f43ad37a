import Mathlib.Data.List.Forall2
import SqlBinding.Driver.Buffered
import SqlBinding.Proofs.Driver.Calls
import SqlBinding.Proofs.Result.CursorRun

/-!
# Rows in the shape of their own columns

Without a declared shape the columns of a result set are its shape. If no two of them have one name,
every column finds its own field, and then every row comes out as it is, each cell under the name of
its column. A column that repeats a name is led to the field of the first one. There it is refused
if its type does not suit; otherwise its cells take the place of the first one's, and its own field
stays null.
-/

namespace SqlBinding

/-- Columns of which no two have the same name up to ASCII case. -/
def DistinctNames (columns : List Column) : Prop :=
  columns.Pairwise fun a b => Text.sameName a.name b.name = false

instance : DecidablePred DistinctNames :=
  fun columns => inferInstanceAs (Decidable (columns.Pairwise _))

/-- The record of a row as its columns say: each cell under the name of its column. -/
def inferredRecord (columns : List Column) (row : Row) : Record :=
  ⟨inferShape columns, List.zipWith (fun c cell => ⟨c.name, cell⟩) columns row⟩

private theorem FieldKind.takes_fieldKind (t : SqlType) : t.fieldKind.takes t = true := by
  cases t <;> simp [SqlType.fieldKind, FieldKind.takes, FieldKind.same]

namespace RecordType

variable {shape : RecordType} {columns : List Column}

theorem places_ok_iff {places : List (Fin shape.fields.length)} :
    shape.places columns = .ok places ↔
      List.Forall₂ (fun c i => shape.place c = .ok i) columns places := by
  induction columns generalizing places with
  | nil => simp [RecordType.places, eq_comm]
  | cons c cs ih =>
    rw [RecordType.places, List.forall₂_cons_left_iff]
    constructor
    · intro h
      cases hplace : shape.place c with
      | error e => simp [hplace, bind, Except.bind] at h
      | ok i =>
        cases hrest : shape.places cs with
        | error e => simp [hplace, hrest, bind, Except.bind] at h
        | ok is =>
          rw [hplace, hrest] at h
          cases h
          exact ⟨i, is, rfl, ih.mp hrest, rfl⟩
    · rintro ⟨i, is, hplace, hrest, rfl⟩
      rw [hplace, ih.mpr hrest]
      rfl

theorem places_of_forall (h : ∀ c ∈ columns, ∃ i, shape.place c = .ok i) :
    ∃ places, shape.places columns = .ok places := by
  induction columns with
  | nil => exact ⟨[], rfl⟩
  | cons c cs ih =>
    obtain ⟨i, hplace⟩ := h c List.mem_cons_self
    obtain ⟨is, hrest⟩ := ih fun c hc => h c (List.mem_cons_of_mem _ hc)
    exact ⟨i :: is, places_ok_iff.mpr (.cons hplace (places_ok_iff.mp hrest))⟩

theorem place?_of_place {c : Column} {i : Fin shape.fields.length} (h : shape.place c = .ok i) :
    shape.place? c = some i := by
  unfold place at h
  split at h
  · cases h
  · next hplace =>
    dsimp only at h
    split at h
    · cases h
      exact hplace
    · cases h

end RecordType

section

variable {columns : List Column}

@[simp] private theorem length_inferShape (columns : List Column) :
    (inferShape columns).fields.length = columns.length := List.length_map ..

private theorem getElem_inferShape {i : Nat} (h : i < columns.length)
    (hi : i < (inferShape columns).fields.length) :
    (inferShape columns).fields[i] = ⟨columns[i].name, columns[i].type.fieldKind, true⟩ :=
  List.getElem_map ..

/-- A column is led to the first of the columns with its name. -/
private theorem place?_inferShape_iff {c : Column} {i : Fin (inferShape columns).fields.length} :
    (inferShape columns).place? c = some i ↔
      ∃ h : i.val < columns.length, Text.sameName columns[i.val].name c.name = true ∧
        ∀ j (hj : j < i.val), Text.sameName columns[j].name c.name = false := by
  have hi : i.val < columns.length := by simpa using i.isLt
  unfold RecordType.place?
  rw [List.findFinIdx?_eq_some_iff]
  constructor
  · rintro ⟨hname, hfirst⟩
    refine ⟨hi, ?_, fun j hj => ?_⟩
    · simpa [getElem_inferShape hi] using hname
    · have hearlier := hfirst ⟨j, Nat.lt_trans hj i.isLt⟩ hj
      simpa [getElem_inferShape (Nat.lt_trans hj hi)] using hearlier
  · rintro ⟨_, hname, hfirst⟩
    refine ⟨?_, fun j hj => ?_⟩
    · simpa [getElem_inferShape hi] using hname
    · simpa [getElem_inferShape (Nat.lt_trans hj hi)] using hfirst j.val hj

private theorem DistinctNames.place (hd : DistinctNames columns) {i : Nat}
    (h : i < columns.length) :
    (inferShape columns).place columns[i] = .ok ⟨i, by simpa using h⟩ := by
  have hplace : (inferShape columns).place? columns[i] = some ⟨i, by simpa using h⟩ := by
    rw [place?_inferShape_iff]
    refine ⟨h, Text.sameName_self _, fun j hj => ?_⟩
    exact List.pairwise_iff_getElem.mp hd j i (Nat.lt_trans hj h) h hj
  have htakes := FieldKind.takes_fieldKind columns[i].type
  unfold RecordType.place
  simp [hplace, getElem_inferShape h, htakes]

theorem DistinctNames.places (hd : DistinctNames columns) :
    ∃ places, (inferShape columns).places columns = .ok places ∧
      places.map Fin.val = List.range columns.length := by
  have hfound : ∀ c ∈ columns, ∃ i, (inferShape columns).place c = .ok i := by
    intro c hc
    obtain ⟨i, hi, rfl⟩ := List.getElem_of_mem hc
    exact ⟨_, hd.place hi⟩
  obtain ⟨places, hplaces⟩ := RecordType.places_of_forall hfound
  have hall := RecordType.places_ok_iff.mp hplaces
  refine ⟨places, hplaces, List.ext_getElem (by simp [hall.length_eq]) fun i h _ => ?_⟩
  have hi : i < columns.length := by simpa [hall.length_eq] using h
  have hplace := hall.get hi (by simpa using h)
  simp only [List.get_eq_getElem, hd.place hi, Except.ok.injEq] at hplace
  simp [← hplace]

private theorem not_place_of_repeated {i j : Nat} (hij : i < j) (hj : j < columns.length)
    (hsame : Text.sameName columns[i].name columns[j].name = true) {c : Column}
    {k : Fin (inferShape columns).fields.length} (h : (inferShape columns).place c = .ok k) :
    k.val ≠ j := by
  rintro rfl
  obtain ⟨_, hname, hfirst⟩ := place?_inferShape_iff.mp (RecordType.place?_of_place h)
  have hearlier := hfirst i hij
  rw [Text.sameName_trans hsame hname] at hearlier
  cases hearlier

end

/-- Values after cells were put at their positions, one after the other. -/
def overwrite {α : Type} (values : List α) (cells : List (α × Nat)) : List α :=
  cells.foldl (fun values cell => values.set cell.2 cell.1) values

private theorem overwrite_range' {α : Type} {written values cells : List α}
    (h : values.length = cells.length) :
    overwrite (written ++ values) (cells.zip (List.range' written.length cells.length)) =
      written ++ cells := by
  induction cells generalizing written values with
  | nil =>
    obtain rfl := List.length_eq_zero_iff.mp h
    rfl
  | cons cell cells ih =>
    cases values with
    | nil => cases h
    | cons value values =>
      have hset : (written ++ value :: values).set written.length cell =
          written ++ [cell] ++ values := by simp
      have hrest := @ih (written ++ [cell]) values (Nat.succ.inj h)
      rw [List.length_append, List.length_singleton] at hrest
      rw [List.length_cons, List.range'_succ, List.zip_cons_cons, overwrite, List.foldl_cons, hset,
        List.append_cons written cell cells]
      exact hrest

private theorem overwrite_range {α : Type} {values cells : List α}
    (h : values.length = cells.length) :
    overwrite values (cells.zip (List.range cells.length)) = cells := by
  have hall := @overwrite_range' α [] values cells h
  rw [List.range_eq_range']
  exact hall

theorem getElem?_overwrite {α : Type} {values : List α} {cells : List (α × Nat)} {j : Nat}
    (h : ∀ cell ∈ cells, cell.2 ≠ j) : (overwrite values cells)[j]? = values[j]? := by
  induction cells generalizing values with
  | nil => rfl
  | cons cell cells ih =>
    have hfirst := h cell List.mem_cons_self
    have hrest := @ih (values.set cell.2 cell.1)
      fun cell hcell => h cell (List.mem_cons_of_mem _ hcell)
    rw [overwrite, List.foldl_cons]
    exact hrest.trans (List.getElem?_set_ne hfirst)

private theorem RecordType.fill_of_nullable {shape : RecordType}
    (h : ∀ f ∈ shape.fields, f.nullable = true)
    {cells : List (Option Value × Fin shape.fields.length)} {values : List (Option Value)} :
    shape.fill cells values = .ok (overwrite values (cells.map (Prod.map id Fin.val))) := by
  induction cells generalizing values with
  | nil => rfl
  | cons cell cells ih =>
    obtain ⟨value, i⟩ := cell
    have hnull := h shape.fields[i] (List.getElem_mem _)
    change (if (value.isNone && !shape.fields[i].nullable) = true then Except.error _
      else shape.fill cells (values.set i value)) = _
    rw [hnull, Bool.not_true, Bool.and_false, if_neg Bool.false_ne_true]
    exact ih

section

variable {columns : List Column} {row : Row}
  {places : List (Fin (inferShape columns).fields.length)}

private theorem decode_inferShape :
    (inferShape columns).decode places row =
      .ok ⟨inferShape columns, List.zipWith (fun c value => ⟨c.name, value⟩) columns
        (overwrite (columns.map fun _ => none) (row.zip (places.map Fin.val)))⟩ := by
  have hnull : ∀ f ∈ (inferShape columns).fields, f.nullable = true := by
    intro f hf
    obtain ⟨c, -, rfl⟩ := List.mem_map.mp hf
    rfl
  unfold RecordType.decode
  rw [RecordType.fill_of_nullable hnull, ← List.zip_map_right]
  simp [inferShape, bind, Except.bind, pure, Except.pure, List.zipWith_map_left, Function.comp_def]

private theorem decode_of_range (hplaces : places.map Fin.val = List.range columns.length)
    (hrow : row.length = columns.length) :
    (inferShape columns).decode places row = .ok (inferredRecord columns row) := by
  have hlen : (columns.map fun _ => (none : Option Value)).length = row.length := by
    rw [List.length_map, hrow]
  have hall := overwrite_range hlen
  rw [decode_inferShape, hplaces, ← hrow, hall]
  rfl

private theorem decode_of_repeated (hplaces : (inferShape columns).places columns = .ok places)
    {i j : Nat} (hij : i < j) (hj : j < columns.length)
    (hsame : Text.sameName columns[i].name columns[j].name = true) {record : Record}
    (h : (inferShape columns).decode places row = .ok record) :
    record.entries[j]? = some ⟨columns[j].name, none⟩ := by
  have hunplaced : ∀ cell ∈ row.zip (places.map Fin.val), cell.2 ≠ j := by
    intro cell hcell
    obtain ⟨k, hk, hval⟩ := List.mem_map.mp (List.of_mem_zip hcell).2
    obtain ⟨n, hn, rfl⟩ := List.getElem_of_mem hk
    have hall := RecordType.places_ok_iff.mp hplaces
    have hcolumn := hall.get (by simpa [hall.length_eq] using hn) hn
    exact hval ▸ not_place_of_repeated hij hj hsame hcolumn
  rw [decode_inferShape] at h
  cases h
  simp [List.getElem?_zipWith, getElem?_overwrite hunplaced, hj]

end

/-- A result set gives a row. -/
def ResultSet.Gives {ρ : Type} [ResultSet ρ] (row : Row) (rows rows' : ρ) : Prop :=
  ResultSet.nextRow rows = (.ok (some row), rows')

/-- Every row that a result set comes to give has a number of cells. -/
def ResultSet.Regular {ρ : Type} [ResultSet ρ] (cells : Nat) (rows : ρ) : Prop :=
  ∀ given rows', Trace ResultSet.Gives rows given rows' → ∀ row ∈ given, row.length = cells

namespace RowStream

open ResultSet

variable {ρ : Type} [ResultSet ρ] {rows rows' : ρ} {stream stream' : RowStream ρ}
  {record : Record} {records : List Record} {given : List Row} {columns : List Column}
  {places : List (Fin (inferShape columns).fields.length)}

/-- A stream yields a record. -/
def Yields (record : Record) (stream stream' : RowStream ρ) : Prop :=
  stream.next = (some (.ok record), stream')

/-- A stream yields the record of every row that its result set gives, and no other record. -/
structure Preserves (columns : List Column) (rows : ρ) (stream : RowStream ρ) : Prop where
  every {given : List Row} {rows' : ρ} (h : Trace Gives rows given rows') :
    ∃ stream', Trace Yields stream (given.map (inferredRecord columns)) stream'
  only {records : List Record} {stream' : RowStream ρ} (h : Trace Yields stream records stream') :
    ∃ given rows', Trace Gives rows given rows' ∧ records = given.map (inferredRecord columns)

theorem start_ok_iff {shape : RecordType} :
    start shape rows = .ok stream ↔
      ∃ places, shape.places (ResultSet.columns rows) = .ok places ∧
        stream = { shape, places, rows } := by
  unfold start
  cases shape.places (ResultSet.columns rows) with
  | error e => simp [bind, Except.bind]
  | ok places => simp [bind, Except.bind, pure, Except.pure, eq_comm]

theorem yields_iff :
    Yields record stream stream' ↔ stream.done = false ∧
      ∃ row rows', Gives row stream.rows rows' ∧
        stream.shape.decode stream.places row = .ok record ∧
        stream' = { stream with rows := rows' } := by
  unfold Yields next Gives
  cases hdone : stream.done with
  | true => simp
  | false =>
    rw [if_neg Bool.false_ne_true]
    rcases hrow : nextRow stream.rows with ⟨e | row?, rows'⟩
    · simp
    · cases row? with
      | none => simp
      | some row =>
        cases hrecord : stream.shape.decode stream.places row with
        | error e => simp [hrecord]
        | ok r => simp [hrecord, eq_comm]

/-- A stream in the shape of its columns takes one step for each row that the result set gives. -/
theorem yields_of_gives (hplaces : places.map Fin.val = List.range columns.length)
    (h : Trace Gives rows given rows') (hcells : ∀ row ∈ given, row.length = columns.length) :
    Trace Yields { shape := inferShape columns, places, rows }
      (given.map (inferredRecord columns))
      { shape := inferShape columns, places, rows := rows' } := by
  induction h with
  | nil => exact .nil
  | @cons _ _ _ row given first rest ih =>
    have hdecode := decode_of_range hplaces (hcells row List.mem_cons_self)
    have hfirst : Yields (inferredRecord columns row)
        { shape := inferShape columns, places, rows := _ } _ :=
      yields_iff.mpr ⟨rfl, row, _, first, hdecode, rfl⟩
    exact .cons hfirst (ih fun row hrow => hcells row (List.mem_cons_of_mem _ hrow))

private theorem gives_of_yields (hplaces : places.map Fin.val = List.range columns.length)
    (hcells : Regular columns.length rows)
    (h : Trace Yields { shape := inferShape columns, places, rows } records stream') :
    ∃ given rows', Trace Gives rows given rows' ∧ records = given.map (inferredRecord columns) := by
  induction records generalizing rows with
  | nil => exact ⟨[], rows, .nil, rfl⟩
  | cons record records ih =>
    cases h with
    | cons first rest =>
      obtain ⟨-, row, rows₁, hrow, hdecode, rfl⟩ := yields_iff.mp first
      have hlen : row.length = columns.length := hcells [row] rows₁ (.single hrow) row (by simp)
      rw [decode_of_range hplaces hlen] at hdecode
      cases hdecode
      have hcells₁ : Regular columns.length rows₁ := fun given rows' htrace r hr =>
        hcells (row :: given) rows' (.cons hrow htrace) r (List.mem_cons_of_mem _ hr)
      obtain ⟨given, rows', htrace, rfl⟩ := ih hcells₁ rest
      exact ⟨row :: given, rows', .cons hrow htrace, rfl⟩

end RowStream

namespace ProcedureCall

open CallableStatement

section

variable {τ ρ : Type} [ResultSet ρ] [CallableStatement τ ρ] {c : ProcedureCall τ ρ} {s₁ s₂ : τ}
  {rows : ρ} {stream : RowStream ρ}

/-- A call whose statement moved to a result set and whose rows can be read. -/
def opened (c : ProcedureCall τ ρ) (statement : τ) (stream : RowStream ρ) : ProcedureCall τ ρ :=
  { c with statement, rows := some stream, summary := none, state := .resultAvailable }

theorem next_of_undeclared (hopen : c.released = false) (hshapes : c.shapes = [])
    (hnext : nextResult c.statement = (.ok true, s₁)) (hset : resultSet s₁ = (.ok rows, s₂)) :
    c.next = match RowStream.start (inferShape (ResultSet.columns rows)) rows with
      | .error e => (.error (advanceError e), { c with statement := s₂ })
      | .ok stream => (.ok true, c.opened s₂ stream) := by
  have hshape : nextShape c.shapes c.shapeIndex (ResultSet.columns rows) =
      .ok (inferShape (ResultSet.columns rows), c.shapeIndex) := by
    rw [hshapes]
    rfl
  unfold next
  rw [if_neg (Bool.eq_false_iff.mp hopen), hnext]
  dsimp only [openRows]
  rw [hset]
  dsimp only
  rw [hshape]
  dsimp only
  cases RowStream.start (inferShape (ResultSet.columns rows)) rows with
  | error e => rfl
  | ok stream => rfl

private theorem start_of_next_undeclared (hopen : c.released = false) (hshapes : c.shapes = [])
    (hnext : nextResult c.statement = (.ok true, s₁)) (hset : resultSet s₁ = (.ok rows, s₂))
    (h : c.next = (.ok true, c.opened s₂ stream)) :
    RowStream.start (inferShape (ResultSet.columns rows)) rows = .ok stream := by
  rw [next_of_undeclared hopen hshapes hnext hset] at h
  cases hstart : RowStream.start (inferShape (ResultSet.columns rows)) rows with
  | error e =>
    rw [hstart] at h
    cases congrArg Prod.fst h
  | ok started =>
    rw [hstart] at h
    cases congrArg (fun answer => answer.2.rows) h
    rfl

end

/-- Any result set with some columns, whose rows have one cell for each of them, is opened by an
advance without declared shapes, and its rows come out as they are. -/
def LosesNothing (columns : List Column) : Prop :=
  ∀ {τ ρ : Type} [ResultSet ρ] [CallableStatement τ ρ] (c : ProcedureCall τ ρ) (s₁ s₂ : τ)
    (rows : ρ), c.released = false → c.shapes = [] →
    nextResult c.statement = (.ok true, s₁) → resultSet s₁ = (.ok rows, s₂) →
    ResultSet.columns rows = columns → ResultSet.Regular columns.length rows →
    ∃ stream : RowStream ρ,
      c.next = (.ok true, c.opened s₂ stream) ∧ stream.Preserves columns rows

variable {columns : List Column}

private theorem losesNothing_of_distinct (hd : DistinctNames columns) : LosesNothing columns := by
  intro τ ρ _ _ c s₁ s₂ rows hopen hshapes hnext hset hcolumns hcells
  obtain ⟨places, hplaces, hrange⟩ := hd.places
  have hstart : RowStream.start (inferShape columns) rows =
      .ok { shape := inferShape columns, places, rows } :=
    RowStream.start_ok_iff.mpr ⟨places, by rw [hcolumns, hplaces], rfl⟩
  have hadvance := next_of_undeclared hopen hshapes hnext hset
  rw [hcolumns, hstart] at hadvance
  refine ⟨_, hadvance, fun h => ?_, fun h => ?_⟩
  · exact ⟨_, RowStream.yields_of_gives hrange h (hcells _ _ h)⟩
  · exact RowStream.gives_of_yields hrange hcells h

private theorem rows_of_gives {rows rows' : BufferedResultSet} {given : List Row}
    (h : Trace ResultSet.Gives rows given rows') : rows.rows = given ++ rows'.rows := by
  induction h with
  | nil => rfl
  | @cons rows rows₁ _ row given first _ ih =>
    obtain ⟨columns, pending⟩ := rows
    cases pending with
    | nil => cases first
    | cons next pending =>
      cases first
      exact congrArg (row :: ·) ih

/-- A call with one result set of one row. -/
def onlyRow (columns : List Column) (row : Row) :
    ProcedureCall BufferedCallable BufferedResultSet :=
  start { pending := [⟨columns, [row]⟩] } []

private theorem distinct_of_losesNothing (h : LosesNothing columns) : DistinctNames columns := by
  apply List.pairwise_iff_getElem.mpr
  intro i j hi hj hij
  apply Bool.eq_false_iff.mpr
  intro hsame
  -- a row without nulls shows the field that no column is led to
  let row : Row := columns.map fun _ => some (.boolean true)
  let rows : BufferedResultSet := ⟨columns, [row]⟩
  have hcells : ResultSet.Regular columns.length rows := by
    intro given rows' htrace r hr
    have hrow : r ∈ given ++ rows'.rows := List.mem_append_left _ hr
    rw [← rows_of_gives htrace, List.mem_singleton] at hrow
    simp [hrow, row]
  obtain ⟨stream, hadvance, hpreserves⟩ :=
    h (onlyRow columns row) _ _ rows rfl rfl rfl rfl rfl hcells
  have hstart := start_of_next_undeclared rfl rfl rfl rfl hadvance
  obtain ⟨places, hplaces, rfl⟩ := RowStream.start_ok_iff.mp hstart
  have hgives : Trace ResultSet.Gives rows [row] ⟨columns, []⟩ := .single rfl
  obtain ⟨stream', hyields⟩ := hpreserves.every hgives
  cases hyields with
  | cons first _ =>
    obtain ⟨-, row', rows', -, hdecode, -⟩ := RowStream.yields_iff.mp first
    have hnull := decode_of_repeated hplaces hij hj hsame hdecode
    simp [inferredRecord, row, hj] at hnull

/-- Without declared shapes nothing of a result set is lost just if no two of its columns have one
name. -/
theorem inferred_shape_loses_nothing_iff (columns : List Column) :
    LosesNothing columns ↔ DistinctNames columns :=
  ⟨distinct_of_losesNothing, losesNothing_of_distinct⟩

/-- The second of two columns of one name takes the place of the first one, and is refused there if
its type is of another kind. -/
theorem repeated_name_loses_cell :
    let columns : List Column := [⟨"id", .integer, true⟩, ⟨"ID", .integer, true⟩]
    let mixed : List Column := [⟨"id", .integer, true⟩, ⟨"ID", .varchar, true⟩]
    let c := onlyRow columns [some (.int 1), some (.int 2)]
    c.next.1 = .ok true ∧
      c.next.2.nextRow.1 =
        some (some (.ok ⟨inferShape columns, [⟨"id", some (.int 2)⟩, ⟨"ID", none⟩]⟩)) ∧
      (onlyRow mixed [some (.int 1), some (.text "b")]).next.1 =
        .error (.refused (.advancing (.unfitColumn "ID" .varchar "id" inferredShapeName))) ∧
      ¬ LosesNothing columns ∧ ¬ LosesNothing mixed := by
  intro columns mixed c
  refine ⟨by with_unfolding_all rfl, by with_unfolding_all rfl, by with_unfolding_all rfl,
    fun h => ?_, fun h => ?_⟩
  · have hdistinct := distinct_of_losesNothing h
    exact absurd hdistinct (by decide)
  · have hdistinct := distinct_of_losesNothing h
    exact absurd hdistinct (by decide)

end ProcedureCall

end SqlBinding
