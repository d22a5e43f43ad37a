import Mathlib.Algebra.GroupWithZero.Nat
import Mathlib.Data.List.Forall2
import SqlBinding.Postgres.Call
import SqlBinding.Proofs.Result.CursorRun

/-!
# Results gathered from a stream

The stream that answers a call is gathered into result sets. The completions cut it into runs of
rows; every run that has a row makes one result set, in the order of the runs, also the run after
the last completion. So no row is lost, doubled, moved or put into another set. A stream with a
failure or with a row that cannot be read has no result at all.
-/

namespace SqlBinding.Postgres

namespace StreamItem

def isDone : StreamItem → Bool
  | done _ => true
  | _ => false

def cells? : StreamItem → Option (List Cell)
  | row cells => some cells
  | _ => none

/-- The number of rows that a completion tells. -/
def affected : StreamItem → Nat
  | done n => n
  | _ => 0

/-- An item that ends the call: a failure of the server, or a row that cannot be read. -/
inductive Fails : StreamItem → DriverError → Prop
  | failed {e : DriverError} : Fails (.failed e) e
  | unread {cells : List Cell} {e : DriverError} (h : readCells 0 cells = .error e) :
      Fails (.row cells) e

def Readable (item : StreamItem) : Prop := ∀ e, ¬ item.Fails e

end StreamItem

open StreamItem

/-- A row as it was sent and as it was read. -/
def Reads (cells : List Cell) (row : Row) : Prop := readCells 0 cells = .ok row

namespace StreamItem

private theorem readable_done (n : Nat) : (done n).Readable := nofun

private theorem readable_row {cells : List Cell} {r : Row} (h : Reads cells r) :
    (row cells).Readable := by
  rintro e ⟨⟩
  simp_all [Reads]

end StreamItem

/-- A result set of a run of rows, with the columns of its first one. -/
structure MadeOf (run : List (List Cell)) (set : BufferedResultSet) : Prop where
  columns : ∃ first, run.head? = some first ∧ set.columns = first.map Cell.toColumn
  rows : List.Forall₂ Reads run set.rows

private theorem MadeOf.rows_ne_nil {run : List (List Cell)} {set : BufferedResultSet}
    (h : MadeOf run set) : set.rows ≠ [] := by
  obtain ⟨first, hfirst, -⟩ := h.columns
  intro hrows
  have hrun := h.rows
  rw [hrows, List.forall₂_nil_right_iff] at hrun
  rw [hrun] at hfirst
  cases hfirst

private theorem rows_ne_nil_of_madeOf {runs : List (List (List Cell))}
    {sets : List BufferedResultSet}
    (h : List.Forall₂ MadeOf runs sets) : ∀ set ∈ sets, set.rows ≠ [] := by
  induction h with
  | nil => nofun
  | cons hset _ ih => exact List.forall_mem_cons.mpr ⟨hset.rows_ne_nil, ih⟩

/-- The rows between completions, in the order in which they come. -/
def segments (items : List StreamItem) : List (List (List Cell)) :=
  (items.splitOnP isDone).map (List.filterMap cells?)

/-- The longest runs of rows without a completion between them. -/
def runs (items : List StreamItem) : List (List (List Cell)) :=
  (segments items).filter (!·.isEmpty)

section

variable (items : List StreamItem)

private theorem exists_segments : ∃ first rest, segments items = first :: rest := by
  refine List.exists_cons_of_ne_nil ?_
  rw [segments, Ne, List.map_eq_nil_iff]
  exact List.splitOnP_ne_nil _ _

@[simp] theorem segments_nil : segments [] = [[]] := rfl

@[simp] theorem segments_done (n : Nat) : segments (.done n :: items) = [] :: segments items := by
  simp [segments, List.splitOnP_cons_eq_if_modifyHead, isDone]

@[simp] theorem segments_row (cells : List Cell) :
    segments (.row cells :: items) = (segments items).modifyHead (cells :: ·) := by
  obtain ⟨first, rest, h⟩ := List.exists_cons_of_ne_nil (List.splitOnP_ne_nil isDone items)
  simp [segments, List.splitOnP_cons_eq_if_modifyHead, isDone, cells?, h]

@[simp] private theorem segments_failed (e : DriverError) :
    segments (.failed e :: items) = segments items := by
  obtain ⟨first, rest, h⟩ := List.exists_cons_of_ne_nil (List.splitOnP_ne_nil isDone items)
  simp [segments, List.splitOnP_cons_eq_if_modifyHead, List.filterMap_cons, isDone, cells?, h]

section After

variable (first : List (List Cell))

/-- The runs of a stream that comes after some rows without a completion. -/
def runsAfter : List (List (List Cell)) :=
  ((segments items).modifyHead (first ++ ·)).filter (!·.isEmpty)

private theorem runsAfter_nil : runsAfter [] first = [first].filter (!·.isEmpty) := by
  simp [runsAfter]

private theorem runsAfter_done (n : Nat) :
    runsAfter (.done n :: items) first = [first].filter (!·.isEmpty) ++ runsAfter items [] := by
  obtain ⟨head, rest, h⟩ := exists_segments items
  simp [runsAfter, h, ← List.filter_append]

private theorem runsAfter_row (cells : List Cell) :
    runsAfter (.row cells :: items) first = runsAfter items (first ++ [cells]) := by
  obtain ⟨head, rest, h⟩ := exists_segments items
  simp [runsAfter, h]

private theorem runsAfter_start : runsAfter items [] = runs items := by
  obtain ⟨head, rest, h⟩ := exists_segments items
  simp [runsAfter, runs, h]

end After

theorem flatten_runs : (runs items).flatten = items.filterMap cells? := by
  rw [runs, List.flatten_filter_not_isEmpty]
  induction items with
  | nil => rfl
  | cons item items ih =>
    obtain ⟨first, rest, h⟩ := exists_segments items
    rw [h] at ih
    cases item with
    | row cells => simp [h, ← ih, cells?]
    | done n => simp [h, ← ih, List.filterMap_cons, cells?]
    | failed e => simp [h, ← ih, List.filterMap_cons, cells?]

end

namespace Gathered

variable {g : Gathered} {first : List (List Cell)}

/-- The set that is still open is made of the rows since the last completion. -/
def Opened (first : List (List Cell)) : Option BufferedResultSet → Prop
  | none => first = []
  | some set => MadeOf first set

private theorem opened_nil : Opened [] ({} : Gathered).current := rfl

private theorem opened_cut : Opened [] g.cut.current := rfl

private theorem take_row {cells : List Cell} {row : Row} (h : Reads cells row) :
    g.take (.row cells) = .ok (g.push (cells.map Cell.toColumn) row) := by
  rw [take, h]
  rfl

private theorem take_of_fails {item : StreamItem} {e : DriverError} (h : item.Fails e) :
    g.take item = .error e := by
  cases h with
  | failed => rfl
  | unread h =>
    rw [take, h]
    rfl

private theorem opened_push (hopen : Opened first g.current) {cells : List Cell} {row : Row}
    (h : Reads cells row) :
    Opened (first ++ [cells]) (g.push (cells.map Cell.toColumn) row).current := by
  unfold push
  cases hcurrent : g.current with
  | none =>
    rw [hcurrent] at hopen
    obtain rfl : first = [] := hopen
    exact ⟨⟨cells, rfl, rfl⟩, .cons h .nil⟩
  | some set =>
    rw [hcurrent] at hopen
    obtain ⟨⟨head, hhead, hcolumns⟩, hrows⟩ : MadeOf first set := hopen
    refine ⟨⟨head, ?_, hcolumns⟩, ?_⟩
    · rw [List.head?_append, hhead]
      rfl
    · exact List.rel_append hrows (.cons h .nil)

@[simp] private theorem sets_push (columns : List Column) (row : Row) :
    (g.push columns row).sets = g.sets := by
  unfold push
  split <;> rfl

@[simp] private theorem affected_push (columns : List Column) (row : Row) :
    (g.push columns row).affected = g.affected := by
  unfold push
  split <;> rfl

private theorem madeOf_cut (hopen : Opened first g.current) :
    ∃ sets, g.cut.sets = g.sets ++ sets ∧
      List.Forall₂ MadeOf ([first].filter (!·.isEmpty)) sets := by
  refine ⟨g.current.toList, rfl, ?_⟩
  cases hcurrent : g.current with
  | none =>
    rw [hcurrent] at hopen
    obtain rfl : first = [] := hopen
    exact .nil
  | some set =>
    rw [hcurrent] at hopen
    have hset : MadeOf first set := hopen
    obtain ⟨head, hhead, -⟩ := hset.columns
    cases first with
    | nil => cases hhead
    | cons cells rest => exact .cons hset .nil

variable {items : List StreamItem}

/-- From any state on, the runs of the stream become sets, the first of them together with the rows
that were there before. -/
private theorem foldlM_take (hread : ∀ item ∈ items, item.Readable)
    (hopen : Opened first g.current) :
    ∃ g' sets, items.foldlM take g = .ok g' ∧ g'.cut.sets = g.sets ++ sets ∧
      g'.affected = g.affected + (items.map StreamItem.affected).sum ∧
      List.Forall₂ MadeOf (runsAfter items first) sets := by
  induction items generalizing g first with
  | nil =>
    obtain ⟨sets, hsets, hmade⟩ := madeOf_cut hopen
    refine ⟨g, sets, rfl, hsets, rfl, ?_⟩
    rwa [runsAfter_nil]
  | cons item items ih =>
    have hitems : ∀ i ∈ items, i.Readable := fun i hi => hread i (List.mem_cons_of_mem _ hi)
    have hitem := hread item List.mem_cons_self
    rw [List.foldlM_cons]
    cases item with
    | done n =>
      -- The open run ends here, and the rest of the stream begins without one.
      obtain ⟨closed, hclosed, hmade⟩ := madeOf_cut hopen
      obtain ⟨g', sets, hrun, hsets, haffected, hrest⟩ :=
        ih hitems (g := { g.cut with affected := g.affected + n }) (opened_cut (g := g))
      refine ⟨g', closed ++ sets, hrun, ?_, ?_, ?_⟩
      · rw [hsets, ← List.append_assoc, ← hclosed]
      · rw [haffected, List.map_cons, List.sum_cons, ← Nat.add_assoc]
        rfl
      · rw [runsAfter_done]
        exact List.rel_append hmade hrest
    | row cells =>
      cases hcells : readCells 0 cells with
      | error e => exact absurd (.unread hcells) (hitem e)
      | ok row =>
        obtain ⟨g', sets, hrun, hsets, haffected, hrest⟩ := ih hitems (opened_push hopen hcells)
        refine ⟨g', sets, ?_, ?_, ?_, ?_⟩
        · rw [take_row hcells]
          exact hrun
        · rw [hsets, sets_push]
        · rw [haffected, affected_push, List.map_cons, List.sum_cons]
          simp [StreamItem.affected]
        · rwa [runsAfter_row]
    | failed e => exact absurd .failed (hitem e)

private theorem foldlM_take_fails (hread : ∀ item ∈ items, item.Readable) {item : StreamItem}
    {e : DriverError} (h : item.Fails e) (after : List StreamItem)
    (hopen : Opened first g.current) :
    (items ++ item :: after).foldlM take g = .error e := by
  obtain ⟨g', -, hrun, -⟩ := foldlM_take hread hopen
  rw [List.foldlM_append, hrun]
  change (item :: after).foldlM take g' = _
  rw [List.foldlM_cons, take_of_fails h]
  rfl

end Gathered

section

variable {items : List StreamItem}

theorem gather_of_readable (hread : ∀ item ∈ items, item.Readable) :
    ∃ sets, gather items =
        .ok { pending := sets, summary := { affectedRows := (items.map affected).sum } } ∧
      List.Forall₂ MadeOf (runs items) sets := by
  obtain ⟨g, sets, hrun, hsets, haffected, hmade⟩ :=
    Gathered.foldlM_take hread Gathered.opened_nil
  refine ⟨sets, ?_, ?_⟩
  · rw [gather, hrun]
    change Except.ok g.statement = _
    rw [Gathered.statement, hsets, haffected, List.nil_append, Nat.zero_add]
  · rwa [runsAfter_start] at hmade

theorem exists_first_fails (h : ∃ item ∈ items, ∃ e, item.Fails e) :
    ∃ before item after e, items = before ++ item :: after ∧ (∀ i ∈ before, i.Readable) ∧
      item.Fails e := by
  induction items with
  | nil =>
    obtain ⟨item, hmem, -⟩ := h
    cases hmem
  | cons head items ih =>
    by_cases hhead : head.Readable
    · obtain ⟨item, hmem, e, he⟩ := h
      have htail : item ∈ items := by
        rcases List.mem_cons.mp hmem with rfl | hmem
        · exact absurd he (hhead e)
        · exact hmem
      obtain ⟨before, first, after, e', rfl, hbefore, hfirst⟩ := ih ⟨item, htail, e, he⟩
      exact ⟨head :: before, first, after, e', rfl, List.forall_mem_cons.mpr ⟨hhead, hbefore⟩,
        hfirst⟩
    · obtain ⟨e, he⟩ := not_forall_not.mp hhead
      exact ⟨[], head, items, e, rfl, nofun, he⟩

theorem gather_of_fails {before : List StreamItem} (hread : ∀ item ∈ before, item.Readable)
    {item : StreamItem} {e : DriverError} (h : item.Fails e) (after : List StreamItem) :
    gather (before ++ item :: after) = .error e := by
  rw [gather, Gathered.foldlM_take_fails hread h after Gathered.opened_nil]
  rfl

end

section

variable {arith : Arithmetic} {params : List Parameter} {channels channels' : Channels}
  {arguments : List Argument}

theorem run_call (h : (Parameters.collect arith params >>= Parameters.arguments).run channels =
      (.ok arguments, channels')) (server : List Argument → List StreamItem)
    (shapes : List RecordType) :
    (call arith server params shapes).run channels =
      (execute server shapes arguments, channels') := by
  rw [call, ← bind_assoc, Step.run_bind_ok h]
  rfl

/-- The result sets of a call are the runs of rows of its stream, each with the rows of its run in
their order and the columns of the first of them. None is empty, all together hold every row of the
stream once, and the affected rows of the completions are added up. If the server fails or a row
cannot be read, then the call fails with the first such error, as an error of the database. -/
theorem call_keeps_rows
    (h : (Parameters.collect arith params >>= Parameters.arguments).run channels =
      (.ok arguments, channels')) (server : List Argument → List StreamItem)
    (shapes : List RecordType) :
    let items := server arguments
    ((∀ item ∈ items, item.Readable) → ∃ sets,
      (call arith server params shapes).run channels = (.ok (ProcedureCall.start
        { pending := sets, summary := { affectedRows := (items.map affected).sum } } shapes),
        channels') ∧
      List.Forall₂ MadeOf (runs items) sets ∧ (∀ set ∈ sets, set.rows ≠ []) ∧
      List.Forall₂ Reads (items.filterMap cells?) (sets.map (·.rows)).flatten) ∧
    ((∃ item ∈ items, ∃ e, item.Fails e) → ∃ before item after e,
      items = before ++ item :: after ∧ (∀ i ∈ before, i.Readable) ∧ item.Fails e ∧
      (call arith server params shapes).run channels =
        (.error (.error (.database .executeCall e)), channels')) := by
  intro items
  refine ⟨fun hread => ?_, fun hfails => ?_⟩
  · obtain ⟨sets, hgather, hmade⟩ := gather_of_readable hread
    have hrows : List.Forall₂ (List.Forall₂ Reads) (runs items) (sets.map (·.rows)) :=
      List.forall₂_map_right_iff.mpr (hmade.imp fun _ _ hset => hset.rows)
    refine ⟨sets, ?_, hmade, ?_, ?_⟩
    · rw [run_call h, execute, hgather]
      rfl
    · exact rows_ne_nil_of_madeOf hmade
    · rw [← flatten_runs]
      exact List.rel_flatten hrows
  · obtain ⟨before, item, after, e, hitems, hbefore, hitem⟩ := exists_first_fails hfails
    refine ⟨before, item, after, e, hitems, hbefore, hitem, ?_⟩
    have hgather : gather (server arguments) = .error e :=
      (congrArg gather hitems).trans (gather_of_fails hbefore hitem after)
    rw [run_call h, execute, hgather]
    rfl

/-- A call without parameters whose stream ends in the middle of a result set, after a statement
without rows. -/
theorem call_keeps_rows_unfinished :
    let channels : Channels := ⟨fun _ => ⟨[], none⟩, fun _ => ⟨[], none⟩⟩
    let cells (i : Int32) : List Cell := [⟨"id", "INT4", some i⟩]
    let items : List StreamItem :=
      [.row (cells 1), .row (cells 2), .done 2, .done 0, .row (cells 3)]
    (Parameters.collect .checked [] >>= Parameters.arguments).run channels = (.ok [], channels) ∧
      (∀ item ∈ items, item.Readable) ∧ ∃ sets,
        (call .checked (fun _ => items) [] []).run channels =
          (.ok (ProcedureCall.start
            { pending := sets, summary := { affectedRows := 2 } } []), channels) ∧
        List.Forall₂ MadeOf [[cells 1, cells 2], [cells 3]] sets := by
  intro channels cells items
  have h : (Parameters.collect .checked [] >>= Parameters.arguments).run channels =
      (.ok [], channels) := rfl
  have hrow : ∀ i, (StreamItem.row (cells i)).Readable := fun i =>
    readable_row (show Reads (cells i) [some (.int i)] from rfl)
  have hread : ∀ item ∈ items, item.Readable := by
    simp [items, hrow, readable_done]
  obtain ⟨sets, hcall, hmade, -⟩ := (call_keeps_rows h (fun _ => items) []).1 hread
  exact ⟨h, hread, sets, hcall, hmade⟩

end

end SqlBinding.Postgres
