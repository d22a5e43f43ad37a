import Mathlib.Data.List.Forall2
import SqlBinding.Driver.Buffered
import SqlBinding.Proofs.Result.InferredShape
import SqlBinding.Proofs.Result.StreamRun

/-!
# Rows by the names of their columns

A column leads to the first field of the shape that bears its name up to ASCII case. A result set is
opened in a shape just if each of its columns leads to a field that takes the column's type. From
then on a row is refused just for a null that leads to a field without nulls; otherwise each field
has the cell of the last column that leads to it. Columns may share a field, and a field may have no
column, so that it is null in every record.
-/

namespace SqlBinding

/-- A list is good up to an element that is bad for a reason. -/
def FirstBad {α β : Type} (good : α → Prop) (bad : α → β → Prop) (l : List α) (why : β) : Prop :=
  ∃ before a after, l = before ++ a :: after ∧ (∀ b ∈ before, good b) ∧ bad a why

section

variable {α β γ : Type} {good good' : α → Prop} {bad bad' : α → β → Prop} {l : List α} {why : β}

private theorem not_firstBad_nil : ¬ FirstBad good bad [] why := by
  rintro ⟨before, a, after, h, -⟩
  cases before <;> cases h

private theorem firstBad_cons {a : α} :
    FirstBad good bad (a :: l) why ↔ bad a why ∨ (good a ∧ FirstBad good bad l why) := by
  constructor
  · rintro ⟨before, b, after, hl, hgood, hbad⟩
    cases before with
    | nil =>
      cases hl
      exact .inl hbad
    | cons _ before =>
      cases hl
      exact .inr ⟨hgood a List.mem_cons_self, before, b, after, rfl,
        fun b hb => hgood b (List.mem_cons_of_mem _ hb), hbad⟩
  · rintro (hbad | ⟨ha, before, b, after, rfl, hgood, hbad⟩)
    · exact ⟨[], a, l, rfl, by simp, hbad⟩
    · exact ⟨a :: before, b, after, rfl, List.forall_mem_cons.mpr ⟨ha, hgood⟩, hbad⟩

private theorem firstBad_map {l : List γ} {f : γ → α} :
    FirstBad good bad (l.map f) why ↔
      FirstBad (fun c => good (f c)) (fun c => bad (f c)) l why := by
  induction l with
  | nil => exact iff_of_false not_firstBad_nil not_firstBad_nil
  | cons c l ih => rw [List.map_cons, firstBad_cons, firstBad_cons, ih]

private theorem firstBad_congr (hgood : ∀ a ∈ l, (good a ↔ good' a))
    (hbad : ∀ a ∈ l, (bad a why ↔ bad' a why)) :
    FirstBad good bad l why ↔ FirstBad good' bad' l why := by
  induction l with
  | nil => exact iff_of_false not_firstBad_nil not_firstBad_nil
  | cons a l ih =>
    have hrest := ih (fun a ha => hgood a (List.mem_cons_of_mem _ ha))
      fun a ha => hbad a (List.mem_cons_of_mem _ ha)
    rw [firstBad_cons, firstBad_cons, hgood a List.mem_cons_self, hbad a List.mem_cons_self, hrest]

theorem exists_last_of_mem {P : α → Prop} {a : α} (ha : a ∈ l) (h : P a) :
    ∃ before b after, l = before ++ b :: after ∧ P b ∧ ∀ x ∈ after, ¬ P x := by
  induction l generalizing a with
  | nil => cases ha
  | cons x l ih =>
    -- the given element need not be the last one, so the split is on what comes after the head
    by_cases hlater : ∃ y ∈ l, P y
    · obtain ⟨y, hy, hP⟩ := hlater
      obtain ⟨before, b, after, rfl, hb, hafter⟩ := ih hy hP
      exact ⟨x :: before, b, after, rfl, hb, hafter⟩
    · rw [not_exists] at hlater
      have hnone : ∀ y ∈ l, ¬ P y := fun y hy hP => hlater y ⟨hy, hP⟩
      rcases List.mem_cons.mp ha with rfl | hmem
      · exact ⟨[], a, l, rfl, h, hnone⟩
      · exact absurd h (hnone a hmem)

end

namespace RecordType

variable {shape : RecordType} {columns : List Column} {c : Column}

/-- A column leads to the first field that bears its name up to ASCII case. -/
structure LeadsTo (shape : RecordType) (c : Column) (i : Fin shape.fields.length) : Prop where
  named : Text.sameName (shape.fields.get i).name c.name = true
  first (j : Fin shape.fields.length) (h : j < i) :
    Text.sameName (shape.fields.get j).name c.name = false

/-- A column leads to a field that takes its type. -/
def Suits (shape : RecordType) (c : Column) : Prop :=
  ∃ i, shape.LeadsTo c i ∧ (shape.fields.get i).kind.takes c.type = true

/-- The error for a column that a shape does not suit. -/
inductive Unsuited (shape : RecordType) (c : Column) : Error → Prop
  | unnamed (h : ∀ f ∈ shape.fields, Text.sameName f.name c.name = false) :
      Unsuited shape c (.refused (.noField c.name shape.name))
  | unfit {i : Fin shape.fields.length} (leads : shape.LeadsTo c i)
      (kind : (shape.fields.get i).kind.takes c.type = false) :
      Unsuited shape c (.refused (.unfitColumn c.name c.type (shape.fields.get i).name shape.name))

theorem LeadsTo.unique {i j : Fin shape.fields.length} (h : shape.LeadsTo c i)
    (h' : shape.LeadsTo c j) : i = j := by
  rcases Nat.lt_trichotomy i j with hlt | heq | hgt
  · exact absurd h.named (Bool.eq_false_iff.mp (h'.first i hlt))
  · exact Fin.ext heq
  · exact absurd h'.named (Bool.eq_false_iff.mp (h.first j hgt))

private theorem place?_eq_some_iff {i : Fin shape.fields.length} :
    shape.place? c = some i ↔ shape.LeadsTo c i := by
  unfold place?
  rw [List.findFinIdx?_eq_some_iff]
  constructor
  · rintro ⟨hnamed, hfirst⟩
    exact ⟨hnamed, fun j hj => by simpa using hfirst j hj⟩
  · rintro ⟨hnamed, hfirst⟩
    exact ⟨hnamed, fun j hj => by simpa using hfirst j hj⟩

private theorem place?_eq_none_iff :
    shape.place? c = none ↔ ∀ f ∈ shape.fields, Text.sameName f.name c.name = false := by
  unfold place?
  simp [List.findFinIdx?_eq_none_iff]

private theorem place_ok_iff {i : Fin shape.fields.length} :
    shape.place c = .ok i ↔
      shape.LeadsTo c i ∧ (shape.fields.get i).kind.takes c.type = true := by
  rw [← place?_eq_some_iff]
  constructor
  · intro h
    have hplace := place?_of_place h
    rw [place_of_some hplace] at h
    split at h
    · next htakes => exact ⟨hplace, htakes⟩
    · cases h
  · rintro ⟨hplace, htakes⟩
    rw [place_of_some hplace, if_pos htakes]

private theorem place_error_iff {e : Error} : shape.place c = .error e ↔ shape.Unsuited c e := by
  constructor
  · intro h
    cases hplace : shape.place? c with
    | none =>
      rw [place_of_none hplace] at h
      cases h
      exact .unnamed (place?_eq_none_iff.mp hplace)
    | some i =>
      rw [place_of_some hplace] at h
      split at h
      · cases h
      · next htakes =>
        cases h
        exact .unfit (place?_eq_some_iff.mp hplace) (Bool.eq_false_iff.mpr htakes)
  · intro h
    cases h with
    | unnamed h => exact place_of_none (place?_eq_none_iff.mpr h)
    | unfit leads kind =>
      have htakes := Bool.eq_false_iff.mp kind
      rw [place_of_some (place?_eq_some_iff.mpr leads), if_neg htakes]

private theorem suits_iff : shape.Suits c ↔ ∃ i, shape.place c = .ok i :=
  exists_congr fun _ => place_ok_iff.symm

theorem exists_places_iff :
    (∃ places, shape.places columns = .ok places) ↔ ∀ c ∈ columns, shape.Suits c := by
  constructor
  · rintro ⟨places, hplaces⟩ c hc
    obtain ⟨n, hn, rfl⟩ := List.getElem_of_mem hc
    have hall := places_ok_iff.mp hplaces
    exact suits_iff.mpr ⟨_, hall.get hn (by rwa [← hall.length_eq])⟩
  · intro h
    exact places_of_forall fun c hc => suits_iff.mp (h c hc)

private theorem places_error_iff {e : Error} :
    shape.places columns = .error e ↔ FirstBad shape.Suits shape.Unsuited columns e := by
  induction columns with
  | nil => exact iff_of_false nofun not_firstBad_nil
  | cons c cs ih =>
    rw [firstBad_cons, suits_iff, ← place_error_iff, ← ih, places]
    cases shape.place c with
    | error e' => simp [bind, Except.bind]
    | ok i => cases shape.places cs <;> simp [bind, Except.bind, pure, Except.pure]

/-- A cell may stand in the field that its column leads to. -/
def Accepts (shape : RecordType) (cell : Column × Option Value) : Prop :=
  ∀ i, shape.LeadsTo cell.1 i → (shape.fields.get i).nullable = false → cell.2 ≠ none

/-- The error for a null that leads to a field without nulls. -/
inductive Rejects (shape : RecordType) (cell : Column × Option Value) : Error → Prop
  | null {i : Fin shape.fields.length} (leads : shape.LeadsTo cell.1 i)
      (field : (shape.fields.get i).nullable = false) (missing : cell.2 = none) :
      Rejects shape cell (.refused (.nullField (shape.fields.get i).name shape.name))

/-- A record has the fields of a shape in their order, each with the cell of the last column that
leads to it, or null if none does. -/
structure Decodes (shape : RecordType) (cells : List (Column × Option Value)) (record : Record) :
    Prop where
  type : record.type = shape
  names : record.entries.map (·.name) = shape.fields.map (·.name)
  matched {before after : List (Column × Option Value)} {c : Column} {cell : Option Value}
    {i : Fin shape.fields.length} (split : cells = before ++ (c, cell) :: after)
    (leads : shape.LeadsTo c i) (last : ∀ later ∈ after, ¬ shape.LeadsTo later.1 i) :
    (record.entries.map (·.value))[i.val]? = some cell
  unmatched {i : Fin shape.fields.length} (h : ∀ cell ∈ cells, ¬ shape.LeadsTo cell.1 i) :
    (record.entries.map (·.value))[i.val]? = some none

/-- What a stream gives for a row, as the cells under its columns say. -/
structure RowLaw (shape : RecordType) (cells : List (Column × Option Value))
    (item : Option (Except Error Record)) : Prop where
  record_iff : (∃ record, item = some (.ok record)) ↔ ∀ cell ∈ cells, shape.Accepts cell
  error_iff {e : Error} :
    item = some (.error e) ↔ FirstBad shape.Accepts shape.Rejects cells e
  decodes {record : Record} (h : item = some (.ok record)) : shape.Decodes cells record
  unmatched_of_null {record : Record} (h : item = some (.ok record))
    {i : Fin shape.fields.length} (field : (shape.fields.get i).nullable = false)
    (null : (record.entries.map (·.value))[i.val]? = some none) :
    ∀ cell ∈ cells, ¬ shape.LeadsTo cell.1 i

/-- A null on its way to a field without nulls. -/
def Blocked (shape : RecordType) (write : Option Value × Fin shape.fields.length) : Prop :=
  (shape.fields.get write.2).nullable = false ∧ write.1 = none

section

variable {writes : List (Option Value × Fin shape.fields.length)}
  {values values' : List (Option Value)}

private theorem fill_of_blocked {write : Option Value × Fin shape.fields.length}
    (h : shape.Blocked write) :
    shape.fill (write :: writes) values =
      .error (.refused (.nullField (shape.fields.get write.2).name shape.name)) := by
  obtain ⟨cell, i⟩ := write
  obtain ⟨hfield, rfl⟩ := h
  dsimp only at hfield
  rw [fill_cons, hfield]
  rfl

private theorem fill_of_not_blocked {write : Option Value × Fin shape.fields.length}
    (h : ¬ shape.Blocked write) :
    shape.fill (write :: writes) values = shape.fill writes (values.set write.2 write.1) := by
  obtain ⟨cell, i⟩ := write
  rw [fill_cons]
  refine if_neg fun hnull => h ?_
  simpa [Blocked, and_comm] using hnull

private theorem fill_ok_iff :
    shape.fill writes values = .ok values' ↔
      (∀ write ∈ writes, ¬ shape.Blocked write) ∧
        values' = overwrite values (writes.map (Prod.map id Fin.val)) := by
  induction writes generalizing values with
  | nil =>
    constructor
    · intro h
      cases h
      exact ⟨nofun, rfl⟩
    · rintro ⟨-, rfl⟩
      rfl
  | cons write writes ih =>
    rw [List.forall_mem_cons]
    by_cases h : shape.Blocked write
    · rw [fill_of_blocked h]
      exact iff_of_false nofun fun hall => hall.1.1 h
    · rw [fill_of_not_blocked h, ih, and_iff_right h]
      rfl

private theorem fill_error_iff {e : Error} :
    shape.fill writes values = .error e ↔
      FirstBad (fun write => ¬ shape.Blocked write)
        (fun write e => shape.Blocked write ∧
          e = .refused (.nullField (shape.fields.get write.2).name shape.name)) writes e := by
  induction writes generalizing values with
  | nil => exact iff_of_false nofun not_firstBad_nil
  | cons write writes ih =>
    rw [firstBad_cons]
    by_cases h : shape.Blocked write
    · rw [fill_of_blocked h]
      simp [h, eq_comm]
    · rw [fill_of_not_blocked h, ih]
      simp [h]

end

@[simp] private theorem length_overwrite {α : Type} {values : List α} {cells : List (α × Nat)} :
    (overwrite values cells).length = values.length := by
  induction cells generalizing values with
  | nil => rfl
  | cons cell cells ih => exact ih.trans List.length_set

private theorem getElem?_overwrite_last {α : Type} {values : List α} {before after : List (α × Nat)}
    {cell : α} {j : Nat} (hj : j < values.length) (hlast : ∀ later ∈ after, later.2 ≠ j) :
    (overwrite values (before ++ (cell, j) :: after))[j]? = some cell := by
  have hsplit : overwrite values (before ++ (cell, j) :: after) =
      overwrite ((overwrite values before).set j cell) after := by
    simp [overwrite]
  rw [hsplit, getElem?_overwrite hlast]
  simp [hj]

/-- The record of a shape after cells were put at their fields. -/
def written (shape : RecordType) (writes : List (Option Value × Fin shape.fields.length)) :
    Record :=
  ⟨shape, List.zipWith (fun f value => ⟨f.name, value⟩) shape.fields
    (overwrite (shape.fields.map fun _ => none) (writes.map (Prod.map id Fin.val)))⟩

@[simp] private theorem map_name_written (writes : List (Option Value × Fin shape.fields.length)) :
    (shape.written writes).entries.map (·.name) = shape.fields.map (·.name) := by
  apply List.ext_getElem <;> simp [written]

@[simp] private theorem map_value_written (writes : List (Option Value × Fin shape.fields.length)) :
    (shape.written writes).entries.map (·.value) =
      overwrite (shape.fields.map fun _ => none) (writes.map (Prod.map id Fin.val)) := by
  apply List.ext_getElem <;> simp [written]

section

variable {row : Row} {places : List (Fin shape.fields.length)} {record : Record} {e : Error}

private theorem decode_ok_iff :
    shape.decode places row = .ok record ↔
      (∀ write ∈ row.zip places, ¬ shape.Blocked write) ∧
        record = shape.written (row.zip places) := by
  unfold decode
  cases hfill : shape.fill (row.zip places) (shape.fields.map fun _ => none) with
  | ok values =>
    obtain ⟨hopen, rfl⟩ := fill_ok_iff.mp hfill
    simp only [bind, Except.bind, pure, Except.pure, Except.ok.injEq, written, eq_comm,
      and_iff_right hopen]
  | error e =>
    refine iff_of_false nofun fun h => ?_
    have hok : shape.fill (row.zip places) (shape.fields.map fun _ => none) = .ok _ :=
      fill_ok_iff.mpr ⟨h.1, rfl⟩
    rw [hfill] at hok
    cases hok

private theorem decode_error_iff :
    shape.decode places row = .error e ↔
      shape.fill (row.zip places) (shape.fields.map fun _ => none) = .error e := by
  unfold decode
  cases shape.fill (row.zip places) (shape.fields.map fun _ => none) <;>
    simp [bind, Except.bind, pure, Except.pure]

/-- The cells of a row, each with its column and the field that the column leads to: what the
columns say of a row and what is written to a record are two views of one list. -/
private theorem exists_led (hplaces : shape.places columns = .ok places)
    (hrow : row.length = columns.length) :
    ∃ led : List (Column × Option Value × Fin shape.fields.length),
      columns.zip row = led.map (Prod.map id Prod.fst) ∧ row.zip places = led.map Prod.snd ∧
        ∀ t ∈ led, shape.LeadsTo t.1 t.2.2 := by
  have hall := places_ok_iff.mp hplaces
  have hlen : row.length = places.length := hrow.trans hall.length_eq
  have hcells : (row.zip places).map Prod.fst = row := List.map_fst_zip (Nat.le_of_eq hlen)
  have hfields : (row.zip places).map Prod.snd = places := List.map_snd_zip (Nat.le_of_eq hlen.symm)
  refine ⟨columns.zip (row.zip places), ?_, ?_, fun t ht => ?_⟩
  · rw [← List.zip_map_right, hcells]
  · rw [List.map_snd_zip (by simp [hrow, ← hlen])]
  · have hmem : (t.1, t.2.2) ∈ columns.zip places := by
      rw [← hfields, List.zip_map_right]
      exact List.mem_map_of_mem ht
    exact (place_ok_iff.mp ((List.forall₂_iff_zip.mp hall).2 hmem)).1

variable {led : List (Column × Option Value × Fin shape.fields.length)}

private theorem accepts_iff {t : Column × Option Value × Fin shape.fields.length}
    (h : shape.LeadsTo t.1 t.2.2) :
    shape.Accepts (t.1, t.2.1) ↔ ¬ shape.Blocked t.2 := by
  constructor
  · rintro haccepts ⟨hfield, hnull⟩
    exact haccepts t.2.2 h hfield hnull
  · rintro hopen i hi hfield hnull
    obtain rfl := hi.unique h
    exact hopen ⟨hfield, hnull⟩

private theorem rejects_iff {t : Column × Option Value × Fin shape.fields.length}
    (h : shape.LeadsTo t.1 t.2.2) :
    shape.Rejects (t.1, t.2.1) e ↔
      shape.Blocked t.2 ∧ e = .refused (.nullField (shape.fields.get t.2.2).name shape.name) := by
  constructor
  · intro hrejects
    cases hrejects with
    | null leads field missing =>
      obtain rfl := leads.unique h
      exact ⟨⟨field, missing⟩, rfl⟩
  · rintro ⟨⟨hfield, hnull⟩, rfl⟩
    exact .null h hfield hnull

private theorem forall_accepts_iff (h : ∀ t ∈ led, shape.LeadsTo t.1 t.2.2) :
    (∀ cell ∈ led.map (Prod.map id Prod.fst), shape.Accepts cell) ↔
      ∀ write ∈ led.map Prod.snd, ¬ shape.Blocked write := by
  rw [List.forall_mem_map, List.forall_mem_map]
  exact forall₂_congr fun t ht => accepts_iff (h t ht)

private theorem firstBad_rejects_iff (h : ∀ t ∈ led, shape.LeadsTo t.1 t.2.2) :
    FirstBad shape.Accepts shape.Rejects (led.map (Prod.map id Prod.fst)) e ↔
      FirstBad (fun write => ¬ shape.Blocked write)
        (fun write e => shape.Blocked write ∧
          e = .refused (.nullField (shape.fields.get write.2).name shape.name))
        (led.map Prod.snd) e := by
  rw [firstBad_map, firstBad_map]
  exact firstBad_congr (fun t ht => accepts_iff (h t ht)) fun t ht => rejects_iff (h t ht)

private theorem decodes_written (h : ∀ t ∈ led, shape.LeadsTo t.1 t.2.2) :
    shape.Decodes (led.map (Prod.map id Prod.fst)) (shape.written (led.map Prod.snd)) where
  type := rfl
  names := map_name_written _
  matched := by
    intro before after c cell i split leads last
    obtain ⟨led₁, led₂, rfl, -, htail⟩ := List.map_eq_append_iff.mp split
    obtain ⟨t, led₃, rfl, ht, rfl⟩ := List.map_eq_cons_iff.mp htail
    obtain ⟨c', cell', j⟩ := t
    cases ht
    have hplace : shape.LeadsTo c' j := h (c', cell', j) (by simp)
    obtain rfl := leads.unique hplace
    rw [map_value_written, List.map_map, List.map_append, List.map_cons]
    refine getElem?_overwrite_last (by simp) fun later hlater => ?_
    obtain ⟨t, ht, rfl⟩ := List.mem_map.mp hlater
    intro hsame
    have hleads := h t (by simp [ht])
    have hi : t.2.2 = i := Fin.ext hsame
    exact last _ (List.mem_map_of_mem ht) (hi ▸ hleads)
  unmatched := by
    intro i hnone
    have hunwritten :
        ∀ write ∈ (led.map Prod.snd).map (Prod.map id Fin.val), write.2 ≠ i.val := by
      rw [List.map_map]
      intro write hwrite
      obtain ⟨t, ht, rfl⟩ := List.mem_map.mp hwrite
      intro hsame
      have hi : t.2.2 = i := Fin.ext hsame
      exact hnone _ (List.mem_map_of_mem ht) (hi ▸ h t ht)
    rw [map_value_written, getElem?_overwrite hunwritten]
    simp

/-- In a record without refused nulls a null in a field without nulls means that no column leads
there: the last column that did would have brought the null. -/
private theorem Decodes.unmatched_of_null {cells : List (Column × Option Value)}
    (h : shape.Decodes cells record) (haccepts : ∀ cell ∈ cells, shape.Accepts cell)
    {i : Fin shape.fields.length} (hfield : (shape.fields.get i).nullable = false)
    (hnull : (record.entries.map (·.value))[i.val]? = some none) :
    ∀ cell ∈ cells, ¬ shape.LeadsTo cell.1 i := by
  intro cell hcell hleads
  obtain ⟨before, last, after, rfl, hlast, hafter⟩ :=
    exists_last_of_mem (P := fun cell => shape.LeadsTo cell.1 i) hcell hleads
  have hvalue := h.matched rfl hlast hafter
  rw [hnull, Option.some.injEq] at hvalue
  exact haccepts last (by simp) i hlast hfield hvalue.symm

theorem rowLaw_decode (hplaces : shape.places columns = .ok places)
    (hrow : row.length = columns.length) :
    shape.RowLaw (columns.zip row) (some (shape.decode places row)) := by
  obtain ⟨led, hcells, hwrites, hleads⟩ := exists_led hplaces hrow
  have haccepts := forall_accepts_iff hleads
  rw [← hcells, ← hwrites] at haccepts
  have hdecodes := decodes_written hleads
  rw [← hcells, ← hwrites] at hdecodes
  have hok : ∀ {record}, some (shape.decode places row) = some (.ok record) →
      (∀ cell ∈ columns.zip row, shape.Accepts cell) ∧ shape.Decodes (columns.zip row) record := by
    intro record h
    obtain ⟨hopen, rfl⟩ := decode_ok_iff.mp (Option.some.inj h)
    exact ⟨haccepts.mpr hopen, hdecodes⟩
  constructor
  · constructor
    · rintro ⟨record, h⟩
      exact (hok h).1
    · intro h
      exact ⟨_, congrArg some (decode_ok_iff.mpr ⟨haccepts.mp h, rfl⟩)⟩
  · intro e
    rw [Option.some.injEq, decode_error_iff, fill_error_iff, hcells, firstBad_rejects_iff hleads,
      hwrites]
  · intro record h
    exact (hok h).2
  · intro record h i hfield hnull
    exact (hok h).2.unmatched_of_null (hok h).1 hfield hnull

end

end RecordType

namespace RowStream

variable {ρ : Type} [ResultSet ρ] {shape : RecordType} {rows rest : ρ} {s : RowStream ρ} {row : Row}

private theorem start_error_iff {e : Error} :
    start shape rows = .error e ↔ shape.places (ResultSet.columns rows) = .error e := by
  unfold start
  cases shape.places (ResultSet.columns rows) <;> simp [bind, Except.bind, pure, Except.pure]

private theorem next_of_row (hopen : s.done = false)
    (hrow : ResultSet.nextRow s.rows = (.ok (some row), rest)) :
    s.next.1 = some (s.shape.decode s.places row) := by
  have hcall : ¬ s.done = true := Bool.eq_false_iff.mp hopen
  unfold next
  rw [if_neg hcall, hrow]
  cases hdecode : s.shape.decode s.places row <;> simp [hdecode]

/-- A stream that was not stopped is the one that was opened, on what is left of its rows. -/
private theorem run_of_open (hopen : s.done = false) {n : Nat} (h : (s.run n).2.done = false) :
    ∃ rest, (s.run n).2 = { s with rows := rest } := by
  cases outlined hopen n with
  | reading _ _ hrun => exact ⟨_, congrArg Prod.snd hrun⟩
  | stopped _ _ _ _ hrun =>
    rw [hrun] at h
    cases h

/-- A stream is opened in a shape just if the shape suits every column, else the first column that
it does not suit is refused. After any number of calls it makes of a row with one cell for each
column a record by the names of the columns, unless the row has a null that may not stand in its
field, of which the first one is refused. -/
theorem rows_decode_by_name (shape : RecordType) (rows : ρ) :
    ((∃ s, start shape rows = .ok s) ↔ ∀ c ∈ ResultSet.columns rows, shape.Suits c) ∧
      (∀ e, start shape rows = .error e ↔
        FirstBad shape.Suits shape.Unsuited (ResultSet.columns rows) e) ∧
      ∀ s, start shape rows = .ok s → ∀ n row rest, (s.run n).2.done = false →
        ResultSet.nextRow (s.run n).2.rows = (.ok (some row), rest) →
        row.length = (ResultSet.columns rows).length →
        shape.RowLaw ((ResultSet.columns rows).zip row) (s.run n).2.next.1 := by
  refine ⟨?_, fun e => ?_, fun s hstart n row rest hopen hrow hlen => ?_⟩
  · rw [← RecordType.exists_places_iff]
    constructor
    · rintro ⟨s, hstart⟩
      obtain ⟨places, hplaces, -⟩ := start_ok_iff.mp hstart
      exact ⟨places, hplaces⟩
    · rintro ⟨places, hplaces⟩
      exact ⟨_, start_ok_iff.mpr ⟨places, hplaces, rfl⟩⟩
  · rw [start_error_iff, RecordType.places_error_iff]
  · obtain ⟨places, hplaces, rfl⟩ := start_ok_iff.mp hstart
    obtain ⟨left, hrun⟩ := run_of_open rfl hopen
    rw [next_of_row hopen hrow, hrun]
    exact RecordType.rowLaw_decode hplaces hlen

/-- Two columns that lead to one field: the second one fills it, and its null is refused there. The
field that bears the second one's own name stays null. -/
theorem rows_decode_by_name_repeated :
    let shape : RecordType :=
      ⟨"person", [⟨"id", .int, false⟩, ⟨"name", .text, true⟩, ⟨"ID", .int, true⟩]⟩
    let columns : List Column :=
      [⟨"Id", .integer, true⟩, ⟨"NAME", .varchar, true⟩, ⟨"ID", .bigint, true⟩]
    let first : Row := [some (.int 1), none, some (.int 2)]
    let second : Row := [some (.int 3), some (.text "b"), none]
    let rows : BufferedResultSet := ⟨columns, [first, second]⟩
    let s : RowStream BufferedResultSet :=
      { shape, places := [⟨0, by decide⟩, ⟨1, by decide⟩, ⟨0, by decide⟩], rows }
    start shape rows = .ok s ∧
      (shape.RowLaw (columns.zip first) (s.run 0).2.next.1 ∧
        s.next.1 = some (.ok ⟨shape, [⟨"id", some (.int 2)⟩, ⟨"name", none⟩, ⟨"ID", none⟩]⟩)) ∧
      (shape.RowLaw (columns.zip second) (s.run 1).2.next.1 ∧
        (s.run 1).2.next.1 = some (.error (.refused (.nullField "id" "person")))) := by
  intro shape columns first second rows s
  have h : start shape rows = .ok s := by with_unfolding_all rfl
  have hlaw := (rows_decode_by_name shape rows).2.2 s h
  have hopen : (s.run 1).2.done = false := by with_unfolding_all rfl
  have hsecond : ResultSet.nextRow (s.run 1).2.rows = (.ok (some second), ⟨columns, []⟩) := by
    with_unfolding_all rfl
  refine ⟨h, ⟨hlaw 0 first ⟨columns, [second]⟩ rfl rfl rfl, ?_⟩,
    hlaw 1 second _ hopen hsecond rfl, ?_⟩
  · with_unfolding_all rfl
  · with_unfolding_all rfl

end RowStream

end SqlBinding
