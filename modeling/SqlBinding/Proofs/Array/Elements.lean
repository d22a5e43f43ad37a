import Mathlib.Data.List.Forall2
import SqlBinding.Binding.Array

/-!
# The elements of an array

A typed array is converted element by element. Either every value is converted, each one in the
channels that the values before it left behind, or the conversion stops at the first value that
fails. Nulls are passed over and stay where they are. The vector of a typed array is the list of its
elements, each converted to the element type.
-/

namespace SqlBinding

/-- The elements of an array, each as the value that is bound for it alone. -/
def ArrayData.cells : ArrayData → List (Option NativeValue)
  | .smallint vs => vs.map (·.map .smallint)
  | .integer vs => vs.map (·.map .integer)
  | .bigint vs => vs.map (·.map .bigint)
  | .double vs => vs.map (·.map .double)
  | .decimal vs => vs.map (·.map .decimal)
  | .text vs => vs.map (·.map .string)
  | .boolean vs => vs.map (·.map .boolean)
  | .binary vs => vs.map (·.map .bytes)
  | .date vs => vs.map (·.map .date)
  | .time vs => vs.map (·.map .ofTime)
  | .timestamp vs => vs.map (·.map .ofTimestamp)
  | .other vs => vs

@[simp] theorem ArrayData.length_cells (d : ArrayData) : d.cells.length = d.length := by
  cases d <;> simp [cells, length]

namespace ArrayValue

variable {α β : Type} {convert : Value → Reading α} {cs cs₁ cs' : Channels}
  {before elements others : List TypedValue} {as : List (Option α)}

/-- Elements are converted from the first to the last. -/
inductive Collected (convert : Value → Reading α) :
    Channels → List TypedValue → List (Option α) → Channels → Prop
  | nil {cs : Channels} : Collected convert cs [] [] cs
  | null {cs cs' : Channels} {tag : SqlType} {elements : List TypedValue} {as : List (Option α)}
      (rest : Collected convert cs elements as cs') :
      Collected convert cs (⟨tag, none⟩ :: elements) (none :: as) cs'
  | value {cs cs₁ cs' : Channels} {tag : SqlType} {v : Value} {a : α}
      {elements : List TypedValue} {as : List (Option α)}
      (first : (convert v).run cs = (.ok a, cs₁)) (rest : Collected convert cs₁ elements as cs') :
      Collected convert cs (⟨tag, some v⟩ :: elements) (some a :: as) cs'

theorem Collected.map_isSome (h : Collected convert cs elements as cs') :
    as.map Option.isSome = elements.map fun t => t.value.isSome := by
  induction h with
  | nil => rfl
  | null _ ih => simpa using ih
  | value _ _ ih => simpa using ih

theorem Collected.length_eq (h : Collected convert cs elements as cs') :
    as.length = elements.length := by
  simpa using congrArg List.length h.map_isSome

theorem Collected.run_collect (h : Collected convert cs elements as cs') :
    (collect convert elements).run cs = (.ok as, cs') := by
  induction h with
  | nil => rfl
  | null _ ih =>
    rw [collect, Step.run_bind_ok ih]
    rfl
  | value first _ ih =>
    rw [collect, Step.run_bind_ok first, Step.run_bind_ok ih]
    rfl

private theorem Collected.run_collect_error {tag : SqlType} {v : Value} {e : Failure}
    (h : Collected convert cs before as cs₁) (hv : (convert v).run cs₁ = (.error e, cs'))
    (after : List TypedValue) :
    (collect convert (before ++ ⟨tag, some v⟩ :: after)).run cs = (.error e, cs') := by
  induction h with
  | nil => rw [List.nil_append, collect, Step.run_bind_error hv]
  | null _ ih => rw [List.cons_append, collect, Step.run_bind_error (ih hv)]
  | value first _ ih =>
    rw [List.cons_append, collect, Step.run_bind_ok first, Step.run_bind_error (ih hv)]

theorem collected_or_fails (convert : Value → Reading α) (elements : List TypedValue)
    (cs : Channels) :
    (∃ as cs', Collected convert cs elements as cs') ∨
      ∃ before tag v after as cs₁ e cs', elements = before ++ ⟨tag, some v⟩ :: after ∧
        Collected convert cs before as cs₁ ∧ (convert v).run cs₁ = (.error e, cs') := by
  induction elements generalizing cs with
  | nil => exact .inl ⟨[], cs, .nil⟩
  | cons t elements ih =>
    obtain ⟨tag, value⟩ := t
    cases value with
    | none =>
      rcases ih cs with ⟨as, cs', h⟩ | ⟨before, tag', v, after, as, cs₁, e, cs', rfl, h, hv⟩
      · exact .inl ⟨none :: as, cs', .null h⟩
      · exact .inr ⟨⟨tag, none⟩ :: before, tag', v, after, none :: as, cs₁, e, cs', rfl, .null h,
          hv⟩
    | some v =>
      rcases hv : (convert v).run cs with ⟨e | a, cs₁⟩
      · exact .inr ⟨[], tag, v, elements, [], cs, e, cs₁, rfl, .nil, hv⟩
      · rcases ih cs₁ with ⟨as, cs', h⟩ | ⟨before, tag', u, after, as, cs₂, e, cs', rfl, h, hu⟩
        · exact .inl ⟨some a :: as, cs', .value hv h⟩
        · exact .inr ⟨⟨tag, some v⟩ :: before, tag', u, after, some a :: as, cs₂, e, cs', rfl,
            .value hv h, hu⟩

theorem collected_of_run (h : (collect convert elements).run cs = (.ok as, cs')) :
    Collected convert cs elements as cs' := by
  rcases collected_or_fails convert elements cs with
    ⟨as', cs₁, hall⟩ | ⟨before, tag, v, after, as', cs₁, e, cs₂, rfl, hbefore, hv⟩
  · rw [hall.run_collect] at h
    cases h
    exact hall
  · rw [hbefore.run_collect_error hv] at h
    cases h

/-- Only the values of the elements count, not the types they are tagged with. -/
private theorem collect_congr (convert : Value → Reading α)
    (h : elements.map (·.value) = others.map (·.value)) :
    collect convert elements = collect convert others := by
  induction elements generalizing others with
  | nil =>
    rw [List.map_nil, eq_comm, List.map_eq_nil_iff] at h
    rw [h]
  | cons t elements ih =>
    cases others with
    | nil => cases h
    | cons u others =>
      obtain ⟨hvalue, hrest⟩ := List.cons.inj h
      obtain ⟨tag, value⟩ := t
      obtain ⟨tag', value'⟩ := u
      cases hvalue
      cases value <;> simp only [collect, ih hrest]

private theorem collect_map (f : α → β) (convert : Value → Reading α) (elements : List TypedValue) :
    collect (fun v => f <$> convert v) elements =
      List.map (Option.map f) <$> collect convert elements := by
  induction elements with
  | nil => rfl
  | cons t elements ih =>
    obtain ⟨tag, value⟩ := t
    cases value with
    | none => simp [collect, ih]
    | some v => simp [collect, ih]

/-- The elements that are not null. -/
def present (elements : List TypedValue) : List Value := elements.filterMap (·.value)

@[simp] theorem present_nil : present [] = [] := rfl

@[simp] theorem present_null (tag : SqlType) (elements : List TypedValue) :
    present (⟨tag, none⟩ :: elements) = present elements := rfl

@[simp] private theorem present_value (tag : SqlType) (v : Value) (elements : List TypedValue) :
    present (⟨tag, some v⟩ :: elements) = v :: present elements := rfl

theorem forall_present_iff {P : Value → Prop} :
    (∀ v ∈ present elements, P v) ↔ ∀ t ∈ elements, ∀ v, t.value = some v → P v := by
  simp only [present, List.mem_filterMap]
  exact ⟨fun h t ht v hv => h v ⟨t, ht, hv⟩, fun h v ⟨t, ht, hv⟩ => h t ht v hv⟩

section

variable {convert : Value → Outcome α} {f : α → β}

/-- Conversions that read nothing come to the same in all channels, and leave them as they are. -/
theorem Collected.in_channels
    (h : Collected (fun v => .ofOutcome (convert v)) cs elements as cs') (other : Channels) :
    Collected (fun v => .ofOutcome (convert v)) other elements as other := by
  induction h with
  | nil => exact .nil
  | null _ ih => exact .null ih
  | @value _ _ _ _ v a _ _ first _ ih =>
    have hfirst : convert v = .ok a := congrArg Prod.fst first
    exact .value (by rw [Step.run_ofOutcome, hfirst]) ih

theorem Collected.some_mem_iff
    (h : Collected (fun v => .ofOutcome (convert v)) cs elements as cs') (a : α) :
    some a ∈ as ↔ ∃ v ∈ present elements, convert v = .ok a := by
  induction h with
  | nil => simp
  | null _ ih => simpa using ih
  | @value _ _ _ _ v a' _ _ first _ ih =>
    have hfirst : convert v = .ok a' := congrArg Prod.fst first
    rw [present_value, List.mem_cons, ih]
    simp [hfirst, eq_comm]

theorem Collected.forall₂_map {R : Value → β → Prop}
    (h : Collected (fun v => .ofOutcome (convert v)) cs elements as cs')
    (hR : ∀ v ∈ present elements, ∀ a, convert v = .ok a → R v (f a)) :
    List.Forall₂ (fun t b => Option.Rel R t.value b) elements (as.map (·.map f)) := by
  induction h with
  | nil => exact .nil
  | null _ ih => exact .cons .none (ih hR)
  | @value _ _ _ _ v a _ _ first _ ih =>
    rw [present_value, List.forall_mem_cons] at hR
    have hfirst : convert v = .ok a := congrArg Prod.fst first
    exact .cons (.some (hR.1 a hfirst)) (ih hR.2)

theorem exists_collected_iff (cs : Channels) :
    (∃ as, Collected (fun v => .ofOutcome (convert v)) cs elements as cs) ↔
      ∀ v ∈ present elements, ∃ a, convert v = .ok a := by
  induction elements with
  | nil => exact ⟨fun _ => nofun, fun _ => ⟨[], .nil⟩⟩
  | cons t elements ih =>
    obtain ⟨tag, value⟩ := t
    cases value with
    | none =>
      refine Iff.trans ⟨?_, ?_⟩ ih
      · rintro ⟨as, hall⟩
        cases hall with
        | null rest => exact ⟨_, rest⟩
      · rintro ⟨as, rest⟩
        exact ⟨_, .null rest⟩
    | some v =>
      rw [present_value, List.forall_mem_cons, ← ih]
      constructor
      · rintro ⟨as, hall⟩
        cases hall with
        | value first rest => exact ⟨⟨_, congrArg Prod.fst first⟩, _, rest.in_channels cs⟩
      · rintro ⟨⟨a, ha⟩, as, rest⟩
        exact ⟨some a :: as, .value (by rw [Step.run_ofOutcome, ha]) rest⟩

/-- What the values are mapped to once they are converted has no part in whether they are. -/
theorem exists_collected_map_iff (f : α → β) (cs : Channels) :
    (∃ bs, Collected (fun v => .ofOutcome (f <$> convert v)) cs elements bs cs) ↔
      ∀ v ∈ present elements, ∃ a, convert v = .ok a := by
  rw [exists_collected_iff]
  refine forall₂_congr fun v _ => ?_
  cases convert v with
  | error e => exact iff_of_false nofun nofun
  | ok a => exact iff_of_true ⟨f a, rfl⟩ ⟨a, rfl⟩

end

end ArrayValue

/-- The types of the vocabulary that an array can have as its element type. -/
def SqlType.isElement : SqlType → Bool
  | .smallint | .integer | .bigint | .decimal | .numeric | .real | .double | .float
  | .char | .varchar | .nvarchar | .boolean | .bit | .date | .time | .timeWithTimezone
  | .timestamp | .datetime | .timestampWithTimezone | .binary | .varbinary => true
  | _ => false

/-- What an array of an element type holds for a value. -/
def SqlType.element (arith : Arithmetic) (type : SqlType) (v : Value) : Reading NativeValue :=
  match type with
  | .smallint => .ofOutcome (.smallint <$> Int64.toInt16 <$> v.toInt64 type)
  | .integer => .ofOutcome (.integer <$> Int64.toInt32 <$> v.toInt64 type)
  | .bigint => .ofOutcome (.bigint <$> v.toInt64 type)
  | .decimal | .numeric => .ofOutcome (.decimal <$> v.toDecimal type)
  | .real | .double | .float => .ofOutcome (.double <$> v.toFloat type)
  | .char | .varchar | .nvarchar => .ofOutcome (.string <$> v.toText type)
  | .boolean | .bit => .ofOutcome (.boolean <$> v.toBool type)
  | .date => .ofOutcome (.date <$> v.toDate type)
  | .time | .timeWithTimezone => .ofOutcome (.ofTime <$> ArrayValue.elementTime arith type v)
  | .timestamp | .datetime | .timestampWithTimezone =>
    .ofOutcome (.ofTimestamp <$> ArrayValue.elementTimestamp arith type v)
  | .binary | .varbinary => .bytes <$> ArrayValue.elementBytes type v
  | _ => .fail (.unsupported (.elementType type))

namespace Step

variable {s α β : Type}

theorem map_ofOutcome (f : α → β) (x : Outcome α) :
    (f <$> ofOutcome x : Step s β) = ofOutcome (f <$> x) := by
  funext w
  cases x <;> rfl

variable {f : α → β} {x : Step s α} {w w' : s}

theorem run_of_map_ok {b : β} (h : (f <$> x).run w = (.ok b, w')) :
    ∃ a, x.run w = (.ok a, w') ∧ f a = b := by
  rw [run_map] at h
  rcases hx : x.run w with ⟨e | a, w₁⟩
  · rw [hx] at h
    cases h
  · rw [hx] at h
    cases h
    exact ⟨a, rfl, rfl⟩

theorem run_of_map_error {e : Failure} (h : (f <$> x).run w = (.error e, w')) :
    x.run w = (.error e, w') := by
  rw [run_map] at h
  rcases hx : x.run w with ⟨e' | a, w₁⟩
  · rw [hx] at h
    cases h
    rfl
  · rw [hx] at h
    cases h

end Step

namespace ArrayValue

variable {arith : Arithmetic} {α : Type}

private theorem collectPure_map (f : α → NativeValue) (convert : Value → Outcome α)
    (elements : List TypedValue) :
    List.map (Option.map f) <$> collectPure convert elements =
      collect (fun v => .ofOutcome (f <$> convert v)) elements := by
  rw [collectPure, ← collect_map]
  simp only [Step.map_ofOutcome]

private theorem cells_bindTimes (type : SqlType) (elements : List TypedValue) :
    (·.data.cells) <$> bindTimes arith type elements =
      collect (fun v => .ofOutcome (.ofTime <$> elementTime arith type v)) elements := by
  rw [← collectPure_map, bindTimes, map_bind]
  simp only [map_pure, ArrayData.cells]
  rw [← map_eq_pure_bind]

private theorem cells_bindTimestamps (type : SqlType) (elements : List TypedValue) :
    (·.data.cells) <$> bindTimestamps arith type elements =
      collect (fun v => .ofOutcome (.ofTimestamp <$> elementTimestamp arith type v)) elements := by
  rw [← collectPure_map, bindTimestamps, map_bind]
  simp only [map_pure, ArrayData.cells]
  rw [← map_eq_pure_bind]

/-- The vector of a typed array holds what its element type makes of each element. -/
theorem cells_bindTyped (custom : CustomArrays) {type : SqlType} (h : type.isElement = true)
    (elements : List TypedValue) :
    (·.data.cells) <$> bindTyped arith custom type elements =
      collect (type.element arith) elements := by
  cases type
  case time | timeWithTimezone => exact cells_bindTimes _ elements
  case timestamp | datetime | timestampWithTimezone => exact cells_bindTimestamps _ elements
  case binary | varbinary =>
    rw [bindTyped, Functor.map_map]
    exact (collect_map NativeValue.bytes _ elements).symm
  case text | nchar | blob | clob | nclob | array | ref | struct | row | custom => cases h
  all_goals
    rw [bindTyped, Functor.map_map]
    exact collectPure_map _ _ elements

theorem bindTyped_congr (custom : CustomArrays) {type : SqlType} (h : type.isElement = true)
    {elements others : List TypedValue} (hvalues : elements.map (·.value) = others.map (·.value)) :
    bindTyped arith custom type elements = bindTyped arith custom type others := by
  have hcollect : ∀ {β : Type} (convert : Value → Reading β),
      collect convert elements = collect convert others := fun convert =>
    collect_congr convert hvalues
  cases type
  case text | nchar | blob | clob | nclob | array | ref | struct | row | custom => cases h
  all_goals simp only [bindTyped, bindTimes, bindTimestamps, collectPure, hcollect]

variable {type : SqlType} {elements before : List TypedValue}
  {cells : List (Option NativeValue)} {cs cs₁ cs' : Channels}

theorem run_bindTyped_of_collected (custom : CustomArrays) (h : type.isElement = true)
    (hcells : Collected (type.element arith) cs elements cells cs') :
    ∃ a, (bindTyped arith custom type elements).run cs = (.ok a, cs') ∧ a.data.cells = cells := by
  have hrun := hcells.run_collect
  rw [← cells_bindTyped custom h] at hrun
  exact Step.run_of_map_ok hrun

theorem collected_of_bindTyped (custom : CustomArrays) {a : NativeArray}
    (h : type.isElement = true)
    (hrun : (bindTyped arith custom type elements).run cs = (.ok a, cs')) :
    Collected (type.element arith) cs elements a.data.cells cs' := by
  apply collected_of_run
  rw [← cells_bindTyped custom h, Step.run_map, hrun]
  rfl

theorem run_bindTyped_error (custom : CustomArrays) {tag : SqlType} {v : Value} {e : Failure}
    (h : type.isElement = true) (hcells : Collected (type.element arith) cs before cells cs₁)
    (hv : (type.element arith v).run cs₁ = (.error e, cs')) (after : List TypedValue) :
    (bindTyped arith custom type (before ++ ⟨tag, some v⟩ :: after)).run cs = (.error e, cs') := by
  have hrun : (collect (type.element arith) (before ++ ⟨tag, some v⟩ :: after)).run cs =
      (.error e, cs') :=
    hcells.run_collect_error hv after
  rw [← cells_bindTyped custom h] at hrun
  exact Step.run_of_map_error hrun

end ArrayValue

variable {σ : Type} [Connection σ] {arith : Arithmetic} {custom : CustomArrays} {x : ArrayValue}
  {w : World σ}
  {cs : Channels}

theorem run_bindArray_ok {a : NativeArray} (type : SqlType)
    (h : (x.build arith custom).run w.channels = (.ok a, cs)) :
    (bindArray arith custom type (.array x)).run w = a.create.run ⟨cs, w.connection⟩ := by
  have hlift : ((x.build arith custom).lift : Binding σ NativeArray).run w =
      (.ok a, ⟨cs, w.connection⟩) := by
    rw [Reading.run_lift, h]
  exact Step.run_bind_ok hlift

theorem run_bindArray_error {e : Failure} (type : SqlType)
    (h : (x.build arith custom).run w.channels = (.error e, cs)) :
    (bindArray arith custom type (.array x)).run w = (.error e, ⟨cs, w.connection⟩) := by
  have hlift : ((x.build arith custom).lift : Binding σ NativeArray).run w =
      (.error e, ⟨cs, w.connection⟩) := by
    rw [Reading.run_lift, h]
  exact Step.run_bind_error hlift

end SqlBinding
