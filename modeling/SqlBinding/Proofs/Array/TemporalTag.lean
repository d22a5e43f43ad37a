import Mathlib.Data.List.Basic
import SqlBinding.Proofs.Array.Elements
import SqlBinding.Proofs.Calendar.CivilParts

/-!
# Element type names of temporal arrays

An array of times or timestamps bears a name with a time zone just if its declared type does or some
element carries an offset. The name follows from the values that are not null, whatever their order:
an array under the plain name holds no offset, and more elements can only add the time zone.
-/

namespace SqlBinding

/-- Whether a value states an offset from UTC. -/
def Value.carriesOffset : Value → Bool
  | .timeOfDay t => t.offset.isSome
  | .civil c => c.offset.isSome
  | _ => false

namespace ArrayValue

theorem hasOffset_elementTime {arith : Arithmetic} {type : SqlType} {v : Value} {time : TimeValue}
    (h : elementTime arith type v = .ok time) : time.hasOffset = v.carriesOffset := by
  cases v
  case text s =>
    rw [elementTime] at h
    cases htext : resolveTimeText s with
    | error e =>
      rw [htext] at h
      cases h
    | ok t =>
      rw [htext] at h
      cases h
      rfl
  case timeOfDay t =>
    have hnames : t.Names arith time := ((t.resolve_settles arith).1 time).mp h
    cases hnames with
    | naive hoffset _ _ => simp [Value.carriesOffset, hoffset, TimeValue.hasOffset]
    | zoned hoffset _ _ _ => simp [Value.carriesOffset, hoffset, TimeValue.hasOffset]
  all_goals cases h

private theorem hasOffset_elementTimestamp {arith : Arithmetic} {type : SqlType} {v : Value}
    {time : TimestampValue} (h : elementTimestamp arith type v = .ok time) :
    time.hasOffset = v.carriesOffset := by
  cases v
  case text s =>
    rw [elementTimestamp] at h
    cases htext : resolveTimestampText s with
    | error e =>
      rw [htext] at h
      cases h
    | ok t =>
      rw [htext] at h
      cases h
      rfl
  case civil c =>
    have hnames : c.Names arith time := ((c.resolve_settles arith).1 time).mp h
    cases hnames with
    | naive hoffset _ _ => simp [Value.carriesOffset, hoffset, TimestampValue.hasOffset]
    | zoned hoffset _ _ _ _ => simp [Value.carriesOffset, hoffset, TimestampValue.hasOffset]
  case utc u =>
    rw [elementTimestamp] at h
    cases hinstant : u.resolve with
    | error e =>
      rw [hinstant] at h
      cases h
    | ok i =>
      rw [hinstant] at h
      cases h
      rfl
  all_goals cases h

/-- The builder takes the elements and builds an array of them. -/
def Builds (arith : Arithmetic) (custom : CustomArrays) (type : SqlType)
    (elements : List TypedValue) (a : NativeArray) : Prop :=
  ∀ cs, ((ArrayValue.typed type elements).build arith custom).run cs = (.ok a, cs)

/-- What the element type name of a temporal array says of its elements. -/
structure TagLaw (arith : Arithmetic) (custom : CustomArrays) (type zonedType : SqlType)
    (plain zoned : String) : Prop where
  /-- Elements that are taken once are taken always, with the same array. -/
  builds {elements : List TypedValue} {a : NativeArray} {cs cs' : Channels}
    (h : ((ArrayValue.typed type elements).build arith custom).run cs = (.ok a, cs')) :
    Builds arith custom type elements a
  /-- The time zone is named for the declared type or for an element with an offset, and else the
  plain name is taken. -/
  tag {elements : List TypedValue} {a : NativeArray} (h : Builds arith custom type elements a) :
    (a.elementType = zoned ↔
      type = zonedType ∨ ∃ v ∈ present elements, v.carriesOffset = true) ∧
    (a.elementType ≠ zoned → a.elementType = plain)
  /-- Under the plain name no offset was given and none is stored. -/
  no_offset {elements : List TypedValue} {a : NativeArray} (h : Builds arith custom type elements a)
    (hplain : a.elementType = plain) :
    (∀ v ∈ present elements, v.carriesOffset = false) ∧
      ∀ v, some v ∈ a.data.cells → v.type ≠ .timeWithTimezone ∧ v.type ≠ .timestampWithTimezone
  /-- Elements in another order, with more nulls or with fewer, are taken under the same name. -/
  rearranged {elements others : List TypedValue} {a : NativeArray}
    (h : Builds arith custom type elements a) (hperm : (present elements).Perm (present others)) :
    ∃ a', Builds arith custom type others a' ∧ a'.elementType = a.elementType
  /-- More elements do not take the time zone away. -/
  grown {elements others : List TypedValue} {a a' : NativeArray}
    (h : Builds arith custom type elements a) (h' : Builds arith custom type others a')
    (hmore : present elements ⊆ present others) (hzoned : a.elementType = zoned) :
    a'.elementType = zoned

/-- An array whose builder converts the elements one by one and looks for an offset among the
results. -/
structure TemporalBuilder {α : Type} (arith : Arithmetic) (custom : CustomArrays)
    (type zonedType : SqlType) (family : TemporalFamily) (convert : Value → Outcome α)
    (hasOffset : α → Bool) (data : List (Option α) → ArrayData) : Prop where
  build (elements : List TypedValue) : (ArrayValue.typed type elements).build arith custom = do
    let vs ← collectPure convert elements
    return ⟨family.elementName (type == zonedType || vs.any (·.any hasOffset)), data vs⟩
  hasOffset_convert {v : Value} {a : α} (h : convert v = .ok a) : hasOffset a = v.carriesOffset
  cells_data (vs : List (Option α)) {v : NativeValue} (h : some v ∈ (data vs).cells) :
    v.type = .timeWithTimezone ∨ v.type = .timestampWithTimezone →
      ∃ a, some a ∈ vs ∧ hasOffset a = true
  names_ne : family.elementName false ≠ family.elementName true

namespace TemporalBuilder

variable {α : Type} {arith : Arithmetic} {custom : CustomArrays} {type zonedType : SqlType}
  {family : TemporalFamily} {convert : Value → Outcome α} {hasOffset : α → Bool}
  {data : List (Option α) → ArrayData} {elements others : List TypedValue} {a a' : NativeArray}

/-- Whether the declared type or a value calls for a name with a time zone. -/
def zonedOf (type zonedType : SqlType) (elements : List TypedValue) : Bool :=
  type == zonedType || (present elements).any Value.carriesOffset

private theorem zonedOf_iff : zonedOf type zonedType elements = true ↔
    type = zonedType ∨ ∃ v ∈ present elements, v.carriesOffset = true := by
  simp [zonedOf]

variable (b : TemporalBuilder arith custom type zonedType family convert hasOffset data)

include b

theorem any_hasOffset {vs : List (Option α)} {cs : Channels}
    (h : Collected (fun v => .ofOutcome (convert v)) cs elements vs cs) :
    vs.any (·.any hasOffset) = (present elements).any Value.carriesOffset := by
  rw [Bool.eq_iff_iff]
  simp only [List.any_eq_true, Option.any_eq_true]
  constructor
  · rintro ⟨_, hmem, a, rfl, ha⟩
    obtain ⟨v, hv, hconvert⟩ := (h.some_mem_iff a).mp hmem
    exact ⟨v, hv, (b.hasOffset_convert hconvert).symm.trans ha⟩
  · rintro ⟨v, hv, hoffset⟩
    obtain ⟨a, hconvert⟩ := (exists_collected_iff cs).mp ⟨vs, h⟩ v hv
    have hmem : some a ∈ vs := (h.some_mem_iff a).mpr ⟨v, hv, hconvert⟩
    exact ⟨some a, hmem, a, rfl, (b.hasOffset_convert hconvert).trans hoffset⟩

theorem builds_of_collected {vs : List (Option α)} {cs : Channels}
    (h : Collected (fun v => .ofOutcome (convert v)) cs elements vs cs) :
    Builds arith custom type elements
      ⟨family.elementName (zonedOf type zonedType elements), data vs⟩ := by
  intro other
  rw [b.build, collectPure, Step.run_bind_ok (h.in_channels other).run_collect, b.any_hasOffset h]
  rfl

theorem collected_of_run {cs cs' : Channels}
    (h : ((ArrayValue.typed type elements).build arith custom).run cs = (.ok a, cs')) :
    ∃ vs, Collected (fun v => .ofOutcome (convert v)) cs elements vs cs ∧
      a = ⟨family.elementName (zonedOf type zonedType elements), data vs⟩ := by
  rcases hcollect : (collect (fun v => .ofOutcome (convert v)) elements).run cs with
    ⟨e | vs, cs₁⟩
  · rw [b.build, collectPure, Step.run_bind_error hcollect] at h
    cases h
  · have hall := (ArrayValue.collected_of_run hcollect).in_channels cs
    rw [b.builds_of_collected hall] at h
    cases h
    exact ⟨vs, hall, rfl⟩

private theorem elementType_of_builds (h : Builds arith custom type elements a) :
    a.elementType = family.elementName (zonedOf type zonedType elements) := by
  obtain ⟨vs, -, rfl⟩ := b.collected_of_run (h .exhausted)
  rfl

private theorem elementType_eq_zoned_iff (h : Builds arith custom type elements a) :
    a.elementType = family.elementName true ↔ zonedOf type zonedType elements = true := by
  rw [b.elementType_of_builds h]
  cases zonedOf type zonedType elements with
  | true => exact ⟨fun _ => rfl, fun _ => rfl⟩
  | false => exact ⟨fun hname => absurd hname b.names_ne, nofun⟩

theorem tagLaw :
    TagLaw arith custom type zonedType (family.elementName false) (family.elementName true) where
  builds h := by
    obtain ⟨vs, hall, rfl⟩ := b.collected_of_run h
    exact b.builds_of_collected hall
  tag h := by
    refine ⟨(b.elementType_eq_zoned_iff h).trans zonedOf_iff, fun hne => ?_⟩
    have hplain := Bool.eq_false_iff.mpr (mt (b.elementType_eq_zoned_iff h).mpr hne)
    rw [b.elementType_of_builds h, hplain]
  no_offset {elements a} h hplain := by
    have hzoned : ¬ zonedOf type zonedType elements = true := by
      rw [← b.elementType_eq_zoned_iff h, hplain]
      exact b.names_ne
    have hnone : ∀ v ∈ present elements, v.carriesOffset = false := by
      intro v hv
      by_contra hoffset
      rw [Bool.not_eq_false] at hoffset
      exact hzoned (zonedOf_iff.mpr (.inr ⟨v, hv, hoffset⟩))
    refine ⟨hnone, fun v hv => ?_⟩
    obtain ⟨vs, hall, rfl⟩ := b.collected_of_run (h .exhausted)
    rw [← not_or]
    intro hzonedType
    obtain ⟨x, hx, hoffset⟩ := b.cells_data vs hv hzonedType
    obtain ⟨u, hu, hconvert⟩ := (hall.some_mem_iff x).mp hx
    rw [b.hasOffset_convert hconvert, hnone u hu] at hoffset
    cases hoffset
  rearranged {elements others a} h hperm := by
    obtain ⟨vs, hall, rfl⟩ := b.collected_of_run (h .exhausted)
    have hconvert := (exists_collected_iff .exhausted).mp ⟨vs, hall⟩
    obtain ⟨vs', hall'⟩ := (exists_collected_iff .exhausted).mpr
      fun v hv => hconvert v (hperm.mem_iff.mpr hv)
    refine ⟨_, b.builds_of_collected hall', ?_⟩
    have hsame : zonedOf type zonedType others = zonedOf type zonedType elements := by
      rw [Bool.eq_iff_iff, zonedOf_iff, zonedOf_iff]
      simp only [hperm.mem_iff]
    rw [hsame]
  grown h h' hmore hzoned := by
    rw [b.elementType_eq_zoned_iff h, zonedOf_iff] at hzoned
    rw [b.elementType_eq_zoned_iff h', zonedOf_iff]
    exact hzoned.imp_right fun ⟨v, hv, hoffset⟩ => ⟨v, hmore hv, hoffset⟩

end TemporalBuilder

theorem timeBuilder (arith : Arithmetic) (custom : CustomArrays) {type : SqlType}
    (h : type = .time ∨ type = .timeWithTimezone) :
    TemporalBuilder arith custom type .timeWithTimezone .time (elementTime arith type)
      TimeValue.hasOffset .time where
  build elements := by rcases h with rfl | rfl <;> rfl
  hasOffset_convert := hasOffset_elementTime
  cells_data vs v h hzoned := by
    obtain ⟨x, hx, hv⟩ := List.mem_map.mp h
    obtain ⟨time, rfl, rfl⟩ := Option.map_eq_some_iff.mp hv
    refine ⟨time, hx, ?_⟩
    cases time with
    | naive t => rcases hzoned with hzoned | hzoned <;> cases hzoned
    | withOffset t => rfl
  names_ne := by decide

theorem timestampBuilder (arith : Arithmetic) (custom : CustomArrays) {type : SqlType}
    (h : type = .timestamp ∨ type = .datetime ∨ type = .timestampWithTimezone) :
    TemporalBuilder arith custom type .timestampWithTimezone .timestamp
      (elementTimestamp arith type) TimestampValue.hasOffset .timestamp where
  build elements := by rcases h with rfl | rfl | rfl <;> rfl
  hasOffset_convert := hasOffset_elementTimestamp
  cells_data vs v h hzoned := by
    obtain ⟨x, hx, hv⟩ := List.mem_map.mp h
    obtain ⟨time, rfl, rfl⟩ := Option.map_eq_some_iff.mp hv
    refine ⟨time, hx, ?_⟩
    cases time with
    | naive t => rcases hzoned with hzoned | hzoned <;> cases hzoned
    | withOffset t => rfl
    | utc t => rcases hzoned with hzoned | hzoned <;> cases hzoned
  names_ne := by decide

/-- The element type name of a temporal array tells the truth about its elements. -/
theorem temporal_tag_tells_offsets (arith : Arithmetic) (custom : CustomArrays) :
    TagLaw arith custom .time .timeWithTimezone "TIME" "TIME WITH TIMEZONE" ∧
      TagLaw arith custom .timeWithTimezone .timeWithTimezone "TIME" "TIME WITH TIMEZONE" ∧
      TagLaw arith custom .timestamp .timestampWithTimezone "TIMESTAMP" "TIMESTAMP WITH TIMEZONE" ∧
      TagLaw arith custom .datetime .timestampWithTimezone "TIMESTAMP" "TIMESTAMP WITH TIMEZONE" ∧
      TagLaw arith custom .timestampWithTimezone .timestampWithTimezone "TIMESTAMP"
        "TIMESTAMP WITH TIMEZONE" :=
  ⟨(timeBuilder arith custom (.inl rfl)).tagLaw, (timeBuilder arith custom (.inr rfl)).tagLaw,
    (timestampBuilder arith custom (.inl rfl)).tagLaw,
    (timestampBuilder arith custom (.inr (.inl rfl))).tagLaw,
    (timestampBuilder arith custom (.inr (.inr rfl))).tagLaw⟩

/-- One element with an offset is enough, next to a null, a text and a time without one. -/
example (custom : CustomArrays) :
    let elements : List TypedValue :=
      [⟨.time, none⟩, ⟨.time, some (.text "10:00")⟩,
        ⟨.time, some (.timeOfDay ⟨11, 0, none, none⟩)⟩,
        ⟨.time, some (.timeOfDay ⟨12, 0, none, some ⟨1, 0, none⟩⟩)⟩]
    (((ArrayValue.typed .time elements).build .wrapping custom).run .exhausted).1.toOption.map
        (·.elementType) = some "TIME WITH TIMEZONE" ∧
      (((ArrayValue.typed .time (elements.take 3)).build .wrapping custom).run
        .exhausted).1.toOption.map (·.elementType) = some "TIME" := by
  constructor <;> with_unfolding_all rfl

end ArrayValue

end SqlBinding
