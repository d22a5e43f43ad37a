import Mathlib.Data.List.Basic
import SqlBinding.Driver.Buffered
import SqlBinding.Proofs.Array.Elements
import SqlBinding.Proofs.Binding.StandardConverter

/-!
# Typed arrays and values bound alone

An array of an element type holds for each value what binding the value alone as that type gives,
and refuses it with the same error. Three things differ: FLOAT and REAL arrays keep the 64 bits that
a single parameter loses, times and timestamps given as text are read, and byte streams are read.
-/

namespace SqlBinding

/-- Binding a value alone comes to `x` and leaves the world as it was. -/
def BindsAlone (arith : Arithmetic) (σ : Type) [Connection σ] (type : SqlType) (v : Value)
    (x : Outcome NativeValue) : Prop :=
  ∃ native, type.native? (some v) = some native ∧ ∀ w : World σ,
    ((Converter.standard arith : Converter σ).convert (.typed ⟨type, some v⟩)).run w =
      ((native, ·) <$> x, w)

/-- The value as an array holds it: a national text is a text. -/
def NativeValue.payload : NativeValue → NativeValue
  | .nstring s => .string s
  | v => v

namespace SqlType

/-- Whether an array holds a value just as it is bound alone. -/
def bindsAlike : SqlType → Value → Bool
  | .float, _ | .real, _ => false
  | .time, .text _ | .timeWithTimezone, .text _ => false
  | .timestamp, .text _ | .datetime, .text _ | .timestampWithTimezone, .text _ => false
  | .binary, .byteStream _ | .varbinary, .byteStream _ => false
  | type, _ => type.isElement

/-- A 64-bit number as it is bound alone: in 32 bits, unless REAL gets a value of 64 bits. -/
def narrowed (type : SqlType) (v : Value) (x : Float) : NativeValue :=
  match type, v with
  | .real, .double _ => .double x
  | _, _ => .float x.toFloat32

end SqlType

section

variable {arith : Arithmetic} {σ : Type} [Connection σ] {type : SqlType} {v : Value}
  {x : Outcome NativeValue}

theorem bindsAlone_of_category {category : Category} (hcategory : type.category? = some category)
    (h : (category.bind arith (Converter.standard arith : Converter σ).customArray type v :
      Binding σ _) = .ofOutcome x) :
    BindsAlone arith σ type v x := by
  obtain ⟨native, hnative, hconvert⟩ := Converter.standard_convert_typed arith σ hcategory v
  refine ⟨native, hnative, fun w => ?_⟩
  rw [hconvert, h, Step.map_ofOutcome, Step.run_ofOutcome]

private theorem payload_ofTime (t : TimeValue) : (NativeValue.ofTime t).payload = .ofTime t := by
  cases t <;> rfl

private theorem payload_ofTimestamp (t : TimestampValue) :
    (NativeValue.ofTimestamp t).payload = .ofTimestamp t := by
  cases t <;> rfl

private theorem map_payload {α : Type} {f : α → NativeValue} (hf : ∀ a, (f a).payload = f a)
    (y : Outcome α) : NativeValue.payload <$> f <$> y = f <$> y := by
  rw [Functor.map_map]
  simp only [hf]

private theorem element_integer (h : type.category? = some .integer) (v : Value) :
    type.element arith v = .ofOutcome (NativeValue.payload <$> bindInteger type v) := by
  cases type
  case integer | bigint | smallint =>
    simp only [SqlType.element, bindInteger]
    cases v.toInt64 _ <;> rfl
  all_goals cases h

private theorem element_text (h : type = .char ∨ type = .varchar ∨ type = .nvarchar) (v : Value) :
    type.element arith v = .ofOutcome (NativeValue.payload <$> bindText type v) := by
  rcases h with rfl | rfl | rfl <;> cases v <;> rfl

private theorem element_time (h : type.category? = some .time) (hv : type.bindsAlike v = true) :
    type.element arith v = .ofOutcome (NativeValue.payload <$> bindTime arith type v) := by
  cases type
  case time | timeWithTimezone =>
    cases v
    case text => cases hv
    case timeOfDay t =>
      exact congrArg Step.ofOutcome (map_payload payload_ofTime (t.resolve arith)).symm
    all_goals rfl
  all_goals cases h

private theorem element_timestamp (h : type.category? = some .timestamp)
    (hv : type.bindsAlike v = true) :
    type.element arith v = .ofOutcome (NativeValue.payload <$> bindTimestamp arith type v) := by
  cases type
  case timestamp | datetime | timestampWithTimezone =>
    cases v
    case text => cases hv
    case civil c =>
      exact congrArg Step.ofOutcome (map_payload payload_ofTimestamp (c.resolve arith)).symm
    case utc u =>
      simp only [SqlType.element, ArrayValue.elementTimestamp, bindTimestamp]
      cases u.resolve <;> rfl
    all_goals rfl
  all_goals cases h

private theorem element_binary (h : type = .binary ∨ type = .varbinary)
    (hv : type.bindsAlike v = true) :
    type.element arith v = .ofOutcome (NativeValue.payload <$> bindBinary type v) := by
  rcases h with rfl | rfl
  all_goals
    cases v
    case byteStream => cases hv
    all_goals rfl

/-- An array holds the payload of the value bound alone, and fails as binding it alone does. -/
private theorem element_of_bindsAlike (h : type.bindsAlike v = true) :
    ∃ x, BindsAlone arith σ type v x ∧
      type.element arith v = .ofOutcome (NativeValue.payload <$> x) := by
  cases type
  case integer | bigint | smallint =>
    exact ⟨_, bindsAlone_of_category rfl rfl, element_integer rfl v⟩
  case decimal | numeric =>
    exact ⟨_, bindsAlone_of_category rfl rfl,
      congrArg Step.ofOutcome (map_payload (fun _ => rfl) (v.toDecimal _)).symm⟩
  case double =>
    refine ⟨_, bindsAlone_of_category rfl rfl, ?_⟩
    simp only [SqlType.element, bindFloat]
    cases v.toFloat _ <;> rfl
  case char | varchar | nvarchar =>
    exact ⟨_, bindsAlone_of_category rfl rfl, element_text (by simp) v⟩
  case boolean | bit =>
    exact ⟨_, bindsAlone_of_category rfl rfl,
      congrArg Step.ofOutcome (map_payload (fun _ => rfl) (v.toBool _)).symm⟩
  case date =>
    exact ⟨_, bindsAlone_of_category rfl rfl,
      congrArg Step.ofOutcome (map_payload (fun _ => rfl) (v.toDate _)).symm⟩
  case time | timeWithTimezone =>
    exact ⟨_, bindsAlone_of_category rfl rfl, element_time rfl h⟩
  case timestamp | datetime | timestampWithTimezone =>
    exact ⟨_, bindsAlone_of_category rfl rfl, element_timestamp rfl h⟩
  case binary | varbinary =>
    exact ⟨_, bindsAlone_of_category rfl rfl, element_binary (by simp) h⟩
  all_goals cases h

private theorem bindFloat_narrowed (h : type = .float ∨ type = .real) (v : Value) :
    bindFloat type v = type.narrowed v <$> v.toFloat type := by
  rcases h with rfl | rfl
  · rw [bindFloat]
    cases v.toFloat _ <;> rfl
  · cases v <;> rfl

/-- The type has a part in the conversion to a binary number only when that fails. -/
private theorem toFloat_ok {d : Float} (h : v.toFloat type = .ok d) (other : SqlType) :
    v.toFloat other = .ok d := by
  cases v
  case int | long | float | double | decimal => exact h
  all_goals cases h

/-- FLOAT and REAL arrays take what a parameter of the type takes, and hold the number that the
parameter narrows: the one that is bound as DOUBLE. -/
private theorem element_narrowed (h : type = .float ∨ type = .real) (v : Value) :
    ∃ y : Outcome Float, type.element arith v = .ofOutcome (.double <$> y) ∧
      BindsAlone arith σ type v (type.narrowed v <$> y) ∧
      ∀ d, y = .ok d → BindsAlone arith σ .double v (.ok (.double d)) := by
  refine ⟨v.toFloat type, ?_, ?_, fun d hd => ?_⟩
  · rcases h with rfl | rfl <;> rfl
  · have hcategory : type.category? = some .float := by rcases h with rfl | rfl <;> rfl
    refine bindsAlone_of_category hcategory ?_
    rw [← bindFloat_narrowed h]
    rfl
  · refine bindsAlone_of_category rfl ?_
    simp only [Category.bind, bindFloat, toFloat_ok hd .double]
    rfl

theorem run_element_byteStream (h : type = .binary ∨ type = .varbinary) (c : ByteChannel)
    (cs : Channels) :
    (type.element arith (.byteStream c)).run cs =
      (.bytes <$> (cs.readBytes c).1.mapError (fun message => .error (.io .arrayElement message)),
        (cs.readBytes c).2) := by
  rcases h with rfl | rfl
  all_goals
    rw [SqlType.element, Step.run_map]
    rfl

end

/-- What an array holds for a value, next to what comes of the value bound alone. -/
structure ElementLaw (arith : Arithmetic) (σ : Type) [Connection σ] (type : SqlType) : Prop where
  alike : ∀ v, type.bindsAlike v = true →
    ∃ x, BindsAlone arith σ type v x ∧
      type.element arith v = .ofOutcome (NativeValue.payload <$> x)
  narrowed : type = .float ∨ type = .real → ∀ v, ∃ y : Outcome Float,
    type.element arith v = .ofOutcome (.double <$> y) ∧
      BindsAlone arith σ type v (type.narrowed v <$> y) ∧
      ∀ d, y = .ok d → BindsAlone arith σ .double v (.ok (.double d))
  stream : type = .binary ∨ type = .varbinary → ∀ c cs,
    (type.element arith (.byteStream c)).run cs =
      (.bytes <$> (cs.readBytes c).1.mapError (fun message => .error (.io .arrayElement message)),
        (cs.readBytes c).2)

open ArrayValue in
/-- A typed array is built of its elements one by one, in their order and with the nulls where they
are, and is handed to the connection only then. Or there is a first value that fails: its error is
that of the array, whatever follows it, and the connection is not asked for anything. -/
inductive BuiltByElements (arith : Arithmetic) {σ : Type} [Connection σ] (custom : CustomArrays)
    (type : SqlType) (elements : List TypedValue) (w : World σ) : Prop
  | built {a : NativeArray} {cs : Channels}
      (build : ((ArrayValue.typed type elements).build arith custom).run w.channels = (.ok a, cs))
      (cells : Collected (type.element arith) w.channels elements a.data.cells cs)
      (length : a.data.length = elements.length)
      (nulls : a.data.cells.map Option.isSome = elements.map fun t => t.value.isSome)
      (bind : (bindArray arith custom .array (.array (.typed type elements))).run w =
        a.create.run ⟨cs, w.connection⟩)
  | fails {before after : List TypedValue} {tag : SqlType} {v : Value}
      {cells : List (Option NativeValue)} {cs₁ cs : Channels} {e : Failure}
      (split : elements = before ++ ⟨tag, some v⟩ :: after)
      (cells : Collected (type.element arith) w.channels before cells cs₁)
      (element : (type.element arith v).run cs₁ = (.error e, cs))
      (build : ∀ rest, ((ArrayValue.typed type (before ++ ⟨tag, some v⟩ :: rest)).build arith
        custom).run w.channels = (.error e, cs))
      (bind : ∀ rest, (bindArray arith custom .array
        (.array (.typed type (before ++ ⟨tag, some v⟩ :: rest)))).run w =
          (.error e, ⟨cs, w.connection⟩))

section

variable {arith : Arithmetic} {σ : Type} [Connection σ]

private theorem elementLaw (type : SqlType) : ElementLaw arith σ type where
  alike _ h := element_of_bindsAlike h
  narrowed h v := element_narrowed h v
  stream h c cs := run_element_byteStream h c cs

private theorem builtByElements (custom : CustomArrays) {type : SqlType} (h : type.isElement = true)
    (elements : List TypedValue) (w : World σ) : BuiltByElements arith custom type elements w := by
  rcases ArrayValue.collected_or_fails (type.element arith) elements w.channels with
    ⟨cells, cs, hcells⟩ | ⟨before, tag, v, after, cells, cs₁, e, cs, hsplit, hcells, hv⟩
  · obtain ⟨a, hbuild, rfl⟩ := ArrayValue.run_bindTyped_of_collected custom h hcells
    have hlength : a.data.length = elements.length := by
      rw [← a.data.length_cells, hcells.length_eq]
    exact .built hbuild hcells hlength hcells.map_isSome (run_bindArray_ok .array hbuild)
  · have hbuild : ∀ rest, ((ArrayValue.typed type (before ++ ⟨tag, some v⟩ :: rest)).build
        arith custom).run w.channels = (.error e, cs) := fun rest =>
      ArrayValue.run_bindTyped_error custom h hcells hv rest
    exact .fails hsplit hcells hv hbuild fun rest => run_bindArray_error .array (hbuild rest)

/-- A typed array of a type of the vocabulary is the pointwise lift of binding its values alone:
each value comes to the payload, or to the error, that it has when it is bound alone. -/
theorem typed_array_lifts_scalars (arith : Arithmetic) (custom : CustomArrays) {type : SqlType}
    (h : type.isElement = true) :
    ElementLaw arith σ type ∧
      (∀ elements (w : World σ), BuiltByElements arith custom type elements w) ∧
      ∀ elements others : List TypedValue, elements.map (·.value) = others.map (·.value) →
        (ArrayValue.typed type elements).build arith custom =
          (ArrayValue.typed type others).build arith custom := by
  refine ⟨elementLaw type, builtByElements custom h, fun elements others hvalues => ?_⟩
  exact ArrayValue.bindTyped_congr custom h hvalues

/-- An array of national texts, whatever its elements are tagged with, and one with a number among
them. -/
theorem typed_array_lifts_scalars_nvarchar :
    let custom := (Converter.standard .checked : Converter BufferedConnection).customArray
    SqlType.nvarchar.isElement = true ∧ ElementLaw .checked BufferedConnection .nvarchar ∧
      (∀ w : World BufferedConnection, BuiltByElements .checked custom .nvarchar
        [⟨.nvarchar, some (.text "a")⟩, ⟨.bit, none⟩, ⟨.bit, some (.int 1)⟩] w) ∧
      [(⟨.bit, none⟩ : TypedValue)].map (·.value) = [(⟨.date, none⟩ : TypedValue)].map (·.value) ∧
      (ArrayValue.typed .nvarchar [⟨.bit, none⟩]).build .checked custom =
        (ArrayValue.typed .nvarchar [⟨.date, none⟩]).build .checked custom := by
  intro custom
  have h : SqlType.nvarchar.isElement = true := rfl
  obtain ⟨hlaw, hbuilt, htags⟩ :=
    @typed_array_lifts_scalars BufferedConnection _ .checked custom _ h
  exact ⟨h, hlaw, hbuilt _, rfl, htags _ _ rfl⟩

end

end SqlBinding
