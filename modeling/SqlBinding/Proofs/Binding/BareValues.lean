import Mathlib.Data.List.Basic
import SqlBinding.Proofs.Array.Elements
import SqlBinding.Proofs.Binding.StandardConverter

/-!
# Bare values and plain arrays

A bare value of a scalar kind is bound just as if it were typed, with the type that stands for its
kind. An array of plain values is built just as the typed array of the same values, each tagged with
the type that stands for it.
-/

namespace SqlBinding

/-- The type that a bare value is bound as. -/
def Value.bareType? : Value → Option SqlType
  | .text _ => some .varchar
  | .int _ | .long _ => some .bigint
  | .float _ | .double _ => some .double
  | .decimal _ => some .numeric
  | .boolean _ => some .boolean
  | .bytes _ => some .varbinary
  | _ => none

namespace Converter

variable {arith : Arithmetic} {σ : Type} [Connection σ] {c : Converter σ} {v : Value}
  {type : SqlType}

private theorem convert_of_category {category : Category} {native : NativeType} {x : NativeValue}
    (hc : c.category = Category.bind arith) (hcategory : type.category? = some category)
    (hnative : type.native? (some v) = some native)
    (h : (category.bind arith c.customArray type v : Binding σ NativeValue) = .ofOutcome (.ok x)) :
    c.convert (.typed ⟨type, some v⟩) = pure (native, x) := by
  rw [convert_typed c hnative, convertAs, hcategory]
  dsimp only
  rw [hc, h, Step.map_ofOutcome]
  rfl

/-- A bare value and the same value with its type are converted alike, and neither conversion
fails. -/
private theorem convert_bare (hc : c.category = Category.bind arith) (h : v.bareType? = some type) :
    ∃ r, c.convert (.raw v) = pure r ∧ c.convert (.typed ⟨type, some v⟩) = pure r := by
  cases v
  case text | int | long | float | double | decimal | boolean | bytes =>
    cases h
    exact ⟨_, rfl, convert_of_category hc rfl rfl rfl⟩
  all_goals cases h

end Converter

namespace ArrayValue

/-- The typed array of values that are wrapped one by one and tagged with its element type. -/
def tagEach {α : Type} (type : SqlType) (wrap : α → Value) (vs : List α) : ArrayValue :=
  .typed type (vs.map fun v => ⟨type, some (wrap v)⟩)

/-- A plain array with the type of its values on the array and on each of them. -/
def tagged? : ArrayValue → Option ArrayValue
  | .int vs => some (tagEach .bigint .long vs)
  | .float vs => some (tagEach .double .double vs)
  | .decimal vs => some (tagEach .decimal .decimal vs)
  | .text vs => some (tagEach .varchar .text vs)
  | .boolean vs => some (tagEach .boolean .boolean vs)
  | .binary vs => some (tagEach .binary .bytes vs)
  | .nested _ | .typed _ _ => none

private theorem collect_tagged {α : Type} {convert : Value → Reading α} {wrap : α → Value}
    (h : ∀ a, convert (wrap a) = pure a) (type : SqlType) (as : List α) :
    collect convert (as.map fun a => ⟨type, some (wrap a)⟩) = pure (as.map some) := by
  induction as with
  | nil => rfl
  | cons a as ih => simp only [List.map_cons, collect, h, ih, pure_bind]

/-- A plain array is built without fail, with all its values, and another array is built just as
it is. -/
def BuiltAlike (arith : Arithmetic) (a b : ArrayValue) : Prop :=
  ∃ n, a.bindPlain = .ok n ∧ n.data.length = a.length ∧
    ∀ custom, a.build arith custom = pure n ∧ b.build arith custom = pure n

variable {arith : Arithmetic}

private theorem builtAlike_tagEach {α : Type} {type : SqlType} {convert : Value → Reading α}
    {wrap : α → Value} {a : ArrayValue} {as : List α} (make : List (Option α) → NativeArray)
    (hplain : a.bindPlain = .ok (make (as.map some)))
    (hlength : (make (as.map some)).data.length = a.length)
    (hpure : ∀ custom, a.build arith custom = .ofOutcome a.bindPlain)
    (hbuild : ∀ custom elements,
      bindTyped arith custom type elements = make <$> collect convert elements)
    (h : ∀ a, convert (wrap a) = pure a) : BuiltAlike arith a (tagEach type wrap as) := by
  refine ⟨_, hplain, hlength, fun custom => ⟨?_, ?_⟩⟩
  · rw [hpure, hplain]
    rfl
  · rw [tagEach, build, hbuild, collect_tagged h, map_pure]

private theorem builtAlike_tagged {a b : ArrayValue} (h : a.tagged? = some b) :
    BuiltAlike arith a b := by
  cases a
  case int vs =>
    cases h
    exact builtAlike_tagEach (⟨"BIGINT", .bigint ·⟩) rfl (List.length_map some) (fun _ => rfl)
      (fun _ _ => rfl) fun _ => rfl
  case float vs =>
    cases h
    exact builtAlike_tagEach (⟨"DOUBLE", .double ·⟩) rfl (List.length_map some) (fun _ => rfl)
      (fun _ _ => rfl) fun _ => rfl
  case decimal vs =>
    cases h
    exact builtAlike_tagEach (⟨"DECIMAL", .decimal ·⟩) rfl (List.length_map some) (fun _ => rfl)
      (fun _ _ => rfl) fun _ => rfl
  case text vs =>
    cases h
    exact builtAlike_tagEach (⟨"VARCHAR", .text ·⟩) rfl (List.length_map some) (fun _ => rfl)
      (fun _ _ => rfl) fun _ => rfl
  case boolean vs =>
    cases h
    exact builtAlike_tagEach (⟨"BOOLEAN", .boolean ·⟩) rfl (List.length_map some) (fun _ => rfl)
      (fun _ _ => rfl) fun _ => rfl
  case binary vs =>
    cases h
    exact builtAlike_tagEach (⟨"BINARY", .binary ·⟩) rfl (List.length_map some) (fun _ => rfl)
      (fun _ _ => rfl) fun _ => rfl
  all_goals cases h

end ArrayValue

/-- A bare value of a scalar kind is converted and bound as the type that stands for its kind, by
every converter with the standard categories. An array of plain values becomes the same native array
as the typed array of its values. None of this fails, and nothing is asked for or read. -/
theorem bare_values_bind_as_typed (arith : Arithmetic) (σ τ : Type) [Connection σ]
    [PreparedStatement τ] :
    (∀ c : Converter σ, c.category = Category.bind arith → ∀ v type, v.bareType? = some type →
      (∃ r, c.convert (.raw v) = pure r ∧ c.convert (.typed ⟨type, some v⟩) = pure r) ∧
      ∀ index, (c.bind index (.raw v) : Step (World σ × τ) NativeType) =
        c.bind index (.typed ⟨type, some v⟩)) ∧
    ∀ a b : ArrayValue, a.tagged? = some b →
      ArrayValue.BuiltAlike arith a b ∧
      ∀ custom type, (bindArray arith custom type (.array a) : Binding σ NativeValue) =
        bindArray arith custom type (.array b) := by
  refine ⟨fun c hc v type h => ?_, fun a b h => ?_⟩
  · obtain ⟨r, hraw, htyped⟩ := Converter.convert_bare hc h
    refine ⟨⟨r, hraw, htyped⟩, fun index => ?_⟩
    funext u
    simp only [Converter.bind, hraw, htyped]
  · have halike : ArrayValue.BuiltAlike arith a b := ArrayValue.builtAlike_tagged h
    refine ⟨halike, fun custom type => ?_⟩
    obtain ⟨n, -, -, hbuild⟩ := halike
    obtain ⟨ha, hb⟩ := hbuild custom
    simp only [bindArray, ha, hb]

end SqlBinding
