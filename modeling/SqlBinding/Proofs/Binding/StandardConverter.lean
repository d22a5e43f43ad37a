import SqlBinding.Binding.Converter

/-!
# The standard converter

A typed value of the vocabulary is converted by the category of its type, and its native type is
that of its SQL type, whatever the converter.
-/

namespace SqlBinding

theorem SqlType.native?_of_category {type : SqlType} {category : Category}
    (h : type.category? = some category) (value : Option Value) :
    ∃ native, type.native? value = some native := by
  have hcustom : type.isCustom = false := by
    cases type
    case custom => cases h
    all_goals rfl
  rw [← Option.ne_none_iff_exists', Ne, native?_eq_none_iff, hcustom]
  exact Bool.false_ne_true

namespace Converter

variable {arith : Arithmetic} {σ : Type} {type : SqlType} {native : NativeType}

theorem resolve_of_native {value : Option Value} (c : Converter σ)
    (h : type.native? value = some native) : c.resolve ⟨type, value⟩ = .ok native := by
  simp [resolve, h]

theorem convert_typed (c : Converter σ) {v : Value} (h : type.native? (some v) = some native) :
    c.convert (.typed ⟨type, some v⟩) = (native, ·) <$> c.convertAs type v := by
  rw [convert, resolve_of_native c h, map_eq_pure_bind]
  rfl

theorem convert_typed_null (c : Converter σ) (h : type.native? none = some native) :
    c.convert (.typed ⟨type, none⟩) = pure (native, .null native.ofNull) := by
  rw [convert, resolve_of_native c h]
  rfl

variable (arith σ) [Connection σ]

theorem standard_convert_typed {category : Category} (h : type.category? = some category)
    (v : Value) :
    ∃ native, type.native? (some v) = some native ∧
      (standard arith : Converter σ).convert (.typed ⟨type, some v⟩) =
        (native, ·) <$> category.bind arith (standard arith : Converter σ).customArray type v := by
  obtain ⟨native, hnative⟩ := SqlType.native?_of_category h (some v)
  refine ⟨native, hnative, ?_⟩
  rw [convert_typed _ hnative, convertAs, h]
  rfl

end Converter

end SqlBinding
