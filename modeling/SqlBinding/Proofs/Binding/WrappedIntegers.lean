import Mathlib.Data.Int.ModEq
import SqlBinding.Proofs.Binding.CoercionMatrix

/-!
# Integers in the width of their type

An integer that is bound as an integer type, alone or in an array, is brought to the width of the
type. It is taken as it is if the width holds it. An integer outside of the range of the type is not
refused: its last bits are bound, which is another integer.
-/

namespace SqlBinding

/-- The range of the signed integers of so many bits. -/
def InWidth (bits : Nat) (x : Int) : Prop := -2 ^ (bits - 1) ≤ x ∧ x < 2 ^ (bits - 1)

/-- The integer in the range of so many bits that ends in the same bits. -/
structure WrapsTo (bits : Nat) (x y : Int) : Prop where
  inWidth : InWidth bits y
  sameBits : x ≡ y [ZMOD 2 ^ bits]

section

variable {bits : Nat} {x y : Int}

private theorem wrapsTo_iff (h : 0 < bits) : WrapsTo bits x y ↔ x.bmod (2 ^ bits) = y := by
  obtain ⟨n, rfl⟩ := Nat.exists_eq_succ_of_ne_zero h.ne'
  have hcast : ((2 ^ (n + 1) : Nat) : Int) = 2 ^ (n + 1) := by push_cast; rfl
  have hdouble : (2 : Int) ^ (n + 1) = 2 ^ n * 2 := Int.pow_succ 2 n
  have hlow : -(((2 ^ (n + 1) : Nat) : Int) / 2) ≤ y ↔ -2 ^ n ≤ y := by omega
  have hhigh : y < (((2 ^ (n + 1) : Nat) : Int) + 1) / 2 ↔ y < 2 ^ n := by omega
  rw [Int.bmod_eq_iff (Nat.two_pow_pos _), hlow, hhigh, hcast, ← Int.modEq_iff_dvd]
  constructor
  · exact fun hwraps => ⟨hwraps.inWidth.1, hwraps.inWidth.2, hwraps.sameBits⟩
  · exact fun ⟨hfrom, hto, hsame⟩ => ⟨⟨hfrom, hto⟩, hsame⟩

private theorem wrapsTo_self (h : InWidth bits x) : WrapsTo bits x x := ⟨h, Int.ModEq.refl x⟩

private theorem WrapsTo.eq_iff (h : WrapsTo bits x y) (hbits : 0 < bits) :
    y = x ↔ InWidth bits x := by
  constructor
  · rintro rfl
    exact h.inWidth
  · intro hx
    rw [← (wrapsTo_iff hbits).mp h, (wrapsTo_iff hbits).mp (wrapsTo_self hx)]

end

/-- The width of an integer type. -/
def SqlType.bits? : SqlType → Option Nat
  | .smallint => some 16
  | .integer => some 32
  | .bigint => some 64
  | _ => none

/-- An integer in the width of an integer type. -/
def SqlType.ofInteger (type : SqlType) (i : Int64) : NativeValue :=
  match type with
  | .smallint => .smallint i.toInt16
  | .integer => .integer i.toInt32
  | _ => .bigint i

def NativeValue.integer? : NativeValue → Option Int
  | .smallint i => some i.toInt
  | .integer i => some i.toInt
  | .bigint i => some i.toInt
  | _ => none

/-- A native integer is what an integer wraps to in so many bits: that integer just if it is in the
range. -/
inductive BoundIn (bits : Nat) (v : Value) (n : NativeValue) : Prop
  | intro {i : Int64} {y : Int} (given : v.integer? = some i) (bound : n.integer? = some y)
      (wraps : WrapsTo bits i.toInt y) (kept : y = i.toInt ↔ InWidth bits i.toInt)

section

variable {type : SqlType} {bits : Nat} {v : Value} {i : Int64}

private theorem toInt64_eq_ok_iff (type : SqlType) :
    v.toInt64 type = .ok i ↔ v.integer? = some i := by
  cases v
  case int | long => simp [Value.toInt64, Value.integer?]
  all_goals
    constructor
    · intro h
      cases h
    · intro h
      cases h

private theorem inWidth_toInt (i : Int64) : InWidth 64 i.toInt := ⟨i.le_toInt, i.toInt_lt⟩

private theorem exists_wrapsTo (h : type.bits? = some bits) (i : Int64) :
    0 < bits ∧ ∃ y, (type.ofInteger i).integer? = some y ∧ WrapsTo bits i.toInt y := by
  cases type
  case smallint =>
    cases h
    refine ⟨by decide, _, rfl, ?_⟩
    rw [wrapsTo_iff (by decide), i.toInt_toInt16]
  case integer =>
    cases h
    refine ⟨by decide, _, rfl, ?_⟩
    rw [wrapsTo_iff (by decide), i.toInt_toInt32]
  case bigint =>
    cases h
    exact ⟨by decide, _, rfl, wrapsTo_self (inWidth_toInt i)⟩
  all_goals cases h

private theorem boundIn_ofInteger (h : type.bits? = some bits) (hv : v.integer? = some i) :
    BoundIn bits v (type.ofInteger i) := by
  obtain ⟨hbits, y, hy, hwraps⟩ := exists_wrapsTo h i
  exact .intro hv hy hwraps (hwraps.eq_iff hbits)

private theorem category_of_bits (h : type.bits? = some bits) : type.category? = some .integer := by
  cases type
  case smallint | integer | bigint => rfl
  all_goals cases h

private theorem isElement_of_bits (h : type.bits? = some bits) : type.isElement = true := by
  cases type
  case smallint | integer | bigint => rfl
  all_goals cases h

private theorem bindInteger_eq (type : SqlType) (v : Value) :
    bindInteger type v = type.ofInteger <$> v.toInt64 type := by
  unfold bindInteger
  cases v.toInt64 type with
  | error e => rfl
  | ok i => cases type <;> rfl

private theorem element_eq_ofInteger (arith : Arithmetic) (h : type.bits? = some bits) :
    type.element arith = fun v => .ofOutcome (type.ofInteger <$> v.toInt64 type) := by
  funext v
  cases type
  case smallint | integer | bigint =>
    simp only [SqlType.element]
    cases v.toInt64 _ <;> rfl
  all_goals cases h

private theorem boundIn_of_element {n : NativeValue} (h : type.bits? = some bits)
    (hn : type.ofInteger <$> v.toInt64 type = .ok n) : BoundIn bits v n := by
  cases hi : v.toInt64 type with
  | error e =>
    rw [hi] at hn
    cases hn
  | ok i =>
    rw [hi] at hn
    cases hn
    exact boundIn_ofInteger h ((toInt64_eq_ok_iff type).mp hi)

end

/-- How an integer type of so many bits takes integers, alone and as the elements of an array. -/
structure IntegerLaw (arith : Arithmetic) (σ : Type) [Connection σ] (type : SqlType) (bits : Nat) :
    Prop where
  /-- An integer alone is bound, in the range or not. -/
  alone : ∀ v i, v.integer? = some i → ∃ n, BindsAlone arith σ type v (.ok n) ∧ BoundIn bits v n
  /-- An array is built if nothing but integers and nulls is in it, and only then. -/
  built : ∀ custom elements cs,
    (∃ a, ((ArrayValue.typed type elements).build arith custom).run cs = (.ok a, cs)) ↔
      ∀ v ∈ ArrayValue.present elements, ∃ i, v.integer? = some i
  elements : ∀ custom elements a cs cs',
    ((ArrayValue.typed type elements).build arith custom).run cs = (.ok a, cs') →
      List.Forall₂ (fun t n => Option.Rel (BoundIn bits) t.value n) elements a.data.cells
  /-- What is built is what the connection is asked to make. -/
  handed : ∀ elements a (w : World σ) cs,
    ((ArrayValue.typed type elements).build arith
      (Converter.standard arith : Converter σ).customArray).run w.channels = (.ok a, cs) →
    ((Converter.standard arith : Converter σ).convert
      (.typed ⟨.array, some (.array (.typed type elements))⟩)).run w =
        ((NativeType.array, ·) <$> (a.create : Binding σ NativeValue)).run ⟨cs, w.connection⟩

section

variable (arith : Arithmetic) (σ : Type) [Connection σ]

private theorem integerLaw {type : SqlType} {bits : Nat} (h : type.bits? = some bits) :
    IntegerLaw arith σ type bits where
  alone v i hv := by
    refine ⟨type.ofInteger i, bindsAlone_of_category (category_of_bits h) ?_,
      boundIn_ofInteger h hv⟩
    rw [Category.bind, bindInteger_eq, (toInt64_eq_ok_iff type).mpr hv]
    rfl
  built custom elements cs := by
    simp only [← toInt64_eq_ok_iff type]
    rw [← ArrayValue.exists_collected_map_iff type.ofInteger cs, ← element_eq_ofInteger arith h]
    constructor
    · rintro ⟨a, ha⟩
      exact ⟨_, ArrayValue.collected_of_bindTyped custom (isElement_of_bits h) ha⟩
    · rintro ⟨cells, hcells⟩
      obtain ⟨a, ha, -⟩ :=
        ArrayValue.run_bindTyped_of_collected custom (isElement_of_bits h) hcells
      exact ⟨a, ha⟩
  elements custom elements a cs cs' ha := by
    have hcells := ArrayValue.collected_of_bindTyped custom (isElement_of_bits h) ha
    rw [element_eq_ofInteger arith h] at hcells
    have hbound := hcells.forall₂_map (f := id) fun v _ n hn => boundIn_of_element h hn
    rwa [Option.map_id_fun, List.map_id_fun] at hbound
  handed elements a w cs ha := by
    have hcategory : SqlType.array.category? = some .array := rfl
    obtain ⟨native, hnative, hconvert⟩ :=
      Converter.standard_convert_typed arith σ hcategory (.array (.typed type elements))
    cases hnative
    rw [hconvert, Category.bind, Step.run_map, run_bindArray_ok .array ha, Step.run_map]

/-- An integer is bound as the integer of the type's width that ends in the same bits, alone and in
arrays of any length: it is kept in the range of the type, changed outside of it, and refused
nowhere. The widest type keeps every integer. -/
theorem integers_wrap_to_width :
    IntegerLaw arith σ .smallint 16 ∧ IntegerLaw arith σ .integer 32 ∧
      IntegerLaw arith σ .bigint 64 ∧
      ∀ i : Int64, InWidth 64 i.toInt :=
  ⟨integerLaw arith σ rfl, integerLaw arith σ rfl, integerLaw arith σ rfl, inWidth_toInt⟩

end

/-- Integers beyond the range of their type are bound as negative ones, alone and in an array. -/
theorem integers_beyond_range_change :
    let w : World BufferedConnection := ⟨.exhausted, {}⟩
    ¬ InWidth 16 40000 ∧ ¬ InWidth 32 2147483648 ∧
      ((Converter.standard .checked).convert (.typed ⟨.smallint, some (.int 40000)⟩)).run w =
        (.ok (.smallint, .smallint (-25536)), w) ∧
      ((ArrayValue.typed .integer [⟨.integer, none⟩, ⟨.integer, some (.long 2147483648)⟩]).build
        .checked (Converter.standard .checked : Converter BufferedConnection).customArray).run
          .exhausted = (.ok ⟨"INT", .integer [none, some (-2147483648)]⟩, .exhausted) ∧
      (NativeValue.smallint (-25536)).integer? ≠ some (40000 : Int32).toInt ∧
      (NativeValue.integer (-2147483648)).integer? ≠ some (2147483648 : Int64).toInt := by
  intro w
  refine ⟨?_, ?_, rfl, rfl, by decide, by decide⟩
  · rintro ⟨-, hlt⟩
    exact absurd hlt (by decide)
  · rintro ⟨-, hlt⟩
    exact absurd hlt (by decide)

end SqlBinding
