/-!
# Numbers of 32 bits

Arithmetic on numbers of 32 bits is exact as long as they hold the result. Where they do not, it
stops, or it goes on with the low bits of the result: which of the two is chosen for a program as a
whole.
-/

namespace SqlBinding

/-- The number in 32 bits, if they hold it. -/
def int32? (n : Int) : Option Int32 :=
  if (Int32.ofInt n).toInt = n then some (Int32.ofInt n) else none

/-- What arithmetic does with a result that 32 bits do not hold. -/
inductive Arithmetic where
  | checked | wrapping
deriving DecidableEq, Repr

/-- A result in 32 bits; checked arithmetic has none where they do not hold it. -/
def Arithmetic.int32? : Arithmetic → Int → Option Int32
  | .checked, n => SqlBinding.int32? n
  | .wrapping, n => some (Int32.ofInt n)

theorem int32_bounds (i : Int32) : -2147483648 ≤ i.toInt ∧ i.toInt ≤ 2147483647 :=
  ⟨i.le_toInt, Int.le_of_lt_add_one i.toInt_lt⟩

theorem toInt_ofInt_of_bounds {n : Int} (h : -2147483648 ≤ n ∧ n ≤ 2147483647) :
    (Int32.ofInt n).toInt = n :=
  Int32.toInt_ofInt_of_le h.1 (Int.lt_add_one_of_le h.2)

theorem int32?_eq_some_iff {n : Int} {i : Int32} : int32? n = some i ↔ i.toInt = n := by
  unfold int32?
  constructor
  · intro h
    split at h
    · next hn =>
      cases h
      exact hn
    · cases h
  · rintro rfl
    rw [Int32.ofInt_toInt, if_pos rfl]

theorem int32?_eq_none_iff {n : Int} :
    int32? n = none ↔ ¬ (-2147483648 ≤ n ∧ n ≤ 2147483647) := by
  constructor
  · intro h hn
    have hsome := int32?_eq_some_iff.mpr (toInt_ofInt_of_bounds hn)
    rw [h] at hsome
    cases hsome
  · intro h
    cases hsome : int32? n with
    | none => rfl
    | some i =>
      rw [int32?_eq_some_iff] at hsome
      exact absurd (hsome ▸ int32_bounds i) h

theorem Arithmetic.int32?_eq_some {n : Int} (h : -2147483648 ≤ n ∧ n ≤ 2147483647)
    (arith : Arithmetic) : arith.int32? n = some (Int32.ofInt n) := by
  cases arith with
  | checked => exact int32?_eq_some_iff.mpr (toInt_ofInt_of_bounds h)
  | wrapping => rfl

end SqlBinding
