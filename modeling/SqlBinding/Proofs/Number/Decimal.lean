import Mathlib.Data.List.Basic
import SqlBinding.Number.Decimal.Arithmetic
import SqlBinding.Number.Decimal.Significant

/-!
# Decimals that fit

Roundings that never outgrow the 96 bits of a decimal: the product of a fraction with a number that
fits, and the significant digits of an integer of 64 bits.
-/

namespace SqlBinding

theorem divHalfEven_le (n d : Nat) : divHalfEven n d ≤ n / d + 1 := by
  unfold divHalfEven
  dsimp only
  split
  · omega
  · split <;> omega

theorem tenPow_le_tenPow {m n : Nat} (h : m ≤ n) : tenPow m ≤ tenPow n :=
  Nat.pow_le_pow_right (by decide) h

theorem tenPow_pred_digitCount_le {n : Nat} (h : 0 < n) : tenPow (digitCount n - 1) ≤ n := by
  induction n using digitCount.induct with
  | case1 n hlt =>
    rw [digitCount, if_pos hlt]
    exact h
  | case2 n hge ih =>
    have hquotient := ih (by omega)
    have hpos := digitCount_pos (n / 10)
    have hcount : digitCount n - 1 = digitCount (n / 10) - 1 + 1 := by
      rw [digitCount, if_neg hge]
      omega
    rw [hcount, tenPow_succ]
    omega

namespace Decimal

theorem ofParts?_ne_none {negative : Bool} {mantissa scale : Nat} (h : mantissa < mantissaBound) :
    ofParts? negative mantissa scale ≠ none := by
  rw [ofParts?, dif_pos h]
  exact Option.some_ne_none _

/-- A number fits if its whole part does, since all digits behind the point may be dropped. -/
theorem fit?_ne_none {negative : Bool} {mantissa scale : Nat}
    (h : divHalfEven mantissa (tenPow scale) < mantissaBound) :
    fit? negative mantissa scale ≠ none := by
  intro hnone
  have hall := List.findSome?_eq_none_iff.mp hnone scale (List.mem_range.mpr (Nat.lt_succ_self _))
  exact ofParts?_ne_none h hall

theorem times?_ne_none_of_fraction {d : Decimal} {n : Nat} (hd : d.mantissa < tenPow d.scale)
    (hn : n < mantissaBound) : d.times? n ≠ none := by
  unfold times?
  split
  · exact Option.some_ne_none _
  · next hzero =>
    have hpos : 0 < n := by
      rcases Nat.eq_zero_or_pos n with rfl | hpos
      · exact absurd (Nat.zero_mul _) hzero
      · exact hpos
    have hquotient : n * d.mantissa / tenPow d.scale < n := by
      rw [Nat.div_lt_iff_lt_mul (tenPow_pos _)]
      exact Nat.mul_lt_mul_of_pos_left hd hpos
    have hround := divHalfEven_le (n * d.mantissa) (tenPow d.scale)
    exact fit?_ne_none (by omega)

theorem fraction_mantissa_lt (d : Decimal) : d.fraction.mantissa < tenPow d.fraction.scale :=
  Nat.mod_lt _ (tenPow_pos _)

theorem significant?_ofInt64_ne_none (i : Int64) {n : Nat} (hn : 0 < n) :
    (ofInt64 i).significant? n ≠ none := by
  have hmantissa : (ofInt64 i).mantissa ≤ 9223372036854775808 := by
    have hlow := Int64.le_toInt i
    have hhigh := Int64.toInt_lt i
    simp only [ofInt64]
    omega
  have hscale : (ofInt64 i).scale = 0 := rfl
  generalize ofInt64 i = d at hmantissa hscale
  unfold significant?
  dsimp only
  split
  · exact Option.some_ne_none _
  · next hzero =>
    split
    · exact Option.some_ne_none _
    · next hdigits =>
      have hexcess : ¬ digitCount d.mantissa - n ≤ d.scale := by omega
      rw [if_neg hexcess, hscale, Nat.sub_zero]
      have hpos : 0 < d.mantissa := by
        rw [isZero, beq_iff_eq] at hzero
        omega
      generalize hp : tenPow (digitCount d.mantissa - n) = p
      have hpower : p ≤ d.mantissa := by
        rw [← hp]
        exact Nat.le_trans (tenPow_le_tenPow (by omega)) (tenPow_pred_digitCount_le hpos)
      have hkept : divHalfEven d.mantissa p * p ≤ d.mantissa + p := by
        calc divHalfEven d.mantissa p * p
            ≤ (d.mantissa / p + 1) * p := Nat.mul_le_mul_right p (divHalfEven_le _ _)
          _ = d.mantissa / p * p + p := Nat.succ_mul _ _
          _ ≤ d.mantissa + p := Nat.add_le_add_right (Nat.div_mul_le_self _ _) p
      have hbound : 18446744073709551616 < mantissaBound := by decide
      exact ofParts?_ne_none (by omega)

end Decimal

end SqlBinding
