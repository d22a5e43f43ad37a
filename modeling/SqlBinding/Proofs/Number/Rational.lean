import Mathlib.Data.Rat.Floor
import Mathlib.Tactic.FieldSimp
import Mathlib.Tactic.NormNum
import Mathlib.Tactic.Positivity
import Mathlib.Tactic.Ring
import SqlBinding.Proofs.Number.Decimal

/-!
# Decimals as rational numbers

The number that a decimal stands for. Floor, fraction and rounding are those of that number. The
product of a fraction with a power of ten is exact: all that it drops are zeros which the power has
appended.
-/

namespace SqlBinding

theorem divHalfUp_eq_floor (n : Nat) {d : Nat} (h : 0 < d) :
    (divHalfUp n d : Int) = ⌊(n : ℚ) / d + 1 / 2⌋ := by
  have hd : (d : ℚ) ≠ 0 := Nat.cast_ne_zero.mpr (Nat.pos_iff_ne_zero.mp h)
  have hsum : (n : ℚ) / d + 1 / 2 = ((2 * n + d : Nat) : ℚ) / ((2 * d : Nat) : ℚ) := by
    push_cast
    field_simp
  rw [hsum, Rat.floor_natCast_div_natCast]
  rfl

/-- The whole number nearest to a number; a tie goes away from zero. -/
def roundAway (x : ℚ) : Int := if x < 0 then -⌊-x + 1 / 2⌋ else ⌊x + 1 / 2⌋

@[simp] theorem roundAway_intCast (n : Int) : roundAway n = n := by
  have hhalf : ⌊(1 / 2 : ℚ)⌋ = 0 := by norm_num
  unfold roundAway
  split
  · rw [← Int.cast_neg, Int.floor_intCast_add, hhalf]
    omega
  · rw [Int.floor_intCast_add, hhalf, add_zero]

theorem roundAway_neg (x : ℚ) : roundAway (-x) = -roundAway x := by
  have hhalf : ⌊(1 / 2 : ℚ)⌋ = 0 := by norm_num
  rcases lt_trichotomy x 0 with hlt | rfl | hgt
  · have hneg : ¬ -x < 0 := by
      rw [Left.neg_neg_iff]
      exact not_lt_of_gt hlt
    rw [roundAway, if_neg hneg, roundAway, if_pos hlt, neg_neg]
  · rw [neg_zero, roundAway, if_neg (lt_irrefl 0), zero_add, hhalf, neg_zero]
  · rw [roundAway, if_pos (Left.neg_neg_iff.mpr hgt), roundAway, if_neg (not_lt_of_gt hgt), neg_neg]

theorem tenPow_ne_zero (n : Nat) : (tenPow n : ℚ) ≠ 0 :=
  Nat.cast_ne_zero.mpr (Nat.pos_iff_ne_zero.mp (tenPow_pos n))

namespace Decimal

/-- The number that a decimal stands for. -/
def toRat (d : Decimal) : ℚ := d.signed / tenPow d.scale

theorem toRat_eq (d : Decimal) :
    d.toRat = (if d.negative then -1 else 1) * (d.mantissa / tenPow d.scale) := by
  unfold toRat signed
  split
  · push_cast
    ring
  · push_cast
    ring

theorem toRat_of_nonneg {d : Decimal} (h : d.negative = false) :
    d.toRat = d.mantissa / tenPow d.scale := by
  rw [toRat_eq, h]
  simp

theorem abs_toRat (d : Decimal) : |d.toRat| = d.mantissa / tenPow d.scale := by
  have hquotient : |(d.mantissa : ℚ) / tenPow d.scale| = d.mantissa / tenPow d.scale :=
    abs_of_nonneg (by positivity)
  rw [toRat_eq, abs_mul, hquotient]
  split <;> simp

theorem mantissa_lt_of_abs {d : Decimal} (h : |d.toRat| < 1) : d.mantissa < tenPow d.scale := by
  have hpower : (0 : ℚ) < tenPow d.scale := Nat.cast_pos.mpr (tenPow_pos _)
  rwa [abs_toRat, div_lt_one hpower, Nat.cast_lt] at h

theorem toRat_nonneg {d : Decimal} (h : d.negative = false) : 0 ≤ d.toRat := by
  rw [toRat_of_nonneg h]
  positivity

/-- A number that is not negative has no minus sign, unless it is a zero with one. -/
theorem negative_of_nonneg {d : Decimal} (hzero : d.toRat = 0 → d.negative = false)
    (h : 0 ≤ d.toRat) : d.negative = false := by
  by_contra hnegative
  rw [Bool.not_eq_false] at hnegative
  have hle : d.toRat ≤ 0 := by
    rw [toRat_eq, if_pos hnegative, neg_one_mul, neg_nonpos]
    positivity
  rw [hzero (le_antisymm hle h)] at hnegative
  cases hnegative

theorem floor_eq (d : Decimal) : d.floor = ⌊d.toRat⌋ :=
  (Rat.floor_intCast_div_natCast d.signed (tenPow d.scale)).symm

theorem round_eq {d : Decimal} (h : d.negative = false) : d.round = ⌊d.toRat + 1 / 2⌋ := by
  rw [toRat_of_nonneg h, ← divHalfUp_eq_floor _ (tenPow_pos _), round, h]
  rfl

theorem round_eq_roundAway (d : Decimal) : d.round = roundAway d.toRat := by
  have hquotient : (0 : ℚ) ≤ d.mantissa / tenPow d.scale := by positivity
  cases hnegative : d.negative with
  | false =>
    rw [round_eq hnegative, roundAway, if_neg (not_lt_of_ge (toRat_nonneg hnegative))]
  | true =>
    have hvalue : d.toRat = -(d.mantissa / tenPow d.scale) := by
      rw [toRat_eq, if_pos hnegative, neg_one_mul]
    rw [hvalue, roundAway_neg, roundAway, if_neg (not_lt_of_ge hquotient),
      ← divHalfUp_eq_floor _ (tenPow_pos _), round, if_pos hnegative]

theorem toRat_fraction {d : Decimal} (h : d.negative = false) :
    d.fraction.toRat = Int.fract d.toRat := by
  have hfraction : d.fraction.negative = false := h
  rw [toRat_of_nonneg hfraction, toRat_of_nonneg h, Int.fract_div_natCast_eq_div_natCast_mod]
  rfl

/-- A number that fits without its last `k` digits is found without at most so many. -/
theorem exists_dropped_of_fits (negative : Bool) {mantissa k scale : Nat} (hk : k ≤ scale)
    (hfits : divHalfEven mantissa (tenPow k) < mantissaBound) :
    ∃ p dropped, dropped ≤ k ∧ fit? negative mantissa scale = some p ∧
      ofParts? negative (divHalfEven mantissa (tenPow dropped)) (scale - dropped) = some p := by
  have hsome : fit? negative mantissa scale ≠ none := by
    intro hnone
    have hall := List.findSome?_eq_none_iff.mp hnone k (List.mem_range.mpr (by omega))
    exact ofParts?_ne_none hfits hall
  obtain ⟨p, hp⟩ := Option.ne_none_iff_exists'.mp hsome
  obtain ⟨before, dropped, after, hrange, hdropped, hbefore⟩ := List.findSome?_eq_some_iff.mp hp
  refine ⟨p, dropped, ?_, hp, hdropped⟩
  -- The numbers of digits are tried in their order, so `k` would have been found earlier.
  by_contra hlt
  have hmem : k ∈ before ++ dropped :: after := by
    rw [← hrange]
    exact List.mem_range.mpr (by omega)
  have hsorted := List.pairwise_lt_range (n := scale + 1)
  rw [hrange, List.pairwise_append, List.pairwise_cons] at hsorted
  rcases List.mem_append.mp hmem with hmem | hmem
  · exact ofParts?_ne_none hfits (hbefore k hmem)
  · rcases List.mem_cons.mp hmem with rfl | hmem
    · exact hlt (Nat.le_refl k)
    · exact hlt (Nat.le_of_lt (hsorted.2.1.1 k hmem))

theorem fit?_tenPow_mul (negative : Bool) {m k scale : Nat} (hk : k ≤ scale)
    (hm : m < mantissaBound) :
    ∃ p, fit? negative (tenPow k * m) scale = some p ∧ p.negative = negative ∧
      p.toRat = toRat ⟨negative, m, scale - k, hm⟩ := by
  have hdrop (dropped : Nat) (h : dropped ≤ k) :
      divHalfEven (tenPow k * m) (tenPow dropped) = tenPow (k - dropped) * m := by
    have hpower : tenPow k = tenPow dropped * tenPow (k - dropped) := by
      rw [← tenPow_add, Nat.add_sub_cancel' h]
    rw [hpower, Nat.mul_assoc, divHalfEven_mul_left _ _ (tenPow_pos _)]
  have hfits : divHalfEven (tenPow k * m) (tenPow k) < mantissaBound := by
    rwa [divHalfEven_mul_left _ _ (tenPow_pos _)]
  obtain ⟨p, dropped, hle, hp, hparts⟩ := exists_dropped_of_fits negative hk hfits
  rw [hdrop dropped hle, ofParts?] at hparts
  split at hparts
  · cases hparts
    refine ⟨_, hp, rfl, ?_⟩
    have hscale : scale - dropped = (scale - k) + (k - dropped) := by omega
    have hkept := tenPow_ne_zero (scale - k)
    have hzeros := tenPow_ne_zero (k - dropped)
    simp only [toRat_eq, hscale, tenPow_add]
    push_cast
    field_simp
  · cases hparts

/-- The digits of a product with a power of ten, without the zeros that its scale takes up. -/
def shiftedMantissa (d : Decimal) (j : Nat) : Nat := tenPow (j - min j d.scale) * d.mantissa

theorem tenPow_mul_mantissa (d : Decimal) (j : Nat) :
    tenPow j * d.mantissa = tenPow (min j d.scale) * d.shiftedMantissa j := by
  have hsplit : j = min j d.scale + (j - min j d.scale) := by omega
  rw [shiftedMantissa, ← Nat.mul_assoc, ← tenPow_add, ← hsplit]

theorem toRat_shifted (d : Decimal) (j : Nat) (h : d.shiftedMantissa j < mantissaBound) :
    toRat ⟨d.negative, d.shiftedMantissa j, d.scale - min j d.scale, h⟩ = d.toRat * tenPow j := by
  have hsplit : j = min j d.scale + (j - min j d.scale) := by omega
  have hscale : d.scale = (d.scale - min j d.scale) + min j d.scale := by omega
  have hpower : (tenPow d.scale : ℚ) =
      tenPow (d.scale - min j d.scale) * tenPow (min j d.scale) := by
    rw [← Nat.cast_mul, ← tenPow_add, ← hscale]
  have hpower' : (tenPow j : ℚ) = tenPow (min j d.scale) * tenPow (j - min j d.scale) := by
    rw [← Nat.cast_mul, ← tenPow_add, ← hsplit]
  have hkept := tenPow_ne_zero (d.scale - min j d.scale)
  have hdropped := tenPow_ne_zero (min j d.scale)
  rw [toRat_eq, toRat_eq d, hpower, hpower']
  dsimp only [shiftedMantissa]
  push_cast
  field_simp

theorem times?_of_fits {d : Decimal} {j : Nat} (h : d.shiftedMantissa j < mantissaBound) :
    ∃ p, d.times? (tenPow j) = some p ∧ p.toRat = d.toRat * tenPow j ∧
      (d.negative = false → p.negative = false) := by
  unfold times?
  by_cases hzero : tenPow j * d.mantissa = 0
  · have hmantissa : d.mantissa = 0 := by
      rcases Nat.mul_eq_zero.mp hzero with h | h
      · exact absurd h (Nat.pos_iff_ne_zero.mp (tenPow_pos j))
      · exact h
    refine ⟨zero, if_pos hzero, ?_, fun _ => rfl⟩
    simp [toRat_eq, hmantissa, zero]
  · obtain ⟨p, hp, hnegative, hvalue⟩ :=
      fit?_tenPow_mul d.negative (Nat.min_le_right j d.scale) h
    rw [if_neg hzero, tenPow_mul_mantissa]
    exact ⟨p, hp, hvalue.trans (d.toRat_shifted j h), fun hsign => hnegative.trans hsign⟩

theorem scale_lt_of_not_fits {d : Decimal} {j : Nat} (h : ¬ d.shiftedMantissa j < mantissaBound) :
    d.scale < j := by
  by_contra hle
  have hmin : j - min j d.scale = 0 := by omega
  rw [shiftedMantissa, hmin, tenPow_zero, Nat.one_mul] at h
  exact h d.mantissa_lt

/-- If they do not fit there is no product: the digits behind the point, all of them zeros, are too
few to drop. -/
theorem times?_of_not_fits {d : Decimal} {j : Nat} (h : ¬ d.shiftedMantissa j < mantissaBound) :
    d.times? (tenPow j) = none := by
  have hbound : 0 < mantissaBound := by decide
  have hproduct := d.tenPow_mul_mantissa j
  have hpos : 0 < tenPow (min j d.scale) * d.shiftedMantissa j :=
    Nat.mul_pos (tenPow_pos _) (by omega)
  unfold times?
  rw [if_neg (by omega), hproduct, fit?, List.findSome?_eq_none_iff]
  intro dropped hdropped
  rw [ofParts?, dif_neg]
  have hlt := scale_lt_of_not_fits h
  have hle : dropped ≤ min j d.scale := by
    have := List.mem_range.mp hdropped
    omega
  have hpower : tenPow (min j d.scale) = tenPow dropped * tenPow (min j d.scale - dropped) := by
    rw [← tenPow_add, Nat.add_sub_cancel' hle]
  rw [hpower, Nat.mul_assoc, divHalfEven_mul_left _ _ (tenPow_pos _)]
  have hmore := Nat.le_mul_of_pos_left (d.shiftedMantissa j)
    (tenPow_pos (min j d.scale - dropped))
  omega

/-- A product with a power of ten is exact whenever there is one. -/
theorem toRat_of_times?_tenPow {d p : Decimal} {j : Nat} (h : d.times? (tenPow j) = some p) :
    p.toRat = d.toRat * tenPow j := by
  by_cases hfits : d.shiftedMantissa j < mantissaBound
  · obtain ⟨p', hp', hvalue, -⟩ := times?_of_fits hfits
    rw [hp'] at h
    cases h
    exact hvalue
  · rw [times?_of_not_fits hfits] at h
    cases h

theorem times?_tenPow_of_abs_lt {d : Decimal} {j : Nat}
    (h : |d.toRat * tenPow j| < mantissaBound) : ∃ p, d.times? (tenPow j) = some p := by
  by_cases hfits : d.shiftedMantissa j < mantissaBound
  · obtain ⟨p, hp, -⟩ := times?_of_fits hfits
    exact ⟨p, hp⟩
  · exfalso
    have hlt := scale_lt_of_not_fits hfits
    have hmin : min j d.scale = d.scale := by omega
    have hsplit : j = d.scale + (j - d.scale) := by omega
    have hpower : (tenPow j : ℚ) = tenPow d.scale * tenPow (j - d.scale) := by
      rw [← Nat.cast_mul, ← tenPow_add, ← hsplit]
    have hscale := tenPow_ne_zero d.scale
    have hvalue : |d.toRat * tenPow j| = d.shiftedMantissa j := by
      rw [abs_mul, abs_toRat, Nat.abs_cast, hpower, shiftedMantissa, hmin]
      push_cast
      field_simp
    rw [hvalue, Nat.cast_lt] at h
    exact hfits h

theorem times?_tenPow {d : Decimal} {j : Nat} (hd : d.mantissa < tenPow d.scale)
    (hj : tenPow j < mantissaBound) :
    ∃ p, d.times? (tenPow j) = some p ∧ p.toRat = d.toRat * tenPow j ∧
      (d.negative = false → p.negative = false) := by
  refine times?_of_fits ?_
  rw [shiftedMantissa]
  by_cases hle : j ≤ d.scale
  · rw [Nat.min_eq_left hle, Nat.sub_self, tenPow_zero, Nat.one_mul]
    exact d.mantissa_lt
  · have hlt : d.scale ≤ j := by omega
    rw [Nat.min_eq_right hlt]
    calc tenPow (j - d.scale) * d.mantissa
        < tenPow (j - d.scale) * tenPow d.scale :=
          Nat.mul_lt_mul_of_pos_left hd (tenPow_pos _)
      _ = tenPow j := by rw [← tenPow_add, Nat.sub_add_cancel hlt]
      _ < mantissaBound := hj

end Decimal

end SqlBinding
