import Mathlib.Algebra.Order.Floor.Ring
import Mathlib.Tactic.Linarith
import Mathlib.Tactic.NormNum
import SqlBinding.Binding.Temporal
import SqlBinding.Proofs.Number.Rational

/-!
# Seconds split without a loss

Decimal seconds are split as the numbers that they are: into their floor and their fraction rounded
half up to billionths. They are refused unless they lie in a minute and their fraction stays below a
second when it is rounded. The product that counts the billionths never loses a digit.
-/

namespace SqlBinding

/-- The billionths of a second behind its point, rounded half up. -/
def billionths (x : ℚ) : Int := ⌊Int.fract x * 1000000000 + 1 / 2⌋

theorem billionths_nonneg (x : ℚ) : 0 ≤ billionths x := by
  rw [billionths, Int.le_floor]
  have hfract := Int.fract_nonneg x
  push_cast
  linarith

private theorem floor_mul_add_billionths (x : ℚ) :
    ⌊x⌋ * 1000000000 + billionths x = ⌊x * 1000000000 + 1 / 2⌋ := by
  have hparts : x * 1000000000 + 1 / 2 =
      ((⌊x⌋ * 1000000000 : Int) : ℚ) + (Int.fract x * 1000000000 + 1 / 2) := by
    rw [Int.fract]
    push_cast
    ring
  rw [hparts, Int.floor_intCast_add, billionths]

namespace Decimal

private theorem times?_billion {d : Decimal} (h : |d.toRat| < 1) :
    ∃ p, d.times? 1000000000 = some p ∧ p.toRat = d.toRat * 1000000000 ∧
      (d.negative = false → p.negative = false) := by
  obtain ⟨p, hp, hvalue, hnegative⟩ := times?_tenPow (j := 9) (mantissa_lt_of_abs h) (by decide)
  refine ⟨p, hp, ?_, hnegative⟩
  have hpower : tenPow 9 = 1000000000 := rfl
  rw [hvalue, hpower]
  norm_num

end Decimal

/-- The seconds of a minute whose fraction does not fill up a second when it is rounded. -/
def SplitsInMinute (x : ℚ) : Prop := 0 ≤ x ∧ x < 60 ∧ billionths x < 1000000000

theorem SplitsInMinute.parts {x : ℚ} (h : SplitsInMinute x) :
    (⌊x⌋.toNat : Int) = ⌊x⌋ ∧ (billionths x).toNat < 1000000000 ∧
      ((⌊x⌋.toNat * 1000000000 + (billionths x).toNat : Nat) : Int) =
        ⌊x * 1000000000 + 1 / 2⌋ := by
  have hwhole : (⌊x⌋.toNat : Int) = ⌊x⌋ := Int.toNat_of_nonneg (Int.floor_nonneg.mpr h.1)
  have hnano : ((billionths x).toNat : Int) = billionths x :=
    Int.toNat_of_nonneg (billionths_nonneg _)
  have hlt := h.2.2
  refine ⟨hwhole, by omega, ?_⟩
  rw [← floor_mul_add_billionths]
  push_cast [hwhole, hnano]
  rfl

section

variable {s : Decimal}

theorem splitSeconds_of_negative (h : s.negative = true) :
    splitSeconds (some s) = .refuse (.second s) := by
  obtain ⟨nanos, hnanos⟩ := Option.ne_none_iff_exists'.mp
    (Decimal.times?_ne_none_of_fraction s.fraction_mantissa_lt (n := 1000000000) (by decide))
  unfold splitSeconds
  simp [hnanos, h]

private theorem splitSeconds_of_nonneg (h : s.negative = false) :
    splitSeconds (some s) =
      if 60 ≤ ⌊s.toRat⌋ ∨ 1000000000 ≤ billionths s.toRat then .refuse (.second s)
      else .ok (⌊s.toRat⌋.toNat, (billionths s.toRat).toNat) := by
  have hfraction := Decimal.toRat_fraction h
  have hlt : |s.fraction.toRat| < 1 := by
    rw [hfraction, Int.abs_fract]
    exact Int.fract_lt_one _
  obtain ⟨nanos, hnanos, hvalue, hnegative⟩ := Decimal.times?_billion hlt
  have hround : nanos.round = billionths s.toRat := by
    rw [Decimal.round_eq (hnegative h), hvalue, hfraction, billionths]
  unfold splitSeconds
  simp [hnanos, hround, h, Decimal.floor_eq]

theorem splitSeconds_of_splits (hzero : s.toRat = 0 → s.negative = false)
    (h : SplitsInMinute s.toRat) :
    splitSeconds (some s) = .ok (⌊s.toRat⌋.toNat, (billionths s.toRat).toNat) := by
  obtain ⟨hnonneg, hminute, hbillionths⟩ := h
  have hfloor : ¬ 60 ≤ ⌊s.toRat⌋ := by
    rw [Int.le_floor]
    exact not_le.mpr hminute
  rw [splitSeconds_of_nonneg (Decimal.negative_of_nonneg hzero hnonneg), if_neg]
  exact not_or.mpr ⟨hfloor, not_le.mpr hbillionths⟩

theorem splitSeconds_of_not_splits (h : ¬ SplitsInMinute s.toRat) :
    splitSeconds (some s) = .refuse (.second s) := by
  cases hnegative : s.negative with
  | true => exact splitSeconds_of_negative hnegative
  | false =>
    rw [splitSeconds_of_nonneg hnegative, if_pos]
    by_contra hsplits
    rw [not_or, Int.le_floor] at hsplits
    exact h ⟨Decimal.toRat_nonneg hnegative, not_le.mp hsplits.1, not_le.mp hsplits.2⟩

/-- Decimal seconds, a zero with a minus sign aside, split if and only if they lie in a minute and
their fraction does not fill up a second when it is rounded; otherwise they are refused. The parts
are the floor and the rounded billionths, together the rounded billionths of the number itself. An
absent value is zero. Nothing is lost in the product that counts the billionths. -/
theorem seconds_split_exactly (hzero : s.toRat = 0 → s.negative = false) :
    ((∃ p, splitSeconds (some s) = .ok p) ↔
      0 ≤ s.toRat ∧ s.toRat < 60 ∧ ⌊Int.fract s.toRat * 1000000000 + 1 / 2⌋ < 1000000000) ∧
    (∀ w n, splitSeconds (some s) = .ok (w, n) →
      (w : Int) = ⌊s.toRat⌋ ∧ n < 1000000000 ∧
        ((w * 1000000000 + n : Nat) : Int) = ⌊s.toRat * 1000000000 + 1 / 2⌋) ∧
    (∀ e, splitSeconds (some s) = .error e → e = .error (.refused (.second s))) ∧
    splitSeconds none = splitSeconds (some .zero) ∧
    (0 ≤ s.toRat → s.fraction.toRat = Int.fract s.toRat) ∧
    (∀ d : Decimal, d.toRat = Int.fract s.toRat → ∃ p, d.times? 1000000000 = some p ∧
      p.toRat = Int.fract s.toRat * 1000000000) := by
  refine ⟨⟨?_, fun h => ⟨_, splitSeconds_of_splits hzero h⟩⟩, fun w n hsplit => ?_, fun e he => ?_,
    rfl, fun hnonneg => ?_, fun d hd => ?_⟩
  · rintro ⟨p, hp⟩
    by_contra h
    rw [splitSeconds_of_not_splits h] at hp
    cases hp
  · by_cases h : SplitsInMinute s.toRat
    · rw [splitSeconds_of_splits hzero h] at hsplit
      cases hsplit
      exact h.parts
    · rw [splitSeconds_of_not_splits h] at hsplit
      cases hsplit
  · by_cases h : SplitsInMinute s.toRat
    · rw [splitSeconds_of_splits hzero h] at he
      cases he
    · rw [splitSeconds_of_not_splits h] at he
      cases he
      rfl
  · exact Decimal.toRat_fraction (Decimal.negative_of_nonneg hzero hnonneg)
  · have hlt : |d.toRat| < 1 := by
      rw [hd, Int.abs_fract]
      exact Int.fract_lt_one _
    obtain ⟨p, hp, hvalue, -⟩ := Decimal.times?_billion hlt
    exact ⟨p, hp, by rw [hvalue, hd]⟩

end

/-- Just below the half of the last billionth of a minute, with as many digits as there can be. -/
theorem seconds_split_exactly_minute :
    let s : Decimal := ⟨false, 5999999999949999999999999999, 26, by decide⟩
    (s.toRat = 0 → s.negative = false) ∧ splitSeconds (some s) = .ok (59, 999999999) ∧
      ⌊s.toRat * 1000000000 + 1 / 2⌋ = 59999999999 := by
  intro s
  have hzero : s.toRat = 0 → s.negative = false := fun _ => rfl
  have hnanos : s.fraction.times? 1000000000 =
      some ⟨false, 9999999994999999999999999900, 19, by decide⟩ := by
    dsimp only [s]
    rfl
  have hfloor : s.floor = 59 := by decide
  have hround : (⟨false, 9999999994999999999999999900, 19, by decide⟩ : Decimal).round =
    999999999 := by decide
  have hsplit : splitSeconds (some s) = .ok (59, 999999999) := by
    unfold splitSeconds
    simp [hnanos, hfloor, hround, s]
  obtain ⟨-, hparts, -⟩ := seconds_split_exactly hzero
  exact ⟨hzero, hsplit, (hparts 59 999999999 hsplit).2.2.symm⟩

end SqlBinding
