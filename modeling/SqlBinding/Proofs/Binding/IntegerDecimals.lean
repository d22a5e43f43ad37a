import Mathlib.Algebra.Order.AbsoluteValue.Basic
import Mathlib.Tactic.Linarith
import SqlBinding.Binding.Scalar
import SqlBinding.Proofs.Number.SignificantDigits

/-!
# Integers widened to decimals

An integer that is bound as a decimal is rounded half-even to the significant digits of its width.
The widening never fails. It is exact for integers of so many digits, leaves only these digits of
others, treats both signs alike and keeps the order.
-/

namespace SqlBinding

/-- A number that an integer is rounded to: a multiple of the unit of the last digit that is kept,
at most half a unit away, and an even multiple if it is just half a unit away. -/
structure RoundsTo (digits : Nat) (x : Int) (r : ℚ) : Prop where
  multiple : ∃ k : Int, r = k * lastUnit digits x.natAbs
  near : |r - x| ≤ lastUnit digits x.natAbs / 2
  even : |r - x| = lastUnit digits x.natAbs / 2 →
    ∃ k : Int, Even k ∧ r = k * lastUnit digits x.natAbs

section

variable {digits : Nat} {x : Int}

private theorem RoundsTo.neg {r : ℚ} (h : RoundsTo digits x r) : RoundsTo digits (-x) (-r) := by
  have hdistance : |-r - ((-x : Int) : ℚ)| = |r - x| := by
    rw [← abs_neg]
    congr 1
    push_cast
    ring
  refine ⟨?_, ?_, ?_⟩
  · obtain ⟨k, hk⟩ := h.multiple
    refine ⟨-k, ?_⟩
    rw [Int.natAbs_neg, hk]
    push_cast
    ring
  · rw [hdistance, Int.natAbs_neg]
    exact h.near
  · rw [hdistance, Int.natAbs_neg]
    intro htie
    obtain ⟨k, heven, hk⟩ := h.even htie
    refine ⟨-k, heven.neg, ?_⟩
    rw [hk]
    push_cast
    ring

private theorem roundsTo_of_nonneg (h : 0 ≤ x) : RoundsTo digits x (roundSignificant digits x) := by
  obtain ⟨n, rfl⟩ := Int.eq_ofNat_of_zero_le h
  have hrounded : ((roundSignificant digits n : Int) : ℚ) =
      divHalfEven n (lastUnit digits n) * lastUnit digits n := by
    rw [roundSignificant_of_nonneg h, Int.natAbs_natCast, roundDigits]
    push_cast
    rfl
  obtain ⟨hupper, hlower⟩ := divHalfEven_mul_near n (lastUnit_pos digits n)
  have hupper' : 2 * ((divHalfEven n (lastUnit digits n) : ℚ) * lastUnit digits n) ≤
      2 * n + lastUnit digits n := by exact_mod_cast hupper
  have hlower' : 2 * (n : ℚ) ≤
      2 * (divHalfEven n (lastUnit digits n) * lastUnit digits n) + lastUnit digits n := by
    exact_mod_cast hlower
  rw [hrounded]
  refine ⟨⟨divHalfEven n (lastUnit digits n), ?_⟩, ?_, fun htie => ?_⟩
  · rw [Int.natAbs_natCast]
    push_cast
    rfl
  · rw [Int.natAbs_natCast, abs_le]
    push_cast
    constructor
    · linarith
    · linarith
  · rw [Int.natAbs_natCast] at htie ⊢
    refine ⟨divHalfEven n (lastUnit digits n), ?_, by push_cast; rfl⟩
    rw [Int.even_coe_nat]
    apply even_divHalfEven_of_tie (lastUnit_pos digits n)
    rcases eq_or_eq_neg_of_abs_eq htie with habove | hbelow
    · left
      push_cast at habove
      have hsum : 2 * ((divHalfEven n (lastUnit digits n) : ℚ) * lastUnit digits n) =
          2 * n + lastUnit digits n := by linarith
      exact_mod_cast hsum
    · right
      push_cast at hbelow
      have hsum : 2 * (n : ℚ) =
          2 * (divHalfEven n (lastUnit digits n) * lastUnit digits n) + lastUnit digits n := by
        linarith
      exact_mod_cast hsum

private theorem roundsTo (digits : Nat) (x : Int) :
    RoundsTo digits x (roundSignificant digits x) := by
  rcases Int.le_total 0 x with h | h
  · exact roundsTo_of_nonneg h
  · have hneg : RoundsTo digits (-x) (roundSignificant digits (-x)) :=
      roundsTo_of_nonneg (Int.neg_nonneg_of_nonpos h)
    have hback := hneg.neg
    rw [roundSignificant_neg, neg_neg] at hback
    push_cast at hback
    rwa [neg_neg] at hback

/-- A tie goes to the even digit, and a carry may go through all digits. -/
example : roundSignificant 7 (-12345665) = -12345660 ∧ roundSignificant 7 99999995 = 100000000 := by
  decide

end

/-- How the integers of a width become decimals of so many significant digits. -/
structure WideningLaw {ι : Type} (digits : Nat) (value : ι → Int) (widen : ι → Outcome Decimal) :
    Prop where
  rounds : ∀ i, ∃ r, widen i = .ok r ∧ RoundsTo digits (value i) r.toRat
  exact : ∀ i r, widen i = .ok r → (value i).natAbs < 10 ^ digits → r.toRat = value i
  leading : ∀ i r, widen i = .ok r → ∃ k j : Nat, k < 10 ^ digits ∧ |r.toRat| = k * 10 ^ j
  odd : ∀ i j r s, widen i = .ok r → widen j = .ok s → value j = -value i → s.toRat = -r.toRat
  zero : ∀ i r, widen i = .ok r → (r.toRat = 0 ↔ value i = 0)
  mono : ∀ i j r s, widen i = .ok r → widen j = .ok s → value i ≤ value j → r.toRat ≤ s.toRat

section

variable {ι : Type} {digits : Nat} {value : ι → Int} {widen : ι → Outcome Decimal}

private theorem wideningLaw_of_rounded (hdigits : 0 < digits)
    (h : ∀ i, ∃ r, widen i = .ok r ∧ r.toRat = roundSignificant digits (value i)) :
    WideningLaw digits value widen := by
  have hrounded : ∀ i r, widen i = .ok r → r.toRat = roundSignificant digits (value i) := by
    intro i r hr
    obtain ⟨r', hr', hvalue⟩ := h i
    rw [hr] at hr'
    cases hr'
    exact hvalue
  refine ⟨?_, ?_, ?_, ?_, ?_, ?_⟩
  · intro i
    obtain ⟨r, hr, hvalue⟩ := h i
    refine ⟨r, hr, ?_⟩
    rw [hvalue]
    exact roundsTo digits (value i)
  · intro i r hr hlt
    rw [hrounded i r hr, roundSignificant_of_lt hlt]
  · intro i r hr
    obtain ⟨k, j, hk, hkj⟩ := exists_leadingDigits hdigits (value i).natAbs
    have hpower : tenPow j = 10 ^ j := rfl
    refine ⟨k, j, hk, ?_⟩
    rw [hrounded i r hr, ← Int.cast_abs, Int.abs_eq_natAbs, natAbs_roundSignificant, hkj, hpower]
    push_cast
    rfl
  · intro i j r s hr hs hneg
    rw [hrounded i r hr, hrounded j s hs, hneg, roundSignificant_neg]
    push_cast
    rfl
  · intro i r hr
    rw [hrounded i r hr, Int.cast_eq_zero]
    constructor
    · exact eq_zero_of_roundSignificant hdigits
    · intro hzero
      simp [hzero, roundSignificant]
  · intro i j r s hr hs hle
    rw [hrounded i r hr, hrounded j s hs]
    exact_mod_cast roundSignificant_mono hdigits hle

end

private theorem exists_significant?_ofInt64 (digits : Nat) (hdigits : 0 < digits) (i : Int64) :
    ∃ r, (Decimal.ofInt64 i).significant? digits = some r ∧
      r.toRat = roundSignificant digits i.toInt := by
  obtain ⟨r, hr⟩ := Option.ne_none_iff_exists'.mp (Decimal.significant?_ofInt64_ne_none i hdigits)
  refine ⟨r, hr, ?_⟩
  have hscale : (Decimal.ofInt64 i).scale = 0 := rfl
  rw [Decimal.toRat_significant? hscale hr]
  change (if decide (i.toInt < 0) = true then -1 else 1) *
    ((roundDigits digits i.toInt.natAbs : Nat) : ℚ) = _
  by_cases hneg : i.toInt < 0
  · rw [if_pos (decide_eq_true hneg), roundSignificant_of_nonpos (Int.le_of_lt hneg)]
    push_cast
    ring
  · have hnonneg : 0 ≤ i.toInt := Int.not_lt.mp hneg
    rw [if_neg (by simpa using hnonneg), one_mul, roundSignificant_of_nonneg hnonneg]
    push_cast
    rfl

/-- An integer of 64 bits is widened to 16 significant digits and one of 32 bits to 7. -/
theorem integers_widen_half_even (type : SqlType) :
    WideningLaw 16 Int64.toInt (fun i => (Value.long i).toDecimal type) ∧
      WideningLaw 7 Int32.toInt (fun i => (Value.int i).toDecimal type) := by
  refine ⟨wideningLaw_of_rounded (by decide) fun i => ?_,
    wideningLaw_of_rounded (by decide) fun i => ?_⟩
  · obtain ⟨r, hr, hvalue⟩ := exists_significant?_ofInt64 wideDigits (by decide) i
    refine ⟨r, ?_, hvalue⟩
    simp only [Value.toDecimal, hr]
  · obtain ⟨r, hr, hvalue⟩ :=
      exists_significant?_ofInt64 narrowDigits (by decide) i.toInt64
    refine ⟨r, ?_, ?_⟩
    · simp only [Value.toDecimal, hr]
    · rw [hvalue, Int32.toInt_toInt64]
      rfl

end SqlBinding
