import Mathlib.Data.Nat.Digits.Lemmas
import SqlBinding.Proofs.Number.Rational

/-!
# Rounding to significant digits

A whole number is rounded to a multiple of the unit of the last digit that is kept. No rounding goes
past a power of ten, so the order of two numbers is kept also where they are rounded to different
units.
-/

namespace SqlBinding

section

variable {m n d : Nat}

private theorem le_divHalfEven (n d : Nat) : n / d ≤ divHalfEven n d := by
  unfold divHalfEven
  dsimp only
  split
  · omega
  · split <;> omega

theorem divHalfEven_mul_near (n : Nat) (hd : 0 < d) :
    2 * (divHalfEven n d * d) ≤ 2 * n + d ∧ 2 * n ≤ 2 * (divHalfEven n d * d) + d := by
  have hdivision := Nat.div_add_mod' n d
  have hlt := Nat.mod_lt n hd
  have hsucc : (n / d + 1) * d = n / d * d + d := Nat.succ_mul _ _
  unfold divHalfEven
  dsimp only
  split
  · omega
  · split
    · omega
    · rcases Nat.mod_two_eq_zero_or_one (n / d) with heven | hodd
      · rw [heven, Nat.add_zero]
        omega
      · rw [hodd]
        omega

theorem even_divHalfEven_of_tie (hd : 0 < d)
    (h : 2 * (divHalfEven n d * d) = 2 * n + d ∨ 2 * n = 2 * (divHalfEven n d * d) + d) :
    Even (divHalfEven n d) := by
  have hdivision := Nat.div_add_mod' n d
  have hlt := Nat.mod_lt n hd
  have hsucc : (n / d + 1) * d = n / d * d + d := Nat.succ_mul _ _
  unfold divHalfEven at h ⊢
  dsimp only at h ⊢
  split at h
  · omega
  · split at h
    · omega
    · next hless hmore =>
      rw [if_neg hless, if_neg hmore, Nat.even_iff]
      omega

private theorem divHalfEven_mono (h : m ≤ n) : divHalfEven m d ≤ divHalfEven n d := by
  have hquotient : m / d ≤ n / d := Nat.div_le_div_right h
  rcases Nat.lt_or_eq_of_le hquotient with hlt | heq
  · have hupper := divHalfEven_le m d
    have hlower := le_divHalfEven n d
    omega
  · by_cases hless : 2 * (m % d) < d
    · have hdown : divHalfEven m d = m / d := if_pos hless
      rw [hdown, heq]
      exact le_divHalfEven n d
    · have hm := Nat.div_add_mod' m d
      have hn := Nat.div_add_mod' n d
      rw [heq] at hm
      by_cases hmore : d < 2 * (n % d)
      · have hup : divHalfEven n d = n / d + 1 := by
          unfold divHalfEven
          rw [if_neg (by omega), if_pos hmore]
        have hupper := divHalfEven_le m d
        omega
      · -- Both rests are half the divisor, so the numbers are the same.
        have hsame : m = n := by omega
        rw [hsame]

end

section

variable {digits m n : Nat}

/-- The unit of the last of the leading digits that are kept. -/
def lastUnit (digits n : Nat) : Nat := tenPow ((Nat.digits 10 n).length - digits)

/-- A natural rounded to its leading digits, a tie going to the even multiple of the unit. -/
def roundDigits (digits n : Nat) : Nat := divHalfEven n (lastUnit digits n) * lastUnit digits n

theorem lastUnit_pos (digits n : Nat) : 0 < lastUnit digits n := tenPow_pos _

private theorem lt_tenPow_length_digits (n : Nat) : n < tenPow (Nat.digits 10 n).length :=
  Nat.lt_base_pow_length_digits (by decide)

private theorem tenPow_pred_length_digits_le (h : 0 < n) :
    tenPow ((Nat.digits 10 n).length - 1) ≤ n := by
  have hlength : (Nat.digits 10 n).length = Nat.log 10 n + 1 :=
    Nat.length_digits 10 n (by decide) (Nat.pos_iff_ne_zero.mp h)
  rw [hlength, Nat.add_sub_cancel]
  exact Nat.pow_log_le_self 10 (Nat.pos_iff_ne_zero.mp h)

private theorem length_digits_eq_digitCount (h : 0 < n) :
    (Nat.digits 10 n).length = digitCount n := by
  induction n using digitCount.induct with
  | case1 n hlt =>
    rw [digitCount, if_pos hlt, Nat.digits_of_lt 10 n (Nat.pos_iff_ne_zero.mp h) hlt]
    rfl
  | case2 n hge ih =>
    rw [digitCount, if_neg hge, Nat.digits_def' (by decide) h, List.length_cons, ih (by omega)]

private theorem lastUnit_of_lt (h : n < tenPow digits) : lastUnit digits n = 1 := by
  have hlength : (Nat.digits 10 n).length ≤ digits :=
    (Nat.digits_length_le_iff (by decide) n).mpr h
  rw [lastUnit, Nat.sub_eq_zero_of_le hlength, tenPow_zero]

private theorem roundDigits_of_lt (h : n < tenPow digits) : roundDigits digits n = n := by
  rw [roundDigits, lastUnit_of_lt h, divHalfEven_one, Nat.mul_one]

private theorem lt_length_digits_of_le (h : tenPow digits ≤ n) :
    digits < (Nat.digits 10 n).length := by
  by_contra hshort
  have hlt : n < tenPow digits := (Nat.digits_length_le_iff (by decide) n).mp (by omega)
  omega

private theorem lastUnit_mul_tenPow {j : Nat} (hj : j ≤ digits)
    (h : digits ≤ (Nat.digits 10 n).length) :
    lastUnit digits n * tenPow (digits - j) = tenPow ((Nat.digits 10 n).length - j) := by
  have hsplit : (Nat.digits 10 n).length - j =
      (Nat.digits 10 n).length - digits + (digits - j) := by omega
  rw [lastUnit, hsplit, tenPow_add]

private theorem leadingDigits_le (h : digits ≤ (Nat.digits 10 n).length) :
    divHalfEven n (lastUnit digits n) ≤ tenPow digits := by
  have hpower : lastUnit digits n * tenPow digits = tenPow (Nat.digits 10 n).length :=
    lastUnit_mul_tenPow (Nat.zero_le digits) h
  have hle : n ≤ lastUnit digits n * tenPow digits := by
    rw [hpower]
    exact Nat.le_of_lt (lt_tenPow_length_digits n)
  have hmono : divHalfEven n (lastUnit digits n) ≤
      divHalfEven (lastUnit digits n * tenPow digits) (lastUnit digits n) := divHalfEven_mono hle
  rwa [divHalfEven_mul_left _ _ (lastUnit_pos digits n)] at hmono

private theorem roundDigits_le_tenPow (digits n : Nat) :
    roundDigits digits n ≤ tenPow (Nat.digits 10 n).length := by
  by_cases hfits : n < tenPow digits
  · rw [roundDigits_of_lt hfits]
    exact Nat.le_of_lt (lt_tenPow_length_digits n)
  · have hlong := lt_length_digits_of_le (Nat.le_of_not_lt hfits)
    have hpower := lastUnit_mul_tenPow (Nat.zero_le digits) (Nat.le_of_lt hlong)
    calc roundDigits digits n
        ≤ tenPow digits * lastUnit digits n :=
          Nat.mul_le_mul_right _ (leadingDigits_le (Nat.le_of_lt hlong))
      _ = tenPow (Nat.digits 10 n).length := by rw [Nat.mul_comm]; exact hpower

private theorem tenPow_le_roundDigits (hdigits : 0 < digits) (hn : 0 < n) :
    tenPow ((Nat.digits 10 n).length - 1) ≤ roundDigits digits n := by
  have hreached := tenPow_pred_length_digits_le hn
  by_cases hfits : n < tenPow digits
  · rwa [roundDigits_of_lt hfits]
  · have hlong := lt_length_digits_of_le (Nat.le_of_not_lt hfits)
    have hpower := lastUnit_mul_tenPow hdigits (Nat.le_of_lt hlong)
    have hmono := divHalfEven_mono (d := lastUnit digits n) hreached
    rw [← hpower, divHalfEven_mul_left _ _ (lastUnit_pos digits n)] at hmono
    calc tenPow ((Nat.digits 10 n).length - 1)
        = tenPow (digits - 1) * lastUnit digits n := by rw [← hpower, Nat.mul_comm]
      _ ≤ roundDigits digits n := Nat.mul_le_mul_right _ hmono

private theorem roundDigits_pos (hdigits : 0 < digits) (hn : 0 < n) : 0 < roundDigits digits n :=
  Nat.lt_of_lt_of_le (tenPow_pos _) (tenPow_le_roundDigits hdigits hn)

@[simp] theorem roundDigits_zero (digits : Nat) : roundDigits digits 0 = 0 :=
  roundDigits_of_lt (tenPow_pos digits)

private theorem roundDigits_mono (hdigits : 0 < digits) (h : m ≤ n) :
    roundDigits digits m ≤ roundDigits digits n := by
  rcases Nat.eq_zero_or_pos m with rfl | hm
  · rw [roundDigits_zero]
    exact Nat.zero_le _
  · have hlength : (Nat.digits 10 m).length ≤ (Nat.digits 10 n).length :=
      Nat.le_length_digits_le 10 m n h
    rcases Nat.lt_or_eq_of_le hlength with hlt | heq
    · -- A power of ten lies between the numbers, and between what they are rounded to.
      calc roundDigits digits m
          ≤ tenPow (Nat.digits 10 m).length := roundDigits_le_tenPow digits m
        _ ≤ tenPow ((Nat.digits 10 n).length - 1) := tenPow_le_tenPow (by omega)
        _ ≤ roundDigits digits n := tenPow_le_roundDigits hdigits (by omega)
    · have hunit : lastUnit digits m = lastUnit digits n := by rw [lastUnit, heq, lastUnit]
      rw [roundDigits, roundDigits, hunit]
      exact Nat.mul_le_mul_right _ (divHalfEven_mono h)

/-- A rounded number has only the digits that are kept, and zeros behind them. -/
theorem exists_leadingDigits (hdigits : 0 < digits) (n : Nat) :
    ∃ k j, k < tenPow digits ∧ roundDigits digits n = k * tenPow j := by
  by_cases hfits : n < tenPow digits
  · refine ⟨n, 0, hfits, ?_⟩
    rw [roundDigits_of_lt hfits, tenPow_zero, Nat.mul_one]
  · have hlong := lt_length_digits_of_le (Nat.le_of_not_lt hfits)
    rcases Nat.lt_or_eq_of_le (leadingDigits_le (Nat.le_of_lt hlong)) with hlt | heq
    · exact ⟨_, _, hlt, rfl⟩
    · -- All digits were nines: a one with zeros behind it is left.
      refine ⟨1, (Nat.digits 10 n).length, ?_, ?_⟩
      · exact Nat.lt_of_lt_of_le (by decide : 1 < tenPow 1) (tenPow_le_tenPow hdigits)
      · rw [roundDigits, heq, Nat.one_mul, Nat.mul_comm]
        exact lastUnit_mul_tenPow (Nat.zero_le digits) (Nat.le_of_lt hlong)

end

section

variable {digits : Nat} {x y : Int}

/-- An integer rounded to its leading digits; both signs are treated alike. -/
def roundSignificant (digits : Nat) (x : Int) : Int := x.sign * roundDigits digits x.natAbs

theorem roundSignificant_neg (digits : Nat) (x : Int) :
    roundSignificant digits (-x) = -roundSignificant digits x := by
  simp [roundSignificant]

theorem roundSignificant_of_nonneg (h : 0 ≤ x) :
    roundSignificant digits x = roundDigits digits x.natAbs := by
  rcases Int.lt_or_eq_of_le h with hpos | rfl
  · rw [roundSignificant, Int.sign_eq_one_of_pos hpos, one_mul]
  · simp [roundSignificant]

theorem roundSignificant_of_nonpos (h : x ≤ 0) :
    roundSignificant digits x = -(roundDigits digits x.natAbs : Int) := by
  have hneg : roundSignificant digits (-x) = roundDigits digits (-x).natAbs :=
    roundSignificant_of_nonneg (Int.neg_nonneg_of_nonpos h)
  rw [roundSignificant_neg, Int.natAbs_neg] at hneg
  omega

theorem roundSignificant_of_lt (h : x.natAbs < tenPow digits) : roundSignificant digits x = x := by
  rw [roundSignificant, roundDigits_of_lt h, Int.sign_mul_natAbs]

theorem natAbs_roundSignificant (digits : Nat) (x : Int) :
    (roundSignificant digits x).natAbs = roundDigits digits x.natAbs := by
  rcases Int.le_total 0 x with h | h
  · rw [roundSignificant_of_nonneg h, Int.natAbs_natCast]
  · rw [roundSignificant_of_nonpos h, Int.natAbs_neg, Int.natAbs_natCast]

theorem eq_zero_of_roundSignificant (hdigits : 0 < digits) (h : roundSignificant digits x = 0) :
    x = 0 := by
  by_contra hx
  have hpos := roundDigits_pos hdigits (Int.natAbs_pos.mpr hx)
  rw [← natAbs_roundSignificant, h] at hpos
  exact Nat.lt_irrefl 0 hpos

theorem roundSignificant_mono (hdigits : 0 < digits) (h : x ≤ y) :
    roundSignificant digits x ≤ roundSignificant digits y := by
  rcases Int.le_total 0 x with hx | hx
  · have hmono := roundDigits_mono hdigits (by omega : x.natAbs ≤ y.natAbs)
    rw [roundSignificant_of_nonneg hx, roundSignificant_of_nonneg (Int.le_trans hx h)]
    exact Int.ofNat_le.mpr hmono
  · rw [roundSignificant_of_nonpos hx]
    rcases Int.le_total 0 y with hy | hy
    · rw [roundSignificant_of_nonneg hy]
      omega
    · have hmono := roundDigits_mono hdigits (by omega : y.natAbs ≤ x.natAbs)
      rw [roundSignificant_of_nonpos hy]
      omega

end

namespace Decimal

private theorem toRat_widen (n : Nat) (d : Decimal) : (widen n d).toRat = d.toRat := by
  induction n generalizing d with
  | zero => rfl
  | succ n ih =>
    rw [widen]
    unfold ofParts?
    split
    · rfl
    · next wider hwider =>
      split at hwider
      · cases hwider
        have hpower := tenPow_ne_zero d.scale
        rw [ih, toRat_eq, toRat_eq, tenPow_succ]
        push_cast
        field_simp
      · cases hwider

theorem toRat_significant? {digits : Nat} {d r : Decimal} (hscale : d.scale = 0)
    (h : d.significant? digits = some r) :
    r.toRat = (if d.negative then -1 else 1) * roundDigits digits d.mantissa := by
  have hwhole : d.toRat = (if d.negative then -1 else 1) * d.mantissa := by
    rw [toRat_eq, hscale, tenPow_zero, Nat.cast_one, div_one]
  unfold significant? at h
  dsimp only at h
  split at h
  · next hzero =>
    rw [isZero, beq_iff_eq] at hzero
    cases h
    rw [hzero, roundDigits_zero]
    simp [toRat_eq, zero]
  · next hzero =>
    have hpos : 0 < d.mantissa := by
      rw [isZero, beq_iff_eq] at hzero
      omega
    have hlength := length_digits_eq_digitCount hpos
    split at h
    · next hfits =>
      have hlt : d.mantissa < tenPow digits :=
        Nat.lt_of_lt_of_le (lt_tenPow_digitCount _) (tenPow_le_tenPow hfits)
      cases h
      rw [toRat_widen, hwhole, roundDigits_of_lt hlt]
    · next hlong =>
      have hbehind : ¬ digitCount d.mantissa - digits ≤ d.scale := by omega
      rw [if_neg hbehind, hscale, Nat.sub_zero, ofParts?] at h
      split at h
      · cases h
        rw [toRat_eq, roundDigits, lastUnit, hlength, tenPow_zero, Nat.cast_one, div_one]
      · cases h

end Decimal

end SqlBinding
