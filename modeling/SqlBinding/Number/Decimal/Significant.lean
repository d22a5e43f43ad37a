import SqlBinding.Number.Decimal

/-!
# Significant digits

Rounding of a decimal to a number of significant digits, half-even. A decimal with fewer digits
gains zeros behind the point, one with more loses its last ones; digits lost before the point
become zeros.
-/

namespace SqlBinding.Decimal

/-- `d` with up to `n` more digits behind the point, as long as the mantissa fits 96 bits. -/
def widen : Nat → Decimal → Decimal
  | 0, d => d
  | n + 1, d =>
    match ofParts? d.negative (10 * d.mantissa) (d.scale + 1) with
    | none => d
    | some wider => widen n wider

/-- `d` to `n` significant digits, or nothing when the rounded mantissa outgrows 96 bits. -/
def significant? (n : Nat) (d : Decimal) : Option Decimal :=
  let digits := digitCount d.mantissa
  if d.isZero then some zero
  else if digits ≤ n then some (widen (n - digits) d)
  else
    let excess := digits - n
    let kept := divHalfEven d.mantissa (tenPow excess)
    if excess ≤ d.scale then ofParts? d.negative kept (d.scale - excess)
    else ofParts? d.negative (kept * tenPow (excess - d.scale)) 0

end SqlBinding.Decimal
