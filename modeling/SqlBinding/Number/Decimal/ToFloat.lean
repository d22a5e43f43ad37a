import SqlBinding.Number.Decimal

/-!
# Binary numbers of decimals

The 64-bit number for a decimal: whole part and fraction are converted apart and added, and the sum
is rounded once more on the decimal's own grid, which removes what the addition blurred.
-/

namespace SqlBinding.Decimal

/-- `a ^ n` by repeated squaring, rounding after each product; `fuel` bounds the number of
squarings. -/
def floatPower (a : Float) : Nat → Nat → Float → Float
  | 0, _, r => r
  | fuel + 1, n, r =>
    let r := if n % 2 = 1 then r * a else r
    if n / 2 = 0 then r else floatPower (a * a) fuel (n / 2) r

def magnitudeToFloat (d : Decimal) : Float :=
  let p := tenPow d.scale
  let whole := Float.ofNat (d.mantissa / p)
  let part := Float.ofNat (d.mantissa % p) / Float.ofNat p
  if d.scale = 0 || part == 0.0 then whole
  else
    let q := floatPower 10.0 d.scale d.scale 1.0
    ((whole + part) * q).round / q

/-- The 64-bit number for a decimal. A zero keeps its sign only with digits behind the point. -/
def toFloat (d : Decimal) : Float :=
  if d.negative && (d.scale != 0 || !d.isZero) then -d.magnitudeToFloat else d.magnitudeToFloat

end SqlBinding.Decimal
