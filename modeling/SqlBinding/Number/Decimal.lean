import SqlBinding.Number.Rounding
import SqlBinding.Text.Padding

/-!
# Decimals

A decimal is a sign, a mantissa of at most 96 bits and the number of digits behind the point. The
scale is kept, so `1.50` and `1.5` are two decimals of one number, and so are `0` and `-0`.
-/

namespace SqlBinding

/-- The first number beyond 96 bits. -/
abbrev Decimal.mantissaBound : Nat := 0x1000000000000000000000000

/-- The decimal `± mantissa / 10 ^ scale`. -/
structure Decimal where
  negative : Bool
  mantissa : Nat
  scale : Nat
  mantissa_lt : mantissa < Decimal.mantissaBound := by decide
deriving DecidableEq

namespace Decimal

def zero : Decimal := ⟨false, 0, 0, by decide⟩

/-- The decimal with these parts, if the mantissa fits 96 bits. -/
def ofParts? (negative : Bool) (mantissa scale : Nat) : Option Decimal :=
  if h : mantissa < mantissaBound then some ⟨negative, mantissa, scale, h⟩ else none

/-- A 64-bit integer as a decimal without digits behind the point. -/
def ofInt64 (i : Int64) : Decimal where
  negative := i.toInt < 0
  mantissa := i.toInt.natAbs
  scale := 0
  mantissa_lt := by
    have := Int64.le_toInt i
    have := Int64.toInt_lt i
    simp only [mantissaBound]
    omega

def ofNat (n : Nat) (h : n < mantissaBound) : Decimal := ⟨false, n, 0, h⟩

/-- `n` billionths, written with nine digits behind the point. -/
def ofNanos (n : Nat) (h : n < mantissaBound) : Decimal := ⟨false, n, 9, h⟩

def isZero (d : Decimal) : Bool := d.mantissa == 0

def signed (d : Decimal) : Int := if d.negative then -(d.mantissa : Int) else d.mantissa

/-- Whether two decimals are the same number, whatever their scales and the signs of zeros. -/
def sameNumber (a b : Decimal) : Bool := a.signed * tenPow b.scale == b.signed * tenPow a.scale

/-- The decimal in full: a sign if it is negative, the whole digits, and exactly `scale` digits
behind the point. -/
def text (d : Decimal) : String :=
  let p := tenPow d.scale
  (if d.negative then "-" else "") ++ toString (d.mantissa / p) ++
    (if d.scale = 0 then "" else "." ++ Text.zeroPadded d.scale (d.mantissa % p))

end Decimal

end SqlBinding
