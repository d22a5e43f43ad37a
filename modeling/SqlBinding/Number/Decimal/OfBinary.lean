import SqlBinding.Number.Binary
import SqlBinding.Number.Decimal

/-!
# Decimals of binary numbers

A binary number as a decimal with all the digits that 96 bits hold. The factor `2 ^ q` is turned
into powers of five and ten step by step: the mantissa is halved while it is even and multiplied by
five otherwise, and once it is full it gives up its low bits.
-/

namespace SqlBinding.Decimal

/-- A mantissa and a decimal exponent on the way from binary to decimal. -/
structure Draft where
  mantissa : Nat
  exponent : Int

namespace Draft

/-- Divides by two, `n` times: in each step the mantissa is halved, or multiplied by five with one
ten less in the exponent. A full odd mantissa loses its last bit. -/
def divideTwos : Nat → Draft → Draft
  | 0, d => d
  | n + 1, d =>
    if d.mantissa % 2 = 0 then divideTwos n ⟨d.mantissa / 2, d.exponent + 1⟩
    else if 5 * d.mantissa < mantissaBound then divideTwos n ⟨5 * d.mantissa, d.exponent⟩
    else divideTwos n ⟨d.mantissa / 2, d.exponent + 1⟩

/-- Multiplies by two, `n` times: in each step the mantissa is doubled with one ten less in the
exponent, or, once it is full, divided by five. Gives up when the exponent cannot come down to zero
any more. -/
def multiplyTwos : Nat → Draft → Option Draft
  | 0, d => some d
  | n + 1, d =>
    if 2 * d.mantissa < mantissaBound then multiplyTwos n ⟨2 * d.mantissa, d.exponent - 1⟩
    else if 2 * d.exponent > n + 1 then none
    else multiplyTwos n ⟨d.mantissa / 5, d.exponent⟩

def absorbTens : Nat → Nat → Option Nat
  | 0, m => some m
  | n + 1, m => if 10 * m < mantissaBound then absorbTens n (10 * m) else none

/-- Drops `n` last digits one by one, each time rounding up from five; nothing is left to drop
from zero. The result comes with the number of digits that remain behind the point. -/
def dropDigits : Nat → Nat → Nat × Nat
  | 0, m => (m, 28)
  | n + 1, m =>
    if m / 10 = 0 then (0, 0)
    else dropDigits n (m / 10 + if 5 ≤ m % 10 then 1 else 0)

/-- The draft as a decimal with at most 28 digits behind the point. -/
def toDecimal? (negative : Bool) (d : Draft) : Option Decimal :=
  if 0 ≤ d.exponent then (absorbTens d.exponent.toNat d.mantissa).bind (ofParts? negative · 0)
  else
    let places := (-d.exponent).toNat
    if places ≤ 28 then ofParts? negative d.mantissa places
    else
      let (m, scale) := dropDigits (places - 28) d.mantissa
      ofParts? negative m scale

end Draft

/-- The decimal of a binary number; there is none for infinities, for what is no number, and for
numbers beyond 96 bits. -/
def ofBinary? : Binary → Option Decimal
  | .nan => none
  | .infinite _ => none
  | .finite negative m q _ =>
    if m = 0 then some { zero with negative }
    else if q < 0 then (Draft.divideTwos q.natAbs ⟨m, q⟩).toDecimal? negative
    else (Draft.multiplyTwos q.toNat ⟨m, q⟩).bind (·.toDecimal? negative)

end SqlBinding.Decimal
