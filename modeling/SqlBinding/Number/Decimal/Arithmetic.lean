import SqlBinding.Number.Decimal

/-!
# Decimal arithmetic

Floor, fraction, rounding to a whole number, and products with a whole number. A product that
outgrows 96 bits gives up digits behind the point, rounding half-even; without enough of them it
has no decimal.
-/

namespace SqlBinding.Decimal

def floor (d : Decimal) : Int := d.signed / tenPow d.scale

/-- The digits of `d` behind the point, with its sign and scale. -/
def fraction (d : Decimal) : Decimal :=
  { d with
    mantissa := d.mantissa % tenPow d.scale
    mantissa_lt := Nat.lt_of_le_of_lt (Nat.mod_le _ _) d.mantissa_lt }

/-- The whole number nearest to `d`; a tie goes away from zero. -/
def round (d : Decimal) : Int :=
  let n : Int := divHalfUp d.mantissa (tenPow d.scale)
  if d.negative then -n else n

/-- The decimal nearest to `± mantissa / 10 ^ scale` that keeps the most digits, at most `scale`
of them being dropped; ties go to even. -/
def fit? (negative : Bool) (mantissa scale : Nat) : Option Decimal :=
  (List.range (scale + 1)).findSome? fun dropped =>
    ofParts? negative (divHalfEven mantissa (tenPow dropped)) (scale - dropped)

/-- The product of `d` and `n`; a zero product has no sign and no scale. -/
def times? (d : Decimal) (n : Nat) : Option Decimal :=
  -- `n` may be a large literal: as the first factor it is never unfolded.
  if n * d.mantissa = 0 then some zero else fit? d.negative (n * d.mantissa) d.scale

theorem fit?_of_lt (negative : Bool) {mantissa : Nat} (scale : Nat) (h : mantissa < mantissaBound) :
    fit? negative mantissa scale = some ⟨negative, mantissa, scale, h⟩ := by
  rw [fit?, List.range_succ_eq_map, List.findSome?_cons]
  simp only [tenPow_zero, divHalfEven_one, ofParts?, dif_pos h, Nat.sub_zero]

end SqlBinding.Decimal
