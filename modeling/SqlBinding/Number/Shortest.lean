import SqlBinding.Number.Binary
import SqlBinding.Number.Rounding

/-!
# Shortest digits

The fewest decimal digits that read back as a given binary number, and among those the nearest to
it. The reals that round to `m * 2 ^ q` form an interval around it, which has its ends exactly when
`m` is even; the search takes the grids of 1, 2, … digits in turn and tests the two grid points
next to the number.
-/

namespace SqlBinding

/-- The number `digits * 10 ^ exponent`. -/
structure Digits where
  digits : Nat
  exponent : Int
deriving DecidableEq, Repr

namespace Binary

/-- The point of the grid `10 ^ k` that is nearest to `m * 2 ^ q` among those that round to it. In
units of the grid the number is `4 m u / v`; a tie goes to the upper point. -/
def onGrid? (m : Nat) (q : Int) (narrowBelow : Bool) (k : Int) : Option Nat :=
  let u := twoPow (q - 2).toNat * tenPow (-k).toNat
  let v := twoPow (2 - q).toNat * tenPow k.toNat
  let low := (4 * m - if narrowBelow then 1 else 2) * u
  let high := (4 * m + 2) * u
  let below := 4 * m * u / v
  let above := below + 1
  let inside (x : Nat) : Bool := if m % 2 = 0 then x ≤ high && low ≤ x else x < high && low < x
  let holdsBelow := inside (below * v) && below != 0
  let holdsAbove := inside (above * v)
  if holdsBelow && holdsAbove then
    some (if 4 * m * u - below * v < above * v - 4 * m * u then below else above)
  else if holdsBelow then some below
  else if holdsAbove then some above
  else none

/-- The exponent of the first decimal digit of `m * 2 ^ q`, for `m` not zero. -/
def leadingExponent (m : Nat) (q : Int) : Int :=
  digitCount (m * twoPow q.toNat * tenPow 400 / twoPow (-q).toNat) - 401

/-- The shortest digits of `m * 2 ^ q`; seventeen always suffice. A point that carries into a new
first digit is a power of ten. -/
def shortest (m : Nat) (q : Int) (narrowBelow : Bool) : Digits :=
  let top := leadingExponent m q
  ((List.range 17).findSome? fun (n : Nat) =>
    (onGrid? m q narrowBelow (top - n)).map fun x =>
      if x = tenPow (n + 1) then ⟨1, top + 1⟩ else ⟨x, top - n⟩).getD ⟨0, 0⟩

end Binary

end SqlBinding
