import SqlBinding.Number.Shortest

/-!
# Texts of binary numbers

The shortest digits of a number written out, in two layouts: a plain one that never has an
exponent, and one for display forms that marks whole numbers with `.0` and writes very large and
very small ones with an exponent.
-/

namespace SqlBinding

/-- How a binary number is laid out: whether a whole number ends in `.0`, and the decimal exponents
of the first digit, from `least` up to `bound`, that are written without an exponent mark. -/
structure BinaryLayout where
  point : Bool
  positional : Option (Int × Int)

namespace BinaryLayout

def plain : BinaryLayout := ⟨false, none⟩

/-- A point always, and an exponent from 1e16 on and below 1e-4. -/
def display : BinaryLayout := ⟨true, some (-4, 16)⟩

end BinaryLayout

namespace Digits

private def zeros (n : Nat) : String := String.ofList (List.replicate n '0')

def leading (d : Digits) : Int := d.exponent + digitCount d.digits - 1

def positional (point : Bool) (d : Digits) : String :=
  let s := toString d.digits
  if 0 ≤ d.exponent then s ++ zeros d.exponent.toNat ++ (if point then ".0" else "")
  else
    let places := (-d.exponent).toNat
    let s := zeros (places + 1 - s.length) ++ s
    String.ofList (s.toList.take (s.length - places)) ++ "." ++
      String.ofList (s.toList.drop (s.length - places))

/-- The number with its first digit before the point and an exponent. -/
def scientific (d : Digits) : String :=
  match (toString d.digits).toList with
  | [] => ""
  | [c] => String.singleton c ++ "e" ++ toString d.leading
  | c :: cs => String.singleton c ++ "." ++ String.ofList cs ++ "e" ++ toString d.leading

end Digits

def Binary.text (layout : BinaryLayout) : Binary → String
  | .nan => "NaN"
  | .infinite negative => (if negative then "-" else "") ++ "inf"
  | .finite negative m q narrowBelow =>
    let d := if m = 0 then ⟨0, 0⟩ else shortest m q narrowBelow
    let inRange (r : Int × Int) : Bool := r.1 ≤ d.leading && d.leading < r.2
    (if negative then "-" else "") ++
      if m = 0 || layout.positional.all inRange then d.positional layout.point else d.scientific

end SqlBinding
