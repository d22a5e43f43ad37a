import SqlBinding.Number.Decimal
import SqlBinding.Text.Digits

/-!
# Reading decimals

A decimal from its text: perhaps a minus sign, digits, and perhaps a point and digits behind it,
which make up the scale.
-/

namespace SqlBinding.Decimal

def readUnsigned? (negative : Bool) (cs : List Char) : Option Decimal :=
  let whole := cs.takeWhile (· != '.')
  let places := (cs.dropWhile (· != '.')).drop 1
  if !whole.isEmpty && (whole ++ places).all Char.isDigit then
    ofParts? negative (Text.digitsValue (whole ++ places)) places.length
  else none

def ofText? (text : String) : Option Decimal :=
  match text.toList with
  | '-' :: rest => readUnsigned? true rest
  | cs => readUnsigned? false cs

end SqlBinding.Decimal
