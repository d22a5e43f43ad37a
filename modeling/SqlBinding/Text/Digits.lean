/-!
# Decimal digits

The number that a sequence of decimal digits stands for.
-/

namespace SqlBinding.Text

def digitsValue (cs : List Char) : Nat := cs.foldl (fun n c => 10 * n + (c.toNat - '0'.toNat)) 0

end SqlBinding.Text
