/-!
# Numbers of a fixed width

A natural with zeros in front of its digits.
-/

namespace SqlBinding.Text

/-- The decimal digits of `n`, with zeros in front up to `width` of them. -/
def zeroPadded (width n : Nat) : String :=
  let s := toString n
  String.ofList (List.replicate (width - s.length) '0') ++ s

end SqlBinding.Text
