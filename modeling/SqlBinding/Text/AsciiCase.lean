/-!
# Names without regard to ASCII case

Names of columns and fields agree when they differ at most in the case of the letters A to Z.
-/

namespace SqlBinding.Text

/-- `s` with its ASCII capitals made small; every other character stays. -/
def asciiLower (s : String) : List Char := s.toList.map Char.toLower

/-- Whether two names agree up to the case of ASCII letters. -/
def sameName (s t : String) : Bool := asciiLower s == asciiLower t

@[simp] theorem sameName_self (s : String) : sameName s s = true := by simp [sameName]

theorem sameName_trans {s t u : String} (h : sameName s t = true) (h' : sameName t u = true) :
    sameName s u = true := by
  simp only [sameName, beq_iff_eq] at *
  exact h.trans h'

end SqlBinding.Text
