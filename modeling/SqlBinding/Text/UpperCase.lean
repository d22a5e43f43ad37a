import SqlBinding.Text.UpperCase.Table

/-!
# Upper-casing

The full upper-case form of a text: a letter may become several characters, and a character
without a capital stays as it is.
-/

namespace SqlBinding.Text

/-- The capital of the letter with code point `n` in run `r`, if the run holds it. -/
def CaseRun.capital? (r : CaseRun) (n : Nat) : Option Char :=
  if r.first ≤ n ∧ n ≤ r.last ∧ (n - r.first) % r.step = 0 then
    some (Char.ofNat (n + r.shift).toNat)
  else none

def upperChar (c : Char) : List Char :=
  if c.toNat < 0x80 then [c.toUpper]
  else
    match caseSequences.lookup c.toNat with
    | some ns => ns.map Char.ofNat
    | none => [(caseRuns.findSome? (·.capital? c.toNat)).getD c]

def upper (s : String) : String := String.ofList (s.toList.flatMap upperChar)

end SqlBinding.Text
