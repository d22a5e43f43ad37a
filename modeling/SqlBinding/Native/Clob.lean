/-!
# Character large objects

A character large object as a driver hands it out: perhaps with a locator, and with content that is
written at character positions.
-/

namespace SqlBinding

/-- A character large object. -/
structure Clob where
  national : Bool
  locator : Option Nat
  content : String := ""
deriving DecidableEq

/-- Writes `text` from the character position `position` on, counted from one; what stood there and
behind it is gone. -/
def Clob.write (c : Clob) (position : Nat) (text : String) : Clob :=
  { c with content := String.ofList (c.content.toList.take (position - 1)) ++ text }

/-- Writing leaves the characters before the position, then the text. -/
theorem Clob.toList_content_write (c : Clob) (position : Nat) (text : String) :
    (c.write position text).content.toList =
      c.content.toList.take (position - 1) ++ text.toList := by
  simp [write]

end SqlBinding
