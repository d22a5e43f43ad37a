import SqlBinding.Calendar.DateTime
import SqlBinding.Number.Power
import SqlBinding.Text.Blank
import SqlBinding.Text.Digits

/-!
# Reading dates and times

Texts of the forms `year-month-day`, `hour:minute:second.fraction`, `hour:minute` and
`year-month-day hour:minute:second`. Blanks may stand before any number; a year has up to four
digits, or a sign and any number of digits; every other number has one or two. A 60th second is a
leap second.
-/

namespace SqlBinding.Calendar.Parser

open Text (digitsValue)

/-- A number of one to `most` digits at the head of a text, and what follows it. -/
def number? (most : Nat) (cs : List Char) : Option (Nat × List Char) :=
  let ds := (cs.takeWhile Char.isDigit).take most
  if ds.isEmpty then none else some (digitsValue ds, cs.drop ds.length)

/-- One or two digits behind blanks, for a number below `bound`. -/
def field? (bound : Nat) (cs : List Char) : Option (Nat × List Char) := do
  let (n, rest) ← number? 2 (Text.dropBlanks cs)
  if n < bound then return (n, rest) else none

/-- A year behind blanks: up to four digits, or a sign and any number of them. -/
def year? (cs : List Char) : Option (Int × List Char) :=
  match Text.dropBlanks cs with
  | '-' :: rest => (number? rest.length rest).map fun p => (-(p.1 : Int), p.2)
  | '+' :: rest => (number? rest.length rest).map fun p => ((p.1 : Int), p.2)
  | rest => (number? 4 rest).map fun p => ((p.1 : Int), p.2)

/-- What follows the character `c` at the head of a text. -/
def after? (c : Char) : List Char → Option (List Char)
  | [] => none
  | d :: rest => if d = c then some rest else none

/-- The fraction of a second at the head of a text in nanoseconds, if there is one: a point and
digits, of which nine count. -/
def fraction? : List Char → Option (Nat × List Char)
  | '.' :: rest =>
    let ds := rest.takeWhile Char.isDigit
    let counted := ds.take 9
    if ds.isEmpty then none
    else some (digitsValue counted * tenPow (9 - counted.length), rest.drop ds.length)
  | rest => some (0, rest)

/-- The time with these parts, the 60th second being a leap second. -/
def time? (hour minute second nano : Nat) : Option Time :=
  if second = 60 then Time.of? hour minute 59 (nano + 1000000000)
  else Time.of? hour minute second nano

def date? (cs : List Char) : Option (Date × List Char) := do
  let (year, cs) ← year? cs
  let cs ← after? '-' cs
  let (month, cs) ← field? 13 cs
  let cs ← after? '-' cs
  let (day, cs) ← field? 32 cs
  let date ← Date.of? year month day
  return (date, cs)

def hourMinute? (cs : List Char) : Option ((Nat × Nat) × List Char) := do
  let (hour, cs) ← field? 24 cs
  let cs ← after? ':' cs
  let (minute, cs) ← field? 60 cs
  return ((hour, minute), cs)

def clock? (cs : List Char) : Option ((Nat × Nat × Nat) × List Char) := do
  let ((hour, minute), cs) ← hourMinute? cs
  let cs ← after? ':' cs
  let (second, cs) ← field? 61 cs
  return ((hour, minute, second), cs)

def whole {α : Type} : α × List Char → Option α
  | (a, []) => some a
  | (_, _ :: _) => none

def readDate? (cs : List Char) : Option Date := date? cs >>= whole

def readClock? (cs : List Char) : Option Time := do
  let ((hour, minute, second), cs) ← clock? cs
  let nano ← fraction? cs >>= whole
  time? hour minute second nano

def readHourMinute? (cs : List Char) : Option Time := do
  let (hour, minute) ← hourMinute? cs >>= whole
  time? hour minute 0 0

/-- A whole text as a time of day, with seconds or without them. -/
def readTime? (cs : List Char) : Option Time := readClock? cs <|> readHourMinute? cs

def readDateTime? (cs : List Char) : Option DateTime := do
  let (date, cs) ← date? cs
  let (hour, minute, second) ← clock? (Text.dropBlanks cs) >>= whole
  return ⟨date, ← time? hour minute second 0⟩

end SqlBinding.Calendar.Parser
