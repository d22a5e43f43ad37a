import SqlBinding.Text.Quoted

/-!
# Display forms

One-line display forms built from the forms of their parts: a head applied to arguments, a head
with labelled parts, lists, tuples and optional values. Error messages show values this way.
-/

namespace SqlBinding.Text

/-- Parts between two brackets, divided by a comma and a space. -/
def enclosed (opening closing : String) (parts : List String) : String :=
  opening ++ String.intercalate ", " parts ++ closing

def applied (head part : String) : String := enclosed (head ++ "(") ")" [part]

def labelled (head : String) (parts : List (String × String)) : String :=
  enclosed (head ++ " \x7b ") " \x7d" (parts.map fun p => p.1 ++ ": " ++ p.2)

def listed (parts : List String) : String := enclosed "[" "]" parts

def paired (first second : String) : String := enclosed "(" ")" [first, second]

/-- The display form of an optional value whose form, if there is one, is given. -/
def optional : Option String → String
  | none => "None"
  | some part => applied "Some" part

end SqlBinding.Text
