import SqlBinding.Host.Value

/-!
# Equality of values

Two values are equal when they are of one kind and have equal parts. Decimals are equal as numbers,
binary numbers as their arithmetic compares them (so what is no number differs from itself), and
channels when they are one handle.
-/

namespace SqlBinding

private def allPairs {α : Type} (same : α → α → Bool) : List α → List α → Bool
  | [], [] => true
  | a :: as, b :: bs => same a b && allPairs same as bs
  | _, _ => false

mutual

def Value.same : Value → Value → Bool
  | .int a, .int b => a == b
  | .long a, .long b => a == b
  | .float a, .float b => a == b
  | .double a, .double b => a == b
  | .decimal a, .decimal b => a.sameNumber b
  | .boolean a, .boolean b => a == b
  | .text a, .text b => a == b
  | .bytes a, .bytes b => a == b
  | .byteStream a, .byteStream b => a == b
  | .charStream a, .charStream b => a == b
  | .date a, .date b => a == b
  | .timeOfDay a, .timeOfDay b => a.same b
  | .civil a, .civil b => a.same b
  | .utc a, .utc b => a.same b
  | .array a, .array b => a.same b
  | .record a, .record b => a.same b
  | .xml a, .xml b => a == b
  | _, _ => false

def Value.sameOption : Option Value → Option Value → Bool
  | none, none => true
  | some a, some b => a.same b
  | _, _ => false

def ArrayValue.same : ArrayValue → ArrayValue → Bool
  | .int as, .int bs => as == bs
  | .float as, .float bs => allPairs (· == ·) as bs
  | .decimal as, .decimal bs => allPairs Decimal.sameNumber as bs
  | .text as, .text bs => as == bs
  | .boolean as, .boolean bs => as == bs
  | .binary as, .binary bs => as == bs
  | .nested as, .nested bs => ArrayValue.sameAll as bs
  | .typed s as, .typed t bs => s == t && TypedValue.sameAll as bs
  | _, _ => false

def ArrayValue.sameAll : List ArrayValue → List ArrayValue → Bool
  | [], [] => true
  | a :: as, b :: bs => a.same b && ArrayValue.sameAll as bs
  | _, _ => false

def TypedValue.same : TypedValue → TypedValue → Bool
  | ⟨s, a⟩, ⟨t, b⟩ => s == t && Value.sameOption a b

def TypedValue.sameAll : List TypedValue → List TypedValue → Bool
  | [], [] => true
  | a :: as, b :: bs => a.same b && TypedValue.sameAll as bs
  | _, _ => false

def Record.same : Record → Record → Bool
  | ⟨s, as⟩, ⟨t, bs⟩ => s.same t && Entry.sameAll as bs

def Entry.same : Entry → Entry → Bool
  | ⟨m, a⟩, ⟨n, b⟩ => m == n && Value.sameOption a b

def Entry.sameAll : List Entry → List Entry → Bool
  | [], [] => true
  | a :: as, b :: bs => a.same b && Entry.sameAll as bs
  | _, _ => false

end

end SqlBinding
