import SqlBinding.Text.Printable

/-!
# Quoted text

A text between double quotes, on one line and in visible characters: the quote and the backslash
take a backslash, four controls have a letter, and any other character without a visible form is
written by its code point.
-/

namespace SqlBinding.Text

private def codeDigits (n : Nat) : String := String.ofList (Nat.toDigits 16 n)

def escape (c : Char) : String :=
  match c with
  | '\x00' => "\\0"
  | '\t' => "\\t"
  | '\r' => "\\r"
  | '\n' => "\\n"
  | '"' => "\\\""
  | '\\' => "\\\\"
  | c => if isPrintable c then String.singleton c else "\\u\x7b" ++ codeDigits c.toNat ++ "\x7d"

def quoted (s : String) : String := "\"" ++ String.join (s.toList.map escape) ++ "\""

end SqlBinding.Text
