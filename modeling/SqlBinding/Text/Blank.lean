/-!
# Blank characters

The characters that Unicode calls white space, and the trimming of a text at both ends.
-/

namespace SqlBinding.Text

/-- White space: the ASCII blanks, the next-line and no-break characters, the fixed-width spaces
and the line and paragraph separators. -/
def isBlank (c : Char) : Bool :=
  let n := c.toNat
  (9 ≤ n && n ≤ 13) || (0x2000 ≤ n && n ≤ 0x200a) ||
    [0x20, 0x85, 0xa0, 0x1680, 0x2028, 0x2029, 0x202f, 0x205f, 0x3000].contains n

def dropBlanks (cs : List Char) : List Char := cs.dropWhile isBlank

def trim (cs : List Char) : List Char := (dropBlanks (dropBlanks cs).reverse).reverse

end SqlBinding.Text
