/-!
# Blanks

The blank characters are those with the white space property.  `trim` takes
them off both ends of a text.
-/

namespace TransitStore.Text

/-- The characters with the white space property. -/
def isBlank (c : Char) : Bool :=
  let n := c.toNat
  (9 ≤ n && n ≤ 13) || n == 0x20 || n == 0x85 || n == 0xa0 || n == 0x1680 ||
    (0x2000 ≤ n && n ≤ 0x200a) || n == 0x2028 || n == 0x2029 || n == 0x202f ||
    n == 0x205f || n == 0x3000

/-- Drops the blanks at the start. -/
def skipBlanks (cs : List Char) : List Char := cs.dropWhile isBlank

/-- A text without the blanks at its ends. -/
def trim (s : String) : String :=
  if s.toList.any isBlank then
    String.ofList (skipBlanks (skipBlanks s.toList).reverse).reverse
  else s

example : trim "\t a b\u00a0\n" = "a b" := by decide +kernel
example : trim "\u3000" = "" := by decide +kernel

end TransitStore.Text
