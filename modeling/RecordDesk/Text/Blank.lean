/-
  White space of Unicode, and text without it at the ends.
-/

namespace RecordDesk.Text

/-- White space: the tab and line controls, the space, and the spaces and separators of Unicode.
The zero-width characters are not among them. -/
def isBlank (c : Char) : Bool :=
  let n := c.toNat
  (0x9 ≤ n && n ≤ 0xD) || n == 0x20 || n == 0x85 || n == 0xA0 || n == 0x1680
    || (0x2000 ≤ n && n ≤ 0x200A) || n == 0x2028 || n == 0x2029 || n == 0x202F || n == 0x205F
    || n == 0x3000

/-- The characters from the first that is not white space. -/
def dropBlank (cs : List Char) : List Char := cs.dropWhile isBlank

/-- The characters up to the last that is not white space. -/
def dropBlankEnd (cs : List Char) : List Char := (cs.reverse.dropWhile isBlank).reverse

/-- Text without white space at the end. -/
def trimEnd (s : String) : String := String.ofList (dropBlankEnd s.toList)

/-- Text without white space at either end. -/
def trim (s : String) : String := String.ofList (dropBlankEnd (dropBlank s.toList))

end RecordDesk.Text
