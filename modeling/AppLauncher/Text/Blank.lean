/-!
Blank text. A character is blank if Unicode gives it the property White_Space; "trimmed", "blank"
and "empty" mean the same thing everywhere in this library.
-/
namespace AppLauncher.Text

/-- The property White_Space: it holds of the no-break and ideographic spaces and of the line and
paragraph separators, but not of the zero-width space. -/
def isBlankChar (c : Char) : Bool :=
  let n := c.toNat
  (9 ≤ n && n ≤ 13) || n == 0x20 || n == 0x85 || n == 0xA0 || n == 0x1680 ||
    (0x2000 ≤ n && n ≤ 0x200A) || n == 0x2028 || n == 0x2029 || n == 0x202F || n == 0x205F ||
    n == 0x3000

/-- The text without the blank characters at its two ends. -/
def trimmed (cs : List Char) : List Char :=
  ((cs.dropWhile isBlankChar).reverse.dropWhile isBlankChar).reverse

def trim (text : String) : String := String.ofList (trimmed text.toList)

/-- A blank text has no character to read. -/
def isBlank (text : String) : Bool := text.toList.all isBlankChar

end AppLauncher.Text
