/-!
# TransitForecast — blank characters

The characters that count as white space in bus subjects, time texts and
message files: the ones that Unicode gives the property `White_Space`.
-/

namespace TransitForecast.Text

/-- A character is blank when Unicode lists it as white space. -/
def isBlank (c : Char) : Bool :=
  let n := c.toNat
  (9 ≤ n && n ≤ 13) || n == 0x20 || n == 0x85 || n == 0xa0 || n == 0x1680 ||
    (0x2000 ≤ n && n ≤ 0x200a) || n == 0x2028 || n == 0x2029 || n == 0x202f ||
    n == 0x205f || n == 0x3000

/-- The text without the blanks it starts with. -/
def dropBlanks (cs : List Char) : List Char := cs.dropWhile isBlank

end TransitForecast.Text
