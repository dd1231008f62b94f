/-! # Blank space and letter case

Trimming uses the Unicode `White_Space` set; case changes touch ASCII letters only, so other
text passes through unchanged.
-/

namespace Subledger

namespace Text

/-- Whether a character is Unicode white space. -/
def isBlank (c : Char) : Bool :=
  let n := c.toNat
  (9 ≤ n && n ≤ 13) || n == 32 || n == 0x85 || n == 0xA0 || n == 0x1680 ||
    (0x2000 ≤ n && n ≤ 0x200A) || n == 0x2028 || n == 0x2029 || n == 0x202F ||
    n == 0x205F || n == 0x3000

/-- The text without white space at either end. -/
def trim (s : String) : String :=
  String.ofList (((s.toList.dropWhile isBlank).reverse.dropWhile isBlank).reverse)

/-- The text with ASCII capitals made small. -/
def asciiLower (s : String) : String :=
  String.ofList (s.toList.map fun c => if 'A' ≤ c && c ≤ 'Z' then Char.ofNat (c.toNat + 32) else c)

/-- The text with ASCII small letters made capital. -/
def asciiUpper (s : String) : String :=
  String.ofList (s.toList.map fun c => if 'a' ≤ c && c ≤ 'z' then Char.ofNat (c.toNat - 32) else c)

/-- Whether every byte is ASCII blank space in the narrow sense: space, tab, line feed, form
feed or carriage return. -/
def isAsciiBlankOnly (s : String) : Bool :=
  s.toList.all fun c => c == ' ' || c == '\t' || c == '\n' || c.toNat == 12 || c == '\r'

end Text

end Subledger
