/-!
# Character classes without properties

The classes of characters that do not depend on Unicode properties: those of ASCII, and the lists of
horizontal and vertical spaces.
-/

namespace Regex.Chars

/-- Whether `lo ≤ c ≤ hi`. -/
@[inline] def between (lo hi c : Nat) : Bool := lo ≤ c && c ≤ hi

/-- A decimal digit. -/
def isDigit (c : Nat) : Bool := between 0x30 0x39 c

/-- A space, or one of the controls from tab to carriage return. -/
def isSpace (c : Nat) : Bool := c == 0x20 || between 0x09 0x0D c

/-- A capital letter. -/
def isUpper (c : Nat) : Bool := between 0x41 0x5A c

/-- A small letter. -/
def isLower (c : Nat) : Bool := between 0x61 0x7A c

/-- A letter. -/
def isAlpha (c : Nat) : Bool := isUpper c || isLower c

/-- A letter or a digit. -/
def isAlnum (c : Nat) : Bool := isAlpha c || isDigit c

/-- A letter, a digit or the underscore. -/
def isWord (c : Nat) : Bool := isAlnum c || c == 0x5F

/-- A hexadecimal digit. -/
def isHexDigit (c : Nat) : Bool := isDigit c || between 0x41 0x46 c || between 0x61 0x66 c

/-- A character that leaves a mark, the space not included. -/
def isGraph (c : Nat) : Bool := between 0x21 0x7E c

/-- A character that leaves a mark, or the space. -/
def isPrint (c : Nat) : Bool := between 0x20 0x7E c

/-- A character that leaves a mark and is neither a letter nor a digit. -/
def isPunct (c : Nat) : Bool := isGraph c && !isAlnum c

/-- A control character. -/
def isControl (c : Nat) : Bool := c < 0x20 || c == 0x7F

/-- A character of ASCII. -/
def isAscii (c : Nat) : Bool := c < 0x80

/-- The horizontal spaces of all scripts. -/
def isHorizontalSpace (c : Nat) : Bool :=
  c == 0x09 || c == 0x20 || c == 0xA0 || c == 0x1680 || c == 0x180E || between 0x2000 0x200A c ||
    c == 0x202F || c == 0x205F || c == 0x3000

/-- The vertical spaces of all scripts. -/
def isVerticalSpace (c : Nat) : Bool :=
  between 0x0A 0x0D c || c == 0x85 || c == 0x2028 || c == 0x2029

/-- The value of a hexadecimal digit. -/
def hexValue? (c : Char) : Option Nat :=
  let n := c.toNat
  if isDigit n then some (n - 0x30)
  else if between 0x61 0x66 n then some (n - 0x57)
  else if between 0x41 0x46 n then some (n - 0x37)
  else none

/-- The value of an octal digit. -/
def octalValue? (c : Char) : Option Nat :=
  if between 0x30 0x37 c.toNat then some (c.toNat - 0x30) else none

end Regex.Chars
