import Regex.Chars.Ascii
import Regex.Unicode.BidiClass
import Regex.Unicode.BinaryProperty
import Regex.Unicode.Category
import Regex.Unicode.Script

/-!
# Character properties

* `Property`: a property of characters that a pattern can ask for.
* `Property.contains`: whether a code point has it.
* `Property.categories?`: the general categories that a property consists of, if it is made of
  whole categories.
-/

namespace Regex.Chars

open Unicode

/-- A property of characters. -/
inductive Property where
  /-- Holds of everything. -/
  | any
  /-- A letter that has case. -/
  | casedLetter
  | family (f : Category.Family)
  | category (c : Category)
  | script (s : Script)
  /-- Of a script, or used with it. -/
  | scriptExtension (s : Script)
  | alphanumeric
  | space
  | word
  /-- A character that may be named by its code point in program text. -/
  | universalName
  | bidi (b : BidiClass)
  /-- A yes-or-no property, by its place among them. -/
  | binary (index : Nat)
  | graph
  | print
  | punct
  | hexDigit
  deriving DecidableEq, Inhabited

namespace Property

/-- Whether a format character is one that changes direction or shape without leaving a mark. -/
def isInvisibleFormat (c : Nat) : Bool := c == 0x061C || between 0x2066 0x2069 c

/-- Whether a code point has a property. -/
def contains (p : Property) (c : Nat) : Bool :=
  match p with
  | any => true
  | casedLetter =>
    match Category.of c with
    | .uppercaseLetter | .lowercaseLetter | .titlecaseLetter => true
    | _ => false
  | family f => (Category.of c).family == f
  | category k => Category.of c == k
  | script s => Script.of c == s
  | scriptExtension s => Script.of c == s || (Script.extensions c).contains s
  | alphanumeric =>
    match (Category.of c).family with
    | .letter | .number => true
    | _ => false
  | space =>
    isHorizontalSpace c || isVerticalSpace c || (Category.of c).family == .separator
  | word =>
    match Category.of c with
    | .nonspacingMark | .connectorPunctuation => true
    | k => k.family == .letter || k.family == .number
  | universalName =>
    c == 0x24 || c == 0x40 || c == 0x60 || between 0xA0 0xD7FF c || 0xE000 ≤ c
  | bidi b => BidiClass.of c == b
  | binary i =>
    match BinaryProperty.all[i]? with
    | some b => b.contains c
    | none => false
  | graph =>
    match Category.of c with
    | .format => !(isInvisibleFormat c || c == 0x180E)
    | k => k.family != .separator && k.family != .other
  | print =>
    match Category.of c with
    | .lineSeparator | .paragraphSeparator => false
    | .format => !isInvisibleFormat c
    | k => k.family != .other
  | punct =>
    match (Category.of c).family with
    | .punctuation => true
    | .symbol => c < 0x80
    | _ => false
  | hexDigit =>
    isHexDigit c || between 0xFF10 0xFF19 c || between 0xFF21 0xFF26 c || between 0xFF41 0xFF46 c

/-- The categories that make up a property, if it is made of whole categories. -/
def categories? : Property → Option (List Category)
  | casedLetter => some [.uppercaseLetter, .lowercaseLetter, .titlecaseLetter]
  | family f => some ((Category.abbreviations.map (·.2)).filter (·.family == f))
  | category c => some [c]
  | alphanumeric =>
    some ((Category.abbreviations.map (·.2)).filter fun c =>
      c.family == .letter || c.family == .number)
  | word =>
    some ((Category.abbreviations.map (·.2)).filter fun c =>
      c.family == .letter || c.family == .number || c == .nonspacingMark ||
        c == .connectorPunctuation)
  | _ => none

end Property

end Regex.Chars
