import Regex.Convention

/-!
# Dialects

How a pattern is to be understood.

* `Dialect`: what is fixed for a whole pattern, from options and from the settings at its head.
* `Modes`: what a pattern can switch for a part of itself.
* `EngineBits`: the engine's option bits.
-/

namespace Regex

/-- The engine's bits for options of a pattern. -/
structure EngineBits where
  word : UInt32
  deriving DecidableEq

namespace EngineBits

/-- Whether every bit of `flag` is set. -/
def has (bits : EngineBits) (flag : UInt32) : Bool := bits.word &&& flag == flag

/-- Sets the bits of `flag`. -/
def add (bits : EngineBits) (flag : UInt32) : EngineBits := ⟨bits.word ||| flag⟩

/-- Whether some bit outside `allowed` is set. -/
def exceeds (bits : EngineBits) (allowed : UInt32) : Bool := bits.word &&& ~~~allowed != 0

/-- A closing bracket right after the opening one ends a class, which then has no members. -/
def allowEmptyClass : UInt32 := 0x1

/-- The escapes with u and x are read as in JavaScript. -/
def altBsux : UInt32 := 0x2

/-- Every item is preceded by a callout. -/
def autoCallout : UInt32 := 0x4

/-- Case is ignored. -/
def caseless : UInt32 := 0x8

/-- A dollar only matches at the very end. -/
def dollarEndonly : UInt32 := 0x10

/-- A dot also matches a line ending. -/
def dotall : UInt32 := 0x20

/-- Several groups may have one name. -/
def dupnames : UInt32 := 0x40

/-- Blanks and comments between items are ignored. -/
def extended : UInt32 := 0x80

/-- A match has to start before or at the first line ending. -/
def firstline : UInt32 := 0x100

/-- A reference to a group that is not set matches nothing at all. -/
def matchUnsetBackref : UInt32 := 0x200

/-- Circumflex and dollar match at the edges of every line. -/
def multiline : UInt32 := 0x400

/-- The pattern cannot switch on Unicode properties. -/
def neverUcp : UInt32 := 0x800

/-- The pattern cannot switch on UTF. -/
def neverUtf : UInt32 := 0x1000

/-- Groups without a name do not capture. -/
def noAutoCapture : UInt32 := 0x2000

/-- Repetitions are not made possessive. -/
def noAutoPossess : UInt32 := 0x4000

/-- A leading repetition of any character is no anchor. -/
def noDotstarAnchor : UInt32 := 0x8000

/-- Matching is tried everywhere, without hints. -/
def noStartOptimize : UInt32 := 0x10000

/-- Classes and case follow Unicode properties. -/
def ucp : UInt32 := 0x20000

/-- Repetitions are lazy unless they are marked. -/
def ungreedy : UInt32 := 0x40000

/-- Patterns and subjects are UTF-8. -/
def utf : UInt32 := 0x80000

/-- Single bytes cannot be taken out of characters. -/
def neverBackslashC : UInt32 := 0x100000

/-- A circumflex also matches after a line ending at the very end. -/
def altCircumflex : UInt32 := 0x200000

/-- The names of verbs can hold escapes. -/
def altVerbnames : UInt32 := 0x400000

/-- Blanks are ignored in classes, too. -/
def extendedMore : UInt32 := 0x1000000

/-- The whole pattern is plain text. -/
def literal : UInt32 := 0x2000000

/-- Subjects may have parts that are not UTF-8. -/
def matchInvalidUtf : UInt32 := 0x4000000

/-- Classes can be nested and combined. -/
def altExtendedClass : UInt32 := 0x8000000

/-- A match has to end where the subject ends. -/
def endanchored : UInt32 := 0x20000000

/-- A match has to start where the search starts. -/
def anchored : UInt32 := 0x80000000

/-- Every bit that has a meaning. -/
def known : UInt32 := 0xEFFFFFFF

/-- The bits that may go with `literal`. -/
def allowedWithLiteral : UInt32 := 0xE689010C

end EngineBits

/-- What is fixed for a whole pattern. -/
structure Dialect where
  utf : Bool
  ucp : Bool
  newline : Newline
  bsr : Bsr
  /-- The option bits that were given, and those that settings stand for. -/
  bits : EngineBits
  /-- Whether the letters i are matched as in Turkish. -/
  turkish : Bool
  autoPossess : Bool
  dotstarAnchor : Bool
  startOptimize : Bool
  notEmpty : Bool
  notEmptyAtStart : Bool
  /-- Whether machine code may be made of the pattern. -/
  fastPath : Bool
  matchLimit : Nat

/-- Whether letters beyond ASCII have case. -/
def Dialect.unicodeCase (d : Dialect) : Bool := d.utf || d.ucp

/-- The largest code point of a subject. -/
def Dialect.maxCode (d : Dialect) : Nat := if d.utf then 0x10FFFF else 0xFF

/-- What a pattern can switch for a part of itself. -/
structure Modes where
  caseless : Bool
  multiline : Bool
  dotall : Bool
  extended : Bool
  extendedMore : Bool
  noAutoCapture : Bool
  ungreedy : Bool
  duplicateNames : Bool
  /-- Whether case is ignored only within ASCII and only outside it. -/
  restricted : Bool
  asciiDigit : Bool
  asciiSpace : Bool
  asciiWord : Bool
  asciiPosix : Bool
  asciiPosixDigit : Bool
  deriving DecidableEq

namespace Modes

/-- Every mode off. -/
def none : Modes :=
  ⟨false, false, false, false, false, false, false, false, false, false, false, false, false, false⟩

/-- Switches on the modes of `set`, and then off those of `unset`. Being extended once or not at all
ends being extended twice. -/
def switch (m set unset : Modes) : Modes where
  caseless := (m.caseless || set.caseless) && !unset.caseless
  multiline := (m.multiline || set.multiline) && !unset.multiline
  dotall := (m.dotall || set.dotall) && !unset.dotall
  extended := (m.extended || set.extended) && !unset.extended
  extendedMore :=
    (m.extendedMore || set.extendedMore) && !unset.extendedMore && !unset.extended &&
      !(set.extended && !set.extendedMore)
  noAutoCapture := (m.noAutoCapture || set.noAutoCapture) && !unset.noAutoCapture
  ungreedy := (m.ungreedy || set.ungreedy) && !unset.ungreedy
  duplicateNames := (m.duplicateNames || set.duplicateNames) && !unset.duplicateNames
  restricted := (m.restricted || set.restricted) && !unset.restricted
  asciiDigit := (m.asciiDigit || set.asciiDigit) && !unset.asciiDigit
  asciiSpace := (m.asciiSpace || set.asciiSpace) && !unset.asciiSpace
  asciiWord := (m.asciiWord || set.asciiWord) && !unset.asciiWord
  asciiPosix := (m.asciiPosix || set.asciiPosix) && !unset.asciiPosix
  asciiPosixDigit := (m.asciiPosixDigit || set.asciiPosixDigit) && !unset.asciiPosixDigit

/-- Switches off what a circumflex does at the head of a switch. -/
def clear (m : Modes) : Modes :=
  { m with caseless := false, multiline := false, noAutoCapture := false, dotall := false
           extended := false, extendedMore := false, restricted := false }

end Modes

/-- The modes that option bits switch on. -/
def Modes.ofBits (bits : EngineBits) : Modes where
  caseless := bits.has EngineBits.caseless
  multiline := bits.has EngineBits.multiline
  dotall := bits.has EngineBits.dotall
  extended := bits.has EngineBits.extended || bits.has EngineBits.extendedMore
  extendedMore := bits.has EngineBits.extendedMore
  noAutoCapture := bits.has EngineBits.noAutoCapture
  ungreedy := bits.has EngineBits.ungreedy
  duplicateNames := bits.has EngineBits.dupnames
  restricted := false
  asciiDigit := false
  asciiSpace := false
  asciiWord := false
  asciiPosix := false
  asciiPosixDigit := false

end Regex
