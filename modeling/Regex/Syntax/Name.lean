import Regex.Chars.Ascii
import Regex.Syntax.Source
import Regex.Unicode.Category

/-!
# Names in patterns

* `Source.readGroupName`: the name of a group, up to the character that ends it.
* `Source.readWord`: the name of a verb or of an assertion, which is in ASCII.

Lengths of names are limited in bytes.
-/

namespace Regex.Syntax

open Chars Unicode

/-- The greatest length of a name in bytes. -/
def maxNameLength : Nat := 128

namespace Source

/-- Whether a character can stand in the name of a group. -/
def isNameChar (wide : Bool) (c : Char) : Bool :=
  if wide then
    let k := Category.of c.toNat
    k == .decimalNumber || k.family == .letter || c == '_'
  else isWord c.toNat

/-- Whether a character is a digit, so that no name starts with it. -/
def isNameDigit (wide : Bool) (c : Char) : Bool :=
  if wide then Category.of c.toNat == .decimalNumber else isDigit c.toNat

/-- The end of a name that starts at `i`, which must not be too long. -/
def nameEnd (s : Source) (i : Nat) (accepts : Char → Bool) : Reading Nat :=
  let stop := s.scan (!accepts ·) i
  if maxNameLength < s.offset stop - s.offset i then .error (s.fault .nameTooLong stop)
  else .ok stop

/-- The name of a group from `i` on, its place, and the place after the character `terminator` that
must follow it. Within braces blanks may surround it. `wide` tells whether it may hold letters of
all scripts. -/
def readGroupName (s : Source) (wide : Bool) (i : Nat) (terminator : Char) :
    Reading (List Char × Nat × Nat) := do
  let braced := terminator == '}'
  let start := if braced then s.skipBlanks i else i
  match s.get? start with
  | none => .error (s.fault .nameExpected start)
  | some c =>
    if isNameDigit wide c then .error (s.fault .nameStartsWithDigit start)
    else
      let stop ← s.nameEnd start (isNameChar wide)
      if stop = start then .error (s.fault .nameExpected start)
      else
        let place := if braced then s.skipBlanks stop else stop
        if s.has place terminator then return (s.slice start stop, start, place + 1)
        else .error (s.fault .unclosedName place)

/-- The word of ASCII characters from `i` on, which may be empty, and the place after it. -/
def readWord (s : Source) (i : Nat) : Reading (List Char × Nat) := do
  let stop ← s.nameEnd i (fun c => isWord c.toNat)
  return (s.slice i stop, stop)

end Source

end Regex.Syntax
