import Regex.Error.Engine
import Regex.Text.Utf8

/-!
# Pattern sources

The text of a pattern as the units it is read by.

* `Source`: the units with the byte offset of each.
* `Source.ofText`: characters for a pattern that works on characters, else bytes. A byte stands for
  the character of the same number.
* `Source.fault`: a fault at a unit, or at the end of the text.
-/

namespace Regex.Syntax

/-- A pattern text, unit by unit. -/
structure Source where
  units : Array Char
  /-- The byte offset at which each unit starts. -/
  offsets : Array Nat
  /-- The length of the text in bytes. -/
  length : Nat

namespace Source

/-- The characters of a text with their offsets. -/
def ofChars (text : String) : Source :=
  let (units, offsets, length) := text.toList.foldl
    (fun (acc : Array Char × Array Nat × Nat) c =>
      (acc.1.push c, acc.2.1.push acc.2.2, acc.2.2 + c.utf8Size))
    (#[], #[], 0)
  ⟨units, offsets, length⟩

/-- The bytes of a text, each as a character. -/
def ofBytes (text : String) : Source :=
  let units := (Utf8.encode text).map fun b => Char.ofNat b.toNat
  ⟨units.toArray, Array.range units.length, units.length⟩

/-- The units of a pattern text. -/
def ofText (byChars : Bool) (text : String) : Source :=
  if byChars then ofChars text else ofBytes text

/-- The number of units. -/
def size (s : Source) : Nat := s.units.size

/-- The unit at `i`; past the end there is none. -/
def get? (s : Source) (i : Nat) : Option Char := s.units[i]?

/-- Whether the unit at `i` is `c`. -/
def has (s : Source) (i : Nat) (c : Char) : Bool := s.units[i]? == some c

/-- Whether `text` stands at `i`. -/
def hasText (s : Source) (i : Nat) (text : List Char) : Bool :=
  match text with
  | [] => true
  | c :: rest => s.has i c && s.hasText (i + 1) rest

/-- The units from `start` up to `stop`. -/
def slice (s : Source) (start stop : Nat) : List Char := (s.units.extract start stop).toList

/-- The byte offset of the unit at `i`. A place beyond the end lies that far beyond the text. -/
def offset (s : Source) (i : Nat) : Nat :=
  match s.offsets[i]? with
  | some offset => offset
  | none => s.length + (i - s.size)

/-- A fault at the unit `i`. -/
def fault (s : Source) (cause : PatternFault.Cause) (i : Nat) : PatternFault := ⟨cause, s.offset i⟩

/-- The first place from `i` on where `stops` holds, or the end. -/
def scan (s : Source) (stops : Char → Bool) (i : Nat) : Nat :=
  match h : s.units[i]? with
  | some c => if stops c then i else s.scan stops (i + 1)
  | none => i
termination_by s.units.size - i
decreasing_by
  have := (Array.getElem?_eq_some_iff.mp h).1
  omega

/-- Skips spaces and tabs. -/
def skipBlanks (s : Source) (i : Nat) : Nat := s.scan (fun c => !(c == ' ' || c == '\t')) i

end Source

/-- Reading a part of a pattern: the result, or why the pattern is refused. -/
abbrev Reading := Except PatternFault

end Regex.Syntax
