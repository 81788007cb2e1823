import Regex.Chars.Ascii
import Regex.Dialect
import Regex.Unicode.CaseFold

/-!
# Casing

Which characters count as forms of one letter.

* `Casing`: whether case is ignored, and by which rules.
* `Casing.variants`: the characters that match where a given one is asked for.
* `Casing.expand`: the characters that match where one of a range is asked for.
-/

namespace Regex.Chars

open Unicode

/-- How the case of letters is treated. -/
structure Casing where
  /-- Whether case is ignored at all. -/
  ignored : Bool
  /-- Whether letters beyond ASCII have case. -/
  unicode : Bool
  /-- Whether a letter of ASCII has no form outside it. -/
  restricted : Bool
  /-- Whether i goes with the dotted capital, and I with the dotless letter. -/
  turkish : Bool
  deriving DecidableEq

/-- The treatment of case under some modes. -/
def Casing.of (d : Dialect) (m : Modes) : Casing :=
  ⟨m.caseless, d.unicodeCase, m.restricted, d.turkish⟩

/-- The other case of an ASCII letter; all else is its own. -/
def asciiOther (c : Nat) : Nat :=
  if isUpper c then c + 32 else if isLower c then c - 32 else c

namespace Casing

/-- The letter i with a dot, in both cases. -/
def dotted : List Nat := [0x69, 0x130]

/-- The letter i without a dot, in both cases. -/
def dotless : List Nat := [0x49, 0x131]

/-- All forms of a letter, itself included, if case is ignored. -/
def forms (casing : Casing) (c : Nat) : List Nat :=
  if !casing.unicode then
    let other := asciiOther c
    if other = c then [c] else [c, other]
  else if casing.turkish && !casing.restricted && dotted.contains c then dotted
  else if casing.turkish && !casing.restricted && dotless.contains c then dotless
  else if casing.restricted then
    (CaseFold.variants c).filter fun v => (v < 0x80) == (c < 0x80)
  else CaseFold.variants c

/-- The characters that match where `c` is asked for. -/
def variants (casing : Casing) (c : Nat) : List Nat :=
  if casing.ignored then casing.forms c else [c]

/-- The single other form of a letter that has just one; otherwise the letter itself. -/
def other (casing : Casing) (c : Nat) : Nat :=
  match casing.forms c with
  | [a, b] => if a = c then b else a
  | _ => c

/-- The forms of all letters of a range that lie outside it, as ranges of one. -/
def outside (casing : Casing) (lo hi : Nat) : List (Nat × Nat) :=
  let letters :=
    if casing.unicode then
      (CaseFold.keys.filter (between lo hi)).toList ++
        if casing.turkish then [0x130, 0x131].filter (between lo hi) else []
    else (List.range 0x80).filter fun c => between lo hi c && isAlpha c
  (letters.flatMap casing.forms).filterMap fun c => if between lo hi c then none else some (c, c)

/-- The ranges of the characters that match where one from `lo` to `hi` is asked for. -/
def expand (casing : Casing) (lo hi : Nat) : List (Nat × Nat) :=
  if casing.ignored then (lo, hi) :: casing.outside lo hi else [(lo, hi)]

end Casing

end Regex.Chars
