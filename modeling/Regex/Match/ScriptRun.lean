import Regex.Match.Subject
import Regex.Unicode.Category
import Regex.Unicode.Script

/-!
# Script runs

Whether a stretch of a subject is written in one script.

* `ScriptRun.Need`: what the characters so far ask of the rest.
* `ScriptRun.holds`: whether all characters go together.

Han characters go with the scripts of Japanese, of Korean and of Bopomofo. All decimal digits must
be of one set of ten.
-/

namespace Regex.Match.ScriptRun

open Unicode

/-- The script with a four-letter code. -/
def script (code : String) : Script := (Script.ofCode? code).getD .unknown

/-- The Chinese script. -/
def han : Script := script "Hani"

/-- The cursive script of Japanese. -/
def hiragana : Script := script "Hira"

/-- The angular script of Japanese. -/
def katakana : Script := script "Kana"

/-- The phonetic script of Chinese. -/
def bopomofo : Script := script "Bopo"

/-- The script of Korean. -/
def hangul : Script := script "Hang"

/-- What the characters so far ask of the rest. -/
inductive Need where
  | nothing
  /-- Han so far, to be followed by what goes with it. -/
  | hanPending
  /-- One of these scripts. -/
  | oneOf (scripts : List Script)
  /-- All in one of these scripts. -/
  | common (scripts : List Script)

/-- What a character of a script asks of the rest; `scripts` are those it is used with. -/
def needOf (s : Script) (scripts : List Script) : Need :=
  if s = han then .hanPending
  else if s = hiragana || s = katakana then .oneOf [han, hiragana, katakana]
  else if s = bopomofo then .oneOf [han, bopomofo]
  else if s = hangul then .oneOf [han, hangul]
  else .common scripts

/-- What is asked after a character that is used with `scripts`, if it is allowed. -/
def advance (need : Need) (s : Script) (scripts : List Script) : Option Need :=
  match need with
  | .nothing => some (needOf s scripts)
  | .hanPending =>
    if s = han then some .hanPending
    else
      let b := scripts.contains bopomofo
      let h := scripts.contains hiragana
      let k := scripts.contains katakana
      let g := scripts.contains hangul
      if !(b || h || k || g) then none
      else if b && !h && !k && !g then some (.oneOf [han, bopomofo])
      else if !b && h && k && !g then some (.oneOf [han, hiragana, katakana])
      else some .hanPending
  | .oneOf allowed => if scripts.any allowed.contains then some need else none
  | .common allowed =>
    let both := allowed.filter scripts.contains
    if both.isEmpty then none
    else
      match needOf s scripts with
      | .common _ => some (.common both)
      | need => some need

/-- The digit zero of the set of ten that a decimal digit is in. -/
def digitZero (c : Nat) : Nat :=
  let starts := Category.table.starts
  let first := starts.getD (countUpTo starts c 0 starts.size - 1) 0
  first + (c - first) / 10 * 10

/-- Whether the characters from `i` up to `stop` go together with those before them. -/
def holdsFrom (s : Subject) (stop fuel i : Nat) (need : Need) (zero : Option Nat) : Bool :=
  match fuel with
  | 0 => true
  | fuel + 1 =>
    if stop ≤ i then true
    else
      let c := s.code i
      let own := Script.of c
      let further := Script.extensions c
      let shared := own = .common || own = .inherited
      if own = .unknown then false
      else
        let need :=
          if shared && further.isEmpty then some need
          else advance need own (if shared then further else own :: further)
        match need with
        | none => false
        | some need =>
          if Category.of c = .decimalNumber then
            let z := digitZero c
            if zero.getD z = z then holdsFrom s stop fuel (s.next i) need (some z) else false
          else holdsFrom s stop fuel (s.next i) need zero

/-- Whether the characters from `start` up to `stop` are in one script. A single character always
is. -/
def holds (s : Subject) (start stop : Nat) : Bool :=
  stop ≤ s.next start || holdsFrom s stop (stop - start) start .nothing none

end Regex.Match.ScriptRun
