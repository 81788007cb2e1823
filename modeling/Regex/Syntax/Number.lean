import Regex.Chars.Ascii
import Regex.Syntax.Source

/-!
# Numbers in patterns

* `Source.digits`: the number that a run of digits makes.
* `Source.readNumber`: a plain number.
* `Source.readGroupNumber`: the number of a group, which may be given relative to the groups so far.
* `Source.readCounts`: the counts of a repetition in braces.

A reader returns `none` where there is nothing of its kind to read, so that the text means something
else.
-/

namespace Regex.Syntax

open Chars

/-- The largest number of a group. -/
def maxGroupNumber : Nat := 65535

/-- The largest count of a repetition. -/
def maxCount : Nat := 65535

namespace Source

/-- Whether there is a decimal digit at `i`. -/
def hasDigit (s : Source) (i : Nat) : Bool :=
  match s.get? i with
  | some c => isDigit c.toNat
  | none => false

/-- The place after the digits from `i` on. -/
def skipDigits (s : Source) (i : Nat) : Nat := s.scan (fun c => !isDigit c.toNat) i

/-- The number that a text of digits makes. Beyond `limit` it stops growing. -/
def valueOf (limit : Nat) (digits : List Char) : Nat :=
  digits.foldl (fun n c => if limit < n then n else n * 10 + (c.toNat - 0x30)) 0

/-- The number at `i` and the place after it. A number beyond `limit` is a fault. -/
def readNumber (s : Source) (i limit : Nat) (cause : PatternFault.Cause) :
    Reading (Option (Nat × Nat)) :=
  if s.hasDigit i then
    let next := s.skipDigits i
    let n := valueOf limit (s.slice i next)
    if limit < n then .error (s.fault cause next) else .ok (some (n, next))
  else .ok none

/-- The number of a group at `i` and the place after it. With a sign it counts from the last group
opened so far, of which there are `groups`. -/
def readGroupNumber (s : Source) (i groups : Nat) : Reading (Option (Nat × Nat)) :=
  if s.has i '+' then do
    match ← s.readNumber (i + 1) (maxGroupNumber - groups) .groupNumberTooBig with
    | some (0, next) => .error (s.fault .relativeZero next)
    | some (n, next) => return some (groups + n, next)
    | none => return none
  else if s.has i '-' then do
    match ← s.readNumber (i + 1) maxGroupNumber .groupNumberTooBig with
    | some (0, next) => .error (s.fault .relativeZero next)
    | some (n, next) =>
      if groups < n then .error (s.fault .unknownGroup next)
      else return some (groups - n + 1, next)
    | none => return none
  else s.readNumber i maxGroupNumber .groupNumberTooBig

/-- The parts of counts: the place of the first number, that of the second one if there is a comma,
and the place after the closing brace. -/
structure CountShape where
  first : Option Nat
  second : Option (Option Nat)
  next : Nat

/-- Finds the parts of counts, without looking at the size of the numbers. -/
def countShape? (s : Source) (i : Nat) : Option CountShape :=
  let start := s.skipBlanks i
  let first := if s.hasDigit start then some start else none
  let i := s.skipBlanks (s.skipDigits start)
  if s.has i '}' then
    if first.isSome then some ⟨first, none, i + 1⟩ else none
  else if s.has i ',' then
    let start := s.skipBlanks (i + 1)
    let second := if s.hasDigit start then some start else none
    let i := s.skipBlanks (s.skipDigits start)
    if s.has i '}' && (first.isSome || second.isSome) then some ⟨first, some second, i + 1⟩
    else none
  else none

/-- The least and the greatest count, and the place after them, of the repetition whose opening
brace stands before `i`. Without a second number there is no greatest count. -/
def readCounts (s : Source) (i : Nat) : Reading (Option (Nat × Option Nat × Nat)) := do
  match s.countShape? i with
  | none => return none
  | some shape =>
    let number (place : Option Nat) : Reading (Option (Nat × Nat)) :=
      match place with
      | some p => s.readNumber p maxCount .quantifierTooBig
      | none => .ok none
    let min := (← number shape.first).map (·.1)
    match shape.second with
    | none => return some (min.getD 0, min, shape.next)
    | some place =>
      match ← number place with
      | none => return some (min.getD 0, none, shape.next)
      | some (max, stop) =>
        if max < min.getD 0 then .error (s.fault .quantifierOutOfOrder stop)
        else return some (min.getD 0, some max, shape.next)

end Source

end Regex.Syntax
