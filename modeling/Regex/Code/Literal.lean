import Regex.Chars.Test

/-!
# Characters and classes as tests

* `Literal`: a character as it is matched, in one case or in several.
* `Literal.ofClass?`: the character that a class stands for, if it has just one.
* `classTest`: what any other class asks.
-/

namespace Regex.Code

open Chars

/-- The bytes of a character in a subject. -/
def charBytes (utf : Bool) (c : Nat) : List UInt8 :=
  if utf then (String.singleton (Char.ofNat c)).toUTF8.toList else [UInt8.ofNat c]

/-- A character to be matched. -/
structure Literal where
  char : Nat
  casing : Casing

namespace Literal

/-- Whether a character has forms that are no simple pair of cases. -/
def hasForms (l : Literal) : Bool :=
  let isI := Casing.dotted.contains l.char || Casing.dotless.contains l.char
  l.casing.ignored && l.casing.unicode &&
    ((l.casing.turkish && !l.casing.restricted && isI) ||
      2 < (l.casing.forms l.char).length)

/-- What is asked of a character. -/
def test (l : Literal) : Test :=
  if l.hasForms then .form (l.casing.forms l.char) false
  else .char l.char l.casing.ignored (l.casing.variants l.char)

/-- What is asked of a character that must be another one. -/
def negatedTest (l : Literal) : Test :=
  if l.hasForms then .form (l.casing.forms l.char) true
  else .notChar l.char l.casing.ignored (l.casing.variants l.char)

/-- Whether `a` and `b` are the two cases of a letter that has no other forms. -/
def arePair (casing : Casing) (a b : Nat) : Bool :=
  let all := { casing with ignored := true }
  !(Literal.mk a all).hasForms && all.other a == b && a != b &&
    (!casing.unicode || (Unicode.CaseFold.variants a).length ≤ 2 ||
      (casing.restricted && isAscii a && isAscii b))

/-- The character that a class stands for: its only one, or one of the two cases of a letter. -/
def ofClass? (tree : ClassTree) (casing : Casing) : Option Literal :=
  match tree with
  | .leaf [.range lo hi] => if lo = hi then some ⟨lo, casing⟩ else none
  | .leaf [.range a a', .range b b'] =>
    if a = a' && b = b' && arePair casing a b then some ⟨a, { casing with ignored := true }⟩
    else none
  | _ => none

end Literal

/-- What a class asks that stands for more than one character. -/
def classTest (utf : Bool) (tree : ClassTree) (casing : Casing) : Test :=
  match tree with
  | .complement (.leaf [.range lo hi]) =>
    if lo = hi then (Literal.mk lo casing).negatedTest
    else .set (CharSet.ofTree utf (tree.expand casing))
  | _ =>
    let s := CharSet.ofTree utf (tree.expand casing)
    if s.isFull utf then .all else .set s

/-- Whether an item of a class names a line break. -/
def namesLineBreak : ClassItem → Bool
  | .range lo hi => lo == 0x0A || lo == 0x0D || hi == 0x0A || hi == 0x0D
  | _ => false

/-- Whether a class names a line break. -/
def ClassTree.hasLineBreak : ClassTree → Bool
  | .leaf items => items.any namesLineBreak
  | .complement a => hasLineBreak a
  | .union a b | .intersection a b | .difference a b | .symmetricDifference a b =>
    hasLineBreak a || hasLineBreak b

end Regex.Code
