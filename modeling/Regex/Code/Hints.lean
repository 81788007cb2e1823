import Regex.Code.Anchoring
import Regex.Code.Assembly
import Regex.Code.LeastLength
import Regex.Code.StartBytes
import Regex.Unicode.CaseFold

/-!
# Hints for a search

What is known of a pattern before it meets a subject.

* `ByteForms`: a byte in one case or in both.
* `Hints`: where matches can start, what they must have in them and how long they are.
* `Hints.of`: the hints that the code of a pattern gives.
-/

namespace Regex.Code

open Chars Unicode

/-- A byte, and its other case if that counts as well. -/
structure ByteForms where
  byte : UInt8
  other : UInt8
  deriving DecidableEq

/-- Whether a byte is one of the forms. -/
def ByteForms.contains (f : ByteForms) (b : UInt8) : Bool := b == f.byte || b == f.other

/-- What is known of all matches of a pattern. -/
structure Hints where
  /-- Whether a match can only be where the search starts. -/
  anchored : Bool
  /-- The byte that a match starts with. -/
  first : Option ByteForms
  /-- Whether a match starts at the start of a line. -/
  atLineStart : Bool
  /-- The bytes that a match can start with, by their numbers. -/
  starts : Option (Array Bool)
  /-- A byte that comes later in a match, or at its start if no first byte is known. -/
  required : Option ByteForms
  /-- The least number of characters in a match. -/
  minLength : Nat
  /-- Whether all but `anchored` may be used. -/
  enabled : Bool

/-- The other case of a byte that a match has to have. In UTF only ASCII has one. -/
def otherCase (d : Dialect) (b : UInt8) : UInt8 :=
  let c := b.toNat
  if c < 0x80 then UInt8.ofNat (asciiOther c)
  else if d.ucp && !d.utf then UInt8.ofNat (CaseFold.other c)
  else b

/-- The forms of a key byte, if it is known. -/
def KeyByte.forms? (d : Dialect) : KeyByte → Option ByteForms
  | .byte value caseless _ => some ⟨value, if caseless then otherCase d value else value⟩
  | _ => Option.none

namespace Hints

/-- Nothing is known. -/
def none (anchored : Bool) : Hints := ⟨anchored, .none, false, .none, .none, 0, false⟩

/-- The value of a key byte that is known. -/
def value? : KeyByte → Option UInt8
  | .byte value _ _ => some value
  | _ => .none

/-- The first byte of all matches. One that an assertion asks for is no help if it is also the one
that is required later on. -/
def firstOf (utf : Bool) (code : Group) (required : KeyByte) : KeyByte :=
  if code.first.isByte then code.first
  else
    let asserted := assertedFirst utf code.branches
    if value? asserted = value? required then .none else asserted

/-- The only byte of a set, or the only letter in both of its cases. -/
def onlyForms? (d : Dialect) (set : ByteSet) : Option ByteForms :=
  let usable (c : Nat) : Bool := !d.utf || c < 0x80
  let other (c : Nat) : Nat :=
    if c < 0x80 || !d.unicodeCase then asciiOther c else CaseFold.other c
  match set.members with
  | [c] => if usable c then some ⟨UInt8.ofNat c, UInt8.ofNat c⟩ else .none
  | [c, e] =>
    let sameLetter := other e = c && !(d.unicodeCase && CaseFold.isMany e)
    if usable c && usable e && sameLetter then some ⟨UInt8.ofNat c, UInt8.ofNat e⟩ else .none
  | _ => .none

/-- Whether the first and the required byte are certain to be of two characters. -/
def areApart (utf : Bool) (first required : KeyByte) : Bool :=
  match value? first, value? required with
  | some f, some r => !utf || f < 0x80 || r < 0x80
  | _, some _ => true
  | _, .none => false

/-- What the code of a pattern with `groups` groups tells. `branches` is that code made ready to
run. `shared` tells whether groups in different branches can share a number. -/
def of (d : Dialect) (code : Group) (a : Assembly) (branches : List (List Node)) (groups : Nat)
    (shared : Bool) : Hints :=
  let dots := d.dotstarAnchor && !a.skips
  let anchored :=
    d.bits.has EngineBits.anchored || Anchors.anchored a.references dots branches
  if !d.startOptimize then none anchored
  else
    let required : KeyByte := if a.accepts then .none else code.required
    let first := firstOf d.utf { code with branches } required
    let atLineStart :=
      !first.isByte && !anchored && Anchors.atLineStart a.references dots branches
    let kept := !anchored || required.varies
    let laterForms : Option ByteForms := if kept then required.forms? d else .none
    let starts : Option ByteSet :=
      if first.isByte || atLineStart then .none else startBytes? d.utf branches
    let only := starts.bind (onlyForms? d)
    let isOnly (f : ByteForms) : Bool := only.any (·.contains f.byte)
    let shortest := (if first.isByte then 1 else 0) + if areApart d.utf first required then 1 else 0
    let shortest := if starts.isSome then max shortest 1 else shortest
    let measured :=
      if !code.certain || a.accepts || a.references.any (LeastLength.maxReference < ·) then 0
      else
        let setting : LeastLength.Setting := {
          entries := .of branches groups
          bytes := a.bytes && d.utf
          unsetMatches := d.bits.has EngineBits.matchUnsetBackref
          shared
          numbers := branchesGroupNumbers branches }
        LeastLength.of setting branches
    { anchored
      first := (first.forms? d).or only
      atLineStart
      starts := if only.isSome then .none else starts
      required := laterForms.filter (!isOnly ·)
      minLength := max measured shortest
      enabled := true }

end Hints

end Regex.Code
